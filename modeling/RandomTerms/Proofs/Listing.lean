/-
# Documents, line by line

What a document says can be read off its text.  No line of it holds a line end, so cutting at the
line ends gives the lines back: the first line, those of the terms, and nothing after the last line
end.  The first line is a number in decimal, and for settings that were read from arguments it is
half the number of the others.

The terms are those that the generator makes one after the other out of the same source, which is
left as they leave it (`write?_unlimited_iff`).
-/
import RandomTerms.Proofs.Delivery

namespace RandomTerms

open Text

variable {σ : Type}

/-! ## Cutting at line ends -/

theorem Text.splitFrom_append {sep : Char} {line : List Char} (h : sep ∉ line)
    (part rest : List Char) :
    splitFrom sep part (line ++ sep :: rest) = (part.reverse ++ line) :: split sep rest := by
  induction line generalizing part with
  | nil => simp [splitFrom, split]
  | cons c line ih =>
      have hc : c ≠ sep := fun hc => h (hc ▸ List.mem_cons_self)
      have hline : sep ∉ line := fun hm => h (List.mem_cons_of_mem _ hm)
      rw [List.cons_append, splitFrom, if_neg hc, ih hline, List.reverse_cons, List.append_assoc,
        List.singleton_append]

/-- Lines that hold no separator are found again. -/
theorem Text.split_flatMap {sep : Char} {ls : List (List Char)} (h : ∀ l ∈ ls, sep ∉ l) :
    split sep (ls.flatMap fun l => l ++ [sep]) = ls ++ [[]] := by
  induction ls with
  | nil => rfl
  | cons l ls ih =>
      obtain ⟨hl, hls⟩ := List.forall_mem_cons.mp h
      rw [List.flatMap_cons, List.append_assoc, List.singleton_append, split,
        splitFrom_append hl, ih hls]
      rfl

/-! ## The lines of a document -/

namespace Document

theorem layout_eq_flatMap (c : Config) (ts : List Term) :
    layout c ts = (Nat.toDigits 10 c.pairCount :: ts.map Term.chars).flatMap
      fun l => l ++ ['\n'] := by
  simp [layout, header, lines, List.flatMap_map]

theorem newline_not_mem {s : List Char} (h : ∀ x ∈ s, Term.isTermChar x = true) : '\n' ∉ s := by
  intro hmem
  exact absurd (h _ hmem) (by decide)

theorem split_layout (c : Config) {ts : List Term} (hts : ∀ t ∈ ts, t.IsBasic) :
    split '\n' (layout c ts) = Nat.toDigits 10 c.pairCount :: (ts.map Term.chars ++ [[]]) := by
  rw [layout_eq_flatMap, split_flatMap]
  · rfl
  · refine List.forall_mem_cons.mpr ⟨?_, fun l hl => ?_⟩
    · exact newline_not_mem fun x hx => isTermChar_of_mem_toDigits hx
    · obtain ⟨t, ht, rfl⟩ := List.mem_map.mp hl
      exact newline_not_mem (Term.isTermChar_of_mem (hts t ht))

/-- A writer that does not fail gets the lines of all the terms. -/
theorem Fills.length_eq {ω : Type} [Writer ω] {left : Nat} {w w' : ω} {made : List Made} :
    Fills left w made none w' → made.length = left := by
  intro h
  generalize hnone : (none : Option Fault) = fault at h
  induction h with
  | flushed _ => rfl
  | unflushed _ => cases hnone
  | failed _ => cases hnone
  | line _ _ ih => exact congrArg Nat.succ (ih hnone)

theorem Writes.length_eq {ω : Type} [Writer ω] {c : Config} {w w' : ω} {made : List Made} :
    Writes c w made none w' → made.length = c.termCount := by
  intro h
  cases h with
  | header _ hfills => exact hfills.length_eq

variable [DrawSource σ] {c : Config} {s s' : σ}

/-- A device without limits gets a document exactly if the generator makes its terms. -/
theorem exists_write?_unlimited_iff {text : List Char} :
    (∃ W, write? c (Tape.blank s) (Sink.new {}) = some W ∧ W.trouble = none
        ∧ W.tape.source = s' ∧ W.writer.accepted.toList = text) ↔
      ∃ made, c.generator.Makes s made s' ∧ made.length = c.termCount
        ∧ text = layout c (made.map Made.term) := by
  constructor
  · rintro ⟨⟨trouble, tape, w⟩, hW, rfl, rfl, rfl⟩
    have hnone : write? c (Tape.blank s) (Sink.new {})
        = some ⟨(none : Option Fault).map .writer, tape, w⟩ := hW
    obtain ⟨made, s', hd, hwrites, ha, rfl⟩ := write?_eq_some_iff.mp hnone
    have hmade : c.generator.Makes s made s' :=
      Generator.makes_iff.mpr ⟨hd, answers_record_iff.mp ha⟩
    obtain ⟨w', hw', htext, -⟩ := exists_write?_of_room hmade hwrites.length_eq
      Medium.isFair_unlimited (fun _ h => nomatch h)
    obtain rfl : w = w' := congrArg Writing.writer (Option.some.inj (hW.symm.trans hw'))
    exact ⟨made, hmade, hwrites.length_eq, htext⟩
  · rintro ⟨made, hmade, hcount, rfl⟩
    obtain ⟨w, hw, htext, -⟩ := exists_write?_of_room hmade hcount Medium.isFair_unlimited
      (fun _ h => nomatch h)
    exact ⟨_, hw, rfl, rfl, htext⟩

/-- On a device without limits a document is completed exactly if the generator makes its terms one
after the other out of the same source.  Its text is half their number and the terms, one a line.
Cutting it at the line ends gives these lines back, the first line is that number in decimal, and
twice the number is that of the terms if the settings were read from arguments. -/
theorem write?_unlimited_iff {text : List Char} :
    (∃ W, write? c (Tape.blank s) (Sink.new {}) = some W ∧ W.trouble = none
        ∧ W.tape.source = s' ∧ W.writer.accepted.toList = text) ↔
      ∃ made, c.generator.Makes s made s' ∧ made.length = c.termCount
        ∧ text = Nat.toDigits 10 (c.termCount / 2) ++ '\n' ::
            (made.flatMap fun m => m.term.chars ++ ['\n'])
        ∧ split '\n' text
            = Nat.toDigits 10 (c.termCount / 2) :: (made.map fun m => m.term.chars) ++ [[]]
        ∧ Nat.ofDigitChars 10 (Nat.toDigits 10 (c.termCount / 2)) 0 = c.termCount / 2
        ∧ ∀ args, Config.ofArgs args = .ok c →
            2 * Nat.ofDigitChars 10 (Nat.toDigits 10 (c.termCount / 2)) 0 = made.length := by
  have hvalue : Nat.ofDigitChars 10 (Nat.toDigits 10 (c.termCount / 2)) 0 = c.termCount / 2 :=
    Nat.ofDigitChars_ten_toDigits
  have hlayout (made : List Made) : layout c (made.map Made.term)
      = Nat.toDigits 10 (c.termCount / 2) ++ '\n' ::
          (made.flatMap fun m => m.term.chars ++ ['\n']) := by
    simp [layout, header, lines, List.flatMap_map, Config.pairCount]
  rw [exists_write?_unlimited_iff]
  constructor
  · rintro ⟨made, hmade, hcount, rfl⟩
    have hd := (Generator.makes_iff.mp hmade).1
    have hbasic : ∀ t ∈ made.map Made.term, t.IsBasic := by
      intro t ht
      obtain ⟨m, hm, rfl⟩ := List.mem_map.mp ht
      exact (hd m hm).isBasic
    refine ⟨made, hmade, hcount, hlayout made, ?_, hvalue, fun args hargs => ?_⟩
    · rw [split_layout c hbasic, List.map_map]
      rfl
    · rw [hvalue, hcount]
      exact Config.two_mul_pairCount_of_ofArgs hargs
  · rintro ⟨made, hmade, hcount, htext, -⟩
    exact ⟨made, hmade, hcount, htext.trans (hlayout made).symm⟩

/-- Two terms of one atom each, as asked for by two arguments. -/
theorem write?_unlimited_ofArgs :
    let c : Config := ⟨2, 1, none⟩
    let text := ['1', '\n', 'a', '\n', '1', '0', '0', '\n']
    Config.ofArgs ["2", "1"] = .ok c
      ∧ (∃ W, write? c (Tape.blank (⟨[0, 204]⟩ : Unchecked)) (Sink.new {}) = some W
        ∧ W.trouble = none ∧ W.tape.source = ⟨[]⟩ ∧ W.writer.accepted.toList = text)
      ∧ split '\n' text = [['1'], ['a'], ['1', '0', '0'], []]
      ∧ 2 * Nat.ofDigitChars 10 ['1'] 0 = c.termCount := by
  intro c text
  have hargs : Config.ofArgs ["2", "1"] = .ok c := rfl
  have hmade : c.generator.Makes (⟨[0, 204]⟩ : Unchecked)
      [⟨.atom (.letter 'a'), [.picked 0]⟩, ⟨.atom (.number 100), [.picked 204]⟩] ⟨[]⟩ := by
    refine Generator.makes_iff.mpr ⟨?_, ⟨_, rfl, _, rfl, rfl⟩⟩
    exact List.forall_mem_cons.mpr ⟨Generator.derives_atom rfl (Nat.le_refl _),
      List.forall_mem_singleton.mpr (Generator.derives_atom rfl (by decide))⟩
  have hwrite : ∃ W, write? c (Tape.blank (⟨[0, 204]⟩ : Unchecked)) (Sink.new {}) = some W
      ∧ W.trouble = none ∧ W.tape.source = ⟨[]⟩ ∧ W.writer.accepted.toList = text :=
    exists_write?_unlimited_iff.mpr ⟨_, hmade, rfl, by decide⟩
  obtain ⟨made, -, hcount, -, -, -, hhalf⟩ := write?_unlimited_iff.mp hwrite
  have hdigits : Nat.toDigits 10 (c.termCount / 2) = ['1'] := by decide
  rw [hdigits] at hhalf
  exact ⟨hargs, hwrite, rfl, (hhalf _ hargs).trans hcount⟩

end Document
end RandomTerms
