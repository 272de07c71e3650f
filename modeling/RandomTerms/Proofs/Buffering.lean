/-
# A document through a buffer

A device behind a buffer gets its text late and in pieces that have nothing to do with the lines.
Of this nothing is left to see in the end.  What the device has taken and what is in the buffer make
up the text that has been given (`Buffered.Holds`), whenever it passed on, and flushing leaves
nothing in the buffer; so an accepting device has the whole document.

On a device that takes nothing, writing may go well for a while.  But text that is in the buffer
stays there until the device refuses it (`Buffered.Stuck`), and no document is without a text, so it
is refused at a line or on flushing, and the terms made by then are the first of the document.
-/
import RandomTerms.Proofs.Requests

namespace RandomTerms

namespace Buffered

/-! ## On an accepting device -/

/-- An accepting device that has been given this text, of which a part may still be in the
buffer. -/
structure Holds (b : Buffered) (text : List Char) : Prop where
  device : b.device = .accepting
  pendingSize : b.pendingSize = b.pending.toList.length
  text : b.written.toList ++ b.pending.toList = text

theorem holds_new : (new .accepting).Holds [] := ⟨rfl, rfl, rfl⟩

theorem Holds.empty {b : Buffered} {text : List Char} (h : b.Holds text) :
    ∃ b', b.empty = (.ok (), b') ∧ b'.Holds text ∧ b'.pending = "" := by
  obtain ⟨device, written, pending, pendingSize⟩ := b
  obtain ⟨rfl, hsize, htext⟩ := h
  cases pendingSize with
  | zero =>
      have hnil : pending.toList = [] := List.length_eq_zero_iff.mp hsize.symm
      exact ⟨_, rfl, ⟨rfl, hsize, htext⟩, String.toList_eq_nil_iff.mp hnil⟩
  | succ n => exact ⟨_, rfl, ⟨rfl, rfl, by simpa using htext⟩, rfl⟩

/-- A text goes into the buffer, or past it if there is nothing in it. -/
theorem Holds.put {b : Buffered} {given : List Char} (h : b.Holds given) {text : List Char}
    (hroom : text.length < capacity ∨ b.pending = "") :
    ∃ b', b.put text = (.ok (), b') ∧ b'.Holds (given ++ text) := by
  obtain ⟨device, written, pending, pendingSize⟩ := b
  obtain ⟨rfl, hsize, rfl⟩ := h
  unfold Buffered.put
  split
  · refine ⟨_, rfl, rfl, ?_, ?_⟩
    · simpa using hsize
    · simp
  · next hlong =>
      obtain rfl : pending = "" := hroom.resolve_left hlong
      exact ⟨_, rfl, rfl, hsize, by simp⟩

theorem Holds.writeAll {b : Buffered} {given : List Char} (h : b.Holds given) (text : List Char) :
    ∃ b', Writer.writeAll text b = (.ok (), b') ∧ b'.Holds (given ++ text) := by
  show ∃ b', b.writeAll text = (.ok (), b') ∧ b'.Holds (given ++ text)
  unfold Buffered.writeAll
  split
  · obtain ⟨b₁, hempty, hholds, hnone⟩ := h.empty
    rw [hempty]
    exact hholds.put (.inr hnone)
  · next hfits =>
      refine h.put ?_
      by_cases hlong : text.length < capacity
      · exact .inl hlong
      · -- A text as long as the buffer fits behind nothing but nothing.
        have hcap : 0 < capacity := by decide
        have hzero : b.pending.toList.length = 0 := by
          have hsize := h.pendingSize
          omega
        exact .inr (String.toList_eq_nil_iff.mp (List.length_eq_zero_iff.mp hzero))

theorem Holds.writeLine {b : Buffered} {given : List Char} (h : b.Holds given)
    (line : List Char) :
    ∃ b', Document.writeLine line b = (.ok (), b') ∧ b'.Holds (given ++ (line ++ ['\n'])) := by
  obtain ⟨b₁, hline, h₁⟩ := h.writeAll line
  obtain ⟨b', hend, h'⟩ := h₁.writeAll ['\n']
  rw [List.append_assoc] at h'
  refine ⟨b', ?_, h'⟩
  rw [Document.writeLine, hline]
  exact hend

open Document in
theorem Holds.fills (made : List Made) : ∀ {b : Buffered} {given : List Char}, b.Holds given →
    ∃ b', Fills made.length b made none b'
      ∧ b'.written.toList = given ++ lines (made.map Made.term) := by
  induction made with
  | nil =>
      intro b given h
      obtain ⟨b', hflush, ⟨-, -, htext⟩, hnone⟩ := h.empty
      refine ⟨b', .flushed hflush, ?_⟩
      rw [hnone] at htext
      simpa using htext
  | cons m made ih =>
      intro b given h
      obtain ⟨b₁, hline, h₁⟩ := h.writeLine m.term.chars
      obtain ⟨b', hfills, htext⟩ := ih h₁
      refine ⟨b', .line hline hfills, ?_⟩
      rw [htext, List.map_cons, lines_cons, List.append_assoc]

/-! ## On a failing device -/

/-- A device that fails in this way, which has taken nothing while something is in the buffer. -/
structure Stuck (fault : Fault) (hfault : fault ≠ .interrupted) (b : Buffered) : Prop where
  device : b.device = .failing fault hfault
  written : b.written = ""
  pending : 0 < b.pendingSize

variable {fault : Fault} {hfault : fault ≠ .interrupted}

theorem Stuck.empty {b : Buffered} (h : b.Stuck fault hfault) :
    b.empty = (.error fault, b) := by
  obtain ⟨device, written, pending, pendingSize⟩ := b
  obtain ⟨rfl, -, hpos⟩ := h
  cases pendingSize with
  | zero => exact absurd hpos (Nat.lt_irrefl 0)
  | succ n => rfl

/-- A text that is given to a failing device is refused, or it is in the buffer afterwards. -/
theorem writeAll_of_failing {b : Buffered} (hd : b.device = .failing fault hfault)
    (hw : b.written = "") {text : List Char} (htext : text ≠ [] ∨ 0 < b.pendingSize) :
    (∃ b', Writer.writeAll text b = (.error fault, b') ∧ b'.written = "")
      ∨ ∃ b', Writer.writeAll text b = (.ok (), b') ∧ b'.Stuck fault hfault := by
  show (∃ b', b.writeAll text = (.error fault, b') ∧ b'.written = "")
    ∨ ∃ b', b.writeAll text = (.ok (), b') ∧ b'.Stuck fault hfault
  obtain ⟨device, written, pending, pendingSize⟩ := b
  obtain rfl : device = .failing fault hfault := hd
  obtain rfl : written = "" := hw
  have hput : (∃ b', (⟨.failing fault hfault, "", pending, pendingSize⟩ : Buffered).put text
        = (.error fault, b') ∧ b'.written = "")
      ∨ ∃ b', (⟨.failing fault hfault, "", pending, pendingSize⟩ : Buffered).put text = (.ok (), b')
        ∧ b'.Stuck fault hfault := by
    unfold put
    split
    · refine .inr ⟨_, rfl, rfl, rfl, ?_⟩
      rcases htext with hne | hpos
      · have hlen := List.length_pos_iff.mpr hne
        exact Nat.add_pos_right _ hlen
      · exact Nat.add_pos_left hpos _
    · exact .inl ⟨_, rfl, rfl⟩
  unfold writeAll
  split
  · cases pendingSize with
    | zero => exact hput
    | succ n => exact .inl ⟨_, rfl, rfl⟩
  · exact hput

theorem writeLine_of_failing {b : Buffered} (hd : b.device = .failing fault hfault)
    (hw : b.written = "") {line : List Char} (hline : line ≠ [] ∨ 0 < b.pendingSize) :
    (∃ b', Document.writeLine line b = (.error fault, b') ∧ b'.written = "")
      ∨ ∃ b', Document.writeLine line b = (.ok (), b') ∧ b'.Stuck fault hfault := by
  unfold Document.writeLine
  rcases writeAll_of_failing hd hw hline with ⟨b', hfail, hb'⟩ | ⟨b₁, hok, h₁⟩
  · rw [hfail]
    exact .inl ⟨b', rfl, hb'⟩
  · rw [hok]
    exact writeAll_of_failing h₁.device h₁.written (.inr h₁.pending)

open Document in
theorem Stuck.fills (made : List Made) : ∀ {b : Buffered}, b.Stuck fault hfault →
    ∃ n b', Fills made.length b (made.take n) (some fault) b' ∧ b'.written = "" := by
  induction made with
  | nil =>
      intro b h
      exact ⟨0, b, .unflushed h.empty, h.written⟩
  | cons m made ih =>
      intro b h
      have hline : m.term.chars ≠ [] ∨ 0 < b.pendingSize := .inr h.pending
      rcases writeLine_of_failing h.device h.written hline with ⟨b', hfail, hb'⟩ | ⟨b₁, hok, h₁⟩
      · exact ⟨1, b', .failed hfail, hb'⟩
      · obtain ⟨n, b', hfills, hb'⟩ := ih h₁
        exact ⟨n + 1, b', .line hok hfills, hb'⟩

end Buffered

/-! ## Whole documents -/

/-- A source that answers in range gives any number of terms. -/
theorem AnswersInRange.exists_makes {σ : Type} [DrawSource σ] (hσ : AnswersInRange σ)
    (gen : Generator) (n : Nat) :
    ∀ s : σ, ∃ made s', gen.Makes s made s' ∧ made.length = n := by
  induction n with
  | zero =>
      intro s
      exact ⟨[], s, .nil, rfl⟩
  | succ n ih =>
      intro s
      obtain ⟨t, tape, hone⟩ := Generator.exists_generate? hσ gen (Tape.blank s)
      obtain ⟨es, m, -, -, rfl⟩ := Generator.generate?_eq_ok_iff.mp hone
      obtain ⟨made, s', hmade, hcount⟩ := ih m
      exact ⟨⟨t, es⟩ :: made, s', .cons hone hmade, congrArg Nat.succ hcount⟩

namespace Document

variable {σ : Type} [DrawSource σ] {c : Config} {s s' : σ} {made : List Made}

/-- An accepting device gets the whole document. -/
theorem exists_write?_of_accepting (hmade : c.generator.Makes s made s')
    (hcount : made.length = c.termCount) :
    ∃ b, write? c (Tape.blank s) (Buffered.new .accepting)
        = some ⟨none, (Tape.blank s).extend (record 0 made) s', b⟩
      ∧ b.written.toList = layout c (made.map Made.term) := by
  obtain ⟨hd, ha⟩ := Generator.makes_iff.mp hmade
  obtain ⟨b₁, hline, h₁⟩ := Buffered.holds_new.writeLine (Nat.toDigits 10 c.pairCount)
  obtain ⟨b, hfills, htext⟩ := h₁.fills made
  have hwrites : Writes c (Buffered.new .accepting) made none b := .header hline (hcount ▸ hfills)
  exact ⟨b, write?_eq_some_iff.mpr ⟨made, s', hd, hwrites, answers_record_iff.mpr ha, rfl⟩, htext⟩

/-- A failing device gets nothing, and its fault is what the writing ends with. -/
theorem exists_write?_of_failing (hmade : c.generator.Makes s made s')
    (hcount : made.length = c.termCount) {fault : Fault} (hfault : fault ≠ .interrupted) :
    ∃ es m b, write? c (Tape.blank s) (Buffered.new (.failing fault hfault))
        = some ⟨some (.writer fault), (Tape.blank s).extend es m, b⟩ ∧ b.written = "" := by
  have hwrites : ∃ n b,
      Writes c (Buffered.new (.failing fault hfault)) (made.take n) (some fault) b
        ∧ b.written = "" := by
    rcases Buffered.writeLine_of_failing (b := Buffered.new (.failing fault hfault)) rfl rfl
        (.inl Nat.toDigits_ne_nil) with ⟨b, hfail, hb⟩ | ⟨b₁, hok, h₁⟩
    · exact ⟨0, b, .failed hfail, hb⟩
    · obtain ⟨n, b, hfills, hb⟩ := h₁.fills made
      exact ⟨n, b, .header hok (hcount ▸ hfills), hb⟩
  obtain ⟨n, b, hwrites, hb⟩ := hwrites
  obtain ⟨m, hfirst⟩ := hmade.take n
  obtain ⟨hd, ha⟩ := Generator.makes_iff.mp hfirst
  exact ⟨_, m, b, write?_eq_some_iff.mpr ⟨made.take n, m, hd, hwrites, answers_record_iff.mpr ha,
    rfl⟩, hb⟩

end Document
end RandomTerms
