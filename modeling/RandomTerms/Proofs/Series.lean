/-
# Documents, term by term

The terms of a document are made one after the other out of one source, and a line is written
between one and the next.  Here too the two sides know nothing of each other:

    Generator.Makes gen s made s'      the source `s` gives the terms in `made` and becomes `s'`
    Writes c w made fault w'           the writer `w` gets the lines of these terms and becomes `w'`

The second stops where the writer fails, so `made` are the terms that are made until then, and
their record is all that has been drawn (`write?_eq_some_iff`).  What a writer takes is then a
matter of the writer, and what the terms are is a matter of the generator.
-/
import RandomTerms.Document
import RandomTerms.Proofs.Derivation

namespace RandomTerms

variable {σ ω : Type}

/-! ## Terms one after the other -/

/-- A finished term, and what is recorded while it is made. -/
structure Made where
  term : Term
  entries : List Entry

/-- The generator makes these terms one after the other out of the source `s`, which becomes
`s'`. -/
inductive Generator.Makes [DrawSource σ] (gen : Generator) : σ → List Made → σ → Prop
  | nil {s : σ} : Makes gen s [] s
  | cons {s m s' : σ} {t : Term} {es : List Entry} {made : List Made} :
      gen.generate? (Tape.blank s) = some (.ok t, (Tape.blank s).extend es m) →
      Makes gen m made s' → Makes gen s (⟨t, es⟩ :: made) s'

/-- The term is complete for the generator when its record is as it is. -/
def Generator.Derives (gen : Generator) (m : Made) : Prop :=
  Completes gen.maxDepth 0 gen.target m.entries m.term

/-- An atom that is long enough is a complete term. -/
theorem Generator.derives_atom {gen : Generator} {v : Nat} {a : Atom} :
    Pool.entry? v = some a → gen.target ≤ a.width → gen.Derives ⟨.atom a, [.picked v]⟩ := by
  intro ha hle
  exact ⟨.atom ha, .inr hle⟩

theorem Tape.extend_inj {tape : Tape σ} {es es' : List Entry} {s s' : σ} :
    tape.extend es s = tape.extend es' s' ↔ es = es' ∧ s = s' := by
  simp [extend, and_comm]

/-- What the generator makes and records does not depend on what was recorded before. -/
theorem Generator.generate?_eq_extend_iff [DrawSource σ] {gen : Generator} {tape : Tape σ}
    {t : Term} {es : List Entry} {s : σ} :
    gen.generate? tape = some (.ok t, tape.extend es s) ↔
      gen.Derives ⟨t, es⟩ ∧ Answers es tape.source s := by
  rw [generate?_eq_ok_iff]
  constructor
  · rintro ⟨es', s', hc, ha, htape⟩
    obtain ⟨rfl, rfl⟩ := Tape.extend_inj.mp htape
    exact ⟨hc, ha⟩
  · rintro ⟨hc, ha⟩
    exact ⟨es, s, hc, ha, rfl⟩

theorem Generator.makes_iff [DrawSource σ] {gen : Generator} {made : List Made} {s s' : σ} :
    gen.Makes s made s' ↔
      (∀ m ∈ made, gen.Derives m) ∧ Answers (made.flatMap Made.entries) s s' := by
  constructor
  · intro h
    induction h with
    | nil => exact ⟨fun _ hm => (List.not_mem_nil hm).elim, rfl⟩
    | cons hone _ ih =>
        obtain ⟨hd, ha⟩ := generate?_eq_extend_iff.mp hone
        exact ⟨List.forall_mem_cons.mpr ⟨hd, ih.1⟩, ha.append ih.2⟩
  · rintro ⟨hd, ha⟩
    induction made generalizing s with
    | nil =>
        cases ha
        exact .nil
    | cons m made ih =>
        obtain ⟨hm, hmade⟩ := List.forall_mem_cons.mp hd
        obtain ⟨n, hn, hrest⟩ := answers_append_iff.mp ha
        exact .cons (generate?_eq_extend_iff.mpr ⟨hm, hn⟩) (ih hmade hrest)

/-- The first terms are made by themselves, whatever comes after them. -/
theorem Generator.Makes.take [DrawSource σ] {gen : Generator} {made : List Made} {s s' : σ} :
    gen.Makes s made s' → ∀ n : Nat, ∃ m, gen.Makes s (made.take n) m := by
  intro h n
  obtain ⟨hd, ha⟩ := makes_iff.mp h
  rw [← List.take_append_drop n made, List.flatMap_append] at ha
  obtain ⟨m, hm, -⟩ := ha.split
  exact ⟨m, makes_iff.mpr ⟨fun x hx => hd x (List.mem_of_mem_take hx), hm⟩⟩

/-! ## The record of a document -/

namespace Document

/-- What is recorded while a document is written that gets as far as these terms, the first of
which has this number. -/
def record : (index : Nat) → List Made → List Entry
  | _, [] => []
  | index, m :: made =>
    m.entries ++ .event (.generated index m.term.length) :: record (index + 1) made

theorem answers_record_iff [DrawSource σ] {made : List Made} {index : Nat} {s s' : σ} :
    Answers (record index made) s s' ↔ Answers (made.flatMap Made.entries) s s' := by
  induction made generalizing index s with
  | nil => exact Iff.rfl
  | cons m made ih =>
      have hevent (n : σ) : Answers (.event (.generated index m.term.length)
          :: record (index + 1) made) n s' ↔ Answers (record (index + 1) made) n s' := Iff.rfl
      simp only [record, List.flatMap_cons, answers_append_iff, hevent, ih]

/-- What is drawn for a document is drawn for its terms. -/
theorem drawnValues_record (made : List Made) : ∀ index : Nat,
    drawnValues (record index made) = made.flatMap fun m => drawnValues m.entries := by
  induction made with
  | nil => exact fun _ => rfl
  | cons m made ih =>
      intro index
      rw [record, drawnValues_append, drawnValues_event, ih (index + 1), List.flatMap_cons]

/-! ## The text of a document -/

/-- The lines of terms, each with its end. -/
def lines (ts : List Term) : List Char := ts.flatMap fun t => t.chars ++ ['\n']

/-- The first line, with its end. -/
def header (c : Config) : List Char := Nat.toDigits 10 c.pairCount ++ ['\n']

/-- The text of a document: the number of pairs on the first line, then the terms. -/
def layout (c : Config) (ts : List Term) : List Char := header c ++ lines ts

@[simp] theorem lines_nil : lines [] = [] := rfl

@[simp] theorem lines_cons (t : Term) (ts : List Term) :
    lines (t :: ts) = (t.chars ++ ['\n']) ++ lines ts := rfl

/-! ## What a writer gets -/

/-- The writer `w` gets the lines of these terms, `left` of them unless it fails, and is flushed. -/
inductive Fills [Writer ω] : (left : Nat) → ω → List Made → Option Fault → ω → Prop
  | flushed {w w' : ω} : Writer.flush w = (.ok (), w') → Fills 0 w [] none w'
  | unflushed {w w' : ω} {fault : Fault} :
      Writer.flush w = (.error fault, w') → Fills 0 w [] (some fault) w'
  | failed {left : Nat} {w w' : ω} {m : Made} {fault : Fault} :
      writeLine m.term.chars w = (.error fault, w') → Fills (left + 1) w [m] (some fault) w'
  | line {left : Nat} {w w₁ w' : ω} {m : Made} {made : List Made} {fault : Option Fault} :
      writeLine m.term.chars w = (.ok (), w₁) → Fills left w₁ made fault w' →
      Fills (left + 1) w (m :: made) fault w'

/-- The writer `w` gets the document of these terms: the first line, then the lines of the terms. -/
inductive Writes [Writer ω] (c : Config) : ω → List Made → Option Fault → ω → Prop
  | failed {w w' : ω} {fault : Fault} :
      writeLine (Nat.toDigits 10 c.pairCount) w = (.error fault, w') →
      Writes c w [] (some fault) w'
  | header {w w₁ w' : ω} {made : List Made} {fault : Option Fault} :
      writeLine (Nat.toDigits 10 c.pairCount) w = (.ok (), w₁) →
      Fills c.termCount w₁ made fault w' → Writes c w made fault w'

/-- What holds once the writer is flushed or the source or the writer has stopped the terms, and
holds of terms with one more in front of them if it holds of them, holds of all terms that come to
an end. -/
theorem writeTerms?_induction [Writer ω] {one : Tape σ → Option (Except Stop Term × Tape σ)}
    {motive : (left index : Nat) → Tape σ → ω → Writing σ ω → Prop}
    (flushed : ∀ {index : Nat} {tape : Tape σ} {w w' : ω},
      Writer.flush w = (.ok (), w') → motive 0 index tape w ⟨none, tape, w'⟩)
    (unflushed : ∀ {index : Nat} {tape : Tape σ} {w w' : ω} {fault : Fault},
      Writer.flush w = (.error fault, w') →
        motive 0 index tape w ⟨some (.writer fault), tape, w'⟩)
    (stopped : ∀ {left index : Nat} {tape tape' : Tape σ} {w : ω} {why : Stop},
      one tape = some (.error why, tape') →
        motive (left + 1) index tape w ⟨some (.source why), tape', w⟩)
    (failed : ∀ {left index : Nat} {tape tape' : Tape σ} {w w' : ω} {t : Term} {fault : Fault},
      one tape = some (.ok t, tape') → writeLine t.chars w = (.error fault, w') →
        motive (left + 1) index tape w
          ⟨some (.writer fault), tape'.note (.generated index t.length), w'⟩)
    (line : ∀ {left index : Nat} {tape tape' : Tape σ} {w w' : ω} {t : Term} {W : Writing σ ω},
      one tape = some (.ok t, tape') → writeLine t.chars w = (.ok (), w') →
        motive left (index + 1) (tape'.note (.generated index t.length)) w' W →
        motive (left + 1) index tape w W)
    {left index : Nat} {tape : Tape σ} {w : ω} {W : Writing σ ω} :
    writeTerms? one left index tape w = some W → motive left index tape w W := by
  induction left generalizing index tape w with
  | zero =>
      simp only [writeTerms?]
      intro h
      cases hf : Writer.flush w with
      | mk reply w' =>
          rw [hf] at h
          cases reply with
          | error fault =>
              cases h
              exact unflushed hf
          | ok _ =>
              cases h
              exact flushed hf
  | succ left ih =>
      simp only [writeTerms?]
      intro h
      cases hone : one tape with
      | none =>
          rw [hone] at h
          cases h
      | some reply =>
          obtain ⟨made, tape'⟩ := reply
          rw [hone] at h
          cases made with
          | error why =>
              cases h
              exact stopped hone
          | ok t =>
              cases hl : writeLine t.chars w with
              | mk reply w' =>
                  simp only [hl] at h
                  cases reply with
                  | error fault =>
                      cases h
                      exact failed hone hl
                  | ok _ => exact line hone hl (ih h)

variable [DrawSource σ] [Writer ω]

theorem exists_fills_of_writeTerms? {gen : Generator} {left index : Nat} {tape tape' : Tape σ}
    {w w' : ω} {fault : Option Fault} :
    writeTerms? gen.generate? left index tape w = some ⟨fault.map .writer, tape', w'⟩ →
      ∃ made s, (∀ m ∈ made, gen.Derives m) ∧ Fills left w made fault w'
        ∧ Answers (record index made) tape.source s
        ∧ tape' = tape.extend (record index made) s := by
  intro h
  refine writeTerms?_induction (motive := fun left index tape w W => ∀ fault : Option Fault,
    W.trouble = fault.map .writer → ∃ made s, (∀ m ∈ made, gen.Derives m)
      ∧ Fills left w made fault W.writer ∧ Answers (record index made) tape.source s
      ∧ W.tape = tape.extend (record index made) s)
    ?flushed ?unflushed ?stopped ?failed ?line h fault rfl
  case flushed =>
      intro index tape w w' hf fault hfault
      cases fault <;> cases hfault
      exact ⟨[], _, fun _ hm => (List.not_mem_nil hm).elim, .flushed hf, rfl, rfl⟩
  case unflushed =>
      intro index tape w w' fault' hf fault hfault
      cases fault <;> cases hfault
      exact ⟨[], _, fun _ hm => (List.not_mem_nil hm).elim, .unflushed hf, rfl, rfl⟩
  case stopped =>
      intro left index tape tape' w why _ fault hfault
      cases fault <;> cases hfault
  case failed =>
      intro left index tape tape' w w' t fault' hone hl fault hfault
      obtain ⟨es, s, hc, ha, rfl⟩ := Generator.generate?_eq_ok_iff.mp hone
      cases fault <;> cases hfault
      exact ⟨[⟨t, es⟩], s, List.forall_mem_singleton.mpr hc, .failed hl, ha.append rfl,
        Tape.note_extend ..⟩
  case line =>
      intro left index tape tape' w w' t W hone hl ih fault hfault
      obtain ⟨es, s, hc, ha, rfl⟩ := Generator.generate?_eq_ok_iff.mp hone
      obtain ⟨made, s', hd, hfill, ha', htape⟩ := ih fault hfault
      refine ⟨⟨t, es⟩ :: made, s', List.forall_mem_cons.mpr ⟨hc, hd⟩, .line hl hfill,
        ha.append ha', ?_⟩
      rw [htape, Tape.note_extend, Tape.extend_extend]
      simp [record]

theorem Fills.writeTerms?_eq {gen : Generator} {left : Nat} {w w' : ω} {made : List Made}
    {fault : Option Fault} :
    Fills left w made fault w' → (∀ m ∈ made, gen.Derives m) →
      ∀ {index : Nat} {tape : Tape σ} {s : σ}, Answers (record index made) tape.source s →
        writeTerms? gen.generate? left index tape w
          = some ⟨fault.map .writer, tape.extend (record index made) s, w'⟩ := by
  intro h
  induction h with
  | flushed hf =>
      intro _ index tape s ha
      cases ha
      simp only [writeTerms?, hf]
      rfl
  | unflushed hf =>
      intro _ index tape s ha
      cases ha
      simp only [writeTerms?, hf]
      rfl
  | @failed left w w' m fault hl =>
      intro hd index tape s ha
      obtain ⟨n, hn, hrest⟩ := answers_append_iff.mp ha
      cases hrest
      have hone := Generator.generate?_eq_extend_iff.mpr ⟨List.forall_mem_singleton.mp hd, hn⟩
      simp only [writeTerms?, hone, hl, Tape.note_extend, record]
      rfl
  | @line left w w₁ w' m made fault hl _ ih =>
      intro hd index tape s ha
      obtain ⟨hm, hmade⟩ := List.forall_mem_cons.mp hd
      obtain ⟨n, hn, hrest⟩ := answers_append_iff.mp ha
      have hone := Generator.generate?_eq_extend_iff.mpr ⟨hm, hn⟩
      have hnext := @ih hmade (index + 1)
        (tape.extend (m.entries ++ [.event (.generated index m.term.length)]) n) s hrest
      simp only [writeTerms?, hone, hl, Tape.note_extend, hnext, Tape.extend_extend]
      simp [record]

/-- A document is written, or the writer fails, exactly if its terms can be made of what the
source gives and the writer gets their lines, and their record is what is recorded. -/
theorem write?_eq_some_iff {c : Config} {tape tape' : Tape σ} {w w' : ω} {fault : Option Fault} :
    write? c tape w = some ⟨fault.map .writer, tape', w'⟩ ↔
      ∃ made s, (∀ m ∈ made, c.generator.Derives m) ∧ Writes c w made fault w'
        ∧ Answers (record 0 made) tape.source s ∧ tape' = tape.extend (record 0 made) s := by
  unfold write? writeFrom?
  constructor
  · intro h
    cases hl : writeLine (Nat.toDigits 10 c.pairCount) w with
    | mk reply w₁ =>
        rw [hl] at h
        cases reply with
        | error fault' =>
            cases fault <;> cases h
            exact ⟨[], tape.source, fun _ hm => (List.not_mem_nil hm).elim, .failed hl, rfl, rfl⟩
        | ok _ =>
            obtain ⟨made, s, hd, hfill, ha⟩ := exists_fills_of_writeTerms? h
            exact ⟨made, s, hd, .header hl hfill, ha⟩
  · rintro ⟨made, s, hd, hw, ha, rfl⟩
    cases hw with
    | failed hl =>
        cases ha
        simp only [hl]
        rfl
    | header hl hfill =>
        simp only [hl]
        exact hfill.writeTerms?_eq hd ha

end Document
end RandomTerms
