/-
# Recording and replaying

What is done with a source is decided by its answers and by nothing else about it.  So the answers
that were recorded stand for the source: a script of these numbers gives the same atoms, the same
terms and the same documents, and nothing of it is left over.

A script rejects a number outside its range, so this takes a source that keeps to the ranges it is
asked for (`StaysInRange`), and requests that can be kept to (`Proper`).

Samples are made straight from random words, without a record.  They are the same again.
-/
import RandomTerms.Proofs.Requests

namespace RandomTerms

variable {σ ω : Type}

/-! ## Sources that keep to the range -/

/-- Whatever number the source gives when it is asked for one of some, it is one of these. -/
def StaysInRange (σ : Type) [DrawSource σ] : Prop :=
  ∀ {r : Range} {s s' : σ} {v : Nat},
    r.low ≤ r.high → DrawSource.draw r s = .answered v s' → v ∈ r

/-- A source that answers in range gives no other answer. -/
theorem AnswersInRange.staysInRange [DrawSource σ] (hσ : AnswersInRange σ) : StaysInRange σ := by
  intro r s s' v hr hd
  obtain ⟨v', s'', hd', hv⟩ := hσ r s hr
  rw [hd] at hd'
  cases hd'
  exact hv

/-- Every range in the record that a number was drawn from has one. -/
def Proper (es : List Entry) : Prop := ∀ r v, .drawn r v ∈ es → r.low ≤ r.high

theorem proper_nil : Proper [] := fun _ _ h => nomatch h

theorem Proper.append {es es' : List Entry} : Proper es → Proper es' → Proper (es ++ es') := by
  intro h h' r v hv
  exact (List.mem_append.mp hv).elim (h r v) (h' r v)

theorem Proper.drawn {es : List Entry} {r : Range} {v : Nat} :
    Proper es → r.low ≤ r.high → Proper (.drawn r v :: es) := by
  intro h hr r' v' hv
  cases hv with
  | head => exact hr
  | tail _ hv => exact h r' v' hv

theorem Proper.event {es : List Entry} {e : Event} : Proper es → Proper (.event e :: es) := by
  intro h r v hv
  cases hv with
  | tail _ hv => exact h r v hv

theorem Answers.not_refused [DrawSource σ] {es : List Entry} {s s' : σ} :
    Answers es s s' → ∀ r, .refused r ∉ es := by
  intro h r hr
  obtain ⟨es₁, es₂, rfl⟩ := List.append_of_mem hr
  obtain ⟨m, -, hm⟩ := h.split
  exact hm

theorem Answers.exists_draw [DrawSource σ] {es : List Entry} {s s' : σ} {r : Range} {v : Nat} :
    Answers es s s' → .drawn r v ∈ es → ∃ m m' : σ, DrawSource.draw r m = .answered v m' := by
  intro h hv
  obtain ⟨es₁, es₂, rfl⟩ := List.append_of_mem hv
  obtain ⟨m, -, m', hm, -⟩ := h.split
  exact ⟨m, m', hm⟩

theorem Answers.inRange [DrawSource σ] {es : List Entry} {s s' : σ} :
    Answers es s s' → StaysInRange σ → Proper es → InRange es := by
  intro h hσ hes r v hv
  obtain ⟨m, m', hm⟩ := h.exists_draw hv
  exact hσ (hes r v hv) hm

/-- A script of the recorded numbers gives them as the source did. -/
theorem Answers.script [DrawSource σ] {es : List Entry} {s s' : σ} :
    Answers es s s' → StaysInRange σ → Proper es →
      Answers es (⟨drawnValues es⟩ : Script) ⟨[]⟩ := by
  intro h hσ hes
  exact answers_script_iff.mpr ⟨h.not_refused, h.inRange hσ hes, (List.append_nil _).symm⟩

/-! ## What is done with a source -/

/-- Something to be done with a source. -/
inductive Operation (ω : Type)
  | pick
  | generate (gen : Generator)
  | write (c : Config) (w : ω)

/-- What comes of it: the writer is given as it is in the end, and its fault if it failed. -/
inductive Product (ω : Type)
  | atom (a : Atom)
  | term (t : Term)
  | written (fault : Option Fault) (w : ω)

/-- The operation is completed, and this is what comes of it. -/
inductive Operation.Gives [DrawSource σ] [Writer ω] :
    Operation ω → Tape σ → Product ω → Tape σ → Prop
  | pick {tape tape' : Tape σ} {a : Atom} :
      Pool.pick tape = (.ok a, tape') → Gives .pick tape (.atom a) tape'
  | generate {gen : Generator} {tape tape' : Tape σ} {t : Term} :
      gen.generate? tape = some (.ok t, tape') → Gives (.generate gen) tape (.term t) tape'
  | write {c : Config} {tape tape' : Tape σ} {w w' : ω} {fault : Option Fault} :
      Document.write? c tape w = some ⟨fault.map .writer, tape', w'⟩ →
      Gives (.write c w) tape (.written fault w') tape'

/-- The operations are completed one after the other, and these are their products. -/
inductive GivesAll [DrawSource σ] [Writer ω] :
    List (Operation ω) → Tape σ → List (Product ω) → Tape σ → Prop
  | nil {tape : Tape σ} : GivesAll [] tape [] tape
  | cons {op : Operation ω} {ops : List (Operation ω)} {p : Product ω} {ps : List (Product ω)}
      {tape tape₁ tape' : Tape σ} :
      op.Gives tape p tape₁ → GivesAll ops tape₁ ps tape' → GivesAll (op :: ops) tape (p :: ps) tape'

/-! ## What it is recorded as -/

/-- This is what comes of the operation when its record is as it is, whatever the source. -/
inductive Operation.Means [Writer ω] : Operation ω → Product ω → List Entry → Prop
  | pick {v : Nat} {a : Atom} : Pool.entry? v = some a → Means .pick (.atom a) [.picked v]
  | generate {gen : Generator} {t : Term} {es : List Entry} :
      gen.Derives ⟨t, es⟩ → Means (.generate gen) (.term t) es
  | write {c : Config} {w w' : ω} {made : List Made} {fault : Option Fault} :
      (∀ m ∈ made, c.generator.Derives m) → Document.Writes c w made fault w' →
      Means (.write c w) (.written fault w') (Document.record 0 made)

/-- The same for operations one after the other. -/
inductive MeansAll [Writer ω] : List (Operation ω) → List (Product ω) → List Entry → Prop
  | nil : MeansAll [] [] []
  | cons {op : Operation ω} {ops : List (Operation ω)} {p : Product ω} {ps : List (Product ω)}
      {es es' : List Entry} :
      op.Means p es → MeansAll ops ps es' → MeansAll (op :: ops) (p :: ps) (es ++ es')

theorem Pool.pick_eq_ok_iff [DrawSource σ] {tape tape' : Tape σ} {a : Atom} :
    pick tape = (.ok a, tape') ↔ ∃ v s, entry? v = some a ∧ Answers [.picked v] tape.source s
      ∧ tape' = tape.extend [.picked v] s := by
  have hone (v : Nat) (s : σ) : Answers [.picked v] tape.source s ↔
      DrawSource.draw ⟨0, size - 1⟩ tape.source = .answered v s :=
    ⟨fun ⟨_, hm, h⟩ => h ▸ hm, fun h => ⟨s, h, rfl⟩⟩
  simp only [hone, pick]
  constructor
  · intro h
    split at h
    · cases h
    · next v tape₁ hd =>
        obtain ⟨s, hs, rfl⟩ := Tape.draw_eq_ok_iff.mp hd
        cases ha : entry? v with
        | none =>
            rw [ha] at h
            cases h
        | some a' =>
            rw [ha] at h
            cases h
            exact ⟨v, s, ha, hs, rfl⟩
  · rintro ⟨v, s, ha, hs, rfl⟩
    simp only [Tape.draw, hs, ha]
    rfl

section

variable [DrawSource σ] [Writer ω]

/-- An operation is completed exactly if the source gives the numbers of a record of it. -/
theorem Operation.gives_iff {op : Operation ω} {tape tape' : Tape σ} {p : Product ω} :
    op.Gives tape p tape' ↔ ∃ es s, op.Means p es ∧ Answers es tape.source s
      ∧ tape' = tape.extend es s := by
  constructor
  · intro h
    cases h with
    | pick h =>
        obtain ⟨v, s, ha, hs, rfl⟩ := Pool.pick_eq_ok_iff.mp h
        exact ⟨_, s, .pick ha, hs, rfl⟩
    | generate h =>
        obtain ⟨es, s, hc, hs, rfl⟩ := Generator.generate?_eq_ok_iff.mp h
        exact ⟨es, s, .generate hc, hs, rfl⟩
    | write h =>
        obtain ⟨made, s, hd, hw, hs, rfl⟩ := Document.write?_eq_some_iff.mp h
        exact ⟨_, s, .write hd hw, hs, rfl⟩
  · rintro ⟨es, s, hm, hs, rfl⟩
    cases hm with
    | pick ha => exact .pick (Pool.pick_eq_ok_iff.mpr ⟨_, s, ha, hs, rfl⟩)
    | generate hc => exact .generate (Generator.generate?_eq_ok_iff.mpr ⟨es, s, hc, hs, rfl⟩)
    | write hd hw => exact .write (Document.write?_eq_some_iff.mpr ⟨_, s, hd, hw, hs, rfl⟩)

theorem givesAll_iff {ops : List (Operation ω)} {ps : List (Product ω)} {tape tape' : Tape σ} :
    GivesAll ops tape ps tape' ↔ ∃ es s, MeansAll ops ps es ∧ Answers es tape.source s
      ∧ tape' = tape.extend es s := by
  constructor
  · intro h
    induction h with
    | @nil tape => exact ⟨[], tape.source, .nil, rfl, rfl⟩
    | cons hop _ ih =>
        obtain ⟨es, s, hm, ha, rfl⟩ := Operation.gives_iff.mp hop
        obtain ⟨es', s', hms, has, rfl⟩ := ih
        exact ⟨es ++ es', s', .cons hm hms, ha.append has, Tape.extend_extend ..⟩
  · rintro ⟨es, s, hm, ha, rfl⟩
    induction hm generalizing tape with
    | nil =>
        cases ha
        exact .nil
    | @cons op ops p ps es es' hop _ ih =>
        obtain ⟨m, hm, hs⟩ := ha.split
        have hrest := @ih (tape.extend es m) hs
        rw [Tape.extend_extend] at hrest
        exact .cons (Operation.gives_iff.mpr ⟨es, m, hop, hm, rfl⟩) hrest

end

/-! ## Every request can be kept to -/

theorem Reaches.proper {maxDepth : Option Nat} {depth target : Nat} {es : List Entry} {t : Term} :
    Reaches maxDepth depth target es t → Proper es := by
  intro h
  induction h with
  | atom _ => exact proper_nil.drawn (Nat.zero_le _)
  | group _ _ _ ih => exact ih.append (proper_nil.drawn (Nat.zero_le _))
  | @join depth target v s op es es' l r _ hs _ _ _ ihl ihr =>
      have hgap : 1 ≤ target - l.length := Nat.sub_pos_of_lt (not_settled_iff.mp hs).2
      exact ihl.append ((ihr.event.drawn hgap).drawn (Nat.zero_le _))

theorem Document.proper_record {gen : Generator} {made : List Made}
    (hd : ∀ m ∈ made, gen.Derives m) : ∀ index : Nat, Proper (record index made) := by
  induction made with
  | nil =>
      intro _
      exact proper_nil
  | cons m made ih =>
      intro index
      obtain ⟨hm, hmade⟩ := List.forall_mem_cons.mp hd
      exact hm.1.proper.append (ih hmade (index + 1)).event

theorem Operation.Means.proper [Writer ω] {op : Operation ω} {p : Product ω} {es : List Entry} :
    op.Means p es → Proper es := by
  intro h
  cases h with
  | pick _ => exact proper_nil.drawn (Nat.zero_le _)
  | generate hc => exact hc.1.proper
  | write hd _ => exact Document.proper_record hd 0

theorem MeansAll.proper [Writer ω] {ops : List (Operation ω)} {ps : List (Product ω)}
    {es : List Entry} : MeansAll ops ps es → Proper es := by
  intro h
  induction h with
  | nil => exact proper_nil
  | cons hop _ ih => exact hop.proper.append ih

/-! ## Samples -/

/-- A batch that is filled is an operation done over and over. -/
theorem Batch.make_eq_iff [DrawSource σ] [Writer ω] {α : Type} {op : Operation ω}
    {one : Tape σ → Except Stop α × Tape σ} {product : α → Product ω}
    (hone : ∀ {tape tape' : Tape σ} {a : α},
      op.Gives tape (product a) tape' ↔ one tape = (.ok a, tape')) :
    ∀ {made : List α} {tape tape' : Tape σ}, make one made.length tape = ⟨made, none, tape'⟩ ↔
      GivesAll (List.replicate made.length op) tape (made.map product) tape' := by
  intro made
  induction made with
  | nil =>
      intro tape tape'
      constructor
      · intro h
        cases h
        exact .nil
      · intro h
        cases h
        rfl
  | cons a made ih =>
      intro tape tape'
      simp only [List.length_cons, make]
      constructor
      · intro h
        cases ho : one tape with
        | mk reply tape₁ =>
            rw [ho] at h
            cases reply with
            | error why => cases h
            | ok a' =>
                cases hr : make one made.length tape₁ with
                | mk rest stop tape₂ =>
                    simp only [hr] at h
                    cases h
                    exact .cons (hone.mpr ho) (ih.mp hr)
      · intro h
        cases h with
        | cons hop hops =>
            have hrest := ih.mpr hops
            simp only [hone.mp hop, hrest]

/-- What is done with a source does not depend on what was recorded before. -/
theorem GivesAll.exists_blank [DrawSource σ] [Writer ω] {ops : List (Operation ω)}
    {ps : List (Product ω)} {tape tape' : Tape σ} :
    GivesAll ops tape ps tape' → ∃ past, GivesAll ops (Tape.blank tape.source) ps
      ⟨tape'.source, past⟩ := by
  intro h
  obtain ⟨es, s, hm, ha, rfl⟩ := givesAll_iff.mp h
  exact ⟨_, givesAll_iff.mpr ⟨es, s, hm, ha, rfl⟩⟩

theorem Pool.sample_of_givesAll [WordSource σ] [Writer ω] {made : List Atom}
    {tape tape' : Tape σ} :
    GivesAll (List.replicate made.length (.pick : Operation ω)) tape (made.map .atom) tape' →
      ∃ past, sample made.length tape.source = ⟨made, none, ⟨tape'.source, past⟩⟩ := by
  intro h
  obtain ⟨past, hblank⟩ := h.exists_blank
  have hone {tape tape' : Tape σ} {a : Atom} :
      (.pick : Operation ω).Gives tape (.atom a) tape' ↔ pick tape = (.ok a, tape') := by
    constructor
    · intro h
      cases h with
      | pick h => exact h
    · exact .pick
  have hmake := (Batch.make_eq_iff hone).mpr hblank
  simp only [sample, hmake]
  exact ⟨_, rfl⟩

theorem Generator.sample_of_givesAll [WordSource σ] [Writer ω] {gen : Generator}
    {made : List Term} {tape tape' : Tape σ} :
    GivesAll (List.replicate made.length (.generate gen : Operation ω)) tape (made.map .term)
        tape' →
      ∃ past, gen.sample made.length tape.source = ⟨made, none, ⟨tape'.source, past⟩⟩ := by
  intro h
  obtain ⟨past, hblank⟩ := h.exists_blank
  have hone {tape tape' : Tape σ} {t : Term} :
      (.generate gen : Operation ω).Gives tape (.term t) tape' ↔
        gen.generate tape = (.ok t, tape') := by
    rw [← Option.some.injEq, ← generate?_eq]
    constructor
    · intro h
      cases h with
      | generate h => exact h
    · exact .generate
  have hmake := (Batch.make_eq_iff hone).mpr hblank
  simp only [sample, hmake]
  exact ⟨_, rfl⟩

/-! ## The record stands for the source -/

/-- A source that never fails completes whatever is done with it. -/
theorem NeverFails.exists_givesAll [DrawSource σ] [Writer ω] (hσ : NeverFails σ) :
    ∀ (ops : List (Operation ω)) (tape : Tape σ), ∃ ps tape', GivesAll ops tape ps tape'
  | [], tape => ⟨[], tape, .nil⟩
  | op :: ops, tape => by
      have hone : ∃ p tape', op.Gives tape p tape' := by
        obtain ⟨hpick, hgenerate, hwrite⟩ := hσ tape
        cases op with
        | pick =>
            obtain ⟨a, tape', h⟩ := hpick
            exact ⟨_, tape', .pick h⟩
        | generate gen =>
            obtain ⟨t, tape', h⟩ := hgenerate gen
            exact ⟨_, tape', .generate h⟩
        | write c w =>
            obtain ⟨⟨trouble, tape', w'⟩, fault, h, rfl⟩ := hwrite c w
            exact ⟨_, tape', .write h⟩
      obtain ⟨p, tape₁, hp⟩ := hone
      obtain ⟨ps, tape', hps⟩ := hσ.exists_givesAll ops tape₁
      exact ⟨p :: ps, tape', .cons hp hps⟩

/-- Whatever is done with a source that keeps to the ranges gives the same with a script of the
numbers that were recorded, which is used up and leads to the same record.  Scripts, cycles and
congruential sequences keep to the ranges, and so does every source of random words; from these,
samples are the same atoms and terms and leave the source the same. -/
theorem GivesAll.replayed :
    (∀ {σ ω : Type} [DrawSource σ] [Writer ω], StaysInRange σ →
        ∀ {ops : List (Operation ω)} {ps : List (Product ω)} {s : σ} {tape : Tape σ},
          GivesAll ops (Tape.blank s) ps tape →
            GivesAll ops (Tape.blank (⟨drawnValues tape.entries⟩ : Script)) ps ⟨⟨[]⟩, tape.past⟩)
    ∧ (StaysInRange Script ∧ StaysInRange Cycle ∧ StaysInRange Congruential
        ∧ ∀ {σ : Type} [WordSource σ], StaysInRange σ)
    ∧ ∀ {σ ω : Type} [WordSource σ] [Writer ω] {tape tape' : Tape σ},
        (∀ made : List Atom,
          GivesAll (List.replicate made.length (.pick : Operation ω)) tape (made.map .atom) tape' →
            ∃ past, Pool.sample made.length tape.source = ⟨made, none, ⟨tape'.source, past⟩⟩)
        ∧ ∀ (gen : Generator) (made : List Term),
          GivesAll (List.replicate made.length (.generate gen : Operation ω)) tape
              (made.map .term) tape' →
            ∃ past, gen.sample made.length tape.source = ⟨made, none, ⟨tape'.source, past⟩⟩ := by
  refine ⟨?_, ⟨?_, ?_, ?_, ?_⟩, ?_⟩
  · intro σ ω _ _ hσ ops ps s tape h
    obtain ⟨es, s', hm, ha, rfl⟩ := givesAll_iff.mp h
    have hvalues : drawnValues ((Tape.blank s).extend es s').entries = drawnValues es := by
      rw [Tape.entries_extend]
      rfl
    rw [hvalues]
    exact givesAll_iff.mpr ⟨es, ⟨[]⟩, hm, ha.script hσ hm.proper, rfl⟩
  · intro r s s' v _ h
    exact Script.mem_of_draw h
  · intro r s s' v hr h
    exact Cycle.mem_of_draw hr h
  · intro r s s' v hr h
    cases h
    exact Range.wrap_mem hr _
  · intro σ _ r s s' v hr h
    exact Scaled.mem_of_draw hr h
  · intro σ ω _ _ tape tape'
    exact ⟨fun made => Pool.sample_of_givesAll, fun gen made => Generator.sample_of_givesAll⟩

/-- An atom, a term and a document out of shifted words. -/
theorem GivesAll.replayed_xorShift :
    let ops : List (Operation Sink) :=
      [.pick, .generate ⟨40, some 1⟩, .write ⟨2, 5, none⟩ (Sink.new {})]
    let s : XorShift := .ofSeed 3
    StaysInRange XorShift
      ∧ (∃ ps tape, GivesAll ops (Tape.blank s) ps tape
        ∧ GivesAll ops (Tape.blank (⟨drawnValues tape.entries⟩ : Script)) ps ⟨⟨[]⟩, tape.past⟩)
      ∧ ∃ a tape past, Pool.pick (Tape.blank s) = (.ok a, tape)
        ∧ Pool.sample 1 s = ⟨[a], none, ⟨tape.source, past⟩⟩ := by
  intro ops s
  obtain ⟨hreplay, ⟨-, -, -, hwords⟩, hsample⟩ := replayed
  have hnever : NeverFails XorShift := (Scaled.answersInRange fun _ => rfl).neverFails
  obtain ⟨ps, tape, h⟩ := hnever.exists_givesAll ops (Tape.blank s)
  obtain ⟨a, tape₁, hpick⟩ := (hnever (Tape.blank s)).1
  have hgives : GivesAll (List.replicate 1 (.pick : Operation Sink)) (Tape.blank s) [.atom a]
      tape₁ := .cons (.pick hpick) .nil
  obtain ⟨past, hpast⟩ := hsample.1 [a] hgives
  exact ⟨hwords, ⟨ps, tape, h, hreplay hwords h⟩, a, tape₁, past, hpick, hpast⟩

end RandomTerms
