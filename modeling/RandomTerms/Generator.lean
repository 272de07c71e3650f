/-
# Making terms from a source

Growth driven by a source of draws until the term is finished or the source stops, with a record
of what was drawn. On a source that answers as it likes a term may grow for ever, so a run is given
that growth ends (`Ends`). On a steady source it always does: an answer in the range lowers the
potential of the growth, and any other uses up the supply of the source, so the pair of supply and
potential falls with every draw.

Where nothing is known of the source, `run?` and `generate?` give the result of the same run, if
there is one.
-/
import RandomTerms.Draw.Words
import RandomTerms.Growth

namespace RandomTerms

variable {σ : Type}

def Pool.pick [DrawSource σ] (tape : Tape σ) : Except Stop Atom × Tape σ :=
  match tape.draw ⟨0, Pool.size - 1⟩ with
  | (.error why, tape) => (.error why, tape)
  | (.ok v, tape) =>
    match Pool.entry? v with
    | some a => (.ok a, tape)
    | none => (.error (.noEntry Pool.size v), tape)

/-- Puts on the tape what the number that was drawn gives to report. -/
def Growth.report (g : Growth) (v : Nat) (tape : Tape σ) : Tape σ :=
  match g.event? v with
  | some e => tape.note e
  | none => tape

@[simp] theorem Growth.source_report (g : Growth) (v : Nat) (tape : Tape σ) :
    (g.report v tape).source = tape.source := by
  unfold report
  split <;> rfl

/-! ## The growth of a term -/

/-- The state `y` is where the state `x` of growth and of its source may be next. -/
def Growth.Next [DrawSource σ] (maxDepth : Option Nat) (y x : Growth × σ) : Prop :=
  ∃ v, DrawSource.draw x.1.request x.2 = .answered v y.2 ∧ x.1.answer maxDepth v = .growing y.1

/-- Growth that goes on from `g` with this source comes to an end. -/
def Growth.Ends [DrawSource σ] (maxDepth : Option Nat) (g : Growth) (s : σ) : Prop :=
  Acc (Next maxDepth) (g, s)

theorem Tape.draw_eq_ok_iff [DrawSource σ] {r : Range} {tape tape' : Tape σ} {v : Nat} :
    tape.draw r = (.ok v, tape') ↔
      ∃ s, DrawSource.draw r tape.source = .answered v s ∧ tape' = tape.answered r v s := by
  unfold draw
  cases DrawSource.draw r tape.source with
  | answered w s =>
    constructor
    · intro h
      cases h
      exact ⟨s, rfl, rfl⟩
    · rintro ⟨s', hs, rfl⟩
      cases hs
      rfl
  | stopped why s =>
    constructor
    · intro h
      cases h
    · rintro ⟨_, h, -⟩
      cases h

theorem Growth.next_iff [DrawSource σ] {maxDepth : Option Nat} {g g' : Growth} {tape : Tape σ}
    {s : σ} : Next maxDepth (g', s) (g, tape.source) ↔
      ∃ v tape', tape.draw g.request = (.ok v, tape') ∧ g.answer maxDepth v = .growing g'
        ∧ s = (g.report v tape').source := by
  simp only [Next, Tape.draw_eq_ok_iff, source_report]
  constructor
  · rintro ⟨v, hs, hg⟩
    exact ⟨v, _, ⟨s, hs, rfl⟩, hg, rfl⟩
  · rintro ⟨v, _, ⟨s', hs, rfl⟩, hg, rfl⟩
    exact ⟨v, hs, hg⟩

theorem Growth.Ends.next [DrawSource σ] {maxDepth : Option Nat} {g g' : Growth}
    {tape tape' : Tape σ} {v : Nat} (h : Ends maxDepth g tape.source)
    (hdraw : tape.draw g.request = (.ok v, tape')) (hg : g.answer maxDepth v = .growing g') :
    Ends maxDepth g' (g.report v tape').source :=
  h.inv (next_iff.mpr ⟨v, tape', hdraw, hg, rfl⟩)

/-- What can be reached from a start by going back along a relation has no endless way back. -/
instance Acc.wellFoundedRelation {α : Type} {r : α → α → Prop} :
    WellFoundedRelation {x // Acc r x} where
  rel := InvImage r Subtype.val
  wf := ⟨fun x => InvImage.accessible Subtype.val x.2⟩

/-- Drives the growth of a term by the draws of a source. -/
def Growth.run [DrawSource σ] (maxDepth : Option Nat) (g : Growth) (tape : Tape σ)
    (h : Ends maxDepth g tape.source) : Except Stop Term × Tape σ :=
  match hdraw : tape.draw g.request with
  | (.error why, tape') => (.error why, tape')
  | (.ok v, tape') =>
    match hg : g.answer maxDepth v with
    | .finished t => (.ok t, g.report v tape')
    | .noEntry index => (.error (.noEntry Pool.size index), g.report v tape')
    | .growing g' => run maxDepth g' (g.report v tape') (h.next hdraw hg)
termination_by (⟨(g, tape.source), h⟩ : {x // Acc (Next maxDepth) x})
decreasing_by exact next_iff.mpr ⟨v, tape', hdraw, hg, rfl⟩

open Classical in
/-- The run, if growth ends. -/
noncomputable def Growth.run? [DrawSource σ] (maxDepth : Option Nat) (g : Growth) (tape : Tape σ) :
    Option (Except Stop Term × Tape σ) :=
  if h : Ends maxDepth g tape.source then some (run maxDepth g tape h) else none

/-- A run goes on by one draw after the other, whether it ends or not. -/
theorem Growth.run?_eq [DrawSource σ] (maxDepth : Option Nat) (g : Growth) (tape : Tape σ) :
    g.run? maxDepth tape =
      match tape.draw g.request with
      | (.error why, tape) => some (.error why, tape)
      | (.ok v, tape) =>
        match g.answer maxDepth v with
        | .finished t => some (.ok t, g.report v tape)
        | .noEntry index => some (.error (.noEntry Pool.size index), g.report v tape)
        | .growing g' => g'.run? maxDepth (g.report v tape) := by
  by_cases h : Ends maxDepth g tape.source
  · rw [run?, dif_pos h, run]
    split
    · next hdraw => simp only [hdraw]
    · next v tape' hdraw =>
      simp only [hdraw]
      split
      · next hg => simp only [hg]
      · next hg => simp only [hg]
      · next g' hg =>
        simp only [hg]
        rw [run?, dif_pos (h.next hdraw hg)]
  · -- Where growth does not end, there is a next state from which it does not end either.
    have hnext : ∃ y, Next maxDepth y (g, tape.source) ∧ ¬ Ends maxDepth y.1 y.2 := by
      refine Classical.byContradiction fun hno => h (Acc.intro _ fun y hy => ?_)
      exact Classical.byContradiction fun hy' => hno ⟨y, hy, hy'⟩
    obtain ⟨⟨g', s⟩, hy, hg'⟩ := hnext
    obtain ⟨v, tape', hdraw, hg, rfl⟩ := next_iff.mp hy
    rw [run?, dif_neg h]
    simp only [hdraw, hg]
    rw [run?, dif_neg hg']

/-- What terms are to be like: at least `target` characters long, and, if there is a limit, with
no sub-term expanded that lies deeper than it. A target of zero is as good as a target of one. -/
structure Generator where
  target : Nat
  maxDepth : Option Nat
deriving DecidableEq, Repr

/-- Makes one term, if its growth ends. -/
noncomputable def Generator.generate? [DrawSource σ] (gen : Generator) (tape : Tape σ) :
    Option (Except Stop Term × Tape σ) :=
  Growth.run? gen.maxDepth (.picking gen.target []) tape

/-! ## On a steady source -/

/-- An answer outside the range uses up the supply, and one inside the range leaves it and lowers
the potential. -/
theorem Growth.ends [SteadySource σ] (maxDepth : Option Nat) (g : Growth) (s : σ) :
    Ends maxDepth g s := by
  refine Acc.intro _ ?_
  rintro ⟨g', s'⟩ ⟨v, hdraw, hg⟩
  have hfall : SteadySource.supply s' < SteadySource.supply s
      ∨ SteadySource.supply s' ≤ SteadySource.supply s ∧ g'.potential < g.potential := by
    by_cases hv : v ∈ g.request
    · exact .inr ⟨SteadySource.supply_le hdraw, potential_answer_lt hv hg⟩
    · exact .inl (SteadySource.supply_lt hdraw g.request_low_le hv)
  exact ends maxDepth g' s'
termination_by (SteadySource.supply s, g.potential)
decreasing_by
  rcases hfall with hlt | ⟨hle, hpot⟩
  · exact Prod.Lex.left _ _ hlt
  · rcases Nat.lt_or_eq_of_le hle with hlt | heq
    · exact Prod.Lex.left _ _ hlt
    · exact heq ▸ Prod.Lex.right _ hpot

def Generator.generate [SteadySource σ] (gen : Generator) (tape : Tape σ) :
    Except Stop Term × Tape σ :=
  Growth.run gen.maxDepth (.picking gen.target []) tape (Growth.ends ..)

theorem Generator.generate?_eq [SteadySource σ] (gen : Generator) (tape : Tape σ) :
    gen.generate? tape = some (gen.generate tape) :=
  dif_pos _

/-! ## Several at a time -/

/-- What was made before a batch was full or drawing came to a stop. -/
structure Batch (σ α : Type) where
  made : List α
  stop : Option Stop
  tape : Tape σ

/-- Makes as many as asked for, one after another from the same tape. -/
def Batch.make {α : Type} (one : Tape σ → Except Stop α × Tape σ) : Nat → Tape σ → Batch σ α
  | 0, tape => ⟨[], none, tape⟩
  | n + 1, tape =>
    match one tape with
    | (.error why, tape) => ⟨[], some why, tape⟩
    | (.ok a, tape) =>
      let rest := make one n tape
      ⟨a :: rest.made, rest.stop, rest.tape⟩

/-! ## Samples

Samples are made straight from a source of random words. Their draws are nobody's concern, so only
the events stay on the tape. -/

/-- The tape without its draws. -/
def Tape.eventsOnly (tape : Tape σ) : Tape σ :=
  ⟨tape.source, tape.past.filter fun e => e.event?.isSome⟩

def Pool.sample [WordSource σ] (count : Nat) (s : σ) : Batch σ Atom :=
  let batch := Batch.make Pool.pick count (Tape.blank s)
  ⟨batch.made, batch.stop, batch.tape.eventsOnly⟩

def Generator.sample [WordSource σ] (gen : Generator) (count : Nat) (s : σ) :
    Batch σ Term :=
  let batch := Batch.make gen.generate count (Tape.blank s)
  ⟨batch.made, batch.stop, batch.tape.eventsOnly⟩

end RandomTerms
