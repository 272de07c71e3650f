/-
# Growth comes to an end

Nothing about chance is needed for a term to end: it is enough that the source answers, and answers
inside the range.  Every such answer lowers the potential of the growth, so the potential is more
than a reason to end; it bounds the numbers that are drawn.  For a target it begins at
`3 * max target 1 - 2`, and the bound is met: a term that appends a sub-term with all of the target
that is left, and picks one character each time, draws three numbers for each character but the
first, and one for that.
-/
import RandomTerms.Draw.Congruential
import RandomTerms.Proofs.Derivation

namespace RandomTerms

/-- Whatever numbers it is asked for, the source gives one, and one of these. -/
def AnswersInRange (σ : Type) [DrawSource σ] : Prop :=
  ∀ (r : Range) (s : σ), r.low ≤ r.high → ∃ v s', DrawSource.draw r s = .answered v s' ∧ v ∈ r

/-! ## No more draws than the potential -/

theorem Pool.entry?_of_le {v : Nat} (h : v ≤ size - 1) : ∃ a, entry? v = some a := by
  have hpos : 0 < size := by
    rw [size_eq]
    decide
  have hlt : v < size := Nat.lt_of_le_sub_one hpos h
  exact ⟨_, List.getElem?_eq_getElem hlt⟩

namespace Growth

theorem drawnValues_entries (g : Growth) (v : Nat) : drawnValues (g.entries v) = [v] := by
  unfold entries
  cases g.event? v <;> rfl

theorem complete_ne_noEntry (m : Measured) (outer : List Waiting) (index : Nat) :
    complete m outer ≠ .noEntry index := by
  induction outer generalizing m with
  | nil =>
      intro h
      cases h
  | cons w outer ih =>
      simp only [complete]
      split
      · intro h
        cases h
      · exact ih _

theorem settle_ne_noEntry (m : Measured) (target : Nat) (outer : List Waiting) (index : Nat) :
    settle m target outer ≠ .noEntry index := by
  unfold settle
  split
  · intro h
    cases h
  · exact complete_ne_noEntry m outer index

/-- A number in the range that is asked for counts an entry of the pool. -/
theorem answer_ne_noEntry {maxDepth : Option Nat} {g : Growth} {v index : Nat} :
    v ∈ g.request → g.answer maxDepth v ≠ .noEntry index := by
  intro hv
  cases g with
  | picking target outer =>
      obtain ⟨a, ha⟩ := Pool.entry?_of_le hv.2
      simp only [answer, ha]
      split
      · exact complete_ne_noEntry _ outer index
      · exact settle_ne_noEntry _ target outer index
  | choosing draft outer =>
      simp only [answer]
      split
      · exact settle_ne_noEntry _ draft.target outer index
      · intro h
        cases h
  | measuring draft op outer =>
      intro h
      cases h

/-- On a source that answers inside the range, growth finishes a term and draws no more numbers than
its potential. -/
theorem exists_run?_of_answersInRange {σ : Type} [DrawSource σ] (hσ : AnswersInRange σ)
    (maxDepth : Option Nat) (g : Growth) (tape : Tape σ) :
    ∃ t es s, g.run? maxDepth tape = some (.ok t, tape.extend es s)
      ∧ (drawnValues es).length ≤ g.potential := by
  obtain ⟨v, s, hdraw, hv⟩ := hσ g.request tape.source g.request_low_le
  have hstep : g.run? maxDepth tape = (g.answer maxDepth v).run? maxDepth
      (tape.extend (g.entries v) s) := run?_of_answered hdraw
  cases hp : g.answer maxDepth v with
  | noEntry index => exact (answer_ne_noEntry hv hp).elim
  | finished t =>
      rw [hp] at hstep
      refine ⟨t, g.entries v, s, hstep, ?_⟩
      rw [drawnValues_entries]
      exact g.potential_pos
  | growing g' =>
      have hfall := potential_answer_lt hv hp
      obtain ⟨t, es, s', hrun, hle⟩ := exists_run?_of_answersInRange hσ maxDepth g'
        (tape.extend (g.entries v) s)
      rw [Tape.extend_extend] at hrun
      refine ⟨t, g.entries v ++ es, s', ?_, ?_⟩
      · rw [hstep, hp]
        exact hrun
      · rw [drawnValues_append, drawnValues_entries, List.length_append, List.length_singleton]
        omega
termination_by g.potential

end Growth

/-! ## As many draws as the potential -/

/-- A term that appends a sub-term with all of the target that is left, down to the last
character. -/
theorem exists_completes_of_draws (target : Nat) : ∀ depth : Nat, ∃ es t,
    Completes none depth target es t ∧ InRange es
      ∧ (drawnValues es).length = 3 * max target 1 - 2 := by
  have ha : Pool.entry? 0 = some (.letter 'a') := rfl
  have hpick : InRange [.picked 0] :=
    inRange_drawn_cons.mpr ⟨⟨Nat.le_refl _, Nat.zero_le _⟩, inRange_nil⟩
  induction target with
  | zero =>
      intro depth
      exact ⟨_, _, ⟨.atom ha, .inr (Nat.zero_le _)⟩, hpick, rfl⟩
  | succ n ih =>
      intro depth
      by_cases hn : n = 0
      · subst hn
        exact ⟨_, _, ⟨.atom ha, .inr (Nat.le_refl _)⟩, hpick, rfl⟩
      · obtain ⟨es, r, ⟨hr, hs⟩, hin, hdraws⟩ := ih (depth + 1)
        have hlen : n ≤ r.length := hs.resolve_left Bool.false_ne_true
        have hopen : ¬ Settled none depth (n + 1) (.atom (.letter 'a')) :=
          not_settled_iff.mpr ⟨rfl, Nat.succ_lt_succ (Nat.pos_of_ne_zero hn)⟩
        have hplus : Move.ofDraw 25 = .append .plus := rfl
        have hfirst : Reaches none depth (n + 1) [.picked 0] (.atom (.letter 'a')) := .atom ha
        refine ⟨_, _, ⟨hfirst.join hopen hplus hr hs, .inr ?_⟩, ?_, ?_⟩
        · show n + 1 ≤ 1 + 1 + r.length
          omega
        · have hmeasured : n ∈ (⟨1, n + 1 - 1⟩ : Range) :=
            ⟨Nat.pos_of_ne_zero hn, Nat.le_refl _⟩
          exact inRange_append.mpr ⟨hpick, inRange_drawn_cons.mpr ⟨⟨Nat.zero_le _, by decide⟩,
            inRange_drawn_cons.mpr ⟨hmeasured, inRange_event_cons.mpr hin⟩⟩⟩
        · show (drawnValues es).length + 1 + 1 + 1 = _
          omega

/-- On a source that answers inside the range, whatever numbers these are, a term is finished with
no more than `3 * max target 1 - 2` draws; without a limit on the depth it can take as many. -/
theorem Generator.ends_within (target : Nat) :
    (∀ {σ : Type} [DrawSource σ], AnswersInRange σ → ∀ (maxDepth : Option Nat) (s : σ),
      ∃ t tape, Generator.generate? ⟨target, maxDepth⟩ (Tape.blank s) = some (.ok t, tape)
        ∧ (drawnValues tape.entries).length ≤ 3 * max target 1 - 2)
    ∧ ∃ values t, Generator.Yields ⟨target, none⟩ values t
        ∧ values.length = 3 * max target 1 - 2 := by
  constructor
  · intro σ _ hσ maxDepth s
    obtain ⟨t, es, s', hrun, hle⟩ := Growth.exists_run?_of_answersInRange hσ maxDepth
      (.picking target []) (Tape.blank s)
    refine ⟨t, _, hrun, ?_⟩
    rw [Tape.entries_extend]
    exact hle
  · obtain ⟨es, t, hc, hin, hdraws⟩ := exists_completes_of_draws target 0
    exact ⟨drawnValues es, t, yields_iff_completes.mpr ⟨es, hc, hin, rfl⟩, hdraws⟩

theorem Congruential.answersInRange : AnswersInRange Congruential :=
  fun _ s hr => ⟨_, s.next, rfl, Range.wrap_mem hr _⟩

/-- A congruential sequence and a limit on the depth. -/
theorem Generator.ends_within_congruential :
    AnswersInRange Congruential
      ∧ (∃ t tape, Generator.generate? ⟨40, some 1⟩ (Tape.blank (⟨7⟩ : Congruential))
          = some (.ok t, tape) ∧ (drawnValues tape.entries).length ≤ 3 * max 40 1 - 2)
      ∧ ∃ values t, Generator.Yields ⟨40, none⟩ values t ∧ values.length = 3 * max 40 1 - 2 :=
  ⟨Congruential.answersInRange,
    (ends_within 40).1 Congruential.answersInRange (some 1) ⟨7⟩, (ends_within 40).2⟩

end RandomTerms
