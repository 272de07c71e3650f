/-
# How long a term can get

A term is at least as long as its target, and it can get longer: by a parenthesis more than was
lacking, by an atom of three characters, and above all by its last sub-term, which has an operator
in front of it and can overshoot its own target in turn.  Each level of sub-terms adds a character
to the overshoot, and each takes a character of the target, so for a target `L` a term gets no
longer than

    2 * L + 1                      without a limit on the depth
    min (2 * L + 1) (L + 3 + d)    with the limit `d`

The second bound is an induction on the derivation that counts the levels above a sub-term
(`Reaches.length_add_depth_le`).  Both are met: each level but the last appends its sub-term to a
single character, and the deepest draft is grown until one character is lacking, to which an
operator and `100` are appended.
-/
import RandomTerms.Proofs.Limit

namespace RandomTerms

open Growth

/-! ## No longer -/

theorem Atom.width_le (a : Atom) : a.width ≤ 3 := by
  cases a with
  | letter c => exact Nat.le_add_left 1 2
  | number n =>
      simp only [width]
      split
      · exact Nat.le_add_left 1 2
      · split <;> decide

theorem Reaches.length_le {maxDepth : Option Nat} {depth target : Nat} {es : List Entry}
    {t : Term} : Reaches maxDepth depth target es t → InRange es → t.length ≤ 2 * max target 1 + 1 := by
  intro h
  induction h with
  | @atom _ target _ a _ =>
      intro _
      have hwidth := a.width_le
      show a.width ≤ _
      omega
  | @group _ target _ _ t _ hs _ _ =>
      intro _
      have hlt := (not_settled_iff.mp hs).2
      show t.length + 2 ≤ _
      omega
  | @join _ target _ s _ _ _ l r _ hs _ _ _ _ ihr =>
      intro hin
      have hlt := (not_settled_iff.mp hs).2
      obtain ⟨-, ⟨hs₁, hs₂⟩, hright⟩ := inRange_joined hin
      have hr := ihr hright
      have hl := l.length_pos
      show l.length + 1 + r.length ≤ _
      omega

/-- With a limit on the depth, each level above a term takes a character off its overshoot. -/
theorem Reaches.length_add_depth_le {d depth target : Nat} {es : List Entry} {t : Term} :
    Reaches (some d) depth target es t → InRange es → depth ≤ d + 1 →
      t.length + depth ≤ max target 1 + 3 + d := by
  intro h
  induction h with
  | @atom _ _ _ a _ =>
      intro _ hdepth
      have hwidth := a.width_le
      show a.width + _ ≤ _
      omega
  | @group depth _ _ _ t _ hs _ _ =>
      intro _ hdepth
      obtain ⟨hopen, hlt⟩ := not_settled_iff.mp hs
      have hdepth' : ¬ d < depth := of_decide_eq_false hopen
      show t.length + 2 + depth ≤ _
      omega
  | @join depth _ _ s _ _ _ l r _ hs _ _ _ _ ihr =>
      intro hin _
      obtain ⟨hopen, hlt⟩ := not_settled_iff.mp hs
      have hdepth : ¬ d < depth := of_decide_eq_false hopen
      obtain ⟨-, ⟨hs₁, hs₂⟩, hright⟩ := inRange_joined hin
      have hr := ihr hright (by omega)
      show l.length + 1 + r.length + depth ≤ _
      omega

/-! ## As long -/

/-- A draft is grown to `k` characters and completed by a sub-term that is given. -/
theorem exists_completes_plus (target k : Nat) {maxDepth : Option Nat} {depth n : Nat}
    {es' : List Entry} {r : Term} : Completes maxDepth (depth + 1) n es' r → InRange es' →
      isCapped maxDepth depth = false → 0 < k → 0 < n → k + n ≤ target →
      target ≤ k + 1 + r.length →
      ∃ es t, Completes maxDepth depth target es t ∧ InRange es ∧ t.length = k + 1 + r.length := by
  intro hr hin hopen hk hn hle hlen
  obtain ⟨es, l, rfl, hin', hl⟩ := exists_reaches_of_length depth target k hk (by omega)
  have hplus : InRange (plusEntries depth (target - l.length) n) :=
    inRange_plusEntries hn (Nat.le_sub_of_add_le' hle)
  exact ⟨_, _, (hl maxDepth hopen).completes_plus hopen (by omega) hr hlen,
    inRange_append.mpr ⟨hin', inRange_append.mpr ⟨hplus, hin⟩⟩, rfl⟩

/-- An atom can be as long as three characters. -/
theorem exists_reaches_hundred : ∃ v t, t.length = 3 ∧ InRange [.picked v]
    ∧ ∀ maxDepth depth target, Reaches maxDepth depth target [.picked v] t := by
  obtain ⟨v, hv, ha⟩ := Pool.exists_entry? (a := .number 100) (by decide)
  exact ⟨v, .atom (.number 100), rfl, inRange_picked hv, fun _ _ _ => .atom ha⟩

/-- For every number of levels that are left there is a term that gets as far beyond its target as
they allow.  Each level but the last leaves all but one character to its sub-term. -/
theorem exists_completes_of_longest (d : Nat) : ∀ depth target : Nat,
    ∃ es t, Completes (some (depth + d)) depth target es t ∧ InRange es
      ∧ t.length = min (2 * max target 1 + 1) (max target 1 + 3 + d) := by
  obtain ⟨v, hundred, hlen, hin, hreach⟩ := exists_reaches_hundred
  -- A target of one is met at once, whatever levels are left.
  have hone (d depth : Nat) {target : Nat} (hle : target ≤ 1) :
      ∃ es t, Completes (some (depth + d)) depth target es t ∧ InRange es
        ∧ t.length = min (2 * max target 1 + 1) (max target 1 + 3 + d) :=
    ⟨_, hundred, ⟨hreach _ _ _, .inr (by omega)⟩, hin, by omega⟩
  induction d with
  | zero =>
      intro depth target
      by_cases hle : target ≤ 1
      · exact hone 0 depth hle
      · have hcapped : isCapped (some depth) (depth + 1) = true :=
          decide_eq_true (Nat.lt_succ_self depth)
        have hopen : isCapped (some depth) depth = false :=
          decide_eq_false (Nat.lt_irrefl depth)
        obtain ⟨es, t, hc, hes, ht⟩ := exists_completes_plus target (target - 1)
          ⟨hreach (some depth) (depth + 1) 1, .inl hcapped⟩ hin hopen
          (by omega) Nat.one_pos (by omega) (by omega)
        exact ⟨es, t, hc, hes, by omega⟩
  | succ d ih =>
      intro depth target
      by_cases hle : target ≤ 1
      · exact hone (d + 1) depth hle
      · obtain ⟨es', r, hr, hin', hrlen⟩ := ih (depth + 1) (target - 1)
        have hlevels : depth + 1 + d = depth + (d + 1) := Nat.add_right_comm depth 1 d
        rw [hlevels] at hr
        have hopen : isCapped (some (depth + (d + 1))) depth = false :=
          decide_eq_false (Nat.not_lt_of_le (Nat.le_add_right _ _))
        obtain ⟨es, t, hc, hes, ht⟩ := exists_completes_plus target 1 hr hin' hopen
          Nat.one_pos (by omega) (by omega) (by omega)
        exact ⟨es, t, hc, hes, by omega⟩

/-! ## The greatest length -/

namespace Generator

/-- The greatest length of a term that the generator makes.  A target of nought is met as late as
one of one. -/
def greatestLength (gen : Generator) : Nat :=
  let target := max gen.target 1
  match gen.maxDepth with
  | none => 2 * target + 1
  | some d => min (2 * target + 1) (target + 3 + d)

theorem Derives.length_le {gen : Generator} {m : Made} :
    gen.Derives m → InRange m.entries → m.term.length ≤ gen.greatestLength := by
  obtain ⟨target, maxDepth⟩ := gen
  rintro ⟨hr, -⟩ hin
  have hle := hr.length_le hin
  cases maxDepth with
  | none => exact hle
  | some d => exact Nat.le_min.mpr ⟨hle, hr.length_add_depth_le hin (Nat.zero_le _)⟩

/-- Out of a script, a limit makes no difference while it does not show. -/
theorem Yields.unlimited {target d : Nat} {values : List Nat} {t : Term} :
    Yields ⟨target, some d⟩ values t → target ≤ d + 2 → Yields ⟨target, none⟩ values t := by
  rintro ⟨past, h⟩ hle
  have hσ : StaysInRange Script := fun _ hd => Script.mem_of_draw hd
  have hsame := generate?_eq_unlimited hσ hle (Tape.blank (⟨values⟩ : Script))
  exact ⟨past, hsame ▸ h⟩

theorem exists_yields_longest (gen : Generator) :
    ∃ values t, gen.Yields values t ∧ t.length = gen.greatestLength := by
  have hlimited (target d : Nat) : ∃ values t, Yields ⟨target, some d⟩ values t
      ∧ t.length = min (2 * max target 1 + 1) (max target 1 + 3 + d) := by
    obtain ⟨es, t, hc, hin, hlen⟩ := exists_completes_of_longest d 0 target
    rw [Nat.zero_add] at hc
    exact ⟨drawnValues es, t, yields_iff_completes.mpr ⟨es, hc, hin, rfl⟩, hlen⟩
  obtain ⟨target, maxDepth⟩ := gen
  cases maxDepth with
  | some d => exact hlimited target d
  | none =>
      obtain ⟨values, t, hy, hlen⟩ := hlimited target target
      refine ⟨values, t, hy.unlimited (Nat.le_add_right _ _), ?_⟩
      show t.length = 2 * max target 1 + 1
      omega

/-- Whatever a source gives that stays in range, no term is longer than the greatest length, and one
that always answers leads to a term of at most that length.  For each generator there are numbers in
range that lead to a term of just that length. -/
theorem isGreatest_greatestLength (gen : Generator) :
    (∀ {σ : Type} [DrawSource σ], StaysInRange σ → ∀ (tape tape' : Tape σ) (t : Term),
        gen.generate? tape = some (.ok t, tape') → t.text.length ≤ gen.greatestLength)
    ∧ (∀ {σ : Type} [DrawSource σ], AnswersInRange σ → ∀ tape : Tape σ, ∃ t tape',
        gen.generate? tape = some (.ok t, tape') ∧ t.text.length ≤ gen.greatestLength)
    ∧ ∃ values t, gen.Yields values t ∧ t.text.length = gen.greatestLength := by
  have hbound {σ : Type} [DrawSource σ] (hσ : StaysInRange σ) {tape tape' : Tape σ} {t : Term}
      (h : gen.generate? tape = some (.ok t, tape')) : t.text.length ≤ gen.greatestLength := by
    obtain ⟨es, s, hc, ha, -⟩ := generate?_eq_ok_iff.mp h
    have hd : gen.Derives ⟨t, es⟩ := hc
    rw [Term.length_text]
    exact hd.length_le (ha.inRange hσ hc.1.proper)
  refine ⟨fun hσ _ _ _ h => hbound hσ h, fun hσ tape => ?_, ?_⟩
  · obtain ⟨t, tape', h⟩ := exists_generate? hσ gen tape
    exact ⟨t, tape', h, hbound hσ.staysInRange h⟩
  · obtain ⟨values, t, hy, hlen⟩ := gen.exists_yields_longest
    exact ⟨values, t, hy, t.length_text.trans hlen⟩

/-- A limit of one level takes the greatest length for a target of forty from 81 down to 44. -/
theorem isGreatest_greatestLength_forty :
    let tape : Tape Congruential := Tape.blank ⟨7⟩
    AnswersInRange Congruential ∧ StaysInRange Congruential
      ∧ (∃ t tape', generate? ⟨40, none⟩ tape = some (.ok t, tape') ∧ t.text.length ≤ 81)
      ∧ (∃ t tape', generate? ⟨40, some 1⟩ tape = some (.ok t, tape') ∧ t.text.length ≤ 44)
      ∧ (∃ values t, Yields ⟨40, none⟩ values t ∧ t.text.length = 81)
      ∧ ∃ values t, Yields ⟨40, some 1⟩ values t ∧ t.text.length = 44 := by
  intro tape
  have hσ := Congruential.answersInRange
  obtain ⟨hstays, -, hattained⟩ := isGreatest_greatestLength ⟨40, none⟩
  obtain ⟨-, hanswers, hattained'⟩ := isGreatest_greatestLength ⟨40, some 1⟩
  obtain ⟨t, tape', h⟩ := exists_generate? hσ ⟨40, none⟩ tape
  exact ⟨hσ, hσ.staysInRange, ⟨t, tape', h, hstays hσ.staysInRange tape tape' t h⟩,
    hanswers hσ tape, hattained, hattained'⟩

end Generator
end RandomTerms
