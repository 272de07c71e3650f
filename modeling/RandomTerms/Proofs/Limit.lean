/-
# Where a limit on the depth shows

A limit `d` shows in a sub-term that stands deeper than `d` and is short of its target: it stays
the atom it starts as, where it would grow without the limit.  As long as all numbers are in range,
each level keeps a character of the target to itself, so a sub-term at depth `k` gets a target of at
most `target - k`.  With `target ≤ d + 2` a sub-term deeper than `d` gets a target of one, and its
atom is long enough.  So the two generators go through the same states, whatever the source answers
and wherever it stops (`run?_limited`): one step is `Follows.answer_limited`, and the run is an
induction on the potential.

Beyond that the limit can show.  For `target ≥ d + 3` a sub-term at depth `d + 1` can get a target
of two and start with one character.  The draft it is appended to is grown to just that length at
which the one character completes it, so the limited generator is done where the other wraps.
-/
import RandomTerms.Proofs.Image
import RandomTerms.Proofs.Replay

namespace RandomTerms

open Growth

variable {σ : Type}

/-! ## The limit does not show -/

/-- An atom is long enough for a target of one. -/
theorem Growth.settle_atom (a : Atom) {target : Nat} (outer : List Waiting) (h : target ≤ 1) :
    settle (.atom a) target outer = complete (.atom a) outer := by
  have hdone : ¬ (Measured.atom a).length < target :=
    Nat.not_lt_of_le (Nat.le_trans h a.width_pos)
  exact dif_neg hdone

/-- In a state that answers in range have led to, an answer leads to the same with the limit as
without. -/
theorem Follows.answer_limited {d goal v : Nat} {g : Growth} {es : List Entry} :
    Follows none goal g es → InRange es → goal ≤ d + 2 →
      g.answer (some d) v = g.answer none v := by
  intro h hin hgoal
  cases h with
  | @picking target outer _ hp =>
      have hroom := hp.target_add_depth_le hin
      simp only [Growth.answer]
      cases Pool.entry? v with
      | none => rfl
      | some a =>
          cases hc : isCapped (some d) outer.length with
          | false => rfl
          | true =>
              have hdeep : d < outer.length := of_decide_eq_true hc
              exact (settle_atom a outer (by omega)).symm
  | choosing _ _ _ => rfl
  | measuring _ _ _ _ => rfl

/-- So the runs are the same, on every source that stays in range. -/
theorem Growth.run?_limited [DrawSource σ] (hσ : StaysInRange σ) {d goal : Nat}
    (hgoal : goal ≤ d + 2) (g : Growth) {es : List Entry} (tape : Tape σ)
    (hf : Follows none goal g es) (hin : InRange es) :
    g.run? (some d) tape = g.run? none tape := by
  cases hd : DrawSource.draw g.request tape.source with
  | stopped why s => rw [run?_eq, run?_eq, Tape.draw, hd]
  | answered v s =>
      have hv : v ∈ g.request := hσ g.request_low_le hd
      rw [run?_of_answered hd, run?_of_answered hd, hf.answer_limited hin hgoal]
      cases hp : g.answer none v with
      | finished t => rfl
      | noEntry index => rfl
      | growing g' =>
          have hnext := hf.answer v
          rw [hp] at hnext
          have hin' := inRange_append.mpr ⟨hin, inRange_entries hv⟩
          exact run?_limited hσ hgoal g' (tape.extend (g.entries v) s) hnext hin'
termination_by g.potential
decreasing_by exact potential_answer_lt hv hp

theorem Generator.generate?_eq_unlimited [DrawSource σ] (hσ : StaysInRange σ) {target d : Nat}
    (hle : target ≤ d + 2) (tape : Tape σ) :
    Generator.generate? ⟨target, some d⟩ tape = Generator.generate? ⟨target, none⟩ tape :=
  run?_limited hσ hle (.picking target []) tape (.picking .nil) inRange_nil

/-! ## Drafts of any length -/

/-- Where a term may grow, it can be grown to any length up to its target: from an atom of one or of
two characters, by wrapping. -/
theorem exists_reaches_of_length (depth target : Nat) : ∀ n : Nat, 0 < n → n ≤ target →
    ∃ es t, t.length = n ∧ InRange es
      ∧ ∀ maxDepth, isCapped maxDepth depth = false → Reaches maxDepth depth target es t
  | 1, _, _ => by
      obtain ⟨v, hv, ha⟩ := Pool.exists_entry? (a := .letter 'a') (by decide)
      exact ⟨_, _, rfl, inRange_picked hv, fun _ _ => .atom ha⟩
  | 2, _, _ => by
      obtain ⟨v, hv, ha⟩ := Pool.exists_entry? (a := .number 10) (by decide)
      exact ⟨_, _, rfl, inRange_picked hv, fun _ _ => .atom ha⟩
  | n + 3, _, hle => by
      obtain ⟨es, t, hlen, hin, hr⟩ :=
        exists_reaches_of_length depth target (n + 1) (Nat.succ_pos n) (by omega)
      obtain ⟨v, hv, hwrap⟩ := Move.exists_ofDraw .wrap
      refine ⟨es ++ [.chosen v], .group t, congrArg (· + 2) hlen,
        inRange_append.mpr ⟨hin, inRange_chosen hv inRange_nil⟩, fun maxDepth hopen => ?_⟩
      exact (hr maxDepth hopen).group (not_settled_iff.mpr ⟨hopen, by omega⟩) hwrap

/-! ## The limit shows -/

/-- What is recorded where a draft at this depth that lacks `gap` characters appends a plus and a
sub-term with the target `n`. -/
def plusEntries (depth gap n : Nat) : List Entry :=
  [.chosen 25, .measured gap n, .event (.expanding depth n .plus)]

theorem inRange_plusEntries {depth gap n : Nat} (hpos : 0 < n) (hle : n ≤ gap) :
    InRange (plusEntries depth gap n) :=
  inRange_chosen (by decide) <|
    inRange_drawn_cons.mpr ⟨⟨hpos, hle⟩, inRange_event_cons.mpr inRange_nil⟩

/-- A draft is complete once the sub-term it appends makes it long enough. -/
theorem Reaches.completes_plus {maxDepth : Option Nat} {depth target n : Nat}
    {es es' : List Entry} {l r : Term} :
    Reaches maxDepth depth target es l → isCapped maxDepth depth = false → l.length < target →
      Completes maxDepth (depth + 1) n es' r → target ≤ l.length + 1 + r.length →
      Completes maxDepth depth target (es ++ (plusEntries depth (target - l.length) n ++ es'))
        (.join l .plus r) := by
  intro hl hopen hlt hr hlen
  have hplus : Move.ofDraw 25 = .append .plus := rfl
  exact ⟨hl.join (not_settled_iff.mpr ⟨hopen, hlt⟩) hplus hr.1 hr.2, .inr hlen⟩

/-- With the same numbers, a term at this depth is done with the limit `d` where it goes on without,
and lacks no more than a character. -/
def Apart (d depth target : Nat) : Prop :=
  ∃ es es' t t', Completes (some d) depth target es t ∧ Completes none depth target (es ++ es') t'
    ∧ InRange (es ++ es') ∧ t.length < t'.length ∧ target ≤ t.length + 1

/-- One level too deep, a term with a target of two is left as a single character. -/
theorem apart_deep (d : Nat) : Apart d (d + 1) 2 := by
  obtain ⟨v, hv, ha⟩ := Pool.exists_entry? (a := .letter 'a') (by decide)
  obtain ⟨u, hu, hwrap⟩ := Move.exists_ofDraw .wrap
  have hatom (maxDepth : Option Nat) :
      Reaches maxDepth (d + 1) 2 [.picked v] (.atom (.letter 'a')) := .atom ha
  have hcapped : isCapped (some d) (d + 1) = true := decide_eq_true (Nat.lt_succ_self d)
  have hopen : ¬ Settled none (d + 1) 2 (.atom (.letter 'a')) :=
    not_settled_iff.mpr ⟨rfl, Nat.lt_succ_self 1⟩
  have hgroup : 2 ≤ (Term.group (.atom (.letter 'a'))).length := by decide
  exact ⟨[.picked v], [.chosen u], _, _, ⟨hatom _, .inl hcapped⟩,
    ⟨(hatom none).group hopen hwrap, .inr hgroup⟩,
    inRange_append.mpr ⟨inRange_picked hv, inRange_chosen hu inRange_nil⟩, by decide, by decide⟩

/-- Terms with such a sub-term appended are apart as well. -/
theorem Apart.plus {d depth target n : Nat} : Apart d (depth + 1) n → depth ≤ d → 0 < n →
    n < target → Apart d depth target := by
  rintro ⟨es, es', r, r', hr, hr', hin, hlt, hle⟩ hdepth hpos hn
  obtain ⟨es₀, l, hlen, hin₀, hl⟩ :=
    exists_reaches_of_length depth target (target - n) (by omega) (by omega)
  have hopen : isCapped (some d) depth = false := decide_eq_false (Nat.not_lt_of_le hdepth)
  have hshort := (hl (some d) hopen).completes_plus hopen (by omega) hr (by omega)
  have hlong := (hl none rfl).completes_plus rfl (by omega) hr' (by omega)
  rw [← List.append_assoc (plusEntries _ _ _), ← List.append_assoc es₀] at hlong
  have hplus : InRange (plusEntries depth (target - l.length) n) :=
    inRange_plusEntries hpos (by omega)
  refine ⟨_, es', _, _, hshort, hlong, ?_, Nat.add_lt_add_left hlt _, ?_⟩
  · rw [List.append_assoc, List.append_assoc]
    exact inRange_append.mpr ⟨hin₀, inRange_append.mpr ⟨hplus, hin⟩⟩
  · show target ≤ l.length + 1 + r.length + 1
    omega

/-- Terms with so long a target are apart. -/
theorem apart_of_le (k : Nat) : ∀ depth target : Nat, k + 3 ≤ target →
    Apart (depth + k) depth target := by
  induction k with
  | zero =>
      intro depth target hle
      exact (apart_deep depth).plus (Nat.le_refl _) Nat.two_pos hle
  | succ k ih =>
      intro depth target hle
      have hdeep := ih (depth + 1) (target - 1) (by omega)
      rw [Nat.add_assoc, Nat.add_comm 1] at hdeep
      exact hdeep.plus (Nat.le_add_right _ _) (by omega) (by omega)

/-! ## The two generators -/

/-- While the target is at most two above the limit, a source that stays in range leads the limited
generator to the same outcome as the other, with the same record, and a source that always answers
leads both to the same term.  For every greater target there are numbers in range out of which the
two make different terms. -/
theorem Generator.generate?_limited (target d : Nat) :
    (target ≤ d + 2 →
        (∀ {σ : Type} [DrawSource σ], StaysInRange σ → ∀ tape : Tape σ,
          Generator.generate? ⟨target, some d⟩ tape = Generator.generate? ⟨target, none⟩ tape)
        ∧ ∀ {σ : Type} [DrawSource σ], AnswersInRange σ → ∀ tape : Tape σ, ∃ t tape',
          Generator.generate? ⟨target, some d⟩ tape = some (.ok t, tape')
            ∧ Generator.generate? ⟨target, none⟩ tape = some (.ok t, tape'))
    ∧ (d + 3 ≤ target → ∃ values t t' tape tape',
        Generator.generate? ⟨target, some d⟩ (Tape.blank (⟨values⟩ : Script)) = some (.ok t, tape)
          ∧ Generator.generate? ⟨target, none⟩ (Tape.blank (⟨values⟩ : Script))
            = some (.ok t', tape')
          ∧ t.text ≠ t'.text) := by
  refine ⟨fun hle => ?_, fun hle => ?_⟩
  · refine ⟨fun hσ tape => generate?_eq_unlimited hσ hle tape, fun hσ tape => ?_⟩
    obtain ⟨t, tape', h⟩ := exists_generate? hσ ⟨target, none⟩ tape
    exact ⟨t, tape', (generate?_eq_unlimited hσ.staysInRange hle tape).trans h, h⟩
  · obtain ⟨es, es', t, t', ht, ht', hin, hlt, -⟩ := apart_of_le d 0 target hle
    rw [Nat.zero_add] at ht
    have hscript : drawnValues (es ++ es') = drawnValues es ++ drawnValues es' :=
      drawnValues_append es es'
    obtain ⟨tape, h⟩ := exists_generate?_of_completes ⟨target, some d⟩ ht
      (inRange_append.mp hin).1 (drawnValues es')
    obtain ⟨tape', h'⟩ := exists_generate?_of_completes ⟨target, none⟩ ht' hin []
    rw [List.append_nil, hscript] at h'
    refine ⟨_, t, t', tape, tape', h, h', fun htext => ?_⟩
    have hlen := congrArg String.length htext
    rw [Term.length_text, Term.length_text] at hlen
    exact absurd hlen (Nat.ne_of_lt hlt)

/-- The greatest target at which a limit of three levels does not show, and the least at which it
does. -/
theorem Generator.generate?_limited_congruential :
    let tape : Tape Congruential := Tape.blank ⟨7⟩
    5 ≤ 3 + 2 ∧ StaysInRange Congruential
      ∧ Generator.generate? ⟨5, some 3⟩ tape = Generator.generate? ⟨5, none⟩ tape
      ∧ AnswersInRange Congruential
      ∧ (∃ t tape', Generator.generate? ⟨5, some 3⟩ tape = some (.ok t, tape')
        ∧ Generator.generate? ⟨5, none⟩ tape = some (.ok t, tape'))
      ∧ 3 + 3 ≤ 6
      ∧ ∃ values t t' tape tape',
        Generator.generate? ⟨6, some 3⟩ (Tape.blank (⟨values⟩ : Script)) = some (.ok t, tape)
          ∧ Generator.generate? ⟨6, none⟩ (Tape.blank (⟨values⟩ : Script)) = some (.ok t', tape')
          ∧ t.text ≠ t'.text := by
  intro tape
  have hle : 5 ≤ 3 + 2 := by decide
  have hσ := Congruential.answersInRange
  obtain ⟨hsame, hterm⟩ := (generate?_limited 5 3).1 hle
  exact ⟨hle, hσ.staysInRange, hsame hσ.staysInRange tape, hσ, hterm hσ tape, by decide,
    (generate?_limited 6 3).2 (by decide)⟩

end RandomTerms
