/-
# What a greater target adds

A target says when growth is to end and how long a sub-term may be asked to get, and nothing else.
So where two generators with different targets are given the same numbers, the one with the smaller
target makes a draft of the other and stops there:

    target   a+b
    target'  a+b   (a+b)   (a+b)*c

Every derivation toward the smaller target is one toward the greater target, with wider ranges for
the targets of its sub-terms and the same numbers (`Reaches.raise`).  From there on the draft only
grows: it is wrapped or something is appended to it (`Term.Begins`), whatever happens inside of the
sub-terms that are appended.  One answer keeps this up (`Growth.Continues.answer`), and so does a
whole path.
-/
import RandomTerms.Proofs.Image

namespace RandomTerms

open Growth

/-! ## Terms that have grown on -/

/-- The term `u` is `t`, or has grown out of it by wrapping and appending. -/
inductive Term.Begins (t : Term) : Term → Prop
  | refl : Begins t t
  | group {u : Term} : Begins t u → Begins t u.group
  | join {u r : Term} {op : Op} : Begins t u → Begins t (u.join op r)

/-- Wrapping puts parentheses in front, and all else stands behind. -/
theorem Term.Begins.exists_chars {t u : Term} :
    t.Begins u → ∃ k rest, u.chars = List.replicate k '(' ++ t.chars ++ rest := by
  intro h
  induction h with
  | refl => exact ⟨0, [], (List.append_nil _).symm⟩
  | group _ ih =>
      obtain ⟨k, rest, hu⟩ := ih
      refine ⟨k + 1, rest ++ [')'], ?_⟩
      rw [chars_group, hu, List.replicate_succ]
      simp only [List.cons_append, List.append_assoc]
  | @join u r op _ ih =>
      obtain ⟨k, rest, hu⟩ := ih
      refine ⟨k, rest ++ op.char :: r.chars, ?_⟩
      rw [chars_join, hu, List.append_assoc]

/-! ## Toward a greater target -/

theorem not_settled_raise {maxDepth : Option Nat} {depth target target' : Nat} {t : Term}
    (hle : target ≤ target') : ¬ Settled maxDepth depth target t →
      ¬ Settled maxDepth depth target' t := by
  intro h
  obtain ⟨hopen, hlt⟩ := not_settled_iff.mp h
  exact not_settled_iff.mpr ⟨hopen, Nat.lt_of_lt_of_le hlt hle⟩

/-- What a term has become toward a target, it becomes by the same numbers toward a greater one. -/
theorem Reaches.raise {maxDepth : Option Nat} {depth target target' : Nat} {es : List Entry}
    {t : Term} (hle : target ≤ target') : Reaches maxDepth depth target es t → InRange es →
      ∃ es', Reaches maxDepth depth target' es' t ∧ InRange es'
        ∧ drawnValues es' = drawnValues es := by
  intro h
  induction h with
  | @atom depth target v a ha => exact fun hin => ⟨[.picked v], .atom ha, hin, rfl⟩
  | @group depth target v es t _ hs hv ih =>
      intro hin
      obtain ⟨hes, hchosen⟩ := inRange_append.mp hin
      obtain ⟨es', hr, hin', hvalues⟩ := ih hle hes
      refine ⟨es' ++ [.chosen v], hr.group (not_settled_raise hle hs) hv,
        inRange_append.mpr ⟨hin', hchosen⟩, ?_⟩
      rw [drawnValues_append, drawnValues_append, hvalues]
  | @join depth target v s op es es₂ l r _ hs hv hr hrs ihl _ =>
      intro hin
      obtain ⟨hes, hrest⟩ := inRange_append.mp hin
      obtain ⟨hchosen, hrest⟩ := inRange_drawn_cons.mp hrest
      obtain ⟨⟨hpos, hgap⟩, hsub⟩ := inRange_drawn_cons.mp hrest
      obtain ⟨es', hl, hin', hvalues⟩ := ihl hle hes
      -- The sub-term is the same, and only the range of its target is wider.
      have hmeasured : s ∈ (⟨1, target' - l.length⟩ : Range) :=
        ⟨hpos, Nat.le_trans hgap (Nat.sub_le_sub_right hle _)⟩
      refine ⟨_, hl.join (not_settled_raise hle hs) hv hr hrs, inRange_append.mpr ⟨hin',
        inRange_drawn_cons.mpr ⟨hchosen, inRange_drawn_cons.mpr ⟨hmeasured, hsub⟩⟩⟩, ?_⟩
      rw [drawnValues_append, drawnValues_append, hvalues]
      rfl

/-! ## From a draft on -/

/-- Where drafts wait for a term, the outermost of them has grown out of `t`; where none waits, the
term itself has. -/
def Carries (t : Term) : Term → List Waiting → Prop
  | u, [] => t.Begins u
  | _, w :: outer => Carries t w.draft.term outer

theorem Carries.group {t u : Term} {outer : List Waiting} (h : Carries t u outer) :
    Carries t u.group outer := by
  cases outer with
  | nil => exact Term.Begins.group h
  | cons w outer => exact h

theorem Carries.join {t u r : Term} {op : Op} {outer : List Waiting} (h : Carries t u outer) :
    Carries t (u.join op r) outer := by
  cases outer with
  | nil => exact Term.Begins.join h
  | cons w outer => exact h

/-- The outermost draft in this state of growth has grown out of `t`. -/
inductive Growth.Continues (t : Term) : Growth → Prop
  | picking {target : Nat} {w : Waiting} {outer : List Waiting} :
      Carries t w.draft.term outer → Continues t (.picking target (w :: outer))
  | choosing {draft : Draft} {outer : List Waiting} :
      Carries t draft.term outer → Continues t (.choosing draft outer)
  | measuring {draft : Draft} {op : Op} {outer : List Waiting} :
      Carries t draft.term outer → Continues t (.measuring draft op outer)

/-- The same of where an answer leads. -/
def Progress.Continues (t : Term) : Progress → Prop
  | .growing g => g.Continues t
  | .finished u => t.Begins u
  | .noEntry _ => True

theorem Carries.complete {t : Term} {outer : List Waiting} {m : Measured} :
    Carries t m.term outer → (complete m outer).Continues t := by
  intro h
  induction outer generalizing m with
  | nil => exact h
  | cons w outer ih =>
      have hwaiting : Carries t w.draft.term outer := h
      have hjoin : Carries t (w.draft.join w.op m).term outer := hwaiting.join
      simp only [Growth.complete]
      split
      · exact Growth.Continues.choosing hjoin
      · exact ih hjoin

theorem Carries.settle {t : Term} {outer : List Waiting} {m : Measured} {target : Nat} :
    Carries t m.term outer → (settle m target outer).Continues t := by
  intro h
  unfold Growth.settle
  split
  · exact Growth.Continues.choosing h
  · exact h.complete

/-- Whatever is answered, the outermost draft only grows. -/
theorem Growth.Continues.answer {maxDepth : Option Nat} {t : Term} {g : Growth} :
    g.Continues t → ∀ v : Nat, (g.answer maxDepth v).Continues t := by
  intro h v
  cases h with
  | @picking target w outer hw =>
      simp only [Growth.answer]
      cases Pool.entry? v with
      | none => exact trivial
      | some a =>
          have ha : Carries t (Measured.atom a).term (w :: outer) := hw
          dsimp only
          split
          · exact ha.complete
          · exact ha.settle
  | @choosing draft outer hd =>
      simp only [Growth.answer]
      cases Move.ofDraw v with
      | wrap =>
          have hgroup : Carries t draft.group.term outer := hd.group
          exact hgroup.settle
      | append op => exact Growth.Continues.measuring hd
  | measuring hd => exact Growth.Continues.picking hd

theorem Growth.Continues.leads {maxDepth : Option Nat} {t : Term} {g : Growth} {es : List Entry}
    {p : Progress} : g.Continues t → Leads maxDepth g es p → p.Continues t := by
  intro hg h
  induction h with
  | last => exact hg.answer _
  | @step g g' v es p hstep _ ih =>
      have hnext : (g.answer maxDepth v).Continues t := hg.answer v
      rw [hstep] at hnext
      exact ih hnext

/-- A run that has come to a draft of the top level finishes a term that has grown out of the
draft. -/
theorem Reaches.begins_of_generate? {σ : Type} [DrawSource σ] {maxDepth : Option Nat}
    {target : Nat} {es : List Entry} {t t' : Term} {tape tape' : Tape σ} {s : σ} :
    Reaches maxDepth 0 target es t → Answers es tape.source s →
      Generator.generate? ⟨target, maxDepth⟩ tape = some (.ok t', tape') →
      t.Begins t' ∧ ∃ es', Answers es' s tape'.source ∧ tape' = tape.extend (es ++ es')
        tape'.source := by
  intro hr ha hrun
  have hdraft : (arrive maxDepth t.measured target []).run? maxDepth (tape.extend es s)
      = some (.ok t', tape') := by
    rw [← (hr.leads [] rfl).run?_eq ha]
    exact hrun
  by_cases hs : Settled maxDepth 0 target t
  · rw [arrive_of_settled hs] at hdraft
    cases hdraft
    exact ⟨.refl, [], rfl, by rw [List.append_nil]; rfl⟩
  · rw [arrive_of_not_settled hs] at hdraft
    obtain ⟨es', s', hl, ha', rfl⟩ := exists_leads_of_run? hdraft
    have hstart : (choosing ⟨t.measured, target, (not_settled_iff.mp hs).2⟩ []).Continues t :=
      .choosing Term.Begins.refl
    exact ⟨hstart.leads hl, es', ha', Tape.extend_extend ..⟩

/-! ## Two targets and one script -/

/-- Where two generators make terms out of the same script, the one with the smaller target draws
the first of the numbers that the other draws, so it leaves all that the other leaves; and its term
stands in the other's text with nothing but opening parentheses in front. -/
theorem Generator.generate?_raised {maxDepth : Option Nat} {target target' : Nat}
    {values : List Nat} {t t' : Term} {tape tape' : Tape Script} (hle : target ≤ target')
    (h : Generator.generate? ⟨target, maxDepth⟩ (Tape.blank ⟨values⟩) = some (.ok t, tape))
    (h' : Generator.generate? ⟨target', maxDepth⟩ (Tape.blank ⟨values⟩) = some (.ok t', tape')) :
    drawnValues tape.entries <+: drawnValues tape'.entries
      ∧ tape'.source.values <:+ tape.source.values
      ∧ ∃ (k : Nat) (rest : String),
          t'.text = String.ofList (List.replicate k '(') ++ t.text ++ rest := by
  obtain ⟨es, s, ⟨hr, -⟩, ha, rfl⟩ := generate?_eq_ok_iff.mp h
  obtain ⟨-, hin, hvalues⟩ := answers_script_iff.mp ha
  obtain ⟨es', hr', hin', hsame⟩ := hr.raise hle hin
  have ha' : Answers es' (⟨values⟩ : Script) s :=
    answers_script_iff.mpr ⟨hr'.not_refused, hin', hsame ▸ hvalues⟩
  obtain ⟨hbegins, more, hmore, htape⟩ := hr'.begins_of_generate? ha' h'
  refine ⟨?_, ?_, ?_⟩
  · rw [htape, Tape.entries_extend, Tape.entries_extend, drawnValues_append, drawnValues_append,
      drawnValues_append, hsame]
    exact ⟨drawnValues more, List.append_assoc ..⟩
  · exact ⟨drawnValues more, (answers_script_iff.mp hmore).2.2.symm⟩
  · obtain ⟨k, rest, hchars⟩ := hbegins.exists_chars
    refine ⟨k, String.ofList rest, ?_⟩
    rw [Term.text, Term.text, hchars, String.ofList_append, String.ofList_append]

/-- With the target 3, the target of the sub-term is drawn from 1 to 2, and with the target 5 from 1
to 4. -/
theorem Generator.generate?_raised_wrapped :
    let values := [0, 25, 1, 1, 24, 7]
    let t : Term := .join (.atom (.letter 'a')) .plus (.atom (.letter 'b'))
    3 ≤ 5 ∧ ∃ tape tape',
      Generator.generate? ⟨3, none⟩ (Tape.blank (⟨values⟩ : Script)) = some (.ok t, tape)
        ∧ Generator.generate? ⟨5, none⟩ (Tape.blank (⟨values⟩ : Script))
          = some (.ok t.group, tape')
        ∧ drawnValues tape.entries <+: drawnValues tape'.entries
        ∧ tape'.source.values <:+ tape.source.values
        ∧ ∃ (k : Nat) (rest : String),
            t.group.text = String.ofList (List.replicate k '(') ++ t.text ++ rest := by
  intro values t
  let es (target : Nat) : List Entry :=
    [.picked 0] ++ .chosen 25 :: .measured (target - 1) 1 :: .event (.expanding 0 1 .plus)
      :: [.picked 1]
  have hpick (v : Nat) (hv : v < 205) : InRange [.picked v] := inRange_picked (Pool.size_eq ▸ hv)
  have hplus : Move.ofDraw 25 = .append .plus := rfl
  have hwrap : Move.ofDraw 24 = .wrap := rfl
  have hjoin (target : Nat) (hlt : 1 < target) :
      Reaches none 0 target (es target) t ∧ InRange (es target) := by
    have hopen : ¬ Settled none 0 target (.atom (.letter 'a')) := not_settled_iff.mpr ⟨rfl, hlt⟩
    have hgap : 1 ∈ (⟨1, target - 1⟩ : Range) := ⟨Nat.le_refl 1, Nat.le_sub_one_of_lt hlt⟩
    exact ⟨Reaches.join (.atom rfl) hopen hplus (.atom rfl) (.inr (Nat.le_refl 1)),
      inRange_append.mpr ⟨hpick 0 (by decide), inRange_chosen (by decide) <|
        inRange_drawn_cons.mpr ⟨hgap, inRange_event_cons.mpr (hpick 1 (by decide))⟩⟩⟩
  obtain ⟨hr, hin⟩ := hjoin 3 (by decide)
  obtain ⟨hr', hin'⟩ := hjoin 5 (by decide)
  have hgroup := hr'.group (not_settled_iff.mpr ⟨rfl, by decide⟩) hwrap
  obtain ⟨tape, h⟩ := exists_generate?_of_completes ⟨3, none⟩ ⟨hr, .inr (by decide)⟩ hin [24, 7]
  obtain ⟨tape', h'⟩ := exists_generate?_of_completes ⟨5, none⟩ ⟨hgroup, .inr (by decide)⟩
    (inRange_append.mpr ⟨hin', inRange_chosen (by decide) inRange_nil⟩) [7]
  exact ⟨by decide, tape, tape', h, h', generate?_raised (by decide) h h'⟩

end RandomTerms
