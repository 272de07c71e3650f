/-
# The expansions that are reported

An expansion is reported as soon as its sub-term has a target, before any of the sub-term is made;
its operator is appended afterwards, behind a term that may have been wrapped by then.  Still the
reports come in the order in which the operators stand in the text:

    (a)+(0+b)        the first plus at depth 0, and then the other one at depth 1

For what is reported before an expansion at some depth belongs to the term on its left, and what is
reported after it, up to the end of its sub-term, to the term on its right.  So the reports are a
walk through the finished term from left to right (`Term.operators`), and what is said of the
operators and of their depths is said of the walk.  Targets are not found in the term: these and
the limit on the depth are a matter of the derivation.
-/
import Mathlib.Data.List.Chain
import RandomTerms.Proofs.Cost
import RandomTerms.Proofs.Image

namespace RandomTerms

/-! ## Expansions in a record -/

/-- A term at this depth has a sub-term with this target appended to it. -/
structure Expansion where
  depth : Nat
  target : Nat
  op : Op
deriving DecidableEq, Repr

/-- The expansion that an event reports. -/
def Event.expansion? : Event → Option Expansion
  | .expanding depth target op => some ⟨depth, target, op⟩
  | .generated .. => none

/-- The expansions that are reported, in order. -/
def expansions (es : List Entry) : List Expansion := (reported es).filterMap Event.expansion?

@[simp] theorem expansions_append (es es' : List Entry) :
    expansions (es ++ es') = expansions es ++ expansions es' := by
  simp only [expansions, reported, List.filterMap_append]

@[simp] theorem expansions_picked (v : Nat) : expansions [.picked v] = [] := rfl

@[simp] theorem expansions_chosen (v : Nat) (es : List Entry) :
    expansions (.chosen v :: es) = expansions es := rfl

@[simp] theorem expansions_measured (gap v : Nat) (es : List Entry) :
    expansions (.measured gap v :: es) = expansions es := rfl

@[simp] theorem expansions_expanding (depth target : Nat) (op : Op) (es : List Entry) :
    expansions (.event (.expanding depth target op) :: es)
      = ⟨depth, target, op⟩ :: expansions es := rfl

@[simp] theorem expansions_nil : expansions [] = [] := rfl

/-! ## The operators of a term -/

/-- The operators of a term at this depth from left to right, each with the depth of the term that
it was appended to. -/
def Term.operators : Term → Nat → List (Nat × Op)
  | atom _, _ => []
  | group t, depth => t.operators depth
  | join l op r, depth => l.operators depth ++ (depth, op) :: r.operators (depth + 1)

namespace Term

/-- In the text they stand in this order. -/
theorem map_char_operators {t : Term} (h : t.IsBasic) : ∀ depth : Nat,
    (t.operators depth).map (fun p => p.2.char) = t.chars.filter isOperator := by
  induction t with
  | atom a =>
      intro depth
      have hnone := List.countP_eq_zero.mp (Atom.IsBasic.countP_isOperator h)
      rw [chars_atom, List.filter_eq_nil_iff.mpr hnone]
      rfl
  | group t ih =>
      intro depth
      rw [operators, ih h depth]
      simp [isOperator]
  | join l op r ihl ihr =>
      intro depth
      rw [operators, List.map_append, List.map_cons, ihl h.1, ihr h.2, chars_join,
        List.filter_append, List.filter_cons_of_pos op.isOperator_char]

theorem le_of_mem_operators {t : Term} : ∀ {depth : Nat}, ∀ p ∈ t.operators depth, depth ≤ p.1 := by
  induction t with
  | atom a => exact fun p hp => (List.not_mem_nil hp).elim
  | group t ih => exact ih
  | join l op r ihl ihr =>
      intro depth p hp
      rcases List.mem_append.mp hp with hp | hp
      · exact ihl p hp
      · rcases List.mem_cons.mp hp with rfl | hp
        · exact Nat.le_refl depth
        · exact Nat.le_of_succ_le (ihr p hp)

/-- The first of them belongs to the term itself. -/
theorem depth_head?_operators {t : Term} : ∀ {depth : Nat},
    ∀ p ∈ (t.operators depth).head?, p.1 = depth := by
  induction t with
  | atom a => exact fun p hp => nomatch hp
  | group t ih => exact ih
  | join l op r ihl _ =>
      intro depth p hp
      rw [operators, List.head?_append] at hp
      cases hl : (l.operators depth).head? with
      | none =>
          rw [hl] at hp
          cases hp
          rfl
      | some q =>
          rw [hl] at hp
          cases hp
          exact ihl p hl

/-- From one to the next there is no more than one level down. -/
theorem isChain_operators {t : Term} : ∀ {depth : Nat},
    (t.operators depth).IsChain fun p q => q.1 ≤ p.1 + 1 := by
  induction t with
  | atom a => exact .nil
  | group t ih => exact ih
  | join l op r ihl ihr =>
      intro depth
      -- From the left the walk comes up, from whatever depth; to the right it goes down by one level.
      refine ihl.append (ihr.cons fun q hq => ?_) fun p hp q hq => ?_
      · exact Nat.le_of_eq (depth_head?_operators q hq)
      · cases hq
        exact Nat.le_succ_of_le (le_of_mem_operators p (List.mem_of_mem_getLast? hp))

end Term

/-! ## What a derivation reports -/

/-- The reports are a walk through the term. -/
theorem Reaches.map_expansions {maxDepth : Option Nat} {depth target : Nat} {es : List Entry}
    {t : Term} : Reaches maxDepth depth target es t →
      (expansions es).map (fun x => (x.depth, x.op)) = t.operators depth := by
  intro h
  induction h with
  | atom _ => rfl
  | group _ _ _ ih => simpa [Term.operators] using ih
  | join _ _ _ _ _ ihl ihr => simp [Term.operators, ihl, ihr]

/-- A term that may grow is not below the limit. -/
theorem Reaches.depth_expansions_le {limit depth target : Nat} {es : List Entry} {t : Term} :
    Reaches (some limit) depth target es t → ∀ x ∈ expansions es, x.depth ≤ limit := by
  intro h
  induction h with
  | atom _ => exact fun x hx => (List.not_mem_nil hx).elim
  | group _ _ _ ih => simpa using ih
  | @join depth _ _ _ _ _ _ _ _ _ hopen _ _ _ ihl ihr =>
      have hle : depth ≤ limit := by
        simpa [Growth.isCapped] using (not_settled_iff.mp hopen).1
      intro x hx
      simp only [expansions_append, expansions_chosen, expansions_measured, expansions_expanding,
        List.mem_append, List.mem_cons] at hx
      rcases hx with hx | rfl | hx
      · exact ihl x hx
      · exact hle
      · exact ihr x hx

/-- Each level leaves at least one character less to aim at. -/
theorem Reaches.target_expansions_le {maxDepth : Option Nat} {depth target : Nat} {es : List Entry}
    {t : Term} : Reaches maxDepth depth target es t → InRange es →
      ∀ x ∈ expansions es, 1 ≤ x.target ∧ x.target + 1 + x.depth ≤ target + depth := by
  intro h
  induction h with
  | atom _ => exact fun _ x hx => (List.not_mem_nil hx).elim
  | group _ _ _ ih =>
      intro hin x hx
      exact ih (inRange_append.mp hin).1 x (by simpa using hx)
  | @join depth target _ s _ _ _ l _ _ _ _ _ _ ihl ihr =>
      intro hin x hx
      obtain ⟨hleft, ⟨hpos, hgap⟩, hright⟩ := inRange_joined hin
      -- The term on the left has a character, so the gap is below the target.
      have hl := l.length_pos
      simp only [expansions_append, expansions_chosen, expansions_measured, expansions_expanding,
        List.mem_append, List.mem_cons] at hx
      rcases hx with hx | rfl | hx
      · exact ihl hleft x hx
      · exact ⟨hpos, by dsimp only; omega⟩
      · obtain ⟨hone, hle⟩ := ihr hright x hx
        exact ⟨hone, by omega⟩

/-! ## What a run reports -/

/-- The expansions that are reported while a term is made have the operators of its text, in the
same order.  The first is one of the term itself, from each to the next there is no more than one
level down, and none lies deeper than the limit.  While all answers are in range, the target of a
sub-term that is appended at depth `k` is between 1 and `target - 1 - k`. -/
theorem Generator.expansions_mirror {σ : Type} [DrawSource σ] {gen : Generator} {tape tape' : Tape σ}
    {t : Term} :
    gen.generate? tape = some (.ok t, tape') →
      ∃ es, tape'.entries = tape.entries ++ es ∧ Answers es tape.source tape'.source
        ∧ (expansions es).map (fun x => x.op.char) = t.text.toList.filter isOperator
        ∧ (∀ x ∈ (expansions es).head?, x.depth = 0)
        ∧ (expansions es).IsChain (fun x y => y.depth ≤ x.depth + 1)
        ∧ (∀ limit, gen.maxDepth = some limit → ∀ x ∈ expansions es, x.depth ≤ limit)
        ∧ (InRange es → ∀ x ∈ expansions es,
            1 ≤ x.target ∧ x.target ≤ gen.target - 1 - x.depth) := by
  intro h
  obtain ⟨es, s, hc, ha, rfl⟩ := generate?_eq_ok_iff.mp h
  have hwalk := hc.1.map_expansions
  refine ⟨es, Tape.entries_extend .., ha, ?_, ?_, ?_, ?_, ?_⟩
  · rw [Term.text, String.toList_ofList, ← Term.map_char_operators hc.1.isBasic 0, ← hwalk,
      List.map_map]
    rfl
  · intro x hx
    have hhead : (x.depth, x.op) ∈ (t.operators 0).head? := by
      rw [← hwalk, List.head?_map]
      exact Option.mem_map_of_mem _ hx
    exact Term.depth_head?_operators _ hhead
  · have hchain : (t.operators 0).IsChain _ := Term.isChain_operators
    rw [← hwalk, List.isChain_map] at hchain
    exact hchain
  · intro limit hlimit
    exact (hlimit ▸ hc.1).depth_expansions_le
  · intro hin x hx
    obtain ⟨hpos, hle⟩ := hc.1.target_expansions_le hin x hx
    exact ⟨hpos, by omega⟩

/-- A sub-term that has a sub-term appended and is then wrapped, at the limit on the depth. -/
theorem Generator.expansions_mirror_nested :
    let t : Term := .join (.group (.atom (.letter 'a'))) .plus
      (.group (.join (.atom (.number 0)) .times (.atom (.letter 'b'))))
    let tape : Tape Script := Tape.blank ⟨[0, 24, 25, 4, 104, 75, 1, 1, 0]⟩
    ∃ tape', Generator.generate? ⟨7, some 1⟩ tape = some (.ok t, tape')
      ∧ expansions tape'.entries = [⟨0, 4, .plus⟩, ⟨1, 1, .times⟩]
      ∧ t.text.toList.filter isOperator = ['+', '*']
      ∧ (expansions tape'.entries).IsChain (fun x y => y.depth ≤ x.depth + 1)
      ∧ (∀ x ∈ expansions tape'.entries, x.depth ≤ 1)
      ∧ ∀ x ∈ expansions tape'.entries, 1 ≤ x.target ∧ x.target ≤ 7 - 1 - x.depth := by
  intro t tape
  let es : List Entry := [.picked 0, .chosen 24, .chosen 25, .measured 4 4,
    .event (.expanding 0 4 .plus), .picked 104, .chosen 75, .measured 3 1,
    .event (.expanding 1 1 .times), .picked 1, .chosen 0]
  have hwrap (v : Nat) (hv : v < 25) : Move.ofDraw v = .wrap := if_pos hv
  have hplus : Move.ofDraw 25 = .append .plus := rfl
  have htimes : Move.ofDraw 75 = .append .times := rfl
  have ha : Reaches (some 1) 0 7 [.picked 0] (.atom (.letter 'a')) := .atom rfl
  have hleft := ha.group (not_settled_iff.mpr ⟨rfl, by decide⟩) (hwrap 24 (by decide))
  have hzero : Reaches (some 1) 1 4 [.picked 104] (.atom (.number 0)) := .atom rfl
  have hb : Reaches (some 1) 2 1 [.picked 1] (.atom (.letter 'b')) := .atom rfl
  have hjoin := hzero.join (not_settled_iff.mpr ⟨rfl, by decide⟩) htimes hb (.inl rfl)
  have hright := hjoin.group (not_settled_iff.mpr ⟨rfl, by decide⟩) (hwrap 0 (by decide))
  have hwhole : Reaches (some 1) 0 7 es t :=
    hleft.join (not_settled_iff.mpr ⟨rfl, by decide⟩) hplus hright (.inr (by decide))
  have hpick (v : Nat) (hv : v < 205) : v ∈ (⟨0, Pool.size - 1⟩ : Range) :=
    ⟨Nat.zero_le v, Nat.le_sub_one_of_lt (Pool.size_eq ▸ hv)⟩
  have hsub : InRange [.picked 1, .chosen 0] :=
    inRange_drawn_cons.mpr ⟨hpick 1 (by decide), inRange_chosen (by decide) inRange_nil⟩
  have hin : InRange es :=
    inRange_drawn_cons.mpr ⟨hpick 0 (by decide), inRange_chosen (by decide) <|
      inRange_chosen (by decide) <| inRange_drawn_cons.mpr ⟨by decide, inRange_event_cons.mpr <|
        inRange_drawn_cons.mpr ⟨hpick 104 (by decide), inRange_chosen (by decide) <|
          inRange_drawn_cons.mpr ⟨by decide, inRange_event_cons.mpr hsub⟩⟩⟩⟩
  have hanswers : Answers es tape.source ⟨[]⟩ :=
    answers_script_iff.mpr ⟨hwhole.not_refused, hin, rfl⟩
  have h : Generator.generate? ⟨7, some 1⟩ tape = some (.ok t, tape.extend es ⟨[]⟩) :=
    generate?_eq_ok_iff.mpr ⟨es, _, ⟨hwhole, .inr (by decide)⟩, hanswers, rfl⟩
  have hall : (tape.extend es ⟨[]⟩).entries = es := Tape.entries_extend ..
  obtain ⟨es', hentries, -, hops, -, hchain, hlimit, htargets⟩ := expansions_mirror h
  obtain rfl : es = es' := hall.symm.trans hentries
  refine ⟨_, h, ?_⟩
  rw [hall]
  exact ⟨rfl, hops.symm, hchain, hlimit 1 rfl, htargets hin⟩

end RandomTerms
