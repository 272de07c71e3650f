/-
# What a term costs

A finished term tells how many numbers were drawn for it: one for each atom, one for each pair of
parentheses, and two for each operator, as the operator is chosen and the sub-term behind it gets a
target.  There is one atom more than there are operators, so the cost can be counted in the text:

    1 + (opening parentheses) + 3 * (operators)

Nothing else about the run matters.  A sub-term that is cut at the limit on the depth costs its one
atom, and a number outside its range costs as much as any other.
-/
import RandomTerms.Proofs.Soundness

namespace RandomTerms

/-! ## The cost of a term -/

/-- How many numbers are drawn for a term. -/
def Term.cost : Term → Nat
  | atom _ => 1
  | group t => t.cost + 1
  | join l _ r => l.cost + 2 + r.cost

/-- What is drawn is the cost of the term, whatever the depth, the target and the numbers are. -/
theorem Reaches.length_drawnValues {maxDepth : Option Nat} {depth target : Nat} {es : List Entry}
    {t : Term} :
    Reaches maxDepth depth target es t → (drawnValues es).length = t.cost := by
  intro h
  induction h with
  | atom _ => rfl
  | group _ _ _ ih =>
      rw [drawnValues_append, List.length_append, ih]
      rfl
  | @join _ _ _ _ _ _ es' l r _ _ _ _ _ ihl ihr =>
      rw [drawnValues_append, List.length_append, ihl]
      show l.cost + ((drawnValues es').length + 2) = l.cost + 2 + r.cost
      rw [ihr]
      omega

/-! ## The cost of a text -/

/-- A plus, a minus or a times sign. -/
def isOperator (c : Char) : Bool := c == '+' || c == '-' || c == '*'

theorem Op.isOperator_char (op : Op) : isOperator op.char = true := by
  cases op <;> rfl

theorem Atom.IsAtomChar.isOperator_eq_false {c : Char} (h : IsAtomChar c) :
    isOperator c = false := by
  cases ho : isOperator c with
  | false => rfl
  | true =>
      simp only [isOperator, Bool.or_eq_true, beq_iff_eq] at ho
      rcases ho with (rfl | rfl) | rfl <;> rcases h with h | h <;> exact absurd h (by decide)

theorem Atom.IsBasic.countP_isOperator {a : Atom} (h : a.IsBasic) :
    a.chars.countP isOperator = 0 :=
  List.countP_eq_zero.mpr fun c hc =>
    Bool.eq_false_iff.mp (h.isAtomChar c hc).isOperator_eq_false

theorem Atom.IsBasic.count_open {a : Atom} (h : a.IsBasic) : a.chars.count '(' = 0 :=
  List.count_eq_zero.mpr fun hc => (h.ne_paren _ hc).1 rfl

/-- The cost can be counted in the text. -/
theorem Term.cost_eq {t : Term} (h : t.IsBasic) :
    t.cost = 1 + t.chars.count '(' + 3 * t.chars.countP isOperator := by
  induction t with
  | atom a =>
      rw [chars_atom, Atom.IsBasic.count_open h, Atom.IsBasic.countP_isOperator h]
      rfl
  | group t ih =>
      have hopen : t.group.chars.count '(' = 1 + t.chars.count '(' := by
        simp [Nat.add_comm]
      have hops : t.group.chars.countP isOperator = t.chars.countP isOperator := by
        simp [isOperator]
      rw [hopen, hops, cost, ih h]
      omega
  | join l op r ihl ihr =>
      have hopen : (l.join op r).chars.count '(' = l.chars.count '(' + r.chars.count '(' := by
        simp [op.ne_paren.1]
      have hops : (l.join op r).chars.countP isOperator
          = l.chars.countP isOperator + (r.chars.countP isOperator + 1) := by
        simp [op.isOperator_char]
      rw [hopen, hops, cost, ihl h.1, ihr h.2]
      omega

/-! ## The cost of a run -/

/-- A run that finishes a term draws as many numbers as can be counted in its text, and the source
gives these and no others. -/
theorem Generator.draws_eq_cost {σ : Type} [DrawSource σ] {gen : Generator} {tape tape' : Tape σ}
    {t : Term} :
    gen.generate? tape = some (.ok t, tape') →
      ∃ es, tape'.entries = tape.entries ++ es ∧ Answers es tape.source tape'.source
        ∧ (drawnValues es).length
          = 1 + t.text.toList.count '(' + 3 * t.text.toList.countP isOperator := by
  intro h
  obtain ⟨es, s, hc, ha, rfl⟩ := generate?_eq_ok_iff.mp h
  refine ⟨es, Tape.entries_extend .., ha, ?_⟩
  rw [hc.1.length_drawnValues, Term.cost_eq hc.1.isBasic, Term.text, String.toList_ofList]

/-- Five numbers, of which a move and a target are drawn outside their ranges, and a sub-term that
is cut at the limit. -/
theorem Generator.draws_eq_cost_unchecked :
    let t : Term := .join (.group (.atom (.letter 'a'))) .times (.atom (.letter 'e'))
    let tape : Tape Unchecked := Tape.blank ⟨[0, 24, 200, 30, 30]⟩
    ∃ tape', Generator.generate? ⟨4, some 0⟩ tape = some (.ok t, tape')
      ∧ ∃ es, tape'.entries = tape.entries ++ es ∧ Answers es tape.source tape'.source
        ∧ (drawnValues es).length
          = 1 + t.text.toList.count '(' + 3 * t.text.toList.countP isOperator
        ∧ (drawnValues es).length = 5 := by
  intro t tape
  let es : List Entry := [.picked 0, .chosen 24, .chosen 200, .measured 1 30,
    .event (.expanding 0 30 .times), .picked 30]
  have hatom : Reaches (some 0) 0 4 [.picked 0] (.atom (.letter 'a')) := .atom rfl
  have hleft : Reaches (some 0) 0 4 [.picked 0, .chosen 24] (.group (.atom (.letter 'a'))) :=
    hatom.group (not_settled_iff.mpr ⟨rfl, by decide⟩) rfl
  have hright : Reaches (some 0) 1 30 [.picked 30] (.atom (.letter 'e')) := .atom rfl
  have hmove : Move.ofDraw 200 = .append .times := rfl
  have hwhole : Reaches (some 0) 0 4 es t :=
    hleft.join (not_settled_iff.mpr ⟨rfl, by decide⟩) hmove hright (.inl rfl)
  have hanswers : Answers es tape.source ⟨[]⟩ :=
    ⟨_, rfl, _, rfl, _, rfl, _, rfl, _, rfl, rfl⟩
  have h : Generator.generate? ⟨4, some 0⟩ tape = some (.ok t, tape.extend es ⟨[]⟩) :=
    generate?_eq_ok_iff.mpr ⟨es, _, ⟨hwhole, .inr (by decide)⟩, hanswers, rfl⟩
  obtain ⟨es', htape, ha, hlen⟩ := draws_eq_cost h
  have hfive : t.text.toList.count '(' = 1 ∧ t.text.toList.countP isOperator = 1 := by
    decide +kernel
  exact ⟨_, h, es', htape, ha, hlen, by omega⟩

end RandomTerms
