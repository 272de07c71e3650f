/-
# Reading a term as a chain

A term that has grown has a reading: the chain with the same text.  Where a sub-term has been
appended, its chain goes on with that of the term it was appended to, at the same level, although
the sub-term grew one level deeper.  What the numbers of a chain do when two chains are put one
behind the other is the content of this file.
-/
import RandomTerms.Proofs.Grammar

namespace RandomTerms

/-! ## One chain behind another -/

/-- The chain `d`, an operator, and the chain `e`. -/
def Chain.append : Chain → Op → Chain → Chain
  | .one f, op, e => .more f op e
  | .more f o d, op, e => .more f o (d.append op e)

namespace Chain

theorem chars_append : ∀ (d : Chain) (op : Op) (e : Chain),
    (d.append op e).chars = d.chars ++ op.char :: e.chars
  | .one _, _, _ => by simp only [append, chars]
  | .more _ _ d, op, e => by simp [append, chars, d.chars_append op e]

theorem leastTarget_append_le : ∀ (d : Chain) (op : Op) (e : Chain),
    (d.append op e).leastTarget ≤ d.length + e.leastTarget
  | .one _, _, _ => Nat.le_refl _
  | .more f o d, op, e => by
      have ih := d.leastTarget_append_le op e
      simp only [append, leastTarget, length, Factor.length, chars, List.length_append,
        List.length_cons] at ih ⊢
      omega

theorem levelBelow_append : ∀ (d : Chain) (op : Op) (e : Chain),
    (d.append op e).levelBelow = max d.levelBelow e.levelBelow
  | .one _, _, _ => by simp only [append, levelBelow]
  | .more _ _ d, op, e => by simp only [append, levelBelow, d.levelBelow_append op e, Nat.max_assoc]

theorem level_append : ∀ (d : Chain) (op : Op) (e : Chain),
    (d.append op e).level = max (max 1 d.level) e.levelBelow
  | .one _, _, _ => by simp only [append, level]
  | .more _ _ d, op, e => by
      simp only [append, level, d.levelBelow_append op e]
      omega

/-- A chain one level deeper takes one level more at most. -/
theorem levelBelow_le : ∀ e : Chain, e.levelBelow ≤ e.level + 1
  | .one _ => by simp only [levelBelow, level]; omega
  | .more _ _ _ => by simp only [levelBelow, level]; omega

end Chain

/-! ## The least target and the length -/

theorem Factor.leastTarget_pos : ∀ f : Factor, 0 < f.leastTarget
  | .atom _ => Nat.one_pos
  | .group _ => Nat.succ_pos _

theorem Chain.leastTarget_pos : ∀ e : Chain, 0 < e.leastTarget
  | .one f => f.leastTarget_pos
  | .more _ _ rest => Nat.lt_of_lt_of_le rest.leastTarget_pos (Nat.le_add_left _ _)

theorem Factor.leastTarget_le_length : ∀ f : Factor, f.leastTarget ≤ f.length
  | .atom a => List.length_pos_iff.mpr a.1.chars_ne_nil
  | .group e => by
      simp only [leastTarget, length, chars, Chain.length, List.length_cons, List.length_append]
      omega

theorem Chain.leastTarget_le_length : ∀ e : Chain, e.leastTarget ≤ e.length
  | .one f => f.leastTarget_le_length
  | .more f op rest => by
      have ih := rest.leastTarget_le_length
      simp only [leastTarget, length, Factor.length, chars, List.length_append,
        List.length_cons] at ih ⊢
      omega

/-! ## The reading of a term -/

namespace Term

def IsBasic : Term → Prop
  | atom a => a.IsBasic
  | group t => t.IsBasic
  | join l _ r => l.IsBasic ∧ r.IsBasic

/-- The chain with the text of the term. -/
def reading : (t : Term) → t.IsBasic → Chain
  | atom a, h => .one (.atom ⟨a, h⟩)
  | group t, h => .one (.group (t.reading h))
  | join l op r, h => (l.reading h.1).append op (r.reading h.2)

@[simp] theorem chars_reading (t : Term) (h : t.IsBasic) : (t.reading h).chars = t.chars := by
  induction t with
  | atom a => simp only [reading, Chain.chars, Factor.chars, chars_atom]
  | group t ih => simp only [reading, Chain.chars, Factor.chars, chars_group, ih h]
  | join l op r ihl ihr => simp only [reading, Chain.chars_append, chars_join, ihl h.1, ihr h.2]

@[simp] theorem length_reading (t : Term) (h : t.IsBasic) : (t.reading h).length = t.length := by
  rw [Chain.length, chars_reading, length_chars]

end Term

/-! ## The reading of a text -/

theorem Term.text_eq_iff {t : Term} {s : String} : t.text = s ↔ t.chars = s.toList := by
  rw [text, ← String.toList_inj, String.toList_ofList]

theorem Chain.text_eq_iff {e : Chain} {s : String} : e.text = s ↔ e.chars = s.toList := by
  rw [text, ← String.toList_inj, String.toList_ofList]

/-- The one chain with this text. -/
def Chain.IsReading (e : Chain) (s : String) : Prop := e.text = s ∧ ∀ d : Chain, d.text = s → d = e

theorem Chain.isReading_iff {e : Chain} {s : String} : e.IsReading s ↔ e.chars = s.toList := by
  rw [← text_eq_iff]
  exact ⟨And.left, fun h => ⟨h, fun _ hd => text_injective (hd.trans h.symm)⟩⟩

theorem Term.isReading {t : Term} (h : t.IsBasic) {s : String} (hs : t.chars = s.toList) :
    (t.reading h).IsReading s :=
  Chain.isReading_iff.mpr ((t.chars_reading h).trans hs)

end RandomTerms
