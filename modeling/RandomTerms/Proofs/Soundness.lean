/-
# What every finished term is like

Whatever the source answers, a finished term belongs to the language, is as long as its target and
closes the parentheses that it opens.  Numbers outside their ranges cannot spoil this: a number
that counts no entry of the pool finishes no term, and any other number only picks, chooses or sets
a target.  A limit on the depth cannot either, as it never keeps the top level from growing.
-/
import RandomTerms.Proofs.Balance
import RandomTerms.Proofs.Derivation

namespace RandomTerms

open Growth

/-! ## The characters of a term -/

theorem Atom.IsAtomChar.isTermChar {c : Char} (h : Atom.IsAtomChar c) :
    Term.isTermChar c = true := by
  rcases h with h | h <;> simp [Term.isTermChar, h]

theorem Op.isTermChar (op : Op) : Term.isTermChar op.char = true := by
  cases op <;> rfl

theorem Term.isTermChar_of_mem {t : Term} (h : t.IsBasic) : ∀ c ∈ t.chars, isTermChar c = true := by
  induction t with
  | atom a =>
      rw [chars_atom]
      exact fun c hc => (Atom.IsBasic.isAtomChar h c hc).isTermChar
  | group t ih =>
      intro c hc
      simp only [chars_group, List.mem_cons, List.mem_append, List.not_mem_nil, or_false] at hc
      rcases hc with rfl | hc | rfl
      · rfl
      · exact ih h c hc
      · rfl
  | join l op r ihl ihr =>
      intro c hc
      simp only [chars_join, List.mem_append, List.mem_cons] at hc
      rcases hc with hc | rfl | hc
      · exact ihl h.1 c hc
      · exact op.isTermChar
      · exact ihr h.2 c hc

theorem Term.length_text (t : Term) : t.text.length = t.length := by
  rw [text, String.length_ofList, length_chars]

/-! ## Terms out of a source -/

/-- All atoms come from the pool. -/
theorem Reaches.isBasic {maxDepth : Option Nat} {depth target : Nat} {es : List Entry} {t : Term} :
    Reaches maxDepth depth target es t → t.IsBasic := by
  intro h
  induction h with
  | atom ha => exact Pool.isBasic_of_entry? ha
  | group _ _ _ ih => exact ih
  | join _ _ _ _ _ ihl ihr => exact ⟨ihl, ihr⟩

theorem Growth.isCapped_zero (maxDepth : Option Nat) : isCapped maxDepth 0 = false := by
  cases maxDepth <;> rfl

/-- The top level may always grow. -/
theorem Completes.target_le {maxDepth : Option Nat} {target : Nat} {es : List Entry} {t : Term}
    (h : Completes maxDepth 0 target es t) : target ≤ t.length :=
  h.2.resolve_left (by simp [isCapped_zero])

/-- A term that a source has led to the end is a term of the language, it is written with the
characters of terms and not empty, it is as long as its target, and it is balanced. -/
theorem Generator.finished_sound {σ : Type} [DrawSource σ] {gen : Generator}
    {tape tape' : Tape σ} {t : Term} :
    gen.generate? tape = some (.ok t, tape') →
      (∃ e : Chain, e.IsReading t.text)
        ∧ (t.text ≠ "" ∧ ∀ c ∈ t.text.toList, Term.isTermChar c = true)
        ∧ max gen.target 1 ≤ t.text.length
        ∧ isBalanced t.text = true := by
  intro h
  obtain ⟨es, s, hc, -, -⟩ := generate?_eq_ok_iff.mp h
  have hbasic := hc.1.isBasic
  have hlen : max gen.target 1 ≤ t.text.length := by
    rw [t.length_text]
    exact Nat.max_le.mpr ⟨hc.target_le, t.length_pos⟩
  have hchars := Term.text_eq_iff.mp (rfl : t.text = t.text)
  refine ⟨⟨_, Term.isReading hbasic hchars⟩, ⟨?_, ?_⟩, hlen, t.isBalanced_text hbasic⟩
  · intro hempty
    rw [hempty] at hlen
    exact absurd (Nat.le_trans (Nat.le_max_right _ _) hlen) (by decide)
  · rw [← hchars]
    exact Term.isTermChar_of_mem hbasic

/-- The move and the target of the sub-term are drawn outside their ranges. -/
theorem Generator.finished_sound_unchecked :
    let t : Term := .join (.atom (.letter 'a')) .times (.atom (.letter 'e'))
    let tape : Tape Unchecked := Tape.blank ⟨[0, 200, 0, 30]⟩
    (∃ tape', Generator.generate? ⟨2, some 0⟩ tape = some (.ok t, tape'))
      ∧ (∃ e : Chain, e.IsReading t.text)
      ∧ (t.text ≠ "" ∧ ∀ c ∈ t.text.toList, Term.isTermChar c = true)
      ∧ max 2 1 ≤ t.text.length ∧ isBalanced t.text = true := by
  intro t tape
  let es : List Entry := [.picked 0, .chosen 200, .measured 1 0, .event (.expanding 0 0 .times),
    .picked 30]
  have hleft : Reaches (some 0) 0 2 [.picked 0] (.atom (.letter 'a')) := .atom rfl
  have hright : Reaches (some 0) 1 0 [.picked 30] (.atom (.letter 'e')) := .atom rfl
  have hopen : ¬ Settled (some 0) 0 2 (.atom (.letter 'a')) :=
    not_settled_iff.mpr ⟨rfl, Nat.one_lt_two⟩
  have hmove : Move.ofDraw 200 = .append .times := rfl
  have hwhole : Reaches (some 0) 0 2 es t := hleft.join hopen hmove hright (.inl rfl)
  have hanswers : Answers es tape.source ⟨[]⟩ := ⟨_, rfl, _, rfl, _, rfl, _, rfl, rfl⟩
  have h : Generator.generate? ⟨2, some 0⟩ tape = some (.ok t, tape.extend es ⟨[]⟩) :=
    generate?_eq_ok_iff.mpr ⟨es, _, ⟨hwhole, .inr (by decide)⟩, hanswers, rfl⟩
  exact ⟨⟨_, h⟩, finished_sound h⟩

end RandomTerms
