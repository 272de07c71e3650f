/-
# The scan for balance, character by character

The scan runs over bytes, but only a parenthesis has the byte of a parenthesis: a character of more
than one byte has none below 128.  So the scan counts the parentheses of the text and skips every
other character, and a term, which closes what it opens, is skipped as a whole.
-/
import RandomTerms.Proofs.Reading
import RandomTerms.Term.Balance

namespace RandomTerms

open Text

/-! ## The bytes of a character -/

theorem utf8EncodeChar_of_le {c : Char} (h : c.toNat ≤ 0x7f) :
    String.utf8EncodeChar c = [UInt8.ofNat c.toNat] :=
  if_pos h

/-- A character beyond ASCII has no byte below 128. -/
theorem le_of_mem_utf8EncodeChar {c : Char} (h : 0x7f < c.toNat) :
    ∀ b ∈ String.utf8EncodeChar c, 0x80 ≤ b.toNat := by
  have hbyte (n k : Nat) (hn : n < 0x40) (hk : 0x80 ≤ k) (hsum : n + k < 0x100) :
      0x80 ≤ (UInt8.ofNat (n + k)).toNat := by
    rw [UInt8.toNat_ofNat']
    omega
  have hbeyond : ¬ c.val.toNat ≤ 0x7f := Nat.not_le_of_lt h
  intro b hb
  rw [String.utf8EncodeChar, if_neg hbeyond] at hb
  split at hb
  · simp only [List.mem_cons, List.not_mem_nil, or_false] at hb
    rcases hb with rfl | rfl <;> exact hbyte _ _ (by omega) (by omega) (by omega)
  · split at hb
    · simp only [List.mem_cons, List.not_mem_nil, or_false] at hb
      rcases hb with rfl | rfl | rfl <;> exact hbyte _ _ (by omega) (by omega) (by omega)
    · simp only [List.mem_cons, List.not_mem_nil, or_false] at hb
      rcases hb with rfl | rfl | rfl | rfl <;> exact hbyte _ _ (by omega) (by omega) (by omega)

/-- Only a parenthesis has the byte of a parenthesis. -/
theorem ne_paren_of_mem_utf8EncodeChar {c : Char} (ho : c ≠ '(') (hc : c ≠ ')') :
    ∀ b ∈ String.utf8EncodeChar c, b ≠ 0x28 ∧ b ≠ 0x29 := by
  intro b hb
  by_cases h : c.toNat ≤ 0x7f
  · have hno : c.toNat ≠ 0x28 := fun h => ho (Char.toNat_inj.mp h)
    have hnc : c.toNat ≠ 0x29 := fun h => hc (Char.toNat_inj.mp h)
    rw [utf8EncodeChar_of_le h, List.mem_singleton] at hb
    have hval : b.toNat = c.toNat := by
      rw [hb, UInt8.toNat_ofNat']
      omega
    exact ⟨fun hb => hno (hval ▸ hb ▸ rfl), fun hb => hnc (hval ▸ hb ▸ rfl)⟩
  · have hle := le_of_mem_utf8EncodeChar (Nat.lt_of_not_le h) b hb
    constructor
    · rintro rfl
      exact absurd hle (by decide)
    · rintro rfl
      exact absurd hle (by decide)

/-! ## The scan -/

theorem balancedFrom_append_of_ne_paren (depth : Nat) {bytes : List UInt8} (rest : List UInt8)
    (h : ∀ b ∈ bytes, b ≠ 0x28 ∧ b ≠ 0x29) :
    balancedFrom depth (bytes ++ rest) = balancedFrom depth rest := by
  induction bytes with
  | nil => rfl
  | cons b bytes ih =>
      obtain ⟨⟨ho, hc⟩, htail⟩ := List.forall_mem_cons.mp h
      rw [List.cons_append, balancedFrom.eq_def]
      simp only [if_neg ho, if_neg hc]
      exact ih htail

@[simp] theorem balancedFrom_open (depth : Nat) (s : List Char) :
    balancedFrom depth (utf8 ('(' :: s)) = balancedFrom (depth + 1) (utf8 s) := rfl

@[simp] theorem balancedFrom_close (depth : Nat) (s : List Char) :
    balancedFrom (depth + 1) (utf8 (')' :: s)) = balancedFrom depth (utf8 s) := rfl

/-- Any other character is skipped. -/
theorem balancedFrom_cons (depth : Nat) {c : Char} (s : List Char) (ho : c ≠ '(') (hc : c ≠ ')') :
    balancedFrom depth (utf8 (c :: s)) = balancedFrom depth (utf8 s) :=
  balancedFrom_append_of_ne_paren depth (utf8 s) (ne_paren_of_mem_utf8EncodeChar ho hc)

theorem balancedFrom_append (depth : Nat) {s : List Char} (rest : List Char)
    (h : ∀ c ∈ s, c ≠ '(' ∧ c ≠ ')') :
    balancedFrom depth (utf8 (s ++ rest)) = balancedFrom depth (utf8 rest) := by
  induction s with
  | nil => rfl
  | cons c s ih =>
      obtain ⟨⟨ho, hc⟩, htail⟩ := List.forall_mem_cons.mp h
      rw [List.cons_append, balancedFrom_cons depth _ ho hc]
      exact ih htail

/-! ## The scan of a term -/

theorem Atom.IsBasic.ne_paren {a : Atom} (h : a.IsBasic) : ∀ c ∈ a.chars, c ≠ '(' ∧ c ≠ ')' := by
  intro c hc
  constructor
  · rintro rfl
    rcases h.isAtomChar _ hc with h | h <;> exact absurd h (by decide)
  · rintro rfl
    rcases h.isAtomChar _ hc with h | h <;> exact absurd h (by decide)

theorem Op.ne_paren (op : Op) : op.char ≠ '(' ∧ op.char ≠ ')' := by
  cases op <;> decide

/-- A term leaves as many parentheses open as there were. -/
theorem Term.balancedFrom_chars {t : Term} (h : t.IsBasic) (depth : Nat) (rest : List Char) :
    balancedFrom depth (utf8 (t.chars ++ rest)) = balancedFrom depth (utf8 rest) := by
  induction t generalizing depth rest with
  | atom a =>
      rw [chars_atom]
      exact balancedFrom_append depth rest (Atom.IsBasic.ne_paren h)
  | group t ih =>
      simp only [chars_group, List.cons_append, List.append_assoc, List.nil_append]
      rw [balancedFrom_open, ih h, balancedFrom_close]
  | join l op r ihl ihr =>
      simp only [chars_join, List.append_assoc, List.cons_append]
      rw [ihl h.1, balancedFrom_cons depth _ op.ne_paren.1 op.ne_paren.2, ihr h.2]

theorem Term.isBalanced_text {t : Term} (h : t.IsBasic) : isBalanced t.text = true := by
  have hscan := t.balancedFrom_chars h 0 []
  rw [List.append_nil] at hscan
  rw [isBalanced, text, String.toList_ofList, hscan]
  rfl

end RandomTerms
