/-
# A scaled word is an exact product

A draw scales a word to the size of its range and keeps the whole part.  Two words, the second below
the first, are one word of twice the bits, and scaled it has a whole part as well:

    low + (word * count + second) * size / count ^ 2

This is what is drawn (`product`).  The second word is taken only where the first leaves it open
whether something is carried over; elsewhere the whole part is the same whatever the second word
would have been.  A range of as many numbers as there are words counts as zero and answers the first
word, which is the whole part again.

So a draw answers within its range, and takes one word or two.
-/
import Mathlib.Tactic.Ring
import RandomTerms.Draw.Words

namespace RandomTerms.Scaled

/-! ## Two words as one -/

section

variable {count span word second : Nat}

/-- The whole part of two words is that of the first, and what the fractions carry over. -/
theorem mul_div_eq_whole_add (hpos : 0 < count) :
    (word * count + second) * span / count ^ 2
      = whole count span word + (fraction count span word + whole count span second) / count := by
  have hfirst : (word * count + second) * span / count
      = word * span + whole count span second := by
    have hsum : (word * count + second) * span = count * (word * span) + second * span := by ring
    rw [hsum, Nat.mul_add_div hpos]
    rfl
  have hword : word * span = count * whole count span word + fraction count span word :=
    (Nat.div_add_mod _ _).symm
  calc (word * count + second) * span / count ^ 2
      = (word * count + second) * span / count / count := by
        rw [Nat.div_div_eq_div_mul, Nat.pow_two]
    _ = (count * whole count span word + (fraction count span word + whole count span second))
          / count := by rw [hfirst, hword, Nat.add_assoc]
    _ = whole count span word + (fraction count span word + whole count span second) / count :=
        Nat.mul_add_div hpos _ _

/-- Two words as one are below the number of words of twice the bits. -/
theorem mul_add_lt_sq (hword : word < count) (h2 : second < count) :
    word * count + second < count ^ 2 :=
  calc word * count + second
      < word * count + count := Nat.add_lt_add_left h2 _
    _ = (word + 1) * count := (Nat.succ_mul _ _).symm
    _ ≤ count * count := Nat.mul_le_mul_right _ hword
    _ = count ^ 2 := (Nat.pow_two _).symm

/-- What is carried over is one at most. -/
theorem carry_eq_div (hspan : 0 < span) (hle : span ≤ count) (h2 : second < count) :
    carry count span word second
      = (fraction count span word + whole count span second) / count := by
  have hpos : 0 < count := Nat.lt_of_lt_of_le hspan hle
  have hfraction : fraction count span word < count := Nat.mod_lt _ hpos
  have hwhole : whole count span second < count := Nat.lt_of_lt_of_le (whole_lt h2 hspan) hle
  unfold carry
  split
  · next hc => exact (Nat.div_eq_of_lt_le (by omega) (by omega)).symm
  · next hc => exact (Nat.div_eq_of_lt (Nat.lt_of_not_le hc)).symm

/-- Where the first word leaves nothing open, nothing is carried over. -/
theorem carry_eq_zero (hspan : 0 < span) (hle : span ≤ count) (h2 : second < count)
    (hclosed : ¬ count - span < fraction count span word) :
    carry count span word second = 0 := by
  have hwhole := whole_lt h2 hspan
  exact if_neg (by omega)

end

/-! ## The product -/

/-- Two words as one of twice the bits, scaled to the range. -/
def product (r : Range) (word second : Nat) : Nat :=
  r.low + (word * (wordSize r).count + second) * r.size / (wordSize r).count ^ 2

/-- Whether a second word is taken after this one. -/
def IsUndecided (r : Range) (word : Nat) : Prop :=
  (wordSize r).count - r.size < word * r.size % (wordSize r).count

instance (r : Range) (word : Nat) : Decidable (IsUndecided r word) :=
  inferInstanceAs (Decidable (_ < _))

variable {r : Range} {word second : Nat}

theorem count_wordSize (r : Range) :
    (wordSize r).count = 2 ^ (if r.high < 2 ^ 32 then 32 else 64) := by
  have hsingle : WordSize.single.count = 2 ^ 32 := rfl
  unfold wordSize
  rw [hsingle]
  split <;> rfl

/-- A range that ends within the double words has no more numbers than there are words. -/
theorem size_le_count (hr : r.low ≤ r.high) (hhigh : r.high < 2 ^ 64) :
    r.size ≤ (wordSize r).count := by
  rw [count_wordSize]
  simp only [Range.size]
  split <;> omega

theorem span_of_size_lt (h : r.size < (wordSize r).count) : span r = r.size := Nat.mod_eq_of_lt h

/-- In a range of as many numbers as there are words, the whole part of two words is the first of
them. -/
theorem product_of_size_eq (word : Nat) (hfull : r.size = (wordSize r).count)
    (h2 : second < (wordSize r).count) :
    span r = 0 ∧ ¬ IsUndecided r word ∧ product r word second = r.low + word := by
  have hpos := (wordSize r).count_pos
  refine ⟨?_, ?_, ?_⟩
  · rw [span, hfull, Nat.mod_self]
  · rw [IsUndecided, hfull, Nat.mul_mod_left]
    exact Nat.not_lt_zero _
  · rw [product, hfull, Nat.pow_two, Nat.mul_div_mul_right _ _ hpos, Nat.mul_comm word,
      Nat.mul_add_div hpos, Nat.div_eq_of_lt h2, Nat.add_zero]

/-- Otherwise it is the whole part of the first, and what is carried over. -/
theorem product_of_size_lt (hlt : r.size < (wordSize r).count) (h2 : second < (wordSize r).count) :
    product r word second = r.low + (whole (wordSize r).count (span r) word
      + carry (wordSize r).count (span r) word second) := by
  have hspan : 0 < r.size := Nat.succ_pos _
  rw [span_of_size_lt hlt, carry_eq_div hspan (Nat.le_of_lt hlt) h2, product,
    mul_div_eq_whole_add (wordSize r).count_pos]

/-! ## What is drawn -/

variable {σ : Type} [WordSource σ] {s s₁ s₂ : σ}

/-- Where the first word decides, it is the only one taken. -/
theorem draw_of_decided (hr : r.low ≤ r.high) (hhigh : r.high < 2 ^ 64)
    (hword : takeWord (wordSize r) s = (some word, s₁)) (hdecided : ¬ IsUndecided r word)
    (h2 : second < (wordSize r).count) : draw r s = .answered (product r word second) s₁ := by
  rcases Nat.lt_or_eq_of_le (size_le_count hr hhigh) with hlt | hfull
  · have hspan : span r ≠ 0 := span_of_size_lt hlt ▸ Nat.succ_ne_zero _
    have hclosed : isOpen (wordSize r).count (span r) word = false := by
      rw [span_of_size_lt hlt]
      exact decide_eq_false hdecided
    have hcarry : carry (wordSize r).count (span r) word second = 0 := by
      rw [span_of_size_lt hlt]
      exact carry_eq_zero (Nat.succ_pos _) (Nat.le_of_lt hlt) h2 hdecided
    rw [product_of_size_lt hlt h2, hcarry]
    simp [draw, Nat.not_lt_of_le hr, hword, hspan, hclosed]
  · obtain ⟨hspan, -, hproduct⟩ := product_of_size_eq word hfull h2
    rw [hproduct]
    simp [draw, Nat.not_lt_of_le hr, hword, hspan]

/-- Where it does not, a second word is taken. -/
theorem draw_of_undecided (hr : r.low ≤ r.high) (hhigh : r.high < 2 ^ 64)
    (hword : takeWord (wordSize r) s = (some word, s₁)) (hundecided : IsUndecided r word)
    (hsecond : takeWord (wordSize r) s₁ = (some second, s₂)) :
    draw r s = .answered (product r word second) s₂ := by
  have h2 := takeWord_lt hsecond
  rcases Nat.lt_or_eq_of_le (size_le_count hr hhigh) with hlt | hfull
  · have hspan : span r ≠ 0 := span_of_size_lt hlt ▸ Nat.succ_ne_zero _
    have hopen : isOpen (wordSize r).count (span r) word = true := by
      rw [span_of_size_lt hlt]
      exact decide_eq_true hundecided
    rw [product_of_size_lt hlt h2]
    simp [draw, Nat.not_lt_of_le hr, hword, hspan, hopen, hsecond]
  · exact ((product_of_size_eq word hfull h2).2.1 hundecided).elim

/-- The whole part lies in the range. -/
theorem product_mem (hr : r.low ≤ r.high) (hword : word < (wordSize r).count)
    (h2 : second < (wordSize r).count) : product r word second ∈ r := by
  have hcount := (wordSize r).count_pos
  have hlt : (word * (wordSize r).count + second) * r.size / (wordSize r).count ^ 2 < r.size := by
    rw [Nat.div_lt_iff_lt_mul (Nat.pow_pos hcount), Nat.mul_comm r.size]
    exact Nat.mul_lt_mul_of_pos_right (mul_add_lt_sq hword h2) (Nat.succ_pos _)
  have hsize : r.low + r.size = r.high + 1 := by
    rw [Range.size, ← Nat.add_assoc, Nat.add_sub_cancel' hr]
  have hbelow : product r word second < r.high + 1 := hsize ▸ Nat.add_lt_add_left hlt r.low
  exact ⟨Nat.le_add_right _ _, Nat.le_of_lt_succ hbelow⟩

/-! ## Words in a list -/

/-- The random words of 32 bits that a word of this size is put together from. -/
def WordSize.spell : WordSize → Nat → List UInt32
  | .single, word => [.ofNat word]
  | .double, word => [.ofNat (word % WordSize.single.count), .ofNat (word / WordSize.single.count)]

theorem takeWord_spell {size : WordSize} (h : word < size.count) (rest : List UInt32) :
    takeWord size (⟨size.spell word ++ rest⟩ : WordList) = (some word, ⟨rest⟩) := by
  have htoNat {n : Nat} (hn : n < 2 ^ 32) : (UInt32.ofNat n).toNat = n := by
    rw [UInt32.toNat_ofNat', Nat.mod_eq_of_lt hn]
  cases size with
  | single =>
      show (some (UInt32.ofNat word).toNat, (⟨rest⟩ : WordList)) = _
      rw [htoNat h]
  | double =>
      show (some ((UInt32.ofNat (word % WordSize.single.count)).toNat + WordSize.single.count
        * (UInt32.ofNat (word / WordSize.single.count)).toNat), (⟨rest⟩ : WordList)) = _
      have hlow : word % WordSize.single.count < 2 ^ 32 := Nat.mod_lt _ (by decide)
      have hhigh : word / WordSize.single.count < 2 ^ 32 := Nat.div_lt_of_lt_mul h
      rw [htoNat hlow, htoNat hhigh, Nat.mod_add_div]

/-- Out of two words of its size at the head of a list, a draw takes the first, and the second where
the first does not decide. -/
theorem draw_spell (hr : r.low ≤ r.high) (hhigh : r.high < 2 ^ 64)
    (hword : word < (wordSize r).count) (h2 : second < (wordSize r).count) (rest : List UInt32) :
    draw r (⟨(wordSize r).spell word ++ ((wordSize r).spell second ++ rest)⟩ : WordList)
      = .answered (product r word second)
          ⟨if IsUndecided r word then rest else (wordSize r).spell second ++ rest⟩ := by
  have hfirst := takeWord_spell hword ((wordSize r).spell second ++ rest)
  split
  · next hundecided =>
      exact draw_of_undecided hr hhigh hfirst hundecided (takeWord_spell h2 rest)
  · next hdecided => exact draw_of_decided hr hhigh hfirst hdecided h2

/-! ## The draw of a range -/

/-- From every range of double words a draw answers the whole part of two words scaled to it, out of
a source that has given the first, and the second where that does not decide; so one word or two are
taken.  Any two words can come out of a list.  The whole part lies in the range, and in a range of
all words it is the first word. -/
theorem draw_eq_product {r : Range} (hr : r.low ≤ r.high) (hhigh : r.high < 2 ^ 64) :
    (wordSize r).count = 2 ^ (if r.high < 2 ^ 32 then 32 else 64)
    ∧ (∀ {σ : Type} [WordSource σ] {s s₁ : σ} {word : Nat},
        takeWord (wordSize r) s = (some word, s₁) →
          (¬ IsUndecided r word → ∀ second < (wordSize r).count,
            DrawSource.draw r s = .answered (product r word second) s₁)
          ∧ (IsUndecided r word → ∀ {second : Nat} {s₂ : σ},
            takeWord (wordSize r) s₁ = (some second, s₂) →
              DrawSource.draw r s = .answered (product r word second) s₂))
    ∧ ∀ word < (wordSize r).count, ∀ second < (wordSize r).count,
        (∀ rest, DrawSource.draw r
            (⟨(wordSize r).spell word ++ ((wordSize r).spell second ++ rest)⟩ : WordList)
          = .answered (product r word second)
              ⟨if IsUndecided r word then rest else (wordSize r).spell second ++ rest⟩)
        ∧ product r word second ∈ r
        ∧ (r.low = 0 → r.high = (wordSize r).count - 1 →
            ¬ IsUndecided r word ∧ product r word second = word) := by
  refine ⟨count_wordSize r, fun hword => ⟨fun hdecided second h2 => ?_, fun hundecided => ?_⟩, ?_⟩
  · exact draw_of_decided hr hhigh hword hdecided h2
  · exact draw_of_undecided hr hhigh hword hundecided
  · intro word hword second h2
    refine ⟨draw_spell hr hhigh hword h2, product_mem hr hword h2, fun hlow htop => ?_⟩
    have hfull : r.size = (wordSize r).count := by
      rw [Range.size, hlow, htop, Nat.sub_zero, Nat.sub_add_cancel (wordSize r).count_pos]
    obtain ⟨-, hdecided, hproduct⟩ := product_of_size_eq word hfull h2
    exact ⟨hdecided, hproduct.trans (by rw [hlow, Nat.zero_add])⟩

/-- A word that does not decide, with the second word carrying over, and a range of all double
words. -/
theorem draw_eq_product_carried :
    let r : Range := ⟨0, 204⟩
    let full : Range := ⟨0, 2 ^ 64 - 1⟩
    r.low ≤ r.high ∧ r.high < 2 ^ 64 ∧ full.low ≤ full.high ∧ full.high < 2 ^ 64
      ∧ takeWord (wordSize r) (⟨[20951059, 4294967295]⟩ : WordList)
        = (some 20951059, ⟨[4294967295]⟩)
      ∧ IsUndecided r 20951059
      ∧ takeWord (wordSize r) (⟨[4294967295]⟩ : WordList) = (some 4294967295, ⟨[]⟩)
      ∧ DrawSource.draw r (⟨[20951059, 4294967295]⟩ : WordList)
        = .answered (product r 20951059 4294967295) ⟨[]⟩
      ∧ product r 20951059 4294967295 = 1 ∧ product r 20951059 0 = 0
      ∧ 7 < (wordSize full).count ∧ 9 < (wordSize full).count
      ∧ ¬ IsUndecided full 7 ∧ product full 7 9 = 7 := by
  intro r full
  have hr : r.low ≤ r.high := Nat.zero_le _
  have hfull : full.low ≤ full.high := Nat.zero_le _
  have hhigh : r.high < 2 ^ 64 := by decide
  have hhigh' : full.high < 2 ^ 64 := by decide
  have hword : takeWord (wordSize r) (⟨[20951059, 4294967295]⟩ : WordList)
      = (some 20951059, ⟨[4294967295]⟩) := rfl
  have hsecond : takeWord (wordSize r) (⟨[4294967295]⟩ : WordList) = (some 4294967295, ⟨[]⟩) := rfl
  have hundecided : IsUndecided r 20951059 := by decide
  have h7 : 7 < (wordSize full).count := by decide
  have h9 : 9 < (wordSize full).count := by decide
  obtain ⟨-, hdraw, -⟩ := draw_eq_product hr hhigh
  obtain ⟨-, -, hwords⟩ := draw_eq_product hfull hhigh'
  exact ⟨hr, hhigh, hfull, hhigh', hword, hundecided, hsecond,
    (hdraw hword).2 hundecided hsecond, by decide, by decide, h7, h9,
    (hwords 7 h7 9 h9).2.2 rfl rfl⟩

end RandomTerms.Scaled
