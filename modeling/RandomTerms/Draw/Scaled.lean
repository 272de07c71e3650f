/-
# A random word scaled to a range

A word of `W` bits, read as a fraction of `2 ^ W`, times the size of the range: the whole part of
the product is the number drawn. One word is rarely fine enough to spread evenly over a range, so
where its fraction lies so high that a second word below it could carry over into the whole part,
that second word is taken too. Below that the second word cannot matter and is not taken.
-/
import RandomTerms.Draw

namespace RandomTerms.Scaled

inductive WordSize
  | single
  | double
deriving DecidableEq, Repr

def WordSize.count : WordSize → Nat
  | .single => 0x100000000
  | .double => 0x10000000000000000

theorem WordSize.count_pos (size : WordSize) : 0 < size.count := by
  cases size <;> decide

/-- Single words serve a range that ends within them; any other takes double words. -/
def wordSize (r : Range) : WordSize := if r.high < WordSize.single.count then .single else .double

/-- The size of the range, counted in words: a range of all words counts as zero. -/
def span (r : Range) : Nat := r.size % (wordSize r).count

/-- The whole part of a word scaled by `span`. -/
def whole (count span word : Nat) : Nat := word * span / count

/-- The fraction of a word scaled by `span`. -/
def fraction (count span word : Nat) : Nat := word * span % count

/-- Whether a second word could carry over into the whole part. -/
def isOpen (count span word : Nat) : Bool := decide (count - span < fraction count span word)

/-- What a second word below the first carries over. -/
def carry (count span word second : Nat) : Nat :=
  if count ≤ fraction count span word + whole count span second then 1 else 0

/-! ## The scaled word stays in the range -/

theorem whole_lt {count span word : Nat} (hw : word < count) (hs : 0 < span) :
    whole count span word < span := by
  unfold whole
  rw [Nat.div_lt_iff_lt_mul (by omega), Nat.mul_comm span]
  exact Nat.mul_lt_mul_of_pos_right hw hs

/-- The two words together are one word of twice the bits; scaled, it is below `span` times the
number of such words. -/
theorem whole_add_carry_lt {count span word second : Nat} (hw : word < count)
    (h2 : second < count) (hs : 0 < span) :
    whole count span word + carry count span word second < span := by
  unfold carry
  split
  · next hc =>
    have hpos : 0 < count := by omega
    have h1 : count * whole count span word + fraction count span word = word * span :=
      Nat.div_add_mod _ _
    have h3 : count * whole count span second ≤ second * span := Nat.mul_div_le _ _
    have hle : (whole count span word + 1) * (count * count) ≤ (word * count + second) * span := by
      calc (whole count span word + 1) * (count * count)
          = count * (count * whole count span word) + count * count := by
            rw [Nat.add_mul, Nat.one_mul, Nat.mul_comm (whole count span word), Nat.mul_assoc]
        _ ≤ count * (count * whole count span word)
              + count * (fraction count span word + whole count span second) :=
            Nat.add_le_add_left (Nat.mul_le_mul_left _ hc) _
        _ = count * (count * whole count span word + fraction count span word)
              + count * whole count span second := by
            simp only [Nat.mul_add, Nat.add_assoc]
        _ ≤ count * (word * span) + second * span := by rw [h1]; exact Nat.add_le_add_left h3 _
        _ = (word * count + second) * span := by
            rw [Nat.add_mul, Nat.mul_comm word count, Nat.mul_assoc]
    have hlt : (word * count + second) * span < span * (count * count) := by
      rw [Nat.mul_comm span]
      refine Nat.mul_lt_mul_of_pos_right ?_ hs
      calc word * count + second < word * count + count := Nat.add_lt_add_left h2 _
        _ = (word + 1) * count := by rw [Nat.add_mul, Nat.one_mul]
        _ ≤ count * count := Nat.mul_le_mul_right _ hw
    exact Nat.lt_of_mul_lt_mul_right (Nat.lt_of_le_of_lt hle hlt)
  · exact whole_lt hw hs

/-- A number below the span, counted from the low end, lies in the range. -/
theorem add_mem_of_lt_span {r : Range} (hr : r.low ≤ r.high) {n : Nat} (h : n < span r) :
    r.low + n ∈ r := by
  have : span r ≤ r.size := Nat.mod_le _ _
  simp only [Range.size] at this
  simp only [Range.mem_iff]
  omega

/-- Where the range counts as zero, it holds every word counted from its low end. -/
theorem add_mem_of_span_eq_zero {r : Range} (h : span r = 0) {n : Nat}
    (hn : n < (wordSize r).count) : r.low + n ∈ r := by
  have hdvd : (wordSize r).count ≤ r.size :=
    Nat.le_of_dvd (Nat.succ_pos _) (Nat.dvd_of_mod_eq_zero h)
  have hpos : 1 < (wordSize r).count := by cases wordSize r <;> decide
  simp only [Range.size] at hdvd
  simp only [Range.mem_iff]
  omega

end RandomTerms.Scaled
