/-
# What numerals spell

The reader of numbers goes from left to right and gives up at the first thing that is wrong.  What
it accepts can be said without an order: digits that spell a number, one sign in front of them or
none, and a number within the span (`read_signed64_eq_ok_iff`, `read_unsigned64_eq_ok_iff`).  Zeros
in front do not count, so the texts of a number are of any length.

The induction is on the digits, for any value that has been read so far (`extend_eq_ok_iff`).

Before a text is read, the white space at its two ends is left out.  There is one way to do so
(`Text.isTrimmed_iff`), and it leaves every other character (`Text.mem_trim`).
-/
import Mathlib.Algebra.Group.Int.Defs
import Mathlib.Algebra.Group.Nat.Defs
import Mathlib.Data.List.TakeWhile
import RandomTerms.Numeral
import RandomTerms.Text.Blank

namespace RandomTerms

/-! ## White space -/

namespace Text

/-- White space is left out on both sides of `t`, and none is left at its two ends. -/
structure IsTrimmed (s t : List Char) : Prop where
  around : ∃ front back, s = front ++ t ++ back
    ∧ (∀ c ∈ front, isBlank c = true) ∧ ∀ c ∈ back, isBlank c = true
  head : ∀ c ∈ t.head?, isBlank c = false
  last : ∀ c ∈ t.getLast?, isBlank c = false

theorem head_trimStart {s : List Char} {c : Char} (h : c ∈ (trimStart s).head?) :
    isBlank c = false := by
  have hnot := List.head?_dropWhile_not isBlank s
  rw [trimStart] at h
  rw [Option.mem_def.mp h] at hnot
  simpa using hnot

theorem trimStart_of_head {s : List Char} (h : ∀ c ∈ s.head?, isBlank c = false) :
    trimStart s = s := by
  cases s with
  | nil => rfl
  | cons c s => exact List.dropWhile_cons_of_neg (by simp [h c rfl])

theorem trimStart_append {front : List Char} (h : ∀ c ∈ front, isBlank c = true)
    (s : List Char) : trimStart (front ++ s) = trimStart s :=
  List.dropWhile_append_of_pos h

/-- What `trim` leaves out at the far end. -/
def blankEnd (s : List Char) : List Char := ((trimStart s).reverse.takeWhile isBlank).reverse

theorem trim_append_blankEnd (s : List Char) : trim s ++ blankEnd s = trimStart s :=
  calc trim s ++ blankEnd s
    _ = ((trimStart s).reverse.takeWhile isBlank ++ trimStart (trimStart s).reverse).reverse :=
        List.reverse_append.symm
    _ = (trimStart s).reverse.reverse := congrArg _ List.takeWhile_append_dropWhile
    _ = trimStart s := List.reverse_reverse _

theorem isTrimmed_trim (s : List Char) : IsTrimmed s (trim s) := by
  refine ⟨⟨s.takeWhile isBlank, blankEnd s, ?_, ?_, ?_⟩, ?_, ?_⟩
  · rw [List.append_assoc, trim_append_blankEnd]
    exact List.takeWhile_append_dropWhile.symm
  · exact fun c hc => List.mem_takeWhile_imp hc
  · exact fun c hc => List.mem_takeWhile_imp (List.mem_reverse.mp hc)
  · intro c hc
    have hstart : c ∈ (trimStart s).head? := by
      rw [← trim_append_blankEnd, List.head?_append, Option.mem_def.mp hc]
      rfl
    exact head_trimStart hstart
  · intro c hc
    rw [trim, List.getLast?_reverse] at hc
    exact head_trimStart hc

/-- There is one way only to leave out the white space at both ends. -/
theorem isTrimmed_iff {s t : List Char} : IsTrimmed s t ↔ t = trim s := by
  constructor
  · rintro ⟨⟨front, back, rfl, hfront, hback⟩, hhead, hlast⟩
    have hback' : ∀ c ∈ back.reverse, isBlank c = true := fun c hc =>
      hback c (List.mem_reverse.mp hc)
    have hlast' : ∀ c ∈ t.reverse.head?, isBlank c = false := by
      rwa [List.head?_reverse]
    have hstart : trimStart (front ++ t ++ back) = trimStart (t ++ back) := by
      rw [List.append_assoc, trimStart_append hfront]
    cases t with
    | nil =>
        have hnil : trimStart back = [] := List.dropWhile_eq_nil_iff.mpr hback
        rw [trim, hstart, List.nil_append, hnil]
        rfl
    | cons c t =>
        have hkept : trimStart (c :: t ++ back) = c :: t ++ back :=
          trimStart_of_head fun d hd => hhead d hd
        rw [trim, hstart, hkept, List.reverse_append, trimStart_append hback',
          trimStart_of_head hlast', List.reverse_reverse]
  · rintro rfl
    exact isTrimmed_trim s

/-- What is not white space is left. -/
theorem mem_trim {s : List Char} {c : Char} (hc : c ∈ s) (hb : isBlank c = false) : c ∈ trim s := by
  obtain ⟨⟨front, back, hs, hfront, hback⟩, -, -⟩ := isTrimmed_trim s
  rw [hs, List.mem_append, List.mem_append] at hc
  rcases hc with (hc | hc) | hc
  · exact absurd (hfront c hc) (by simp [hb])
  · exact hc
  · exact absurd (hback c hc) (by simp [hb])

end Text

namespace Numeral

/-! ## Digits -/

/-- The digits spell `n` in decimal, and there is at least one of them. -/
structure Spells (ds : List Char) (n : Nat) : Prop where
  ne_nil : ds ≠ []
  digits : ∀ c ∈ ds, c.isDigit = true
  value : Nat.ofDigitChars 10 ds 0 = n

instance (ds : List Char) (n : Nat) : Decidable (Spells ds n) :=
  decidable_of_iff (ds ≠ [] ∧ ds.all Char.isDigit = true ∧ Nat.ofDigitChars 10 ds 0 = n)
    ⟨fun ⟨hne, hall, hn⟩ => ⟨hne, List.all_eq_true.mp hall, hn⟩,
      fun ⟨hne, hall, hn⟩ => ⟨hne, List.all_eq_true.mpr hall, hn⟩⟩

theorem le_ofDigitChars (ds : List Char) : ∀ value : Nat, value ≤ Nat.ofDigitChars 10 ds value := by
  induction ds with
  | nil =>
      intro value
      exact Nat.le_refl _
  | cons c ds ih =>
      intro value
      rw [Nat.ofDigitChars_cons]
      have hnext := ih (10 * value + (c.toNat - '0'.toNat))
      omega

/-- The digits are read exactly if they are digits and take the value no further than the limit. -/
theorem extend_eq_ok_iff {limit : Nat} {beyond : Problem} {ds : List Char} :
    ∀ {value n : Nat}, value ≤ limit → (extend limit beyond value ds = .ok n ↔
      (∀ c ∈ ds, c.isDigit = true) ∧ Nat.ofDigitChars 10 ds value = n ∧ n ≤ limit) := by
  induction ds with
  | nil =>
      intro value n hv
      simp only [extend, Except.ok.injEq, List.not_mem_nil, false_implies, implies_true,
        Nat.ofDigitChars_nil, true_and]
      constructor
      · rintro rfl
        exact ⟨rfl, hv⟩
      · exact And.left
  | cons c ds ih =>
      intro value n _
      rw [extend, List.forall_mem_cons, Nat.ofDigitChars_cons]
      split
      · next hc =>
          simp only [hc, true_and]
          split
          · next hle => exact ih hle
          · next hgt =>
              -- Digits never lower a value, so one beyond the limit stays beyond it.
              have hstay := le_ofDigitChars ds (10 * value + digitValue c)
              constructor
              · intro h
                cases h
              · rintro ⟨-, rfl, hn⟩
                exact absurd (Nat.le_trans hstay hn) hgt
      · next hc => simp [hc]

theorem magnitude_eq_ok_iff {limit n : Nat} {beyond : Problem} {ds : List Char} :
    magnitude limit beyond ds = .ok n ↔ Spells ds n ∧ n ≤ limit := by
  cases ds with
  | nil =>
      constructor
      · intro h
        cases h
      · rintro ⟨h, -⟩
        exact absurd rfl h.ne_nil
  | cons c ds =>
      rw [magnitude, extend_eq_ok_iff (Nat.zero_le _)]
      constructor
      · rintro ⟨hdigits, hvalue, hle⟩
        exact ⟨⟨List.cons_ne_nil _ _, hdigits, hvalue⟩, hle⟩
      · rintro ⟨h, hle⟩
        exact ⟨h.digits, h.value, hle⟩

/-! ## Signs -/

/-- The text spells a natural number: digits, with a plus sign in front or without. -/
inductive IsNatural : List Char → Nat → Prop
  | plain {ds : List Char} {n : Nat} : Spells ds n → IsNatural ds n
  | plus {ds : List Char} {n : Nat} : Spells ds n → IsNatural ('+' :: ds) n

/-- The text spells a whole number: a minus sign may stand in front instead. -/
inductive IsWhole : List Char → Int → Prop
  | natural {s : List Char} {n : Nat} : IsNatural s n → IsWhole s n
  | minus {ds : List Char} {n : Nat} : Spells ds n → IsWhole ('-' :: ds) (-n)

/-- What spells a natural number is written with digits and a plus sign. -/
theorem IsNatural.isDigit_or_eq_plus {s : List Char} {n : Nat} (h : IsNatural s n) :
    ∀ c ∈ s, c.isDigit = true ∨ c = '+' := by
  cases h with
  | plain h => exact fun c hc => .inl (h.digits c hc)
  | plus h =>
      intro c hc
      rcases List.mem_cons.mp hc with rfl | hc
      · exact .inr rfl
      · exact .inl (h.digits c hc)

theorem not_spells_plus {ds : List Char} {n : Nat} : ¬ Spells ('+' :: ds) n := by
  intro h
  exact absurd (h.digits _ List.mem_cons_self) (by decide)

theorem not_spells_minus {ds : List Char} {n : Nat} : ¬ Spells ('-' :: ds) n := by
  intro h
  exact absurd (h.digits _ List.mem_cons_self) (by decide)

theorem isNatural_plus_iff {ds : List Char} {n : Nat} : IsNatural ('+' :: ds) n ↔ Spells ds n := by
  constructor
  · intro h
    cases h with
    | plain h => exact (not_spells_plus h).elim
    | plus h => exact h
  · exact .plus

theorem not_isNatural_minus {ds : List Char} {n : Nat} : ¬ IsNatural ('-' :: ds) n := by
  intro h
  cases h with
  | plain h => exact not_spells_minus h

theorem isNatural_iff_of_ne_plus {s : List Char} {n : Nat} (h : ∀ ds, s ≠ '+' :: ds) :
    IsNatural s n ↔ Spells s n := by
  constructor
  · intro hs
    cases hs with
    | plain hs => exact hs
    | plus _ => exact absurd rfl (h _)
  · exact .plain

/-- The text without the plus sign that may stand in front. -/
def afterPlus : List Char → List Char
  | '+' :: rest => rest
  | s => s

theorem afterPlus_of_ne {s : List Char} (h : ∀ ds, s ≠ '+' :: ds) : afterPlus s = s := by
  unfold afterPlus
  split
  · exact absurd rfl (h _)
  · rfl

theorem isNatural_iff_afterPlus {s : List Char} {n : Nat} :
    IsNatural s n ↔ Spells (afterPlus s) n := by
  by_cases h : ∃ ds, s = '+' :: ds
  · obtain ⟨ds, rfl⟩ := h
    exact isNatural_plus_iff
  · have hne : ∀ ds, s ≠ '+' :: ds := fun ds hs => h ⟨ds, hs⟩
    rw [isNatural_iff_of_ne_plus hne, afterPlus_of_ne hne]

theorem isWhole_minus_iff {ds : List Char} {z : Int} :
    IsWhole ('-' :: ds) z ↔ ∃ n : Nat, Spells ds n ∧ z = -n := by
  constructor
  · intro h
    cases h with
    | natural h => exact (not_isNatural_minus h).elim
    | minus h => exact ⟨_, h, rfl⟩
  · rintro ⟨n, h, rfl⟩
    exact .minus h

theorem isWhole_iff_of_ne_minus {s : List Char} {z : Int} (h : ∀ ds, s ≠ '-' :: ds) :
    IsWhole s z ↔ ∃ n : Nat, IsNatural s n ∧ z = n := by
  constructor
  · intro hs
    cases hs with
    | natural hs => exact ⟨_, hs, rfl⟩
    | minus _ => exact absurd rfl (h _)
  · rintro ⟨n, hs, rfl⟩
    exact .natural hs

/-- What spells a whole number that is not below one spells it without a minus sign. -/
theorem IsWhole.isNatural_of_pos {s : List Char} {z : Int} (h : IsWhole s z) (hz : 0 < z) :
    IsNatural s z.toNat := by
  cases h with
  | natural h => exact h
  | minus h => omega

/-! ## Whole texts -/

theorem map_ofNat_eq_ok_iff {r : Except Problem Nat} {z : Int} :
    r.map Int.ofNat = .ok z ↔ ∃ n : Nat, r = .ok n ∧ z = n := by
  cases r with
  | error problem => simp [Except.map]
  | ok n => simp [Except.map, eq_comm]

/-- Without a minus sign in front, the digits are those after the plus sign. -/
theorem read_of_ne_minus {kind : Kind} {s : List Char} (hne : s ≠ []) (h : ∀ ds, s ≠ '-' :: ds) :
    read kind s = (magnitude kind.greatest .tooLarge (afterPlus s)).map Int.ofNat := by
  unfold read
  split
  · exact absurd rfl hne
  · rfl
  · exact absurd rfl (h _)
  · next hplus _ => rw [afterPlus_of_ne fun _ heq => hplus (List.cons.inj heq).1]

theorem read_minus {kind : Kind} {least : Nat} (h : kind.least = some least) (ds : List Char) :
    read kind ('-' :: ds) = (magnitude least .tooSmall ds).map fun n => -Int.ofNat n := by
  simp only [read, h]

theorem read_sign {kind : Kind} (h : kind.least = none) (ds : List Char) :
    read kind ('-' :: ds) = .error .invalidDigit := by
  simp only [read, h]

/-- Without a minus sign, what is read is a natural number within the span. -/
theorem read_eq_ok_iff_of_ne_minus {kind : Kind} {s : List Char} {z : Int}
    (h : ∀ ds, s ≠ '-' :: ds) :
    read kind s = .ok z ↔ ∃ n : Nat, IsNatural s n ∧ n ≤ kind.greatest ∧ z = n := by
  by_cases hne : s = []
  · subst hne
    constructor
    · intro h
      cases h
    · rintro ⟨n, hn, -⟩
      exact absurd rfl (isNatural_iff_afterPlus.mp hn).ne_nil
  · rw [read_of_ne_minus hne h]
    simp only [map_ofNat_eq_ok_iff, magnitude_eq_ok_iff, isNatural_iff_afterPlus, and_assoc]

theorem minus_or_ne (s : List Char) : (∃ ds, s = '-' :: ds) ∨ ∀ ds, s ≠ '-' :: ds := by
  by_cases h : ∃ ds, s = '-' :: ds
  · exact .inl h
  · exact .inr fun ds hs => h ⟨ds, hs⟩

/-- A number of 64 bits with a sign: from `-2 ^ 63` up to, but not including, `2 ^ 63`. -/
theorem read_signed64_eq_ok_iff {s : List Char} {z : Int} :
    read signed64 s = .ok z ↔ IsWhole s z ∧ -2 ^ 63 ≤ z ∧ z < 2 ^ 63 := by
  rcases minus_or_ne s with ⟨ds, rfl⟩ | hne
  · have hread : read signed64 ('-' :: ds)
        = (magnitude (2 ^ 63) .tooSmall ds).map fun n => -Int.ofNat n := rfl
    rw [hread, isWhole_minus_iff]
    constructor
    · intro h
      cases hm : magnitude (2 ^ 63) .tooSmall ds with
      | error problem =>
          rw [hm] at h
          cases h
      | ok n =>
          rw [hm] at h
          cases h
          obtain ⟨hn, hle⟩ := magnitude_eq_ok_iff.mp hm
          refine ⟨⟨n, hn, rfl⟩, ?_⟩
          simp only [Int.ofNat_eq_natCast]
          omega
    · rintro ⟨⟨n, hn, rfl⟩, hlow, -⟩
      have hm : magnitude (2 ^ 63) .tooSmall ds = .ok n :=
        magnitude_eq_ok_iff.mpr ⟨hn, by omega⟩
      rw [hm]
      rfl
  · rw [read_eq_ok_iff_of_ne_minus hne, isWhole_iff_of_ne_minus hne]
    have hgreatest : signed64.greatest = 2 ^ 63 - 1 := rfl
    rw [hgreatest]
    constructor
    · rintro ⟨n, hn, hle, rfl⟩
      exact ⟨⟨n, hn, rfl⟩, by omega, by omega⟩
    · rintro ⟨⟨n, hn, rfl⟩, -, hlt⟩
      exact ⟨n, hn, by omega, rfl⟩

/-- A number of 64 bits without a sign. -/
theorem read_unsigned64_eq_ok_iff {s : List Char} {z : Int} :
    read unsigned64 s = .ok z ↔ ∃ n : Nat, IsNatural s n ∧ n < 2 ^ 64 ∧ z = n := by
  rcases minus_or_ne s with ⟨ds, rfl⟩ | hne
  · constructor
    · intro h
      cases h
    · rintro ⟨n, hn, -⟩
      exact (not_isNatural_minus hn).elim
  · have hgreatest : unsigned64.greatest = 2 ^ 64 - 1 := rfl
    rw [read_eq_ok_iff_of_ne_minus hne, hgreatest]
    simp only [Nat.le_sub_one_iff_lt (Nat.two_pow_pos 64)]

end Numeral
end RandomTerms
