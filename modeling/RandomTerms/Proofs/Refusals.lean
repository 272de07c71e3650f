/-
# Why a numeral is refused

A numeral is refused for one of four reasons, and the first thing that is wrong from the left
decides which.  Here this is said of the text as a whole: a text is too large, or too small, exactly
if the digits it begins with, some of them or all, spell a number beyond the span, whatever comes
after them (`read_eq_tooLarge_iff`, `read_eq_tooSmall_iff`).  A character that is no digit is to
blame only where the digits before it stay within the span.

    9223372036854775808x       too large: the digits alone are beyond 64 bits with a sign
    9223372036854775807x       an invalid digit

The induction is on the text, for any value within the limit that has been read so far
(`extend_eq_beyond_iff`).  The texts of the arguments and of the limit on the depth differ in the
span, and in the minus sign, which is an invalid digit where there is nothing below zero to read.
-/
import RandomTerms.Proofs.Settings

namespace RandomTerms

namespace Numeral

/-! ## Beyond the limit -/

/-- Digits in front of the text take the value beyond the limit. -/
def Exceeds (limit value : Nat) (s : List Char) : Prop :=
  ∃ ds, ds <+: s ∧ (∀ c ∈ ds, c.isDigit = true) ∧ limit < Nat.ofDigitChars 10 ds value

/-- Digits in front of the text spell a number beyond the limit. -/
def Overshoots (limit : Nat) (s : List Char) : Prop :=
  ∃ ds n, ds <+: s ∧ Spells ds n ∧ limit < n

theorem exceeds_of_lt {limit value : Nat} (h : limit < value) (s : List Char) :
    Exceeds limit value s :=
  ⟨[], List.nil_prefix, by simp, h⟩

theorem not_exceeds_nil {limit value : Nat} (h : value ≤ limit) : ¬ Exceeds limit value [] := by
  rintro ⟨ds, hds, -, hlt⟩
  obtain rfl := List.prefix_nil.mp hds
  exact absurd hlt (Nat.not_lt.mpr h)

theorem exceeds_cons_iff {limit value : Nat} (h : value ≤ limit) {c : Char} {s : List Char} :
    Exceeds limit value (c :: s) ↔
      c.isDigit = true ∧ Exceeds limit (10 * value + digitValue c) s := by
  constructor
  · rintro ⟨ds, hds, hdigits, hlt⟩
    rcases List.prefix_cons_iff.mp hds with rfl | ⟨ds, rfl, hrest⟩
    · exact absurd hlt (Nat.not_lt.mpr h)
    · obtain ⟨hc, hdigits⟩ := List.forall_mem_cons.mp hdigits
      exact ⟨hc, ds, hrest, hdigits, hlt⟩
  · rintro ⟨hc, ds, hds, hdigits, hlt⟩
    exact ⟨c :: ds, List.cons_prefix_cons.mpr ⟨rfl, hds⟩, List.forall_mem_cons.mpr ⟨hc, hdigits⟩,
      hlt⟩

theorem overshoots_iff_exceeds {limit : Nat} {s : List Char} :
    Overshoots limit s ↔ Exceeds limit 0 s := by
  constructor
  · rintro ⟨ds, n, hds, hn, hlt⟩
    exact ⟨ds, hds, hn.digits, hn.value.symm ▸ hlt⟩
  · rintro ⟨ds, hds, hdigits, hlt⟩
    refine ⟨ds, _, hds, ⟨?_, hdigits, rfl⟩, hlt⟩
    rintro rfl
    exact absurd hlt (Nat.not_lt_zero _)

theorem Spells.overshoots {ds : List Char} {limit n : Nat} (h : Spells ds n) (hlt : limit < n) :
    Overshoots limit ds :=
  ⟨ds, n, List.prefix_refl ds, h, hlt⟩

/-- What overshoots begins with a digit. -/
theorem Overshoots.isDigit {limit : Nat} {c : Char} {s : List Char}
    (h : Overshoots limit (c :: s)) : c.isDigit = true :=
  ((exceeds_cons_iff (Nat.zero_le limit)).mp (overshoots_iff_exceeds.mp h)).1

theorem not_overshoots_nil {limit : Nat} : ¬ Overshoots limit [] :=
  fun h => not_exceeds_nil (Nat.zero_le limit) (overshoots_iff_exceeds.mp h)

theorem extend_eq_beyond_iff {limit : Nat} {beyond : Problem} (hbeyond : beyond ≠ .invalidDigit)
    {s : List Char} : ∀ {value : Nat}, value ≤ limit →
      (extend limit beyond value s = .error beyond ↔ Exceeds limit value s) := by
  induction s with
  | nil =>
      intro value hv
      simp [extend, not_exceeds_nil hv]
  | cons c s ih =>
      intro value hv
      rw [extend, exceeds_cons_iff hv]
      split
      · next hc =>
          simp only [hc, true_and]
          split
          · next hle => exact ih hle
          · next hgt =>
              -- The digits so far are enough, whatever is left of the text.
              exact iff_of_true rfl (exceeds_of_lt (Nat.not_le.mp hgt) s)
      · next hc => simp [hc, hbeyond.symm]

theorem extend_error {limit : Nat} {beyond problem : Problem} {s : List Char} :
    ∀ {value : Nat}, extend limit beyond value s = .error problem →
      problem = beyond ∨ problem = .invalidDigit := by
  induction s with
  | nil =>
      intro value h
      cases h
  | cons c s ih =>
      intro value h
      rw [extend] at h
      split at h
      · split at h
        · exact ih h
        · cases h
          exact .inl rfl
      · cases h
        exact .inr rfl

theorem magnitude_eq_beyond_iff {limit : Nat} {beyond : Problem}
    (hbeyond : beyond ≠ .invalidDigit) {s : List Char} :
    magnitude limit beyond s = .error beyond ↔ Overshoots limit s := by
  cases s with
  | nil => simp [magnitude, not_overshoots_nil, hbeyond.symm]
  | cons c s =>
      rw [magnitude, overshoots_iff_exceeds]
      exact extend_eq_beyond_iff hbeyond (Nat.zero_le limit)

theorem magnitude_error {limit : Nat} {beyond problem : Problem} {s : List Char}
    (h : magnitude limit beyond s = .error problem) :
    problem = beyond ∨ problem = .invalidDigit := by
  cases s with
  | nil =>
      cases h
      exact .inr rfl
  | cons c s => exact extend_error h

/-! ## The reasons -/

/-- How a text is refused: as empty, as a natural number, for what follows the minus sign, or for
the minus sign itself. -/
inductive Fails (kind : Kind) : List Char → Problem → Prop
  | empty : Fails kind [] .empty
  | natural {s : List Char} {problem : Problem} : s ≠ [] → (∀ ds, s ≠ '-' :: ds) →
      magnitude kind.greatest .tooLarge (afterPlus s) = .error problem → Fails kind s problem
  | minus {least : Nat} {ds : List Char} {problem : Problem} : kind.least = some least →
      magnitude least .tooSmall ds = .error problem → Fails kind ('-' :: ds) problem
  | sign {ds : List Char} : kind.least = none → Fails kind ('-' :: ds) .invalidDigit

theorem map_eq_error_iff {α β : Type} {f : α → β} {r : Except Problem α} {problem : Problem} :
    r.map f = .error problem ↔ r = .error problem := by
  cases r with
  | error other => simp [Except.map]
  | ok a => simp [Except.map]

theorem read_eq_error_iff {kind : Kind} {s : List Char} {problem : Problem} :
    read kind s = .error problem ↔ Fails kind s problem := by
  constructor
  · intro h
    by_cases hne : s = []
    · subst hne
      cases h
      exact .empty
    · rcases minus_or_ne s with ⟨ds, rfl⟩ | hminus
      · cases hleast : kind.least with
        | none =>
            rw [read_sign hleast] at h
            cases h
            exact .sign hleast
        | some least =>
            rw [read_minus hleast, map_eq_error_iff] at h
            exact .minus hleast h
      · rw [read_of_ne_minus hne hminus, map_eq_error_iff] at h
        exact .natural hne hminus h
  · intro h
    cases h with
    | empty => rfl
    | natural hne hminus h => rw [read_of_ne_minus hne hminus, map_eq_error_iff, h]
    | minus hleast h => rw [read_minus hleast, map_eq_error_iff, h]
    | sign hleast => exact read_sign hleast _

theorem read_eq_empty_iff {kind : Kind} {s : List Char} : read kind s = .error .empty ↔ s = [] := by
  rw [read_eq_error_iff]
  constructor
  · intro h
    cases h with
    | empty => rfl
    | natural _ _ h => rcases magnitude_error h with h | h <;> cases h
    | minus _ h => rcases magnitude_error h with h | h <;> cases h
  · rintro rfl
    exact .empty

/-- A text is too large for the digits it begins with, a plus sign set aside. -/
theorem read_eq_tooLarge_iff {kind : Kind} {s : List Char} :
    read kind s = .error .tooLarge ↔ Overshoots kind.greatest (afterPlus s) := by
  rw [read_eq_error_iff]
  constructor
  · intro h
    cases h with
    | natural _ _ h => exact (magnitude_eq_beyond_iff (by decide)).mp h
    | minus _ h => rcases magnitude_error h with h | h <;> cases h
  · intro h
    refine .natural ?_ ?_ ((magnitude_eq_beyond_iff (by decide)).mpr h)
    · rintro rfl
      exact not_overshoots_nil h
    · rintro ds rfl
      exact absurd h.isDigit (by decide)

/-- A text is too small for the digits behind its minus sign. -/
theorem read_eq_tooSmall_iff {kind : Kind} {s : List Char} :
    read kind s = .error .tooSmall ↔
      ∃ least ds, kind.least = some least ∧ s = '-' :: ds ∧ Overshoots least ds := by
  rw [read_eq_error_iff]
  constructor
  · intro h
    cases h with
    | natural _ _ h => rcases magnitude_error h with h | h <;> cases h
    | minus hleast h => exact ⟨_, _, hleast, rfl, (magnitude_eq_beyond_iff (by decide)).mp h⟩
  · rintro ⟨least, ds, hleast, rfl, h⟩
    exact .minus hleast ((magnitude_eq_beyond_iff (by decide)).mpr h)

/-- What is neither a number of the kind nor refused for another reason has an invalid digit. -/
theorem read_eq_invalidDigit_iff {kind : Kind} {s : List Char} :
    read kind s = .error .invalidDigit ↔ (∀ z, read kind s ≠ .ok z) ∧ s ≠ []
      ∧ ¬ Overshoots kind.greatest (afterPlus s)
      ∧ ¬ ∃ least ds, kind.least = some least ∧ s = '-' :: ds ∧ Overshoots least ds := by
  rw [← read_eq_tooLarge_iff, ← read_eq_tooSmall_iff, ne_eq s, ← @read_eq_empty_iff kind s]
  constructor
  · intro h
    simp [h]
  · rintro ⟨hok, hempty, hlarge, hsmall⟩
    cases h : read kind s with
    | ok z => exact absurd h (hok z)
    | error problem =>
        cases problem with
        | empty => exact absurd h hempty
        | invalidDigit => rfl
        | tooLarge => exact absurd h hlarge
        | tooSmall => exact absurd h hsmall

/-- A natural number beyond the span overshoots with all its digits. -/
theorem IsNatural.overshoots {s : List Char} {limit n : Nat} (h : IsNatural s n) (hlt : limit < n) :
    Overshoots limit (afterPlus s) :=
  (isNatural_iff_afterPlus.mp h).overshoots hlt

theorem read_signed64_eq_tooSmall_iff {s : List Char} :
    read signed64 s = .error .tooSmall ↔ ∃ ds, s = '-' :: ds ∧ Overshoots (2 ^ 63) ds := by
  rw [read_eq_tooSmall_iff]
  constructor
  · rintro ⟨least, ds, hleast, rfl, h⟩
    cases hleast
    exact ⟨ds, rfl, h⟩
  · rintro ⟨ds, rfl, h⟩
    exact ⟨2 ^ 63, ds, rfl, rfl, h⟩

/-- What has an invalid digit spells no whole number at all: one beyond the span is too large or
too small. -/
theorem read_signed64_eq_invalidDigit_iff {s : List Char} :
    read signed64 s = .error .invalidDigit ↔ s ≠ [] ∧ (∀ z, ¬ IsWhole s z)
      ∧ ¬ Overshoots (2 ^ 63 - 1) (afterPlus s) ∧ ¬ ∃ ds, s = '-' :: ds ∧ Overshoots (2 ^ 63) ds := by
  rw [← read_signed64_eq_tooSmall_iff, read_eq_invalidDigit_iff, ← read_eq_tooSmall_iff]
  constructor
  · rintro ⟨hok, hne, hlarge, hsmall⟩
    refine ⟨hne, fun z hz => ?_, hlarge, hsmall⟩
    have hout : z < -2 ^ 63 ∨ 2 ^ 63 ≤ z := by
      by_contra hin
      exact hok z (read_signed64_eq_ok_iff.mpr ⟨hz, by omega, by omega⟩)
    cases hz with
    | @natural _ n hn =>
        have hlt : 2 ^ 63 - 1 < n := by omega
        exact hlarge (hn.overshoots hlt)
    | minus hn =>
        exact hsmall (read_signed64_eq_tooSmall_iff.mpr ⟨_, rfl, hn.overshoots (by omega)⟩)
  · rintro ⟨hne, hwhole, hlarge, hsmall⟩
    exact ⟨fun z hz => hwhole z (read_signed64_eq_ok_iff.mp hz).1, hne, hlarge, hsmall⟩

theorem read_unsigned64_ne_tooSmall (s : List Char) : read unsigned64 s ≠ .error .tooSmall := by
  intro h
  obtain ⟨_, _, hleast, -⟩ := read_eq_tooSmall_iff.mp h
  cases hleast

theorem read_unsigned64_eq_invalidDigit_iff {s : List Char} :
    read unsigned64 s = .error .invalidDigit ↔ s ≠ [] ∧ (∀ n, ¬ IsNatural s n)
      ∧ ¬ Overshoots (2 ^ 64 - 1) (afterPlus s) := by
  rw [read_eq_invalidDigit_iff, ← read_eq_tooSmall_iff]
  constructor
  · rintro ⟨hok, hne, hlarge, -⟩
    refine ⟨hne, fun n hn => ?_, hlarge⟩
    have hlt : 2 ^ 64 - 1 < n := by
      by_contra hin
      exact hok n (read_unsigned64_eq_ok_iff.mpr ⟨n, hn, by omega, rfl⟩)
    exact hlarge (hn.overshoots hlt)
  · rintro ⟨hne, hnatural, hlarge⟩
    refine ⟨fun z hz => ?_, hne, hlarge, read_unsigned64_ne_tooSmall s⟩
    obtain ⟨n, hn, -⟩ := read_unsigned64_eq_ok_iff.mp hz
    exact hnatural n hn

end Numeral

open Numeral

/-! ## An argument -/

namespace Parameter

theorem read_eq_notPositive_iff {parameter : Parameter} {text : String} {z : Int} :
    parameter.read text = .error (.notPositive parameter z) ↔
      IsWhole (Text.trim text.toList) z ∧ -2 ^ 63 ≤ z ∧ z ≤ 0 := by
  rw [read_eq_error_iff]
  constructor
  · intro h
    cases h with
    | notPositive hwhole hlow hle => exact ⟨hwhole, hlow, hle⟩
  · rintro ⟨hwhole, hlow, hle⟩
    exact .notPositive hwhole hlow hle

theorem read_eq_notAnInteger_iff {parameter : Parameter} {text : String} {problem : Problem} :
    parameter.read text = .error (.notAnInteger parameter text problem) ↔
      Numeral.read signed64 (Text.trim text.toList) = .error problem := by
  constructor
  · intro h
    cases read_eq_error_iff.mp h with
    | notAnInteger _ hproblem => exact hproblem
  · intro h
    unfold read
    rw [h]

/-- What becomes of every text of an argument.  A text that spells a positive number of 64 bits, but
for white space around it, is that number; one that spells another whole number of 64 bits is not
positive; any other is no integer, and the text as it was given goes with what is wrong with it:
nothing left to read, digits that run beyond the greatest number or, behind a minus sign, beyond
the least, and else an invalid digit. -/
theorem read_decided (parameter : Parameter) (text : String) :
    let t := Text.trim text.toList
    let tooLarge := Overshoots (2 ^ 63 - 1) (afterPlus t)
    let tooSmall := ∃ ds, t = '-' :: ds ∧ Overshoots (2 ^ 63) ds
    (∀ s, Text.IsTrimmed text.toList s ↔ s = t)
    ∧ (∀ n, parameter.read text = .ok n ↔ IsNatural t n ∧ 1 ≤ n ∧ n ≤ 2 ^ 63 - 1)
    ∧ (∀ z, parameter.read text = .error (.notPositive parameter z) ↔
        IsWhole t z ∧ -2 ^ 63 ≤ z ∧ z ≤ 0)
    ∧ (∀ e, parameter.read text = .error e →
        (∃ z, e = .notPositive parameter z) ∨ ∃ problem, e = .notAnInteger parameter text problem)
    ∧ (parameter.read text = .error (.notAnInteger parameter text .empty) ↔ t = [])
    ∧ (parameter.read text = .error (.notAnInteger parameter text .tooLarge) ↔ tooLarge)
    ∧ (parameter.read text = .error (.notAnInteger parameter text .tooSmall) ↔ tooSmall)
    ∧ (parameter.read text = .error (.notAnInteger parameter text .invalidDigit) ↔
        t ≠ [] ∧ (∀ z, ¬ IsWhole t z) ∧ ¬ tooLarge ∧ ¬ tooSmall) := by
  intro t tooLarge tooSmall
  refine ⟨fun _ => Text.isTrimmed_iff, ?_, fun _ => read_eq_notPositive_iff, ?_,
    read_eq_notAnInteger_iff.trans read_eq_empty_iff,
    read_eq_notAnInteger_iff.trans read_eq_tooLarge_iff,
    read_eq_notAnInteger_iff.trans read_signed64_eq_tooSmall_iff,
    read_eq_notAnInteger_iff.trans read_signed64_eq_invalidDigit_iff⟩
  · intro n
    rw [read_eq_ok_iff]
    constructor
    · rintro ⟨hspells, hpos, hlt⟩
      exact ⟨hspells, hpos, by omega⟩
    · rintro ⟨hspells, hpos, hle⟩
      exact ⟨hspells, hpos, by omega⟩
  · intro e he
    cases read_eq_error_iff.mp he with
    | notAnInteger _ _ => exact .inr ⟨_, rfl⟩
    | notPositive _ _ _ => exact .inl ⟨_, rfl⟩

/-- One more than the greatest number is too large, behind zeros and whatever follows it; behind the
greatest number itself, the character that follows is to blame.  Zero with a minus sign is zero. -/
theorem read_decided_beyond :
    count.read "\u2003+009223372036854775808x"
        = .error (.notAnInteger .count "\u2003+009223372036854775808x" .tooLarge)
    ∧ length.read "-9223372036854775809-"
        = .error (.notAnInteger .length "-9223372036854775809-" .tooSmall)
    ∧ count.read "9223372036854775807x"
        = .error (.notAnInteger .count "9223372036854775807x" .invalidDigit)
    ∧ ¬ Overshoots (2 ^ 63 - 1) "9223372036854775807x".toList
    ∧ count.read "-0" = .error (.notPositive .count 0) := by
  obtain ⟨-, -, -, -, -, hlarge, -, -⟩ := read_decided .count "\u2003+009223372036854775808x"
  obtain ⟨-, -, -, -, -, -, hsmall, -⟩ := read_decided .length "-9223372036854775809-"
  obtain ⟨-, -, -, -, -, -, -, hdigit⟩ := read_decided .count "9223372036854775807x"
  obtain ⟨-, -, hpositive, -⟩ := read_decided .count "-0"
  have hx : count.read "9223372036854775807x"
      = .error (.notAnInteger .count "9223372036854775807x" .invalidDigit) := rfl
  have hzero : IsWhole (Text.trim "-0".toList) (-(0 : Nat)) := .minus (by decide)
  exact ⟨hlarge.mpr ⟨"009223372036854775808".toList, 2 ^ 63, by decide, by decide, by decide⟩,
    hsmall.mpr ⟨_, rfl, "9223372036854775809".toList, 2 ^ 63 + 1, by decide, by decide, by decide⟩,
    hx, (hdigit.mp hx).2.2.1, (hpositive 0).mpr ⟨hzero, by decide, by decide⟩⟩

end Parameter

/-! ## The limit on the depth -/

namespace Config

theorem withMaxDepthText_eq_error_iff {c : Config} {text : String} {e : ConfigError} :
    c.withMaxDepthText (some text) = .error e ↔ ∃ problem,
      Numeral.read unsigned64 (Text.trim text.toList) = .error problem
        ∧ e = .invalidMaxDepth text problem := by
  simp only [withMaxDepthText]
  constructor
  · intro h
    split at h
    · next problem hproblem =>
        cases h
        exact ⟨problem, hproblem, rfl⟩
    · cases h
  · rintro ⟨problem, hproblem, rfl⟩
    rw [hproblem]

theorem withMaxDepthText_eq_invalidMaxDepth_iff {c : Config} {text : String} {problem : Problem} :
    c.withMaxDepthText (some text) = .error (.invalidMaxDepth text problem) ↔
      Numeral.read unsigned64 (Text.trim text.toList) = .error problem := by
  rw [withMaxDepthText_eq_error_iff]
  constructor
  · rintro ⟨_, h, heq⟩
    cases heq
    exact h
  · exact fun h => ⟨problem, h, rfl⟩

/-- What becomes of every text of the limit.  Only the limit is changed, whatever it was before, and
the text has no other number in it than a natural one of 64 bits: a minus sign in front is an
invalid digit, so nothing is ever too small. -/
theorem withMaxDepthText_decided (c : Config) :
    c.withMaxDepthText none = .ok ⟨c.termCount, c.targetLength, none⟩
    ∧ (∀ limit text, (⟨c.termCount, c.targetLength, limit⟩ : Config).withMaxDepthText text
        = c.withMaxDepthText text)
    ∧ ∀ text : String,
      let t := Text.trim text.toList
      let tooLarge := Overshoots (2 ^ 64 - 1) (afterPlus t)
      (∀ s, Text.IsTrimmed text.toList s ↔ s = t)
      ∧ (∀ c', c.withMaxDepthText (some text) = .ok c' ↔
          ∃ n, IsNatural t n ∧ n ≤ 2 ^ 64 - 1 ∧ c' = ⟨c.termCount, c.targetLength, some n⟩)
      ∧ (∀ e, c.withMaxDepthText (some text) = .error e →
          ∃ problem, problem ≠ .tooSmall ∧ e = .invalidMaxDepth text problem)
      ∧ (c.withMaxDepthText (some text) = .error (.invalidMaxDepth text .empty) ↔ t = [])
      ∧ (c.withMaxDepthText (some text) = .error (.invalidMaxDepth text .tooLarge) ↔ tooLarge)
      ∧ (c.withMaxDepthText (some text) = .error (.invalidMaxDepth text .invalidDigit) ↔
          t ≠ [] ∧ (∀ n, ¬ IsNatural t n) ∧ ¬ tooLarge)
      ∧ (t.head? = some '-' →
          c.withMaxDepthText (some text) = .error (.invalidMaxDepth text .invalidDigit)) := by
  refine ⟨rfl, ?_, fun text => ?_⟩
  · intro limit text
    cases text with
    | none => rfl
    | some text => rfl
  · intro t tooLarge
    refine ⟨fun _ => Text.isTrimmed_iff, ?_, ?_,
      withMaxDepthText_eq_invalidMaxDepth_iff.trans read_eq_empty_iff,
      withMaxDepthText_eq_invalidMaxDepth_iff.trans read_eq_tooLarge_iff,
      withMaxDepthText_eq_invalidMaxDepth_iff.trans read_unsigned64_eq_invalidDigit_iff, ?_⟩
    · intro c'
      rw [withMaxDepthText_eq_ok_iff]
      constructor
      · rintro ⟨_, hlimit, rfl⟩
        cases hlimit with
        | spelled hn hlt => exact ⟨_, hn, by omega, rfl⟩
      · rintro ⟨n, hn, hle, rfl⟩
        exact ⟨some n, .spelled hn (by omega), rfl⟩
    · intro e he
      obtain ⟨problem, hproblem, rfl⟩ := withMaxDepthText_eq_error_iff.mp he
      refine ⟨problem, ?_, rfl⟩
      rintro rfl
      exact read_unsigned64_ne_tooSmall _ hproblem
    · intro hhead
      obtain ⟨ds, hds⟩ := List.head?_eq_some_iff.mp hhead
      rw [withMaxDepthText_eq_invalidMaxDepth_iff]
      change Numeral.read unsigned64 t = _
      rw [hds]
      exact read_sign rfl ds

/-- The greatest number of 64 bits is a limit and one more is too large; a minus sign is wrong even
in front of zero. -/
theorem withMaxDepthText_decided_greatest :
    default.withMaxDepthText (some "+018446744073709551615") = .ok ⟨20, 250, some (2 ^ 64 - 1)⟩
    ∧ default.withMaxDepthText (some "18446744073709551616.")
        = .error (.invalidMaxDepth "18446744073709551616." .tooLarge)
    ∧ default.withMaxDepthText (some " -0") = .error (.invalidMaxDepth " -0" .invalidDigit) := by
  obtain ⟨-, -, htext⟩ := withMaxDepthText_decided default
  obtain ⟨-, hok, -⟩ := htext "+018446744073709551615"
  obtain ⟨-, -, -, -, hlarge, -⟩ := htext "18446744073709551616."
  obtain ⟨-, -, -, -, -, -, hminus⟩ := htext " -0"
  exact ⟨(hok _).mpr ⟨2 ^ 64 - 1, .plus (by decide), by decide, rfl⟩,
    hlarge.mpr ⟨"18446744073709551616".toList, 2 ^ 64, by decide, by decide, by decide⟩,
    hminus (by decide)⟩

end Config
end RandomTerms
