/-
# Settings that are printed and read again

A number has many texts: its decimal digits, zeros in front of them, a plus sign in front of these,
and white space around it all.  These are all that is read as the number (`isNatural_trim_iff`), so
settings come back from their own texts in any such form, and from no others
(`ofTexts_pair_eq_ok_iff`).

That digits of value `n` are those of `n` behind zeros is an induction from the last digit, as that
is the end at which printing puts the digits (`exists_zeros`).
-/
import Mathlib.Data.List.Induction
import RandomTerms.Proofs.Settings

namespace RandomTerms

namespace Numeral

/-! ## The texts of a number -/

theorem digit_lt_ten {c : Char} (h : c.isDigit = true) : c.toNat - '0'.toNat < 10 := by
  have hnine : c.toNat ≤ 57 := (Char.isDigit_iff_toNat.mp h).2
  show c.toNat - 48 < 10
  omega

theorem digitChar_of_isDigit {c : Char} (h : c.isDigit = true) :
    (c.toNat - '0'.toNat).digitChar = c := by
  have hzero : 48 ≤ c.toNat := (Char.isDigit_iff_toNat.mp h).1
  apply Char.toNat_inj.mp
  rw [Nat.toNat_digitChar_of_lt_ten (digit_lt_ten h)]
  show 48 + (c.toNat - 48) = c.toNat
  omega

/-- Digits are those of their value, behind zeros. -/
theorem exists_zeros {ds : List Char} : ds ≠ [] → (∀ c ∈ ds, c.isDigit = true) →
    ∃ zeros, ds = List.replicate zeros '0' ++ Nat.toDigits 10 (Nat.ofDigitChars 10 ds 0) := by
  induction ds using List.reverseRecOn with
  | nil => exact fun hne => absurd rfl hne
  | append_singleton ds c ih =>
      intro _ hdigits
      obtain ⟨hds, hc⟩ := List.forall_mem_append.mp hdigits
      have hc : c.isDigit = true := hc c (List.mem_singleton_self c)
      have hlast : [c] = Nat.toDigits 10 (c.toNat - '0'.toNat) := by
        rw [Nat.toDigits_of_lt_base (digit_lt_ten hc), digitChar_of_isDigit hc]
      rw [Nat.ofDigitChars_append, Nat.ofDigitChars_cons, Nat.ofDigitChars_nil]
      by_cases hne : ds = []
      · subst hne
        refine ⟨0, ?_⟩
        rw [Nat.ofDigitChars_nil, Nat.mul_zero, Nat.zero_add]
        exact hlast
      · obtain ⟨zeros, hzeros⟩ := ih hne hds
        generalize Nat.ofDigitChars 10 ds 0 = m at hzeros
        subst hzeros
        rcases Nat.eq_zero_or_pos m with rfl | hm
        · -- The digits before the last are zeros only, so the last stands behind one zero more.
          refine ⟨zeros + 1, ?_⟩
          rw [Nat.mul_zero, Nat.zero_add, ← hlast, Nat.toDigits_zero, ← List.replicate_succ']
        · refine ⟨zeros, ?_⟩
          rw [← Nat.toDigits_append_toDigits (by decide) hm (digit_lt_ten hc), ← hlast,
            List.append_assoc]

theorem spells_iff {ds : List Char} {n : Nat} :
    Spells ds n ↔ ∃ zeros, ds = List.replicate zeros '0' ++ Nat.toDigits 10 n := by
  constructor
  · rintro ⟨hne, hdigits, rfl⟩
    exact exists_zeros hne hdigits
  · rintro ⟨zeros, rfl⟩
    refine ⟨fun h => Nat.toDigits_ne_nil (List.append_eq_nil_iff.mp h).2, ?_, ?_⟩
    · intro c hc
      rcases List.mem_append.mp hc with hc | hc
      · rw [List.eq_of_mem_replicate hc]
        rfl
      · exact Nat.isDigit_of_mem_toDigits (by decide) (by decide) hc
    · rw [Nat.ofDigitChars_append, Nat.ofDigitChars_replicate_zero, Nat.mul_zero,
        Nat.ofDigitChars_ten_toDigits]

theorem isNatural_iff {s : List Char} {n : Nat} : IsNatural s n ↔
    ∃ sign zeros, (sign = [] ∨ sign = ['+'])
      ∧ s = sign ++ (List.replicate zeros '0' ++ Nat.toDigits 10 n) := by
  constructor
  · intro h
    cases h with
    | plain h =>
        obtain ⟨zeros, hds⟩ := spells_iff.mp h
        exact ⟨[], zeros, .inl rfl, hds⟩
    | plus h =>
        obtain ⟨zeros, hds⟩ := spells_iff.mp h
        exact ⟨['+'], zeros, .inr rfl, congrArg ('+' :: ·) hds⟩
  · rintro ⟨_, zeros, rfl | rfl, rfl⟩
    · exact .plain (spells_iff.mpr ⟨zeros, rfl⟩)
    · exact .plus (spells_iff.mpr ⟨zeros, rfl⟩)

theorem isBlank_of_isDigit {c : Char} (h : c.isDigit = true) : Text.isBlank c = false := by
  have hlow : 48 ≤ c.toNat := (Char.isDigit_iff_toNat.mp h).1
  have hhigh : c.toNat ≤ 57 := (Char.isDigit_iff_toNat.mp h).2
  have hapart : ∀ r ∈ Text.blankRanges, r.2 < 48 ∨ 57 < r.1 := by decide
  rw [Text.isBlank, Text.inRanges, List.any_eq_false]
  intro r hr
  have hr := hapart r hr
  simp only [Bool.and_eq_true, decide_eq_true_eq]
  omega

theorem IsNatural.isBlank_eq_false {s : List Char} {n : Nat} (h : IsNatural s n) :
    ∀ c ∈ s, Text.isBlank c = false := by
  intro c hc
  rcases h.isDigit_or_eq_plus c hc with hdigit | rfl
  · exact isBlank_of_isDigit hdigit
  · rfl

/-- The text shows the number in decimal: white space may stand around it, and in front of its
digits a plus sign and zeros. -/
def Shows (text : String) (n : Nat) : Prop :=
  ∃ front sign zeros back,
    text.toList = front ++ (sign ++ (List.replicate zeros '0' ++ Nat.toDigits 10 n)) ++ back
    ∧ (∀ c ∈ front, Text.isBlank c = true) ∧ (sign = [] ∨ sign = ['+'])
    ∧ ∀ c ∈ back, Text.isBlank c = true

theorem shows_toString (n : Nat) : Shows (toString n) n := by
  refine ⟨[], [], 0, [], ?_, by simp, .inl rfl, by simp⟩
  rw [Nat.toString_eq_ofList_toDigits, String.toList_ofList]
  simp

/-- What is read as the number once white space is left out are the texts that show it. -/
theorem isNatural_trim_iff {text : String} {n : Nat} :
    IsNatural (Text.trim text.toList) n ↔ Shows text n := by
  constructor
  · intro h
    obtain ⟨⟨front, back, htext, hfront, hback⟩, -, -⟩ := Text.isTrimmed_trim text.toList
    obtain ⟨sign, zeros, hsign, ht⟩ := isNatural_iff.mp h
    rw [ht] at htext
    exact ⟨front, sign, zeros, back, htext, hfront, hsign, hback⟩
  · rintro ⟨front, sign, zeros, back, htext, hfront, hsign, hback⟩
    have h : IsNatural (sign ++ (List.replicate zeros '0' ++ Nat.toDigits 10 n)) n :=
      isNatural_iff.mpr ⟨sign, zeros, hsign, rfl⟩
    have htrimmed : Text.IsTrimmed text.toList
        (sign ++ (List.replicate zeros '0' ++ Nat.toDigits 10 n)) :=
      ⟨⟨front, back, htext, hfront, hback⟩,
        fun c hc => h.isBlank_eq_false c (List.mem_of_mem_head? hc),
        fun c hc => h.isBlank_eq_false c (List.mem_of_mem_getLast? hc)⟩
    rw [← Text.isTrimmed_iff.mp htrimmed]
    exact h

end Numeral

open Numeral

/-! ## Settings from texts -/

namespace Config

/-- Settings as they can be read: well formed, and the limit on the depth has 64 bits. -/
structure Readable (c : Config) : Prop extends c.WellFormed where
  limit_lt : ∀ limit ∈ c.maxDepth, limit < 2 ^ 64

/-- Reads the arguments and after them the text of the limit. -/
def ofTexts (args : List String) (limit : Option String) : Except ConfigError Config := do
  let c ← ofArgs args
  c.withMaxDepthText limit

theorem limits_iff {text : Option String} {limit : Option Nat} :
    Limits text limit ↔ Option.Rel Shows text limit ∧ ∀ n ∈ limit, n < 2 ^ 64 := by
  constructor
  · intro h
    cases h with
    | absent => exact ⟨.none, fun _ hn => nomatch hn⟩
    | spelled hn hlt =>
        refine ⟨.some (isNatural_trim_iff.mp hn), fun _ hm => ?_⟩
        cases hm
        exact hlt
  · rintro ⟨h, hlt⟩
    cases h with
    | none => exact .absent
    | some h => exact .spelled (isNatural_trim_iff.mpr h) (hlt _ rfl)

theorem ofTexts_eq_ok_iff {args : List String} {limit : Option String} {c : Config} :
    ofTexts args limit = .ok c ↔
      ofArgs args = .ok ⟨c.termCount, c.targetLength, none⟩ ∧ Limits limit c.maxDepth := by
  have hbind : ofTexts args limit = (ofArgs args).bind fun d => d.withMaxDepthText limit := rfl
  rw [hbind]
  constructor
  · intro h
    cases hargs : ofArgs args with
    | error e =>
        rw [hargs] at h
        cases h
    | ok d =>
        rw [hargs] at h
        obtain ⟨n, hn, rfl⟩ := withMaxDepthText_eq_ok_iff.mp h
        refine ⟨?_, hn⟩
        rw [← maxDepth_of_ofArgs hargs]
  · rintro ⟨hargs, hlimit⟩
    rw [hargs]
    exact withMaxDepthText_eq_ok_iff.mpr ⟨c.maxDepth, hlimit, rfl⟩

/-- Two arguments and a text of the limit give the settings that they show, if these can be read. -/
theorem ofTexts_pair_eq_ok_iff {first second : String} {limit : Option String} {c : Config} :
    ofTexts [first, second] limit = .ok c ↔ c.Readable ∧ Shows first c.termCount
      ∧ Shows second c.targetLength ∧ Option.Rel Shows limit c.maxDepth := by
  rw [ofTexts_eq_ok_iff, ofArgs_pair_eq_ok_iff, limits_iff]
  constructor
  · rintro ⟨⟨n, l, hn, hl, heven, hc⟩, hshows, hlt⟩
    obtain ⟨rfl, rfl, -⟩ := Config.mk.inj hc
    exact ⟨⟨⟨hn.pos, heven, hn.lt, hl.pos, hl.lt⟩, hlt⟩, isNatural_trim_iff.mp hn.spells,
      isNatural_trim_iff.mp hl.spells, hshows⟩
  · rintro ⟨hc, hfirst, hsecond, hshows⟩
    exact ⟨⟨c.termCount, c.targetLength, ⟨isNatural_trim_iff.mpr hfirst, hc.count_pos, hc.count_lt⟩,
      ⟨isNatural_trim_iff.mpr hsecond, hc.length_pos, hc.length_lt⟩, hc.count_even, rfl⟩, hshows,
      hc.limit_lt⟩

theorem readable_of_ofTexts {args : List String} {limit : Option String} {c : Config}
    (h : ofTexts args limit = .ok c) : c.Readable := by
  obtain ⟨hargs, hlimit⟩ := ofTexts_eq_ok_iff.mp h
  exact ⟨(wellFormed_of_ofArgs hargs).limit c.maxDepth, (limits_iff.mp hlimit).2⟩

theorem rel_shows_toString (limit : Option Nat) :
    Option.Rel Shows (limit.map toString) limit := by
  cases limit with
  | none => exact .none
  | some n => exact .some (shows_toString n)

/-- Settings that can be read are read from their own texts in decimal, and all settings that are
read, from whatever texts, are such.  White space around a text and, in front of its digits, a plus
sign and zeros make no difference, and no other texts give the same settings. -/
theorem ofTexts_decided :
    (∀ c : Config, c.Readable →
      ofTexts [toString c.termCount, toString c.targetLength] (c.maxDepth.map toString) = .ok c)
    ∧ (∀ args limit c, ofTexts args limit = .ok c → c.Readable)
    ∧ ∀ c : Config, c.Readable → ∀ first second limit,
        ofTexts [first, second] limit = .ok c ↔
          Shows first c.termCount ∧ Shows second c.targetLength
            ∧ Option.Rel Shows limit c.maxDepth := by
  refine ⟨fun c hc => ?_, fun _ _ _ => readable_of_ofTexts, fun c hc first second limit => ?_⟩
  · exact ofTexts_pair_eq_ok_iff.mpr
      ⟨hc, shows_toString _, shows_toString _, rel_shows_toString _⟩
  · rw [ofTexts_pair_eq_ok_iff]
    exact and_iff_right hc

/-- The greatest settings of all, from their own texts and from texts with all that may be added. -/
theorem ofTexts_decided_greatest :
    let c : Config := ⟨2 ^ 63 - 2, 2 ^ 63 - 1, some (2 ^ 64 - 1)⟩
    ofTexts ["9223372036854775806", "9223372036854775807"] (some "18446744073709551615") = .ok c
    ∧ c.Readable
    ∧ ofTexts ["\u3000+009223372036854775806", "9223372036854775807\t"]
        (some " +0018446744073709551615\n") = .ok c := by
  intro c
  obtain ⟨hown, hread, hshows⟩ := ofTexts_decided
  have hc : c.Readable := by
    refine ⟨⟨by decide, by decide, by decide, by decide, by decide⟩, fun limit hlimit => ?_⟩
    cases hlimit
    decide
  have hcount : toString (2 ^ 63 - 2 : Nat) = "9223372036854775806" := by rfl
  have hlength : toString (2 ^ 63 - 1 : Nat) = "9223372036854775807" := by rfl
  have hlimit : toString (2 ^ 64 - 1 : Nat) = "18446744073709551615" := by rfl
  have hplain : ofTexts [toString (2 ^ 63 - 2 : Nat), toString (2 ^ 63 - 1 : Nat)]
      (some (toString (2 ^ 64 - 1 : Nat))) = .ok c := hown c hc
  rw [hcount, hlength, hlimit] at hplain
  have hfirst : Shows "\u3000+009223372036854775806" c.termCount :=
    isNatural_trim_iff.mp (.plus (by decide))
  have hsecond : Shows "9223372036854775807\t" c.targetLength :=
    isNatural_trim_iff.mp (.plain (by decide))
  have hthird : Shows " +0018446744073709551615\n" (2 ^ 64 - 1) :=
    isNatural_trim_iff.mp (.plus (by decide))
  exact ⟨hplain, hread _ _ _ hplain, (hshows c hc _ _ _).mpr ⟨hfirst, hsecond, .some hthird⟩⟩

end Config
end RandomTerms
