/-
# What arguments are accepted

The arguments are looked at in a fixed order, and the first fault decides: how many there are, then
the first, then the second, and only then whether the first is even.  `Decides` says this as a
relation, in which an argument is either admitted as a number or refused with an error, and
`ofArgs_eq_iff` says that the settings are read just so.

Whether an argument is admitted is said by what it spells, so the order in which a numeral is read
plays no part in it.  The same is said of the text that may limit the depth (`Limits`).
-/
import RandomTerms.Config
import RandomTerms.Proofs.Numerals

namespace RandomTerms

open Numeral

/-! ## One argument -/

namespace Parameter

/-- The text spells the positive number `n` of 64 bits, but for white space around it. -/
structure Admits (text : String) (n : Nat) : Prop where
  spells : IsNatural (Text.trim text.toList) n
  pos : 0 < n
  lt : n < 2 ^ 63

/-- The text is refused with this error: as no whole number of 64 bits, or as one that is not
positive. -/
inductive Refuses (parameter : Parameter) (text : String) : ConfigError → Prop
  | notAnInteger {problem : Problem} :
      (∀ z, IsWhole (Text.trim text.toList) z → z < -2 ^ 63 ∨ 2 ^ 63 ≤ z) →
      Numeral.read signed64 (Text.trim text.toList) = .error problem →
      Refuses parameter text (.notAnInteger parameter text problem)
  | notPositive {z : Int} :
      IsWhole (Text.trim text.toList) z → -2 ^ 63 ≤ z → z ≤ 0 →
      Refuses parameter text (.notPositive parameter z)

/-- An argument that is admitted has digits, plus signs and white space in it. -/
theorem Admits.mem {text : String} {n : Nat} (h : Admits text n) {x : Char}
    (hx : x ∈ text.toList) : Text.isBlank x = true ∨ x.isDigit = true ∨ x = '+' := by
  cases hb : Text.isBlank x with
  | true => exact .inl rfl
  | false => exact .inr (h.spells.isDigit_or_eq_plus x (Text.mem_trim hx hb))

theorem read_eq_ok_iff {parameter : Parameter} {text : String} {n : Nat} :
    parameter.read text = .ok n ↔ Admits text n := by
  unfold read
  constructor
  · intro h
    split at h
    · cases h
    · next z hz =>
        obtain ⟨hwhole, -, hlt⟩ := read_signed64_eq_ok_iff.mp hz
        split at h
        · next hpos =>
            cases h
            exact ⟨hwhole.isNatural_of_pos hpos, by omega, by omega⟩
        · cases h
  · rintro ⟨hspells, hpos, hlt⟩
    have hz : Numeral.read signed64 (Text.trim text.toList) = .ok (n : Int) :=
      read_signed64_eq_ok_iff.mpr ⟨.natural hspells, by omega, by omega⟩
    rw [hz]
    exact if_pos (Int.natCast_pos.mpr hpos)

theorem read_eq_error_iff {parameter : Parameter} {text : String} {e : ConfigError} :
    parameter.read text = .error e ↔ parameter.Refuses text e := by
  unfold read
  constructor
  · intro h
    split at h
    · next problem hproblem =>
        cases h
        refine .notAnInteger (fun z hz => ?_) hproblem
        refine Classical.byContradiction fun hin => ?_
        have hok := read_signed64_eq_ok_iff.mpr ⟨hz, by omega, by omega⟩
        rw [hproblem] at hok
        cases hok
    · next z hz =>
        obtain ⟨hwhole, hlow, -⟩ := read_signed64_eq_ok_iff.mp hz
        split at h
        · cases h
        · next hpos =>
            cases h
            exact .notPositive hwhole hlow (Int.not_lt.mp hpos)
  · intro h
    cases h with
    | notAnInteger _ hproblem => rw [hproblem]
    | @notPositive z hwhole hlow hle =>
        have hz : Numeral.read signed64 (Text.trim text.toList) = .ok z :=
          read_signed64_eq_ok_iff.mpr ⟨hwhole, hlow, by omega⟩
        rw [hz]
        exact if_neg (Int.not_lt.mpr hle)

/-- The errors about an argument name the argument and what was given for it. -/
theorem Refuses.ne_invalidMaxDepth {parameter : Parameter} {text : String} {e : ConfigError}
    (h : parameter.Refuses text e) (value : String) (problem : Problem) :
    e ≠ .invalidMaxDepth value problem := by
  rintro rfl
  cases h

end Parameter

open Parameter

/-! ## All arguments -/

namespace Config

/-- What becomes of the arguments. -/
inductive Decides : List String → Except ConfigError Config → Prop
  | default : Decides [] (.ok ⟨20, 250, none⟩)
  | arity {args : List String} :
      args.length ≠ 0 → args.length ≠ 2 → Decides args (.error (.arity args.length))
  /-- The first argument is at fault, whatever the second is. -/
  | count {first second : String} {e : ConfigError} :
      Parameter.count.Refuses first e → Decides [first, second] (.error e)
  /-- The second is at fault, whether the first is even or not. -/
  | length {first second : String} {n : Nat} {e : ConfigError} :
      Admits first n → Parameter.length.Refuses second e → Decides [first, second] (.error e)
  | odd {first second : String} {n l : Nat} :
      Admits first n → Admits second l → n % 2 = 1 →
      Decides [first, second] (.error (.oddTermCount n))
  | even {first second : String} {n l : Nat} :
      Admits first n → Admits second l → n % 2 = 0 → Decides [first, second] (.ok ⟨n, l, none⟩)

/-- Two arguments, once it is known how each of them is read. -/
theorem ofArgs_pair (first second : String) :
    ofArgs [first, second] = (Parameter.count.read first).bind fun n =>
      (Parameter.length.read second).bind fun l =>
        if n % 2 = 0 then .ok ⟨n, l, none⟩ else .error (.oddTermCount n) := rfl

theorem decides_ofArgs (args : List String) : Decides args (ofArgs args) := by
  match args with
  | [] => exact .default
  | [_] => exact .arity (by simp) (by simp)
  | _ :: _ :: _ :: _ => exact .arity (by simp) (by simp)
  | [first, second] =>
      rw [ofArgs_pair]
      cases hn : Parameter.count.read first with
      | error e => exact .count (read_eq_error_iff.mp hn)
      | ok n =>
          cases hl : Parameter.length.read second with
          | error e => exact .length (read_eq_ok_iff.mp hn) (read_eq_error_iff.mp hl)
          | ok l =>
              simp only [Except.bind]
              split
              · next heven => exact .even (read_eq_ok_iff.mp hn) (read_eq_ok_iff.mp hl) heven
              · next hodd =>
                  have hone : n % 2 = 1 := by omega
                  exact .odd (read_eq_ok_iff.mp hn) (read_eq_ok_iff.mp hl) hone

theorem Decides.ofArgs_eq {args : List String} {r : Except ConfigError Config} :
    Decides args r → ofArgs args = r := by
  intro h
  cases h with
  | default => rfl
  | arity hzero htwo =>
      match args with
      | [] => exact absurd rfl hzero
      | [_] => rfl
      | [_, _] => exact absurd rfl htwo
      | _ :: _ :: _ :: _ => rfl
  | count he => rw [ofArgs_pair, read_eq_error_iff.mpr he]; rfl
  | length hn he => rw [ofArgs_pair, read_eq_ok_iff.mpr hn, read_eq_error_iff.mpr he]; rfl
  | odd hn hl hodd =>
      rw [ofArgs_pair, read_eq_ok_iff.mpr hn, read_eq_ok_iff.mpr hl]
      exact if_neg (by omega)
  | even hn hl heven =>
      rw [ofArgs_pair, read_eq_ok_iff.mpr hn, read_eq_ok_iff.mpr hl]
      exact if_pos heven

/-- The settings are read just as the arguments decide. -/
theorem ofArgs_eq_iff {args : List String} {r : Except ConfigError Config} :
    ofArgs args = r ↔ Decides args r := by
  constructor
  · rintro rfl
    exact decides_ofArgs args
  · exact Decides.ofArgs_eq

theorem ofArgs_pair_eq_ok_iff {first second : String} {c : Config} :
    ofArgs [first, second] = .ok c ↔
      ∃ n l, Admits first n ∧ Admits second l ∧ n % 2 = 0 ∧ c = ⟨n, l, none⟩ := by
  rw [ofArgs_eq_iff]
  constructor
  · intro h
    cases h with
    | even hn hl heven => exact ⟨_, _, hn, hl, heven, rfl⟩
  · rintro ⟨n, l, hn, hl, heven, rfl⟩
    exact .even hn hl heven

theorem mem_of_ofArgs {args : List String} {c : Config} (h : ofArgs args = .ok c) {text : String}
    (htext : text ∈ args) {x : Char} (hx : x ∈ text.toList) :
    Text.isBlank x = true ∨ x.isDigit = true ∨ x = '+' := by
  cases ofArgs_eq_iff.mp h with
  | default => cases htext
  | even hn hl _ =>
      rcases List.mem_cons.mp htext with rfl | hsecond
      · exact hn.mem hx
      · obtain rfl := List.mem_singleton.mp hsecond
        exact hl.mem hx

/-- An error about the arguments is none about the depth. -/
theorem ofArgs_ne_invalidMaxDepth (args : List String) (text : String) (problem : Problem) :
    ofArgs args ≠ .error (.invalidMaxDepth text problem) := by
  intro h
  have hd := ofArgs_eq_iff.mp h
  cases hd with
  | count he => exact he.ne_invalidMaxDepth text problem rfl
  | length _ he => exact he.ne_invalidMaxDepth text problem rfl

theorem isUsage_of_ofArgs {args : List String} {e : ConfigError} (h : ofArgs args = .error e) :
    e.isUsage = true := by
  cases e with
  | invalidMaxDepth text problem => exact absurd h (ofArgs_ne_invalidMaxDepth args text problem)
  | arity _ => rfl
  | notAnInteger _ _ _ => rfl
  | notPositive _ _ => rfl
  | oddTermCount _ => rfl

/-- The arguments decide alone, the first fault first.  Two of them are accepted exactly if both
spell a positive number of 64 bits, the first an even one; accepted settings ask for a positive and
even number of terms and a positive length; and no error is about the depth. -/
theorem ofArgs_decided :
    (∀ args r, ofArgs args = r ↔ Decides args r)
    ∧ (∀ first second c, ofArgs [first, second] = .ok c ↔
        ∃ n l, (IsNatural (Text.trim first.toList) n ∧ 1 ≤ n ∧ n ≤ 2 ^ 63 - 1)
          ∧ (IsNatural (Text.trim second.toList) l ∧ 1 ≤ l ∧ l ≤ 2 ^ 63 - 1)
          ∧ n % 2 = 0 ∧ c = ⟨n, l, none⟩)
    ∧ (∀ args c, ofArgs args = .ok c →
        0 < c.termCount ∧ c.termCount % 2 = 0 ∧ 0 < c.targetLength ∧ c.maxDepth = none
          ∧ 2 * c.pairCount = c.termCount)
    ∧ ∀ args text problem, ofArgs args ≠ .error (.invalidMaxDepth text problem) := by
  have hadmits (text : String) (n : Nat) :
      Admits text n ↔ IsNatural (Text.trim text.toList) n ∧ 1 ≤ n ∧ n ≤ 2 ^ 63 - 1 := by
    constructor
    · rintro ⟨hspells, hpos, hlt⟩
      exact ⟨hspells, hpos, by omega⟩
    · rintro ⟨hspells, hpos, hle⟩
      exact ⟨hspells, hpos, by omega⟩
  refine ⟨fun _ _ => ofArgs_eq_iff, ?_, ?_, ofArgs_ne_invalidMaxDepth⟩
  · intro first second c
    simp only [ofArgs_pair_eq_ok_iff, hadmits]
  · intro args c h
    have htwo := two_mul_pairCount_of_ofArgs h
    cases ofArgs_eq_iff.mp h with
    | default => exact ⟨by decide, rfl, by decide, rfl, htwo⟩
    | even hn hl heven => exact ⟨hn.pos, heven, hl.pos, rfl, htwo⟩

/-- An odd number of terms with a length that is not positive is refused for the length; white
space, a plus sign, zeros in front and the greatest number of all do no harm. -/
theorem ofArgs_decided_tied :
    ofArgs ["7", "-0"] = .error (.notPositive .length 0)
      ∧ Admits "\u3000+0006\n" 6 ∧ Admits "9223372036854775807" (2 ^ 63 - 1)
      ∧ (let c : Config := ⟨6, 2 ^ 63 - 1, none⟩
        ofArgs ["\u3000+0006\n", "9223372036854775807"] = .ok c
          ∧ 0 < c.termCount ∧ c.termCount % 2 = 0 ∧ 0 < c.targetLength
          ∧ 2 * c.pairCount = c.termCount) := by
  obtain ⟨hdecides, hpair, hok, -⟩ := ofArgs_decided
  have hseven : Admits "7" 7 := ⟨.plain (by decide), by decide, by decide⟩
  have hzero : IsWhole (Text.trim "-0".toList) (-(0 : Nat)) := .minus (by decide)
  have hsix : Admits "\u3000+0006\n" 6 := ⟨.plus (by decide), by decide, by decide⟩
  have hgreatest : Admits "9223372036854775807" (2 ^ 63 - 1) :=
    ⟨.plain (by decide), by decide, by decide⟩
  have hread : ofArgs ["\u3000+0006\n", "9223372036854775807"] = .ok ⟨6, 2 ^ 63 - 1, none⟩ :=
    (hpair _ _ _).mpr ⟨6, 2 ^ 63 - 1, ⟨hsix.spells, by decide, by decide⟩,
      ⟨hgreatest.spells, by decide, by decide⟩, rfl, rfl⟩
  obtain ⟨hcount, heven, hlength, -, htwo⟩ := hok _ _ hread
  exact ⟨(hdecides _ _).mpr (.length hseven (.notPositive hzero (by decide) (by decide))), hsix,
    hgreatest, hread, hcount, heven, hlength, htwo⟩

/-! ## The text of a limit -/

/-- Without a text there is no limit; a text that spells a natural number of 64 bits, but for white
space around it, sets this one. -/
inductive Limits : Option String → Option Nat → Prop
  | absent : Limits none none
  | spelled {text : String} {n : Nat} :
      IsNatural (Text.trim text.toList) n → n < 2 ^ 64 → Limits (some text) (some n)

theorem withMaxDepthText_eq_ok_iff {c c' : Config} {text : Option String} :
    c.withMaxDepthText text = .ok c' ↔
      ∃ limit, Limits text limit ∧ c' = ⟨c.termCount, c.targetLength, limit⟩ := by
  cases text with
  | none =>
      constructor
      · intro h
        cases h
        exact ⟨none, .absent, rfl⟩
      · rintro ⟨_, ⟨⟩, rfl⟩
        rfl
  | some text =>
      simp only [withMaxDepthText]
      constructor
      · intro h
        split at h
        · cases h
        · next z hz =>
            obtain ⟨n, hn, hlt, rfl⟩ := read_unsigned64_eq_ok_iff.mp hz
            cases h
            exact ⟨some n, .spelled hn hlt, rfl⟩
      · rintro ⟨_, hlimit, rfl⟩
        cases hlimit with
        | spelled hn hlt =>
            rw [read_unsigned64_eq_ok_iff.mpr ⟨_, hn, hlt, rfl⟩]
            rfl

/-! ## Settings that could have been read -/

/-- The number of terms and the length of each are positive and fit into 64 bits with a sign, and
the first is even. -/
structure WellFormed (c : Config) : Prop where
  count_pos : 0 < c.termCount
  count_even : c.termCount % 2 = 0
  count_lt : c.termCount < 2 ^ 63
  length_pos : 0 < c.targetLength
  length_lt : c.targetLength < 2 ^ 63

theorem wellFormed_default : default.WellFormed := by
  constructor <;> decide

theorem wellFormed_of_ofArgs {args : List String} {c : Config} (h : ofArgs args = .ok c) :
    c.WellFormed := by
  cases ofArgs_eq_iff.mp h with
  | default => exact wellFormed_default
  | even hn hl heven => exact ⟨hn.pos, heven, hn.lt, hl.pos, hl.lt⟩

/-- The limit on the depth has no part in it. -/
theorem WellFormed.limit {c : Config} (h : c.WellFormed) (limit : Option Nat) :
    WellFormed ⟨c.termCount, c.targetLength, limit⟩ :=
  ⟨h.count_pos, h.count_even, h.count_lt, h.length_pos, h.length_lt⟩

/-- The greatest number of 64 bits with a sign is odd. -/
theorem WellFormed.count_le {c : Config} (h : c.WellFormed) : c.termCount ≤ 2 ^ 63 - 2 := by
  have heven := h.count_even
  have hlt := h.count_lt
  omega

theorem WellFormed.two_mul_pairCount {c : Config} (h : c.WellFormed) :
    2 * c.pairCount = c.termCount :=
  Nat.mul_div_cancel' (Nat.dvd_of_mod_eq_zero h.count_even)

theorem maxDepth_of_ofArgs {args : List String} {c : Config} (h : ofArgs args = .ok c) :
    c.maxDepth = none := by
  cases ofArgs_eq_iff.mp h <;> rfl

end Config
end RandomTerms
