/-
# Bytes that spell a text

Decoding and encoding agree: the bytes of a text are decoded to this text, and bytes that are
decoded to a text are the bytes of it (`ofUtf8?_eq_some_iff`).  So a sequence of bytes is
well-formed exactly if it is the encoding of some text, and what is not is told apart from every
text by a U+FFFD in its lossy reading.

The decoder goes by a table of first bytes, with bounds for the second byte in some of its rows; the
encoder computes with the code point.  What the two have in common is the shape of a sequence: its
first byte, and six bits of the code point in each byte after it (`firstByte`, `lastBytes`).  That
the table says the same as the shape is arithmetic, one row at a time (`exists_lead?_iff`).
-/
import Mathlib.Algebra.Group.Nat.Defs
import RandomTerms.Text.Utf8

namespace RandomTerms.Text

/-! ## The shape of a sequence -/

/-- The last `more` bytes of the sequence of a code point. -/
def lastBytes : (more v : Nat) → List UInt8
  | 0, _ => []
  | more + 1, v => UInt8.ofNat (v / 64 ^ more % 64 + 0x80) :: lastBytes more v

/-- How many bytes the sequence of a code point has after its first. -/
def lastCount (v : Nat) : Nat :=
  if v ≤ 0x7f then 0 else if v ≤ 0x7ff then 1 else if v ≤ 0xffff then 2 else 3

/-- The first byte of the sequence of a code point. -/
def firstByte (v : Nat) : Nat :=
  if v ≤ 0x7f then v
  else if v ≤ 0x7ff then v / 64 + 0xc0
  else if v ≤ 0xffff then v / 4096 + 0xe0
  else v / 262144 + 0xf0

/-- The four lengths of a sequence. -/
theorem sequence_cases (v : Nat) :
    (v ≤ 0x7f ∧ lastCount v = 0 ∧ firstByte v = v)
      ∨ (0x80 ≤ v ∧ v ≤ 0x7ff ∧ lastCount v = 1 ∧ firstByte v = v / 64 + 0xc0)
      ∨ (0x800 ≤ v ∧ v ≤ 0xffff ∧ lastCount v = 2 ∧ firstByte v = v / 4096 + 0xe0)
      ∨ (0x10000 ≤ v ∧ lastCount v = 3 ∧ firstByte v = v / 262144 + 0xf0) := by
  unfold lastCount firstByte
  split
  · omega
  · split
    · omega
    · split
      · omega
      · omega

theorem toNat_lt_of_char (c : Char) : c.toNat < 0x110000 := by
  rcases c.valid with h | h
  · exact Nat.lt_trans h (by decide)
  · exact h.2

theorem firstByte_lt (c : Char) : firstByte c.toNat < 256 := by
  have hlt := toNat_lt_of_char c
  have hcases := sequence_cases c.toNat
  omega

theorem utf8EncodeChar_eq (c : Char) :
    String.utf8EncodeChar c
      = UInt8.ofNat (firstByte c.toNat) :: lastBytes (lastCount c.toNat) c.toNat := by
  have hlt := toNat_lt_of_char c
  have hval : c.val.toNat = c.toNat := rfl
  simp only [String.utf8EncodeChar, hval, firstByte, lastCount]
  split
  · rfl
  · split
    · have hmod : c.toNat / 64 % 32 = c.toNat / 64 := Nat.mod_eq_of_lt (by omega)
      simp [lastBytes, hmod]
    · split
      · have hmod : c.toNat / 4096 % 16 = c.toNat / 4096 := Nat.mod_eq_of_lt (by omega)
        simp [lastBytes, hmod]
      · have hmod : c.toNat / 262144 % 8 = c.toNat / 262144 := Nat.mod_eq_of_lt (by omega)
        simp [lastBytes, hmod]

/-! ## The bytes after the first -/

/-- The bytes are taken exactly if they are the last bytes of the code point, and the first of them
is in its bounds. -/
theorem continuation_eq_some_iff {more : Nat} :
    ∀ {low high value v : Nat} {bytes rest : List UInt8}, 0x80 ≤ low → high ≤ 0xbf →
      (continuation low high value more bytes = (some v, rest) ↔
        v / 64 ^ more = value
          ∧ (0 < more → low ≤ v / 64 ^ (more - 1) % 64 + 0x80
            ∧ v / 64 ^ (more - 1) % 64 + 0x80 ≤ high)
          ∧ bytes = lastBytes more v ++ rest) := by
  induction more with
  | zero =>
      intro low high value v bytes rest _ _
      simp [continuation, lastBytes, eq_comm]
  | succ more ih =>
      intro low high value v bytes rest hl hh
      cases bytes with
      | nil => simp [continuation, lastBytes]
      | cons b bytes =>
          have hnext := @ih 0x80 0xbf (64 * value + (b.toNat - 0x80)) v bytes rest
            (Nat.le_refl _) (Nat.le_refl _)
          have hdiv : v / 64 ^ (more + 1) = v / 64 ^ more / 64 := by
            rw [Nat.pow_succ, Nat.div_div_eq_div_mul]
          have hbyte : b = UInt8.ofNat (v / 64 ^ more % 64 + 0x80) ↔
              b.toNat = v / 64 ^ more % 64 + 0x80 := by
            rw [← UInt8.toNat_inj, UInt8.toNat_ofNat']
            omega
          have hsix : v / 64 ^ (more - 1) % 64 < 64 := Nat.mod_lt _ (by decide)
          rw [hdiv, lastBytes, List.cons_append, List.cons.injEq, hbyte, continuation,
            show more + 1 - 1 = more from rfl]
          generalize v / 64 ^ more = q at hnext ⊢
          split
          · rw [hnext]
            constructor
            · rintro ⟨hvalue, -, htail⟩
              exact ⟨by omega, fun _ => by omega, by omega, htail⟩
            · rintro ⟨hvalue, -, hb, htail⟩
              exact ⟨by omega, fun _ => by omega, htail⟩
          · next hout =>
              constructor
              · intro h
                cases h
              · rintro ⟨-, hin, hb, -⟩
                exact absurd (hb ▸ hin (Nat.succ_pos _)) hout

/-! ## The table of first bytes -/

/-- The code point begins with the bits that the first byte contributes, and its second byte, if it
has one, is in the bounds. -/
def Lead.Fits (l : Lead) (v : Nat) : Prop :=
  v / 64 ^ l.more = l.bits
    ∧ (0 < l.more → l.low ≤ v / 64 ^ (l.more - 1) % 64 + 0x80
      ∧ v / 64 ^ (l.more - 1) % 64 + 0x80 ≤ l.high)

/-- A row of one byte fits the code point of its bits. -/
theorem exists_row_zero_iff {low high bits more v : Nat} :
    (∃ l, some (⟨0, low, high, bits⟩ : Lead) = some l ∧ l.more = more ∧ l.Fits v) ↔
      0 = more ∧ v = bits := by
  simp [Lead.Fits]

theorem exists_row_succ_iff (last : Nat) {low high bits more v : Nat} :
    (∃ l, some (⟨last + 1, low, high, bits⟩ : Lead) = some l ∧ l.more = more ∧ l.Fits v) ↔
      last + 1 = more ∧ v / 64 ^ (last + 1) = bits
        ∧ low ≤ v / 64 ^ last % 64 + 0x80 ∧ v / 64 ^ last % 64 + 0x80 ≤ high := by
  simp [Lead.Fits]

theorem not_exists_row {more v : Nat} :
    ¬ ∃ l : Lead, none = some l ∧ l.more = more ∧ l.Fits v := by
  simp

/-- A row of the table fits the code points of which it is the first byte, and no others; what is no
code point of a character fits none. -/
theorem exists_lead?_iff {b : UInt8} {v more : Nat} :
    (∃ l, lead? b = some l ∧ l.more = more ∧ l.Fits v) ↔
      v.isValidChar ∧ more = lastCount v ∧ b.toNat = firstByte v := by
  have hcases := sequence_cases v
  unfold lead? Nat.isValidChar
  generalize lastCount v = t at hcases ⊢
  generalize firstByte v = f at hcases ⊢
  generalize b.toNat = n
  dsimp only
  split
  · rw [exists_row_zero_iff]
    omega
  split
  · rw [iff_false_left not_exists_row]
    omega
  split
  · rw [exists_row_succ_iff 0, Nat.pow_zero, Nat.div_one]
    omega
  -- three bytes: E0, ED, and the others
  split
  · rw [exists_row_succ_iff 1]
    omega
  split
  · rw [exists_row_succ_iff 1]
    omega
  split
  · rw [exists_row_succ_iff 1]
    omega
  -- four bytes: F0, F1 to F3, and F4
  split
  · rw [exists_row_succ_iff 2]
    omega
  split
  · rw [exists_row_succ_iff 2]
    omega
  split
  · rw [exists_row_succ_iff 2]
    omega
  · rw [iff_false_left not_exists_row]
    omega

/-- The bounds are among the bytes that can follow at all. -/
theorem lead?_bounds {b : UInt8} {l : Lead} (h : lead? b = some l) :
    0x80 ≤ l.low ∧ l.high ≤ 0xbf := by
  simp only [lead?] at h
  repeat' split at h
  all_goals
    cases h
  all_goals
    simp

/-! ## Characters and texts -/

/-- A character stands at the head of the bytes exactly if its encoding does. -/
theorem piece_eq_some_iff {b : UInt8} {rest rest' : List UInt8} {c : Char} :
    piece b rest = (some c, rest') ↔ b :: rest = String.utf8EncodeChar c ++ rest' := by
  have hbyte : b = UInt8.ofNat (firstByte c.toNat) ↔ b.toNat = firstByte c.toNat := by
    rw [← UInt8.toNat_inj, UInt8.toNat_ofNat', Nat.mod_eq_of_lt (firstByte_lt c)]
  rw [utf8EncodeChar_eq, List.cons_append, List.cons.injEq, hbyte]
  constructor
  · intro h
    unfold piece at h
    split at h
    · cases h
    · next l hl =>
        obtain ⟨hlow, hhigh⟩ := lead?_bounds hl
        cases hc : continuation l.low l.high l.bits l.more rest with
        | mk value rest₁ =>
            rw [hc] at h
            cases value with
            | none => cases h
            | some v =>
                cases h
                obtain ⟨hbits, hsecond, htail⟩ := (continuation_eq_some_iff hlow hhigh).mp hc
                obtain ⟨hv, hmore, hfirst⟩ := exists_lead?_iff.mp ⟨l, hl, rfl, hbits, hsecond⟩
                have hval : (Char.ofNat v).toNat = v := by
                  rw [Char.ofNat, dif_pos hv]
                  rfl
                rw [hval, ← hmore]
                exact ⟨hfirst, htail⟩
  · rintro ⟨hfirst, htail⟩
    obtain ⟨l, hl, hmore, hbits, hsecond⟩ := exists_lead?_iff.mpr ⟨c.valid, rfl, hfirst⟩
    obtain ⟨hlow, hhigh⟩ := lead?_bounds hl
    have hc := (continuation_eq_some_iff hlow hhigh).mpr ⟨hbits, hsecond, hmore ▸ htail⟩
    simp only [piece, hl, hc, Option.map_some]
    exact congrArg (fun c => (some c, rest')) (Char.ofNat_toNat c)

/-- Bytes are cut into characters throughout exactly if they are their encoding. -/
theorem pieces_eq_map_some_iff {bytes : List UInt8} {s : List Char} :
    pieces bytes = s.map some ↔ bytes = utf8 s := by
  induction s generalizing bytes with
  | nil =>
      cases bytes with
      | nil => simp [pieces, utf8]
      | cons b rest => simp [pieces, utf8]
  | cons c s ih =>
      have hencode : utf8 (c :: s) = String.utf8EncodeChar c ++ utf8 s := rfl
      rw [hencode]
      cases bytes with
      | nil => simp [pieces, utf8EncodeChar_eq]
      | cons b rest =>
          rw [pieces, List.map_cons, List.cons.injEq, ih]
          constructor
          · rintro ⟨hc, hrest⟩
            exact piece_eq_some_iff.mp (Prod.ext hc hrest)
          · intro h
            have hpiece := piece_eq_some_iff.mpr h
            rw [hpiece]
            exact ⟨rfl, rfl⟩

theorem exists_map_some_of_not_mem {α : Type} :
    ∀ {l : List (Option α)}, none ∉ l → ∃ s : List α, l = s.map some
  | [], _ => ⟨[], rfl⟩
  | none :: _, h => absurd List.mem_cons_self h
  | some a :: _, h =>
      let ⟨s, hs⟩ := exists_map_some_of_not_mem fun hl => h (List.mem_cons_of_mem _ hl)
      ⟨a :: s, hs ▸ rfl⟩

theorem mapM_id_eq_some_iff {α : Type} {l : List (Option α)} :
    ∀ {s : List α}, l.mapM id = some s ↔ l = s.map some := by
  induction l with
  | nil =>
      intro s
      cases s <;> simp
  | cons o l ih =>
      intro s
      simp only [List.mapM_cons, id_eq, Option.bind_eq_bind, Option.bind_eq_some_iff, ih,
        Option.pure_def, Option.some.injEq]
      constructor
      · rintro ⟨a, rfl, s', rfl, rfl⟩
        rfl
      · intro h
        cases s with
        | nil => cases h
        | cons a s' =>
            cases h
            exact ⟨a, rfl, s', rfl, rfl⟩

/-- Bytes spell a text exactly if they are its encoding. -/
theorem ofUtf8?_eq_some_iff {bytes : List UInt8} {s : String} :
    ofUtf8? bytes = some s ↔ bytes = utf8 s.toList := by
  rw [ofUtf8?, Option.map_eq_some_iff]
  simp only [mapM_id_eq_some_iff, pieces_eq_map_some_iff]
  constructor
  · rintro ⟨cs, rfl, rfl⟩
    rw [String.toList_ofList]
  · intro h
    exact ⟨s.toList, h, String.ofList_toList⟩

theorem ofUtf8?_eq_none_iff {bytes : List UInt8} :
    ofUtf8? bytes = none ↔ ∀ s : String, bytes ≠ utf8 s.toList := by
  rw [Option.eq_none_iff_forall_ne_some]
  simp only [ne_eq, ofUtf8?_eq_some_iff]

/-- The lossy reading of the encoding of a text is the text. -/
theorem ofUtf8Lossy_utf8 (s : String) : ofUtf8Lossy (utf8 s.toList) = s := by
  rw [ofUtf8Lossy, pieces_eq_map_some_iff.mpr rfl, List.map_map]
  exact (congrArg String.ofList (List.map_id s.toList)).trans String.ofList_toList

/-- Bytes that are no encoding of a text show it in their lossy reading. -/
theorem mem_ofUtf8Lossy {bytes : List UInt8} (h : ∀ s : String, bytes ≠ utf8 s.toList) :
    '\ufffd' ∈ (ofUtf8Lossy bytes).toList := by
  have hnone : none ∈ pieces bytes := by
    refine Classical.byContradiction fun hmem => ?_
    obtain ⟨s, hs⟩ := exists_map_some_of_not_mem hmem
    refine h (String.ofList s) ?_
    rw [String.toList_ofList]
    exact pieces_eq_map_some_iff.mp hs
  rw [ofUtf8Lossy, String.toList_ofList]
  exact List.mem_map.mpr ⟨none, hnone, rfl⟩

end RandomTerms.Text
