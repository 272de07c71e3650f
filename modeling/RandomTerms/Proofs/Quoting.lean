/-
# Quoted texts can be read back

Between two double quotes every character is written so that it can be read off the front of what
stands there, whatever follows it (`unescape?_escapeBy`).  So no two texts are quoted alike, and a
text that looks like an escape is not quoted like the character that the escape stands for: the
backslash in it is escaped itself.

Which characters would not show is a matter of a table that grows with each version of Unicode.
Nothing here depends on the table beyond ASCII: `escapeBy` takes any set of characters instead, and
what is asked of the set, where anything is, is that the controls are in it.
-/
import RandomTerms.Text.Quoted

namespace RandomTerms.Text

/-! ## Quoting by any table -/

/-- One character between two double quotes, with `hides` for what would not show. -/
def escapeBy (hides : Char → Bool) (c : Char) : List Char :=
  match controlLetter? c with
  | some letter => ['\\', letter]
  | none =>
    if c = '"' ∨ c = '\\' then ['\\', c]
    else if hides c then codePointEscape c
    else [c]

/-- A text in double quotes, with `hides` for what would not show. -/
def quoteBy (hides : Char → Bool) (s : String) : String :=
  .ofList ('"' :: (s.toList.flatMap (escapeBy hides) ++ ['"']))

theorem quote_eq_quoteBy (s : String) : quote s = quoteBy isHidden s := rfl

/-- How a character is written: by a letter for a control, behind a backslash, by its code point, or
as itself. -/
inductive Escapes (hides : Char → Bool) : Char → List Char → Prop
  | letter {c letter : Char} : controlLetter? c = some letter → Escapes hides c ['\\', letter]
  | mark {c : Char} : c = '"' ∨ c = '\\' → Escapes hides c ['\\', c]
  | codePoint {c : Char} : hides c = true → Escapes hides c (codePointEscape c)
  | itself {c : Char} : c ≠ '\\' → controlLetter? c = none → hides c = false → Escapes hides c [c]

theorem escapes_escapeBy (hides : Char → Bool) (c : Char) :
    Escapes hides c (escapeBy hides c) := by
  unfold escapeBy
  split
  · next h => exact .letter h
  · next h =>
      split
      · next hmark => exact .mark hmark
      · next hmark =>
          split
          · next hhides => exact .codePoint hhides
          · next hshows =>
              exact .itself (fun hc => hmark (.inr hc)) h (Bool.eq_false_iff.mpr hshows)

theorem controlLetter?_cases {c letter : Char} (h : controlLetter? c = some letter) :
    (c = '\x00' ∧ letter = '0') ∨ (c = '\t' ∧ letter = 't') ∨ (c = '\n' ∧ letter = 'n')
      ∨ (c = '\r' ∧ letter = 'r') := by
  unfold controlLetter? at h
  split at h
  · next hc => exact .inl ⟨hc, (Option.some.inj h).symm⟩
  · split at h
    · next hc => exact .inr (.inl ⟨hc, (Option.some.inj h).symm⟩)
    · split at h
      · next hc => exact .inr (.inr (.inl ⟨hc, (Option.some.inj h).symm⟩))
      · split at h
        · next hc => exact .inr (.inr (.inr ⟨hc, (Option.some.inj h).symm⟩))
        · cases h

/-! ## Hexadecimal numbers -/

theorem exists_digitChar_of_mem {n : Nat} {c : Char} :
    c ∈ Nat.toDigits 16 n → ∃ d < 16, c = d.digitChar := by
  induction n using Nat.strongRecOn with
  | _ n ih =>
      intro hc
      rw [Nat.toDigits_eq_if (by decide)] at hc
      split at hc
      · next hlt => exact ⟨n, hlt, List.mem_singleton.mp hc⟩
      · rcases List.mem_append.mp hc with hc | hc
        · exact ih (n / 16) (by omega) hc
        · exact ⟨n % 16, Nat.mod_lt n (by decide), List.mem_singleton.mp hc⟩

/-- The value of a hexadecimal digit in lower case. -/
def hexDigitValue (c : Char) : Nat :=
  if c.isDigit then c.toNat - '0'.toNat else c.toNat - 'a'.toNat + 10

def hexValue (ds : List Char) : Nat := ds.foldl (fun n c => 16 * n + hexDigitValue c) 0

theorem hexDigitValue_digitChar : ∀ d < 16, hexDigitValue (Nat.digitChar d) = d := by decide

theorem hexValue_toDigits (n : Nat) : hexValue (Nat.toDigits 16 n) = n := by
  induction n using Nat.strongRecOn with
  | _ n ih =>
      rw [Nat.toDigits_eq_if (by decide)]
      split
      · next hlt =>
          rw [hexValue, List.foldl_cons, List.foldl_nil, hexDigitValue_digitChar n hlt]
          omega
      · have hrest : hexValue (Nat.toDigits 16 (n / 16)) = n / 16 := ih (n / 16) (by omega)
        rw [hexValue] at hrest
        rw [hexValue, List.foldl_append, hrest, List.foldl_cons, List.foldl_nil,
          hexDigitValue_digitChar _ (Nat.mod_lt n (by decide))]
        omega

/-! ## Reading one character -/

/-- The character that a letter behind a backslash stands for. -/
def ofLetter (c : Char) : Char :=
  if c = '0' then '\x00' else if c = 't' then '\t' else if c = 'n' then '\n'
  else if c = 'r' then '\r' else c

/-- Reads what stands behind a backslash. -/
def unescapeRest? : List Char → Option (Char × List Char)
  | 'u' :: '\x7b' :: s =>
    some (Char.ofNat (hexValue (s.takeWhile (· ≠ '\x7d'))), (s.dropWhile (· ≠ '\x7d')).tail)
  | c :: s => some (ofLetter c, s)
  | [] => none

/-- Reads one character off the front of what stands between two double quotes. -/
def unescape? : List Char → Option (Char × List Char)
  | [] => none
  | c :: s => if c = '\\' then unescapeRest? s else some (c, s)

theorem unescape?_codePointEscape (c : Char) (rest : List Char) :
    unescape? (codePointEscape c ++ rest) = some (c, rest) := by
  have hbrace : ∀ d < 16, decide (Nat.digitChar d ≠ '\x7d') = true := by decide
  have hdigits : ∀ x ∈ Nat.toDigits 16 c.toNat, decide (x ≠ '\x7d') = true := by
    intro x hx
    obtain ⟨d, hd, rfl⟩ := exists_digitChar_of_mem hx
    exact hbrace d hd
  have htext : codePointEscape c ++ rest
      = '\\' :: 'u' :: '\x7b' :: (Nat.toDigits 16 c.toNat ++ '\x7d' :: rest) := by
    simp [codePointEscape]
  rw [htext, unescape?, if_pos rfl, unescapeRest?, List.takeWhile_append_of_pos hdigits,
    List.dropWhile_append_of_pos hdigits, List.takeWhile_cons_of_neg (by decide),
    List.dropWhile_cons_of_neg (by decide), List.append_nil, hexValue_toDigits, Char.ofNat_toNat,
    List.tail_cons]

/-- Whatever follows, the character that was written is read and nothing else. -/
theorem unescape?_escapeBy (hides : Char → Bool) (c : Char) (rest : List Char) :
    unescape? (escapeBy hides c ++ rest) = some (c, rest) := by
  have h := escapes_escapeBy hides c
  generalize escapeBy hides c = written at h
  cases h with
  | letter h =>
      rcases controlLetter?_cases h with ⟨rfl, rfl⟩ | ⟨rfl, rfl⟩ | ⟨rfl, rfl⟩ | ⟨rfl, rfl⟩ <;> rfl
  | mark h =>
      rcases h with rfl | rfl <;> rfl
  | codePoint _ => exact unescape?_codePointEscape c rest
  | itself h _ _ => exact if_neg h

theorem escapeBy_append_inj {hides : Char → Bool} {c d : Char} {s t : List Char}
    (h : escapeBy hides c ++ s = escapeBy hides d ++ t) : c = d ∧ s = t := by
  have hread := congrArg unescape? h
  rw [unescape?_escapeBy, unescape?_escapeBy] at hread
  cases hread
  exact ⟨rfl, rfl⟩

theorem escapeBy_ne_nil (hides : Char → Bool) (c : Char) : escapeBy hides c ≠ [] := by
  have h := escapes_escapeBy hides c
  intro hnil
  rw [hnil] at h
  cases h

theorem flatMap_escapeBy_inj {hides : Char → Bool} {s : List Char} :
    ∀ {t : List Char}, s.flatMap (escapeBy hides) = t.flatMap (escapeBy hides) → s = t := by
  induction s with
  | nil =>
      intro t h
      cases t with
      | nil => rfl
      | cons d t =>
          have hnil := (List.append_eq_nil_iff.mp h.symm).1
          exact absurd hnil (escapeBy_ne_nil hides d)
  | cons c s ih =>
      intro t h
      cases t with
      | nil =>
          have hnil := (List.append_eq_nil_iff.mp h).1
          exact absurd hnil (escapeBy_ne_nil hides c)
      | cons d t =>
          rw [List.flatMap_cons, List.flatMap_cons] at h
          obtain ⟨rfl, hrest⟩ := escapeBy_append_inj h
          rw [ih hrest]

/-- Texts that are quoted alike are the same. -/
theorem quoteBy_injective {hides : Char → Bool} {s t : String}
    (h : quoteBy hides s = quoteBy hides t) : s = t := by
  have hinner := List.append_cancel_right (List.cons.inj (String.ofList_inj.mp h)).2
  exact String.toList_inj.mp (flatMap_escapeBy_inj hinner)

/-! ## Controls -/

/-- A control of ASCII: one that would break a line or disturb it. -/
def IsControl (c : Char) : Prop := c.toNat < 0x20 ∨ c.toNat = 0x7f

instance (c : Char) : Decidable (IsControl c) :=
  inferInstanceAs (Decidable (c.toNat < 0x20 ∨ c.toNat = 0x7f))

theorem not_isControl_of_all {s : List Char} (h : s.all (fun c => !decide (IsControl c)) = true) :
    ∀ c ∈ s, ¬ IsControl c := by
  intro c hc
  simpa using List.all_eq_true.mp h c hc

theorem isHidden_of_isControl {c : Char} (h : IsControl c) : isHidden c = true :=
  isHidden_of_control (h.imp_left Nat.le_of_lt_succ)

theorem not_isControl_of_isDigit {c : Char} (h : c.isDigit = true) : ¬ IsControl c := by
  have hlow : 48 ≤ c.toNat := (Char.isDigit_iff_toNat.mp h).1
  have hhigh : c.toNat ≤ 57 := (Char.isDigit_iff_toNat.mp h).2
  rintro (hc | hc) <;> omega

/-- Where the controls are taken for characters that would not show, none of them is written. -/
theorem not_isControl_of_mem_escapeBy {hides : Char → Bool}
    (hides_control : ∀ c, IsControl c → hides c = true) {c x : Char} (hx : x ∈ escapeBy hides c) :
    ¬ IsControl x := by
  have h := escapes_escapeBy hides c
  generalize escapeBy hides c = written at h hx
  cases h with
  | letter h =>
      rcases controlLetter?_cases h with ⟨-, rfl⟩ | ⟨-, rfl⟩ | ⟨-, rfl⟩ | ⟨-, rfl⟩ <;>
        exact not_isControl_of_all (by decide) x hx
  | mark h =>
      rcases h with rfl | rfl <;> exact not_isControl_of_all (by decide) x hx
  | codePoint _ =>
      have hdigit : ∀ d < 16, ¬ IsControl (Nat.digitChar d) := by decide
      rcases List.mem_append.mp hx with hx | hx
      · rcases List.mem_append.mp hx with hx | hx
        · exact not_isControl_of_all (by decide) x hx
        · obtain ⟨d, hd, rfl⟩ := exists_digitChar_of_mem hx
          exact hdigit d hd
      · exact not_isControl_of_all (by decide) x hx
  | itself _ _ hshows =>
      rw [List.mem_singleton.mp hx]
      intro hc
      rw [hides_control c hc] at hshows
      cases hshows

theorem not_isControl_of_mem_quoteBy {hides : Char → Bool}
    (hides_control : ∀ c, IsControl c → hides c = true) {s : String} {x : Char}
    (hx : x ∈ (quoteBy hides s).toList) : ¬ IsControl x := by
  have hmark : ¬ IsControl '"' := by decide
  rw [quoteBy, String.toList_ofList] at hx
  rcases List.mem_cons.mp hx with rfl | hx
  · exact hmark
  · rcases List.mem_append.mp hx with hx | hx
    · obtain ⟨c, -, hc⟩ := List.mem_flatMap.mp hx
      exact not_isControl_of_mem_escapeBy hides_control hc
    · rw [List.mem_singleton.mp hx]
      exact hmark

end RandomTerms.Text
