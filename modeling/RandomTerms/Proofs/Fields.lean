/-
# Atoms in a field

What is written where a field asks for an atom.  The content stands in the field with nothing but
the fill character around it, on the side that was asked for (`isPadded_pad`), and the text is as
long as the width or the content, whichever is longer (`length_laidOut`).  A number in a field of
zeros is the one exception: the zeros stand behind the sign, whatever else was asked for, so the
text is still the number (`read_zeroFilled`).

A field is asked for by a pattern.  `Parts` has the parts of a pattern one by one, with the number
sign among them, and every pattern that is put together from them is read as what they ask for
(`parse?_pattern`).  The number sign asks for nothing.
-/
import RandomTerms.Atom.Layout
import RandomTerms.Proofs.Grammar
import RandomTerms.Proofs.Rereading

namespace RandomTerms

/-! ## Padding -/

/-- The text is the content with `fill` around it: none of it where the content leans, and of what
is on both sides the smaller half to the left. -/
def IsPadded (fill : Char) (align : Align) (content text : List Char) : Prop :=
  ∃ before after,
    text = List.replicate before fill ++ content ++ List.replicate after fill
    ∧ match align with
      | .left => before = 0
      | .right => after = 0
      | .center => before = (before + after) / 2

theorem isPadded_pad (fill : Char) (align : Align) (width : Nat) (content : List Char) :
    IsPadded fill align content (pad fill align width content) := by
  cases align with
  | left => exact ⟨0, width - content.length, by simp [pad], rfl⟩
  | right => exact ⟨width - content.length, 0, by simp [pad], rfl⟩
  | center =>
      refine ⟨(width - content.length) / 2,
        width - content.length - (width - content.length) / 2, by simp [pad], ?_⟩
      have hsum : (width - content.length) / 2
          + (width - content.length - (width - content.length) / 2) = width - content.length :=
        Nat.add_sub_of_le (Nat.div_le_self _ _)
      exact congrArg (· / 2) hsum.symm

theorem length_pad (fill : Char) (align : Align) (width : Nat) (content : List Char) :
    (pad fill align width content).length = max width content.length := by
  cases align with
  | left | right | center =>
      simp only [pad, List.length_append, List.length_replicate]
      omega

namespace Atom

/-! ## The content -/

/-- The side on which an atom stands if none is asked for. -/
def leaning : Atom → Align
  | letter _ => .left
  | number _ => .right

theorem content_letter (layout : Layout) (c : Char) :
    content layout (letter c) = if layout.precision = some 0 then [] else [c] := by
  simp only [content]
  split
  · next p hp =>
      cases p with
      | zero => rw [hp, if_pos rfl]; rfl
      | succ p => rw [hp, if_neg (by simp), List.take_succ_cons, List.take_nil]
  · next hp => rw [hp, if_neg (by simp)]

theorem length_content {layout : Layout} (hplus : layout.plus = false)
    (hprecision : layout.precision ≠ some 0) (a : Atom) :
    (a.content layout).length = a.width := by
  cases a with
  | letter c =>
      rw [content_letter, if_neg hprecision]
      rfl
  | number n =>
      rw [← length_chars]
      simp [content, chars, hplus]

/-! ## Letters and numbers in a field -/

/-- Only a number can be filled up with zeros. -/
theorem laidOut_eq_pad {layout : Layout} {a : Atom} (h : a.isLetter = true ∨ layout.zeros = false) :
    a.laidOut layout
      = pad layout.fill (layout.align.getD a.leaning) layout.width (a.content layout) := by
  cases a with
  | letter c => rfl
  | number n =>
      rcases h with h | h
      · cases h
      · exact if_neg (Bool.eq_false_iff.mp h)

theorem laidOut_number_of_zeros {layout : Layout} (h : layout.zeros = true) (n : UInt8) :
    (number n).laidOut layout = zeroFilled layout n := if_pos h

/-- The sign, the zeros and the digits are all that is written. -/
theorem zeroFilled_eq (layout : Layout) (n : UInt8) : zeroFilled layout n
    = (if layout.plus then ['+'] else []) ++ (List.replicate
        (layout.width - (content layout (number n)).length) '0' ++ Nat.toDigits 10 n.toNat) := by
  rw [zeroFilled, List.append_assoc]

theorem length_zeroFilled (layout : Layout) (n : UInt8) :
    (zeroFilled layout n).length = max layout.width (content layout (number n)).length := by
  have hcontent : (content layout (number n)).length
      = (if layout.plus then ['+'] else [] : List Char).length
        + (Nat.toDigits 10 n.toNat).length := by
    rw [content, List.length_append]
  rw [zeroFilled_eq, List.length_append, List.length_append, List.length_replicate]
  omega

theorem length_laidOut (layout : Layout) (a : Atom) :
    (a.laidOut layout).length = max layout.width (a.content layout).length := by
  cases a with
  | letter c => exact length_pad ..
  | number n =>
      rw [laidOut]
      split
      · exact length_zeroFilled layout n
      · exact length_pad ..

/-- In a field of zeros a number is still the number. -/
theorem read_zeroFilled (layout : Layout) (n : UInt8) :
    Numeral.read Numeral.unsigned64 (zeroFilled layout n) = .ok (n.toNat : Int) := by
  have hlt : n.toNat < 2 ^ 64 := Nat.lt_trans n.toNat_lt (by decide)
  have hsign : (if layout.plus then ['+'] else []) = ([] : List Char)
      ∨ (if layout.plus then ['+'] else []) = ['+'] := by
    cases layout.plus with
    | false => exact .inl rfl
    | true => exact .inr rfl
  have hnatural : Numeral.IsNatural (zeroFilled layout n) n.toNat :=
    Numeral.isNatural_iff.mpr ⟨_, _, hsign, zeroFilled_eq layout n⟩
  exact Numeral.read_unsigned64_eq_ok_iff.mpr ⟨n.toNat, hnatural, hlt, rfl⟩

/-! ## Patterns -/

/-- The character that asks for a side. -/
def sideChar : Align → Char
  | .left => '<'
  | .right => '>'
  | .center => '^'

/-- What a pattern asks of a field, part by part.  A fill character is only written with a side, and
no width is written for zero. -/
structure Parts where
  side : Option (Option Char × Align)
  plus : Bool
  sharp : Bool
  zeros : Bool
  width : Nat
  precision : Option Nat

namespace Parts

def fill (parts : Parts) : Char := (parts.side.bind Prod.fst).getD ' '

def layout (parts : Parts) : Layout :=
  ⟨parts.fill, parts.side.map Prod.snd, parts.plus, parts.zeros, parts.width, parts.precision⟩

def sideText (parts : Parts) : List Char :=
  match parts.side with
  | none => []
  | some (none, align) => [sideChar align]
  | some (some fill, align) => [fill, sideChar align]

/-- A mark that is written or left out. -/
def marked (b : Bool) (mark : Char) : List Char := if b then [mark] else []

def widthText (parts : Parts) : List Char :=
  if parts.width = 0 then [] else Nat.toDigits 10 parts.width

/-- The precision and the end of the pattern. -/
def precisionText (parts : Parts) : List Char :=
  match parts.precision with
  | none => ['\x7d']
  | some p => '.' :: (Nat.toDigits 10 p ++ ['\x7d'])

/-- What stands behind the marks. -/
def sizes (parts : Parts) : List Char := parts.widthText ++ parts.precisionText

/-- What stands behind the side. -/
def rest (parts : Parts) : List Char :=
  marked parts.plus '+' ++ (marked parts.sharp '#' ++ (marked parts.zeros '0' ++ parts.sizes))

/-- The pattern that asks for the field. -/
def pattern (parts : Parts) : String :=
  .ofList ('\x7b' :: ':' :: (parts.sideText ++ parts.rest))

end Parts

namespace Form

open Parts

theorem side?_sideChar (align : Align) : side? (sideChar align) = some align := by
  cases align <;> rfl

theorem takeAlign_of_none {s : List Char} (h : ∀ c ∈ s, side? c = none) :
    takeAlign s = ((' ', none), s) := by
  match s with
  | [] => rfl
  | [c] =>
      have hc := h c List.mem_cons_self
      simp only [takeAlign, hc]
  | fill :: c :: s =>
      have hfill := h fill List.mem_cons_self
      have hc := h c (List.mem_cons_of_mem _ List.mem_cons_self)
      simp only [takeAlign, hfill, hc]

theorem takeAlign_sideText (parts : Parts) {s : List Char} (h : ∀ c ∈ s, side? c = none) :
    takeAlign (parts.sideText ++ s) = ((parts.fill, parts.side.map Prod.snd), s) := by
  obtain ⟨side, _, _, _, _, _⟩ := parts
  match side with
  | none => exact takeAlign_of_none h
  | some (none, align) =>
      match s with
      | [] => simp only [sideText, fill, List.append_nil, takeAlign, side?_sideChar]; rfl
      | c :: s =>
          have hc := h c List.mem_cons_self
          simp only [sideText, fill, List.cons_append, List.nil_append, takeAlign, hc,
            side?_sideChar]
          rfl
  | some (some c, align) =>
      simp only [sideText, fill, List.cons_append, List.nil_append, takeAlign, side?_sideChar]
      rfl

theorem takeMark_marked {mark : Char} {s : List Char} (h : s.head? ≠ some mark) (b : Bool) :
    takeMark mark (marked b mark ++ s) = (b, s) := by
  cases b with
  | true => exact if_pos rfl
  | false => exact if_neg h

/-- Where no digit follows, the digits are taken and all else is left. -/
theorem takeNumber_append {ds s : List Char} (h : (ds ++ s).takeWhile Char.isDigit = ds) :
    takeNumber (ds ++ s)
      = (if ds.isEmpty then none else some (Nat.ofDigitChars 10 ds 0), s) := by
  have hdrop : (ds ++ s).dropWhile Char.isDigit = s := by
    have hsplit := List.takeWhile_append_dropWhile (p := Char.isDigit) (l := ds ++ s)
    rw [h] at hsplit
    exact List.append_cancel_left hsplit
  rw [takeNumber, h, hdrop]

theorem takeNumber_of_noDigit {s : List Char} (h : NoDigit s) : takeNumber s = (none, s) := by
  have htake : ([] ++ s).takeWhile Char.isDigit = [] := h.takeWhile
  exact takeNumber_append htake

theorem takeNumber_toDigits (n : Nat) {s : List Char} (h : NoDigit s) :
    takeNumber (Nat.toDigits 10 n ++ s) = (some n, s) := by
  have hne : (Nat.toDigits 10 n).isEmpty = false :=
    List.isEmpty_eq_false_iff.mpr Nat.toDigits_ne_nil
  rw [takeNumber_append (takeWhile_toDigits n h), hne, Nat.ofDigitChars_ten_toDigits]
  rfl

theorem takePrecision_precisionText (parts : Parts) :
    takePrecision parts.precisionText = (parts.precision, ['\x7d']) := by
  obtain ⟨_, _, _, _, _, precision⟩ := parts
  cases precision with
  | none => rfl
  | some p =>
      have hend : NoDigit ['\x7d'] := by
        rintro c ⟨⟩
        rfl
      have hpoint : takeMark '.' ('.' :: (Nat.toDigits 10 p ++ ['\x7d']))
          = (true, Nat.toDigits 10 p ++ ['\x7d']) := if_pos rfl
      simp only [takePrecision, precisionText, hpoint, takeNumber_toDigits p hend]

theorem noDigit_precisionText (parts : Parts) : NoDigit parts.precisionText := by
  obtain ⟨_, _, _, _, _, precision⟩ := parts
  cases precision <;> rintro c ⟨⟩ <;> rfl

theorem takeNumber_sizes (parts : Parts) : takeNumber parts.sizes
    = (if parts.width = 0 then none else some parts.width, parts.precisionText) := by
  rw [sizes, widthText]
  split
  · exact takeNumber_of_noDigit (noDigit_precisionText parts)
  · exact takeNumber_toDigits parts.width (noDigit_precisionText parts)

/-! A mark that is left out must not be found where the next part begins. -/

/-- What the width, the precision and the end are written with. -/
def IsSizeChar (c : Char) : Prop := c.isDigit = true ∨ c = '.' ∨ c = '\x7d'

instance (c : Char) : Decidable (IsSizeChar c) :=
  inferInstanceAs (Decidable (c.isDigit = true ∨ c = '.' ∨ c = '\x7d'))

theorem isSizeChar_of_mem_toDigits {n : Nat} {c : Char} (h : c ∈ Nat.toDigits 10 n) :
    IsSizeChar c :=
  .inl (Nat.isDigit_of_mem_toDigits (by decide) (by decide) h)

theorem isSizeChar_of_mem_sizes {parts : Parts} {c : Char} (h : c ∈ parts.sizes) :
    IsSizeChar c := by
  rcases List.mem_append.mp h with h | h
  · rw [widthText] at h
    split at h
    · cases h
    · exact isSizeChar_of_mem_toDigits h
  · rw [precisionText] at h
    split at h
    · exact .inr (.inr (List.mem_singleton.mp h))
    · rcases List.mem_cons.mp h with rfl | h
      · exact .inr (.inl rfl)
      · rcases List.mem_append.mp h with h | h
        · exact isSizeChar_of_mem_toDigits h
        · exact .inr (.inr (List.mem_singleton.mp h))

theorem head?_sizes_ne {parts : Parts} {mark : Char} (h : ¬ IsSizeChar mark) :
    parts.sizes.head? ≠ some mark :=
  fun hhead => h (isSizeChar_of_mem_sizes (List.mem_of_mem_head? hhead))

theorem head?_toDigits_append (n : Nat) (s : List Char) :
    (Nat.toDigits 10 n ++ s).head? = (Nat.toDigits 10 n).head? := by
  cases h : Nat.toDigits 10 n with
  | nil => exact absurd h Nat.toDigits_ne_nil
  | cons d ds => rfl

theorem head?_toDigits_ne_zero {n : Nat} : 0 < n → (Nat.toDigits 10 n).head? ≠ some '0' := by
  induction n using Nat.strongRecOn with
  | _ n ih =>
      intro hn
      rw [Nat.toDigits_eq_if (by decide)]
      split
      · intro h
        have hzero : n = 0 := Nat.digitChar_eq_zero.mp (Option.some.inj h)
        omega
      · rw [head?_toDigits_append]
        exact ih (n / 10) (by omega) (by omega)

/-- A zero that is found in front of the sizes is a mark. -/
theorem head?_sizes_ne_zero (parts : Parts) : parts.sizes.head? ≠ some '0' := by
  rw [sizes, widthText]
  split
  · intro h
    have hdigit : '0'.isDigit = false := noDigit_precisionText parts '0' h
    exact absurd hdigit (by decide)
  · next hwidth =>
      rw [head?_toDigits_append]
      exact head?_toDigits_ne_zero (Nat.pos_of_ne_zero hwidth)

theorem head?_marked_ne {b : Bool} {m mark : Char} {s : List Char} (hm : m ≠ mark)
    (hs : s.head? ≠ some mark) : (marked b m ++ s).head? ≠ some mark := by
  cases b with
  | true => exact fun h => hm (Option.some.inj h)
  | false => exact hs

/-! No character behind the side stands for a side. -/

theorem side?_eq_none_of_isSizeChar {c : Char} (h : IsSizeChar c) : side? c = none := by
  have hne (d : Char) (hd : ¬ IsSizeChar d) : c ≠ d := fun hc => hd (hc ▸ h)
  rw [side?, if_neg (hne _ (by decide)), if_neg (hne _ (by decide)), if_neg (hne _ (by decide))]

theorem side?_of_mem_marked {b : Bool} {mark c : Char} (hmark : side? mark = none)
    (h : c ∈ marked b mark) : side? c = none := by
  cases b with
  | true => rw [List.mem_singleton.mp h, hmark]
  | false => cases h

theorem side?_of_mem_rest {parts : Parts} {c : Char} (h : c ∈ parts.rest) : side? c = none := by
  rcases List.mem_append.mp h with h | h
  · exact side?_of_mem_marked rfl h
  · rcases List.mem_append.mp h with h | h
    · exact side?_of_mem_marked rfl h
    · rcases List.mem_append.mp h with h | h
      · exact side?_of_mem_marked rfl h
      · exact side?_eq_none_of_isSizeChar (isSizeChar_of_mem_sizes h)

/-- A pattern is read as the field whose parts it is made of; of these the number sign has no part
in how the field is laid out. -/
theorem parse?_pattern (parts : Parts) : parse? parts.pattern = some (.field parts.layout) := by
  have hspec : parse? parts.pattern = parseSpec? (parts.sideText ++ parts.rest) := by
    rw [parse?, pattern, String.toList_ofList]
    rfl
  have hside : takeAlign (parts.sideText ++ parts.rest)
      = ((parts.fill, parts.side.map Prod.snd), parts.rest) :=
    takeAlign_sideText parts fun _ => side?_of_mem_rest
  have hplus : takeMark '+' parts.rest
      = (parts.plus, marked parts.sharp '#' ++ (marked parts.zeros '0' ++ parts.sizes)) :=
    takeMark_marked (head?_marked_ne (by decide) (head?_marked_ne (by decide)
      (head?_sizes_ne (by decide)))) parts.plus
  have hsharp : takeMark '#' (marked parts.sharp '#' ++ (marked parts.zeros '0' ++ parts.sizes))
      = (parts.sharp, marked parts.zeros '0' ++ parts.sizes) :=
    takeMark_marked (head?_marked_ne (by decide) (head?_sizes_ne (by decide))) parts.sharp
  have hzeros : takeMark '0' (marked parts.zeros '0' ++ parts.sizes) = (parts.zeros, parts.sizes) :=
    takeMark_marked (head?_sizes_ne_zero parts) parts.zeros
  have hwidth : (if parts.width = 0 then none else some parts.width).getD 0 = parts.width := by
    split
    · next h => exact h.symm
    · rfl
  rw [hspec, parseSpec?]
  simp only [hside, hplus, hsharp, hzeros, takeNumber_sizes, takePrecision_precisionText, hwidth,
    if_true]
  rfl

end Form

/-! ## What a field shows -/

/-- Numbers are not cut. -/
theorem laidOut_number_precision (layout : Layout) (n : UInt8) (precision : Option Nat) :
    (number n).laidOut
        ⟨layout.fill, layout.align, layout.plus, layout.zeros, layout.width, precision⟩
      = (number n).laidOut layout := by
  cases hzeros : layout.zeros <;> simp [laidOut, zeroFilled, content, hzeros]

/-- How every atom is written in every field.  The content is the letter, cut to nothing by a
precision of zero, or the digits behind the plus sign that was asked for; without either it is as
wide as the atom.  The text is as long as the field or the content.  It is the content with the fill
character around it; but a number in a field of zeros is written with zeros between its sign and its
digits, whatever the fill and the side, and reads as the number.  A plus sign and zeros make no
difference to a letter, nor a precision to a number, and the number sign of a pattern to neither. -/
theorem laidOut_decided (a : Atom) (layout : Layout) :
    let content := a.content layout
    let text := a.laidOut layout
    let sign := if layout.plus then ['+'] else []
    (∀ c, a = letter c → content = if layout.precision = some 0 then [] else [c])
    ∧ (∀ n, a = number n → content = sign ++ Nat.toDigits 10 n.toNat)
    ∧ (layout.plus = false → layout.precision ≠ some 0 → content.length = a.width)
    ∧ text.length = max layout.width content.length
    ∧ (a.isLetter = true ∨ layout.zeros = false →
        IsPadded layout.fill (layout.align.getD a.leaning) content text)
    ∧ (∀ n, a = number n → layout.zeros = true →
        (∃ zeros, text = sign ++ (List.replicate zeros '0' ++ Nat.toDigits 10 n.toNat))
        ∧ Numeral.read Numeral.unsigned64 text = .ok (n.toNat : Int)
        ∧ ∀ fill align, a.laidOut ⟨fill, align, layout.plus, true, layout.width, layout.precision⟩
            = text)
    ∧ (∀ c, a = letter c → ∀ plus zeros,
        a.laidOut ⟨layout.fill, layout.align, plus, zeros, layout.width, layout.precision⟩ = text)
    ∧ (∀ n, a = number n → ∀ precision,
        a.laidOut ⟨layout.fill, layout.align, layout.plus, layout.zeros, layout.width, precision⟩
          = text)
    ∧ ∀ parts : Parts,
        (Form.parse? parts.pattern).map a.format = some (.ofList (a.laidOut parts.layout))
        ∧ ∀ sharp, Form.parse?
            (Parts.mk parts.side parts.plus sharp parts.zeros parts.width parts.precision).pattern
              = Form.parse? parts.pattern := by
  intro content text sign
  refine ⟨?_, ?_, fun hplus hprecision => length_content hplus hprecision a,
    length_laidOut layout a, ?_, ?_, ?_, ?_, fun parts => ⟨?_, fun sharp => ?_⟩⟩
  · rintro c rfl
    exact content_letter layout c
  · rintro n rfl
    rfl
  · intro h
    have htext : text = _ := laidOut_eq_pad h
    rw [htext]
    exact isPadded_pad ..
  · rintro n rfl hzeros
    have htext : text = zeroFilled layout n := laidOut_number_of_zeros hzeros n
    rw [htext]
    exact ⟨⟨_, zeroFilled_eq layout n⟩, read_zeroFilled layout n,
      fun fill align => laidOut_number_of_zeros rfl n⟩
  · rintro c rfl plus zeros
    rfl
  · rintro n rfl precision
    exact laidOut_number_precision layout n precision
  · rw [Form.parse?_pattern]
    rfl
  · rw [Form.parse?_pattern, Form.parse?_pattern]
    rfl

/-- A field of zeros with a fill and a side: the letter stands in the middle of the fill, the number
behind zeros. -/
theorem laidOut_decided_zeros :
    let layout : Layout := ⟨'*', some .center, true, true, 6, none⟩
    let pattern := "\x7b:*^+#06\x7d"
    IsPadded '*' .center ['x'] ((letter 'x').laidOut layout)
    ∧ (letter 'x').laidOut layout = (letter 'x').laidOut ⟨'*', some .center, false, false, 6, none⟩
    ∧ (Form.parse? pattern).map (letter 'x').format = some "**x***"
    ∧ (∃ zeros, (number 42).laidOut layout = ['+'] ++ (List.replicate zeros '0' ++ ['4', '2']))
    ∧ Numeral.read Numeral.unsigned64 ((number 42).laidOut layout) = .ok 42
    ∧ (Form.parse? pattern).map (number 42).format = some "+00042" := by
  intro layout pattern
  obtain ⟨-, -, -, -, hpadded, -, hignored, -, hletter⟩ := laidOut_decided (letter 'x') layout
  obtain ⟨-, -, -, -, -, hzeros, -, -, hnumber⟩ := laidOut_decided (number 42) layout
  obtain ⟨hfilled, hread, -⟩ := hzeros 42 rfl rfl
  let parts : Parts := ⟨some (some '*', .center), true, true, true, 6, none⟩
  have hpattern : parts.pattern = pattern := by decide
  have hx : String.ofList ((letter 'x').laidOut parts.layout) = "**x***" := by decide
  have h42 : String.ofList ((number 42).laidOut parts.layout) = "+00042" := by decide
  have hshownLetter := (hletter parts).1
  have hshownNumber := (hnumber parts).1
  rw [hpattern, hx] at hshownLetter
  rw [hpattern, h42] at hshownNumber
  exact ⟨hpadded (.inl rfl), (hignored 'x' rfl false false).symm, hshownLetter, hfilled, hread,
    hshownNumber⟩

end Atom
end RandomTerms
