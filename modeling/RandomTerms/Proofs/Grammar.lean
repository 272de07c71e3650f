/-
# The language of terms

As a text, a term is a chain `F₁ op F₂ op ⋯ op Fₙ` of factors, and a factor is an atom or a term
in parentheses.  Nothing is said about which operator binds more tightly, so the chain is flat, and
a text can be read as a chain in one way only (`Chain.text_injective`).  A term that has grown knows
more than its text: it remembers in which order its parts were put together, and many terms have
the same text.  `Term.reading` forgets that order and keeps the text.

Two numbers are read off a chain.  `leastTarget` is the least target that can lead to it, and
`level` is how many levels of sub-terms it takes at least.
-/
import RandomTerms.Atom.Pool
import RandomTerms.Term

namespace RandomTerms

/-! ## The atoms of the language -/

/-- A letter from a to z, or a number up to a hundred. -/
def Atom.IsBasic : Atom → Prop
  | letter c => 'a' ≤ c ∧ c ≤ 'z'
  | number n => n.toNat ≤ 100

instance : DecidablePred Atom.IsBasic
  | .letter c => inferInstanceAs (Decidable ('a' ≤ c ∧ c ≤ 'z'))
  | .number n => inferInstanceAs (Decidable (n.toNat ≤ 100))

abbrev BasicAtom := {a : Atom // a.IsBasic}

theorem Pool.mem_letters {c : Char} (h : 'a' ≤ c ∧ c ≤ 'z') : .letter c ∈ letters := by
  have hlow : 97 ≤ c.toNat := h.1
  have hhigh : c.toNat ≤ 122 := h.2
  refine List.mem_map.mpr ⟨c.toNat - 97, List.mem_range.mpr (by omega), ?_⟩
  have hc : 'a'.toNat + (c.toNat - 97) = c.toNat := by
    show 97 + (c.toNat - 97) = c.toNat
    omega
  rw [hc, Char.ofNat_toNat]

theorem Pool.mem_numbers {n : UInt8} (h : n.toNat ≤ 100) : .number n ∈ numbers := by
  refine List.mem_map.mpr ⟨n.toNat, List.mem_range.mpr ?_, ?_⟩
  · exact Nat.lt_succ_of_le h
  · rw [UInt8.ofNat_toNat]

theorem Pool.isBasic_of_mem_letters {a : Atom} (h : a ∈ letters) : a.IsBasic := by
  have hall : ∀ i ∈ List.range 26, (Atom.letter (Char.ofNat ('a'.toNat + i))).IsBasic := by decide
  obtain ⟨i, hi, rfl⟩ := List.mem_map.mp h
  exact hall i hi

theorem Pool.isBasic_of_mem_numbers {a : Atom} (h : a ∈ numbers) : a.IsBasic := by
  obtain ⟨n, hn, rfl⟩ := List.mem_map.mp h
  have hlt : n < 101 := List.mem_range.mp hn
  show (UInt8.ofNat n).toNat ≤ 100
  rw [UInt8.toNat_ofNat']
  omega

/-- The pool holds the atoms of the language and no others. -/
theorem Pool.mem_entries_iff {a : Atom} : a ∈ entries ↔ a.IsBasic := by
  constructor
  · intro h
    rcases List.mem_append.mp h with h | h
    · obtain ⟨l, hl, ha⟩ := List.mem_flatten.mp h
      exact isBasic_of_mem_letters (List.eq_of_mem_replicate hl ▸ ha)
    · exact isBasic_of_mem_numbers h
  · intro h
    cases a with
    | letter c =>
        have hone : letters ∈ List.replicate letterWeight letters :=
          List.mem_replicate.mpr ⟨by decide, rfl⟩
        exact List.mem_append_left _ (List.mem_flatten.mpr ⟨letters, hone, mem_letters h⟩)
    | number n => exact List.mem_append_right _ (mem_numbers h)

theorem Pool.isBasic_of_entry? {v : Nat} {a : Atom} (h : entry? v = some a) : a.IsBasic :=
  mem_entries_iff.mp (List.mem_of_getElem? h)

theorem Pool.exists_entry? {a : Atom} (h : a.IsBasic) : ∃ v, v < size ∧ entry? v = some a := by
  obtain ⟨v, hv, rfl⟩ := List.mem_iff_getElem.mp (mem_entries_iff.mpr h)
  exact ⟨v, hv, List.getElem?_eq_getElem hv⟩

namespace Atom

/-- A letter from a to z or a digit. -/
def IsAtomChar (c : Char) : Prop := c.isLower = true ∨ c.isDigit = true

theorem isLower_of_isBasic {c : Char} (h : (letter c).IsBasic) : c.isLower = true :=
  Bool.and_eq_true_iff.mpr ⟨decide_eq_true h.1, decide_eq_true h.2⟩

theorem IsBasic.isAtomChar {a : Atom} (h : a.IsBasic) : ∀ c ∈ a.chars, IsAtomChar c := by
  cases a with
  | letter c =>
      intro d hd
      cases List.mem_singleton.mp hd
      exact .inl (isLower_of_isBasic h)
  | number n => exact fun c hc => .inr (Nat.isDigit_of_mem_toDigits (by decide) (by decide) hc)

theorem chars_ne_nil (a : Atom) : a.chars ≠ [] := by
  intro h
  have hpos := a.length_chars ▸ a.width_pos
  rw [h] at hpos
  exact absurd hpos (Nat.lt_irrefl 0)

end Atom

/-! ## Chains of factors -/

mutual

/-- An atom, or a chain in parentheses. -/
inductive Factor
  | atom (a : BasicAtom)
  | group (inner : Chain)

/-- Factors with operators between them. -/
inductive Chain
  | one (f : Factor)
  | more (f : Factor) (op : Op) (rest : Chain)

end

mutual

def Factor.chars : Factor → List Char
  | .atom a => a.1.chars
  | .group e => '(' :: (e.chars ++ [')'])

def Chain.chars : Chain → List Char
  | .one f => f.chars
  | .more f op rest => f.chars ++ op.char :: rest.chars

end

def Chain.text (e : Chain) : String := .ofList e.chars

def Factor.length (f : Factor) : Nat := f.chars.length

def Chain.length (e : Chain) : Nat := e.chars.length

def Factor.leastTarget : Factor → Nat
  | .atom _ => 1
  | .group e => e.length + 1

/-- The least target that can lead to a chain: all factors but the last are counted in full. -/
def Chain.leastTarget : Chain → Nat
  | .one f => f.leastTarget
  | .more f _ rest => f.length + rest.leastTarget

mutual

def Factor.level : Factor → Nat
  | .atom _ => 0
  | .group e => max 1 e.level

/-- How many levels of sub-terms a chain takes: its first factor stands at the level of the chain,
and each other factor one level deeper. -/
def Chain.level : Chain → Nat
  | .one f => f.level
  | .more f _ rest => max (max 1 f.level) rest.levelBelow

/-- The level of a chain whose factors all stand one level deeper. -/
def Chain.levelBelow : Chain → Nat
  | .one f => 1 + f.level
  | .more f _ rest => max (1 + f.level) rest.levelBelow

end

/-! ## One reading for each text -/

/-- No digit comes first. -/
def NoDigit (x : List Char) : Prop := ∀ c ∈ x.head?, c.isDigit = false

/-- Nothing comes first but what closes a chain. -/
def AtClose (x : List Char) : Prop := ∀ c ∈ x.head?, c = ')'

theorem AtClose.noDigit {x : List Char} (h : AtClose x) : NoDigit x := by
  intro c hc
  rw [h c hc]
  rfl

theorem NoDigit.takeWhile {x : List Char} (h : NoDigit x) : x.takeWhile Char.isDigit = [] := by
  cases x with
  | nil => rfl
  | cons c x => simp [h c rfl]

theorem Op.noDigit (op : Op) (x : List Char) : NoDigit (op.char :: x) := by
  rintro c ⟨⟩
  cases op <;> rfl

theorem Op.not_atClose (op : Op) (x : List Char) : ¬ AtClose (op.char :: x) := by
  intro h
  have := h op.char rfl
  cases op <;> exact absurd this (by decide)

theorem Op.char_injective {op op' : Op} (h : op.char = op'.char) : op = op' := by
  cases op <;> cases op' <;> first | rfl | exact absurd h (by decide)

theorem toDigits_injective {m n : Nat} (h : Nat.toDigits 10 m = Nat.toDigits 10 n) : m = n := by
  rw [← Nat.ofDigitChars_ten_toDigits (n := m), h, Nat.ofDigitChars_ten_toDigits]

/-- The digits of a number end where no digit follows. -/
theorem takeWhile_toDigits (n : Nat) {x : List Char} (h : NoDigit x) :
    (Nat.toDigits 10 n ++ x).takeWhile Char.isDigit = Nat.toDigits 10 n := by
  have hdigits : ∀ c ∈ Nat.toDigits 10 n, Char.isDigit c = true :=
    fun c hc => Nat.isDigit_of_mem_toDigits (by decide) (by decide) hc
  rw [List.takeWhile_append_of_pos hdigits, h.takeWhile, List.append_nil]

theorem Char.isDigit_eq_false_of_isLower {c : Char} (h : c.isLower = true) :
    c.isDigit = false := by
  have hlow : 97 ≤ c.toNat := of_decide_eq_true (Bool.and_eq_true_iff.mp h).1
  cases hd : c.isDigit with
  | false => rfl
  | true =>
      have hhigh : c.toNat ≤ 57 := of_decide_eq_true (Bool.and_eq_true_iff.mp hd).2
      omega

/-- A letter is told from a number by its first character. -/
theorem letter_cons_ne_digits {c : Char} {n : Nat} {x y : List Char}
    (hc : (Atom.letter c).IsBasic) : c :: x ≠ Nat.toDigits 10 n ++ y := by
  intro h
  cases hd : Nat.toDigits 10 n with
  | nil => exact Nat.toDigits_ne_nil hd
  | cons d ds =>
      have hdigit : d.isDigit = true :=
        Nat.isDigit_of_mem_toDigits (by decide) (by decide) (hd ▸ List.mem_cons_self)
      simp only [hd, List.cons_append, List.cons.injEq] at h
      rw [← h.1, Char.isDigit_eq_false_of_isLower (Atom.isLower_of_isBasic hc)] at hdigit
      exact nomatch hdigit

/-- An atom ends where no digit follows. -/
theorem BasicAtom.append_inj {a b : BasicAtom} {x y : List Char} (hx : NoDigit x) (hy : NoDigit y)
    (h : a.1.chars ++ x = b.1.chars ++ y) : a = b ∧ x = y := by
  obtain ⟨a, ha⟩ := a
  obtain ⟨b, hb⟩ := b
  cases a with
  | letter c =>
      cases b with
      | letter d =>
          obtain ⟨rfl, rfl⟩ := List.cons_eq_cons.mp h
          exact ⟨rfl, rfl⟩
      | number n => exact (letter_cons_ne_digits ha h).elim
  | number m =>
      cases b with
      | letter d => exact (letter_cons_ne_digits hb h.symm).elim
      | number n =>
          have hdigits := congrArg (List.takeWhile Char.isDigit) h
          simp only [Atom.chars, takeWhile_toDigits _ hx, takeWhile_toDigits _ hy] at hdigits
          obtain rfl := UInt8.toNat_inj.mp (toDigits_injective hdigits)
          exact ⟨rfl, List.append_cancel_left h⟩

theorem BasicAtom.append_ne_group (a : BasicAtom) (x y : List Char) :
    a.1.chars ++ x ≠ '(' :: y := by
  obtain ⟨a, ha⟩ := a
  intro h
  cases hc : a.chars with
  | nil => exact a.chars_ne_nil hc
  | cons c cs =>
      have hchar := ha.isAtomChar c (hc ▸ List.mem_cons_self)
      simp only [hc, List.cons_append, List.cons.injEq] at h
      rw [h.1] at hchar
      rcases hchar with hchar | hchar <;> exact absurd hchar (by decide)

mutual

/-- A factor ends where no digit follows. -/
theorem Factor.append_inj : ∀ {f g : Factor} {x y : List Char}, NoDigit x → NoDigit y →
    f.chars ++ x = g.chars ++ y → f = g ∧ x = y
  | .atom a, .atom b, _, _, hx, hy, h => by
      obtain ⟨rfl, rfl⟩ := BasicAtom.append_inj hx hy h
      exact ⟨rfl, rfl⟩
  | .atom a, .group e, _, _, _, _, h => (a.append_ne_group _ _ h).elim
  | .group e, .atom a, _, _, _, _, h => (a.append_ne_group _ _ h.symm).elim
  | .group d, .group e, x, y, _, _, h => by
      simp only [Factor.chars, List.cons_append, List.append_assoc, List.nil_append,
        List.cons.injEq, true_and] at h
      have hclose (z : List Char) : AtClose (')' :: z) := by
        rintro c ⟨⟩
        rfl
      obtain ⟨rfl, hxy⟩ := Chain.append_inj (hclose x) (hclose y) h
      exact ⟨rfl, (List.cons.injEq .. ▸ hxy).2⟩

/-- A chain ends where it is closed. -/
theorem Chain.append_inj : ∀ {d e : Chain} {x y : List Char}, AtClose x → AtClose y →
    d.chars ++ x = e.chars ++ y → d = e ∧ x = y
  | .one f, .one g, _, _, hx, hy, h => by
      obtain ⟨rfl, rfl⟩ := Factor.append_inj hx.noDigit hy.noDigit h
      exact ⟨rfl, rfl⟩
  | .one f, .more g op e, x, y, hx, _, h => by
      simp only [Chain.chars, List.append_assoc, List.cons_append] at h
      obtain ⟨-, rfl⟩ := Factor.append_inj hx.noDigit (op.noDigit _) h
      exact absurd hx (op.not_atClose _)
  | .more f op d, .one g, x, y, _, hy, h => by
      simp only [Chain.chars, List.append_assoc, List.cons_append] at h
      obtain ⟨-, rfl⟩ := Factor.append_inj (op.noDigit _) hy.noDigit h
      exact absurd hy (op.not_atClose _)
  | .more f op d, .more g op' e, x, y, hx, hy, h => by
      simp only [Chain.chars, List.append_assoc, List.cons_append] at h
      obtain ⟨rfl, hrest⟩ := Factor.append_inj (op.noDigit _) (op'.noDigit _) h
      obtain ⟨hop, hrest⟩ := List.cons_eq_cons.mp hrest
      obtain ⟨rfl, rfl⟩ := Chain.append_inj hx hy hrest
      exact ⟨Op.char_injective hop ▸ rfl, rfl⟩

end

/-- A text has at most one reading. -/
theorem Chain.text_injective {d e : Chain} (h : d.text = e.text) : d = e := by
  have hclose : AtClose [] := fun _ h => nomatch h
  have hchars : d.chars = e.chars := String.ofList_injective h
  exact (Chain.append_inj (x := []) (y := []) hclose hclose (by rw [hchars])).1

end RandomTerms
