/-
# Sets of characters in a pattern

A set is written in square brackets. It holds characters, ranges, classes with a name such as
`[:alpha:]`, and further sets; and sets in a row may be combined by intersection, difference and
symmetric difference, which bind from the left. A reader of sets keeps the sets that are open and,
of each, how deeply its parts are nested.
-/
import RandomTerms.Pattern.Primitive

namespace RandomTerms.Pattern

/-- How deeply parts that stand in a row are nested: two or more of them are a part of their own. -/
def rowDepth : List Nat → Nat
  | [] => 0
  | [depth] => depth
  | depths => depths.foldl Nat.max 0 + 1

structure OpenSet where
  /-- How deep the set is that stands on the left of the last operator. -/
  left : Option Nat
  /-- How deep the parts are that have been read since. -/
  parts : List Nat
deriving DecidableEq, Repr

namespace OpenSet

/-- Adds a part of the given depth. -/
def add (set : OpenSet) (depth : Nat) : OpenSet := ⟨set.left, depth :: set.parts⟩

/-- How deep the set is, without its brackets. -/
def depth (set : OpenSet) : Nat :=
  match set.left with
  | none => rowDepth set.parts
  | some left => Nat.max left (rowDepth set.parts) + 1

/-- Goes on to the right of an operator. -/
def operate (set : OpenSet) : OpenSet := ⟨some set.depth, []⟩

/-- Whether a set or a named class, or the complement of one, may stand in a pattern: among bytes
there are no complements. -/
def isAllowed (m : Mode) (negated : Bool) : Bool := m.unicode || !negated

/-- Whether a named class may stand in a pattern; among characters its case cannot be folded. -/
def isNameAllowed (m : Mode) (negated : Bool) : Bool :=
  isAllowed m negated && !(m.unicode && m.fold)

/-! ## The beginning of a set -/

/-- Counts the hyphens at the beginning of a set, where they stand for themselves. -/
def hyphens (m : Mode) : List Char → Nat × List Char
  | '-' :: rest =>
    let (count, rest) := hyphens m (m.skip rest)
    (count + 1, rest)
  | s => (0, s)
termination_by s => s.length
decreasing_by exact Nat.lt_succ_of_le (m.length_skip_le _)

/-- Reads the mark of a complement, if there is one. -/
def complement (m : Mode) (s : List Char) : Bool × List Char :=
  match m.skip s with
  | '^' :: rest => (true, m.skip rest)
  | rest => (false, rest)

/-- Counts the characters at the beginning of a set that stand for themselves there: hyphens, or
else a bracket that would close the set at once. -/
def leading (m : Mode) (s : List Char) : Nat × List Char :=
  match hyphens m s with
  | (0, ']' :: rest) => (1, rest)
  | other => other

/-- Begins a set after its opening bracket. -/
def start? (m : Mode) (s : List Char) : Option (OpenSet × List Char) :=
  let (negated, s) := complement m s
  let (count, s) := leading m s
  if isAllowed m negated && (count == 0 || (Primitive.literal '-' false).isAllowedInSet m) then
    some (⟨none, List.replicate count 0⟩, s)
  else none

/-! ## The parts of a set -/

def classNames : List String :=
  ["alnum", "alpha", "ascii", "blank", "cntrl", "digit", "graph", "lower", "print", "punct",
   "space", "upper", "word", "xdigit"]

/-- Reads the name of a class up to the closing bracket. -/
def className? (s : List Char) : Option (List Char) :=
  match s.dropWhile (· != ':') with
  | ':' :: ']' :: rest =>
    if classNames.contains (String.ofList (s.takeWhile (· != ':'))) then some rest else none
  | _ => none

/-- Reads a class with a name, of which the opening bracket has been read, and tells whether it is a
complement. -/
def named? : List Char → Option (Bool × List Char)
  | ':' :: '^' :: s => (className? s).map fun rest => (true, rest)
  | ':' :: s => (className? s).map fun rest => (false, rest)
  | _ => none

/-- What comes after a hyphen, white space apart. The mark of a comment is passed over, but the
comment is not. -/
def beyond? (m : Mode) (s : List Char) : Option Char :=
  if m.spaced then
    match s.dropWhile Text.isBlank with
    | '#' :: rest => (rest.dropWhile Text.isBlank).head?
    | rest => rest.head?
  else s.head?

/-- Reads the end of a range that begins with `first`. -/
def rangeEnd? (m : Mode) (first : Primitive) : List Char → Option (List Char)
  | [] => none
  | c :: rest =>
    match first, Primitive.member? m c rest with
    | .literal low _, some (.literal high byte, rest) =>
      if low.toNat ≤ high.toNat && (Primitive.literal high byte).isAllowedInSet m then some rest
      else none
    | _, _ => none

/-- Reads a character, a range or a class of one letter, which begins with `c`. A hyphen makes a
range unless the set is closed after it or another hyphen makes it an operator. -/
def part? (m : Mode) (c : Char) (rest : List Char) : Option (List Char) :=
  match Primitive.member? m c rest with
  | none => none
  | some (first, rest) =>
    if first.isAllowedInSet m then
      match m.skip rest with
      | '-' :: after =>
        if beyond? m after == some ']' || beyond? m after == some '-' then some ('-' :: after)
        else rangeEnd? m first (m.skip after)
      | rest => some rest
    else none

/-! ## Sets within sets -/

/-- Goes on in a set with the character `c`. What is left are the open sets, or, where the last one
has been closed, its depth. -/
def step? (m : Mode) (set : OpenSet) (outer : List OpenSet) (c : Char) (rest : List Char) :
    Option ((List OpenSet ⊕ Nat) × List Char) :=
  match c, rest with
  | '[', rest =>
    match named? rest with
    | some (negated, rest) =>
      if isNameAllowed m negated then some (.inl (set.add 0 :: outer), rest) else none
    | none => (start? m rest).map fun (inner, rest) => (.inl (inner :: set :: outer), rest)
  | ']', rest =>
    match outer with
    | [] => some (.inr (set.depth + 1), rest)
    | parent :: outer => some (.inl (parent.add (set.depth + 1) :: outer), rest)
  | '&', '&' :: rest | '-', '-' :: rest | '~', '~' :: rest =>
    some (.inl (set.operate :: outer), rest)
  | c, rest => (part? m c rest).map fun rest => (.inl (set.add 0 :: outer), rest)

/-! ### What is left is no longer -/

theorem length_hyphens_le (m : Mode) (s : List Char) : (hyphens m s).2.length ≤ s.length := by
  fun_induction hyphens m s with
  | case1 rest count left eq ih =>
    have := m.length_skip_le rest
    grind
  | case2 => exact Nat.le_refl _

theorem length_complement_le (m : Mode) (s : List Char) :
    (complement m s).2.length ≤ s.length := by
  have := m.length_skip_le
  grind [complement]

theorem length_leading_le (m : Mode) (s : List Char) : (leading m s).2.length ≤ s.length := by
  have := length_hyphens_le m s
  grind [leading]

theorem length_start?_le {m : Mode} {set : OpenSet} {s rest : List Char}
    (h : start? m s = some (set, rest)) : rest.length ≤ s.length := by
  have := length_complement_le m s
  have := length_leading_le m (complement m s).2
  grind [start?]

theorem length_className?_le {s rest : List Char} (h : className? s = some rest) :
    rest.length ≤ s.length := by
  have := (List.dropWhile_sublist (· != ':') (l := s)).length_le
  grind [className?]

theorem length_named?_le {negated : Bool} {s rest : List Char}
    (h : named? s = some (negated, rest)) : rest.length ≤ s.length := by
  unfold named? at h
  split at h
  · obtain ⟨_, name, same⟩ := Option.map_eq_some_iff.mp h
    cases same
    exact Nat.le_succ_of_le (Nat.le_succ_of_le (length_className?_le name))
  · obtain ⟨_, name, same⟩ := Option.map_eq_some_iff.mp h
    cases same
    exact Nat.le_succ_of_le (length_className?_le name)
  · contradiction

theorem length_rangeEnd?_le {m : Mode} {first : Primitive} {s rest : List Char}
    (h : rangeEnd? m first s = some rest) : rest.length ≤ s.length := by
  unfold rangeEnd? at h
  split at h
  · contradiction
  · split at h
    · next member =>
      have := Primitive.length_member?_le member
      grind
    · contradiction

theorem length_part?_le {m : Mode} {c : Char} {s rest : List Char}
    (h : part? m c s = some rest) : rest.length ≤ s.length := by
  have skip := m.length_skip_le
  unfold part? at h
  split at h
  · contradiction
  · next member =>
    have := Primitive.length_member?_le member
    split at h
    · split at h
      · next eq =>
        split at h
        · grind
        · have := length_rangeEnd?_le h
          grind
      · grind
    · contradiction

theorem length_step?_le {m : Mode} {set : OpenSet} {outer : List OpenSet} {c : Char}
    {s rest : List Char} {result : List OpenSet ⊕ Nat}
    (h : step? m set outer c s = some (result, rest)) : rest.length ≤ s.length := by
  unfold step? at h
  split at h
  · split at h
    · next named =>
      have := length_named?_le named
      grind
    · obtain ⟨_, start, same⟩ := Option.map_eq_some_iff.mp h
      cases same
      exact length_start?_le start
  · grind
  · grind
  · grind
  · grind
  · obtain ⟨_, part, same⟩ := Option.map_eq_some_iff.mp h
    cases same
    exact length_part?_le part

end OpenSet
end RandomTerms.Pattern
