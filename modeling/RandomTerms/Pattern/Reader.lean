/-
# Patterns

Whether a text is a pattern. A pattern is a row of parts, or several rows with bars between them; a
part is a primitive, a set, or a group in parentheses that holds a pattern again, and it may be
repeated. Groups can have names and can change the mode for what they hold.

A pattern holds no closing brace here, because what it is taken from ends at the first one. So an
opening brace, which would begin the bounds of a repetition, is always a fault.

The reader goes through the text once. It keeps the groups and the sets that are open and how deeply
each part is nested, since the depth of a pattern has a limit.
-/
import RandomTerms.Pattern.Set
import RandomTerms.Text.Alphanumeric

namespace RandomTerms.Pattern

def maxDepth : Nat := 250

/-- A part that has been read: how deep it is, and whether it can be repeated. -/
structure Part where
  depth : Nat
  repeatable : Bool
deriving DecidableEq, Repr

/-- Rows with bars between them, of which the last one is still being read. The last part of it
comes first. -/
structure Rows where
  parts : List Part
  /-- How deep the rows before the last bar are. -/
  done : List Nat
deriving DecidableEq, Repr

namespace Rows

def empty : Rows := ⟨[], []⟩

/-- Adds a part to the last row. -/
def add (r : Rows) (part : Part) : Rows := ⟨part :: r.parts, r.done⟩

def bar (r : Rows) : Rows := ⟨[], rowDepth (r.parts.map Part.depth) :: r.done⟩

def depth (r : Rows) : Nat :=
  match r.done with
  | [] => rowDepth (r.parts.map Part.depth)
  | done => rowDepth (rowDepth (r.parts.map Part.depth) :: done)

def repeat? (r : Rows) : Option Rows :=
  match r.parts with
  | [] => none
  | part :: parts =>
    if part.repeatable then some ⟨⟨part.depth + 1, true⟩ :: parts, r.done⟩ else none

end Rows

/-- What was read before a group was opened, and the mode to come back to. -/
structure Group where
  mode : Mode
  rows : Rows
deriving DecidableEq, Repr

/-- What a reader knows at some place of the text. -/
structure Reader where
  mode : Mode
  names : List (List Char)
  rows : Rows
  /-- The open groups, the innermost first. -/
  groups : List Group
  /-- The open sets, the innermost first. -/
  sets : List OpenSet
deriving DecidableEq, Repr

namespace Reader

def initial : Reader := ⟨.initial, [], .empty, [], []⟩

def add (r : Reader) (part : Part) : Reader := ⟨r.mode, r.names, r.rows.add part, r.groups, r.sets⟩

def withRows (r : Reader) (rows : Rows) : Reader := ⟨r.mode, r.names, rows, r.groups, r.sets⟩

def withSets (r : Reader) (sets : List OpenSet) : Reader :=
  ⟨r.mode, r.names, r.rows, r.groups, sets⟩

/-! ## Groups -/

/-- Opens a group that is read in the given mode. -/
def openGroup (r : Reader) (mode : Mode) : Reader :=
  ⟨mode, r.names, .empty, ⟨r.mode, r.rows⟩ :: r.groups, r.sets⟩

def closeGroup? (r : Reader) : Option Reader :=
  match r.groups with
  | [] => none
  | group :: groups =>
    some ⟨group.mode, r.names, group.rows.add ⟨r.rows.depth + 1, true⟩, groups, r.sets⟩

/-- Whether a text can be the name of a group. -/
def isGroupName : List Char → Bool
  | [] => false
  | c :: rest =>
    (c == '_' || Text.isAlphabetic c)
      && rest.all fun c => c == '_' || c == '.' || c == '[' || c == ']' || Text.isAlphanumeric c

/-- Opens a group whose name follows. No two groups have one name. -/
def openNamed? (r : Reader) (s : List Char) : Option (Reader × List Char) :=
  let name := s.takeWhile (· != '>')
  match s.dropWhile (· != '>') with
  | [] => none
  | _ :: rest =>
    if isGroupName name && !r.names.contains name then
      some ((⟨r.mode, name :: r.names, r.rows, r.groups, r.sets⟩ : Reader).openGroup r.mode, rest)
    else none

/-- Changes the mode by the marks that follow, up to a colon for a group that is opened by them, and
up to a parenthesis for the rest of the group that they stand in. -/
def mark? (r : Reader) (s : List Char) : Option (Reader × List Char) :=
  let text := s.takeWhile fun c => c != ':' && c != ')'
  if Mode.isOrderly text then
    match s.dropWhile fun c => c != ':' && c != ')' with
    | ':' :: rest => some (r.openGroup (r.mode.marked text), rest)
    | ')' :: rest =>
      if text.isEmpty then none
      else some (⟨r.mode.marked text, r.names, r.rows.add ⟨0, false⟩, r.groups, r.sets⟩, rest)
    | _ => none
  else none

/-- Reads what follows an opening parenthesis. -/
def group? (r : Reader) : List Char → Option (Reader × List Char)
  | '?' :: 'P' :: '<' :: rest => r.openNamed? rest
  | '?' :: '<' :: rest => r.openNamed? rest
  | '?' :: rest => r.mark? rest
  | rest => some (r.openGroup r.mode, rest)

/-! ## Going on -/

/-- Adds a primitive, if it is allowed. -/
def primitive? (r : Reader) (p : Primitive) : Option Reader :=
  if p.isAllowed r.mode then some (r.add ⟨0, true⟩) else none

/-- Goes on outside of sets with the character `c`. A question mark after a repetition belongs to
it. -/
def outside? (r : Reader) (c : Char) (rest : List Char) : Option (Reader × List Char) :=
  match c with
  | '(' => r.group? (r.mode.skip rest)
  | ')' => r.closeGroup?.map fun r => (r, rest)
  | '|' => some (r.withRows r.rows.bar, rest)
  | '[' => (OpenSet.start? r.mode rest).map fun (set, rest) => (r.withSets [set], rest)
  | '?' | '*' | '+' =>
    let rest := if rest.head? == some '?' then rest.tail else rest
    r.rows.repeat?.map fun rows => (r.withRows rows, rest)
  | '{' => none
  | '\\' =>
    match Primitive.escaped? r.mode rest with
    | none => none
    | some (p, rest) => (r.primitive? p).map fun r => (r, rest)
  | '.' => (r.primitive? .any).map fun r => (r, rest)
  | '^' | '$' => (r.primitive? .anchor).map fun r => (r, rest)
  | c => (r.primitive? (.literal c false)).map fun r => (r, rest)

/-- Goes on with the character `c`. -/
def step? (r : Reader) (c : Char) (rest : List Char) : Option (Reader × List Char) :=
  match r.sets with
  | [] => r.outside? c rest
  | set :: outer =>
    match OpenSet.step? r.mode set outer c rest with
    | none => none
    | some (.inl sets, rest) => some (r.withSets sets, rest)
    | some (.inr depth, rest) => some ((r.withSets []).add ⟨depth, true⟩, rest)

/-! ### What is left is no longer -/

theorem length_openNamed?_le {r next : Reader} {s rest : List Char}
    (h : r.openNamed? s = some (next, rest)) : rest.length ≤ s.length := by
  have := (List.dropWhile_sublist (· != '>') (l := s)).length_le
  grind [openNamed?]

theorem length_mark?_le {r next : Reader} {s rest : List Char}
    (h : r.mark? s = some (next, rest)) : rest.length ≤ s.length := by
  have := (List.dropWhile_sublist (fun c => c != ':' && c != ')') (l := s)).length_le
  grind [mark?]

theorem length_group?_le {r next : Reader} {s rest : List Char}
    (h : r.group? s = some (next, rest)) : rest.length ≤ s.length := by
  unfold group? at h
  split at h
  · have := length_openNamed?_le h
    grind
  · have := length_openNamed?_le h
    grind
  · have := length_mark?_le h
    grind
  · grind

theorem length_outside?_le {r next : Reader} {c : Char} {s rest : List Char}
    (h : r.outside? c s = some (next, rest)) : rest.length ≤ s.length := by
  unfold outside? at h
  split at h
  · exact Nat.le_trans (length_group?_le h) (r.mode.length_skip_le s)
  · grind [Option.map_eq_some_iff]
  · grind
  · obtain ⟨_, start, same⟩ := Option.map_eq_some_iff.mp h
    cases same
    exact OpenSet.length_start?_le start
  · grind [Option.map_eq_some_iff]
  · grind [Option.map_eq_some_iff]
  · grind [Option.map_eq_some_iff]
  · contradiction
  · split at h
    · contradiction
    · next escaped =>
      have := Primitive.length_escaped?_le escaped
      grind [Option.map_eq_some_iff]
  all_goals grind [Option.map_eq_some_iff]

/-- A step never makes the rest of the text longer. -/
theorem length_step?_le {r next : Reader} {c : Char} {s rest : List Char}
    (h : r.step? c s = some (next, rest)) : rest.length ≤ s.length := by
  unfold step? at h
  split at h
  · exact length_outside?_le h
  · split at h
    · contradiction
    · next step =>
      have := OpenSet.length_step?_le step
      grind
    · next step =>
      have := OpenSet.length_step?_le step
      grind

/-! ## Whole patterns -/

/-- Whether everything has been closed and nothing is too deep. -/
def isComplete (r : Reader) : Bool :=
  r.groups.isEmpty && r.sets.isEmpty && decide (r.rows.depth ≤ maxDepth)

/-- Whether the rest of a text completes a pattern. -/
def accepts (r : Reader) (s : List Char) : Bool :=
  match _ : r.mode.skip s with
  | [] => r.isComplete
  | c :: rest =>
    match _ : r.step? c rest with
    | none => false
    | some (next, rest) => accepts next rest
termination_by s.length
decreasing_by
  have := length_step?_le ‹r.step? _ _ = some _›
  have := r.mode.length_skip_le s
  grind

end Reader

def isPattern (s : List Char) : Bool := Reader.initial.accepts s

end RandomTerms.Pattern
