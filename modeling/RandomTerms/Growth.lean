/-
# How a term grows

A term starts as an atom and grows until it is as long as its target: it is wrapped in
parentheses, or an operator and a sub-term are appended. The sub-term grows in the same way toward
a target of its own, drawn from what the term still lacks. Sub-terms nested deeper than the limit,
if there is one, stay the atom they start as.

Growth is a machine that is driven by draws and by nothing else. Each state asks for a number in
one range (`request`), and the number leads to the next state, to the finished term, or nowhere,
if it counts no entry of the pool (`answer`). The terms that wait for a sub-term are stacked, so
the depth of the term at hand is the height of the stack.

Every answer in its range brings the end closer: `potential` is a bound on the draws to come, and
`potential_answer_lt` says that it falls with each of them. For a target `L` it begins at
`3 * max L 1 - 2`.
-/
import RandomTerms.Atom.Pool
import RandomTerms.Tape
import RandomTerms.Term.Measured

namespace RandomTerms

inductive Move
  | wrap
  | append (op : Op)
deriving DecidableEq, Repr

namespace Move

/-- The greatest number that a move is drawn with. -/
def greatest : Nat := 101

/-- Below this number, the term is wrapped. -/
def wrapBelow : Nat := 25

/-- Below this number, a plus is appended. -/
def plusBelow : Nat := 45

/-- Below this number, a minus is appended; from it on, a times sign. -/
def minusBelow : Nat := 75

/-- The move that a number stands for. -/
def ofDraw (v : Nat) : Move :=
  if v < wrapBelow then .wrap
  else if v < plusBelow then .append .plus
  else if v < minusBelow then .append .minus
  else .append .times

end Move

/-- A term that is short of its target. -/
structure Draft extends Measured where
  target : Nat
  short : length < target

/-- How many characters a draft lacks. -/
def Draft.gap (d : Draft) : Nat := d.target - d.length

theorem Draft.gap_pos (d : Draft) : 0 < d.gap := Nat.sub_pos_of_lt d.short

/-- A draft that waits for the sub-term behind its operator. -/
structure Waiting where
  draft : Draft
  op : Op

/-- A term on the way, with the drafts that wait for it, the innermost first. -/
inductive Growth
  /-- The atom that a term starts with is to be picked. -/
  | picking (target : Nat) (outer : List Waiting)
  /-- How the draft grows is to be chosen. -/
  | choosing (draft : Draft) (outer : List Waiting)
  /-- The target of the sub-term behind the operator is to be drawn. -/
  | measuring (draft : Draft) (op : Op) (outer : List Waiting)

/-- Where an answer leads. -/
inductive Progress
  | growing (g : Growth)
  | finished (t : Term)
  /-- The pool has no entry of this number. -/
  | noEntry (index : Nat)

namespace Growth

/-- Puts a complete term behind the draft that waits for it. If that completes the draft too, goes
on with the next. -/
def complete (m : Measured) : List Waiting → Progress
  | [] => .finished m.term
  | w :: outer =>
    let joined := w.draft.toMeasured.join w.op m
    if h : joined.length < w.draft.target then
      .growing (.choosing ⟨joined, w.draft.target, h⟩ outer)
    else complete joined outer

/-- Goes on with a term toward its target. -/
def settle (m : Measured) (target : Nat) (outer : List Waiting) : Progress :=
  if h : m.length < target then .growing (.choosing ⟨m, target, h⟩ outer) else complete m outer

/-- Whether a term at this depth has to stay an atom. -/
def isCapped (maxDepth : Option Nat) (depth : Nat) : Bool :=
  match maxDepth with
  | none => false
  | some limit => decide (limit < depth)

/-- How many drafts wait for the term at hand. -/
def depth : Growth → Nat
  | picking _ outer | choosing _ outer | measuring _ _ outer => outer.length

/-- The range that the next number is drawn from. -/
def request : Growth → Range
  | picking .. => ⟨0, Pool.size - 1⟩
  | choosing .. => ⟨0, Move.greatest⟩
  | measuring draft .. => ⟨1, draft.gap⟩

def answer (maxDepth : Option Nat) (v : Nat) : Growth → Progress
  | picking target outer =>
    match Pool.entry? v with
    | none => .noEntry v
    | some a =>
      if isCapped maxDepth outer.length then complete (.atom a) outer
      else settle (.atom a) target outer
  | choosing draft outer =>
    match Move.ofDraw v with
    | .wrap => settle draft.group draft.target outer
    | .append op => .growing (.measuring draft op outer)
  | measuring draft op outer => .growing (.picking v (⟨draft, op⟩ :: outer))

/-- What the number that was drawn gives to report. -/
def event? (v : Nat) : Growth → Option Event
  | picking .. | choosing .. => none
  | measuring _ op outer => some (.expanding outer.length v op)

theorem request_low_le (g : Growth) : g.request.low ≤ g.request.high := by
  cases g with
  | picking => exact Nat.zero_le _
  | choosing => exact Nat.zero_le _
  | measuring draft => exact draft.gap_pos

/-! ## The draws to come

A draft that lacks `g` characters takes at most `3 * g` draws: whichever way it grows, no character
costs more than three. A draft that waits for a sub-term with target `target` is charged for what
it will still lack after that. -/

/-- The draws that the waiting drafts may still take, once a term with this target is done. -/
def owed (target : Nat) : List Waiting → Nat
  | [] => 0
  | w :: outer => 3 * (w.draft.gap - target) + owed w.draft.target outer

/-- A bound on the draws to come. -/
def potential : Growth → Nat
  | picking target outer => 3 * max target 1 - 2 + owed target outer
  | choosing draft outer => 3 * draft.gap + owed draft.target outer
  | measuring draft _ outer => 3 * draft.gap - 1 + owed draft.target outer

theorem potential_pos (g : Growth) : 0 < g.potential := by
  cases g with
  | picking => simp only [potential]; omega
  | choosing draft => have := draft.gap_pos; simp only [potential]; omega
  | measuring draft => have := draft.gap_pos; simp only [potential]; omega

/-- A term that reaches its target leaves no more than what is owed for it. -/
theorem potential_complete_le {m : Measured} {target : Nat} {outer : List Waiting} {g : Growth}
    (ht : target ≤ m.length) (h : complete m outer = .growing g) :
    g.potential ≤ owed target outer := by
  induction outer generalizing m target with
  | nil => exact nomatch h
  | cons w outer ih =>
    have hshort := w.draft.short
    simp only [complete] at h
    split at h
    · next hlt =>
      cases h
      simp only [Measured.join] at hlt
      simp only [potential, owed, Draft.gap, Measured.join]
      omega
    · next hge =>
      have := ih (Nat.le_of_not_lt hge) h
      simp only [owed]
      omega

/-- An atom leaves less than a term with any target would have. -/
theorem potential_complete_lt {m : Measured} {target : Nat} {outer : List Waiting} {g : Growth}
    (h : complete m outer = .growing g) :
    g.potential < 3 * max target 1 - 2 + owed target outer := by
  have hm := m.length_pos
  cases outer with
  | nil => exact nomatch h
  | cons w outer =>
    have hshort := w.draft.short
    simp only [complete] at h
    split at h
    · next hlt =>
      cases h
      simp only [Measured.join] at hlt
      simp only [potential, owed, Draft.gap, Measured.join]
      omega
    · next hge =>
      have := potential_complete_le (Nat.le_of_not_lt hge) h
      simp only [owed]
      omega

/-- Every answer in the range asked for brings the end closer. -/
theorem potential_answer_lt {maxDepth : Option Nat} {v : Nat} {g g' : Growth}
    (hv : v ∈ g.request) (h : g.answer maxDepth v = .growing g') :
    g'.potential < g.potential := by
  cases g with
  | picking target outer =>
    simp only [answer] at h
    split at h
    · exact nomatch h
    · next a _ =>
      have hm := (Measured.atom a).length_pos
      split at h
      · exact potential_complete_lt h
      · unfold settle at h
        split at h
        · next hlt => cases h; simp only [potential, Draft.gap]; omega
        · exact potential_complete_lt h
  | choosing draft outer =>
    have hgap := draft.gap_pos
    simp only [answer] at h
    split at h
    · unfold settle at h
      split at h
      · next hlt =>
        cases h
        simp only [Measured.group] at hlt
        simp only [potential, Draft.gap, Measured.group]
        omega
      · next hge =>
        have := potential_complete_le (Nat.le_of_not_lt hge) h
        show g'.potential < 3 * draft.gap + owed draft.target outer
        omega
    · cases h; simp only [potential]; omega
  | measuring draft op outer =>
    have hgap := draft.gap_pos
    cases h
    simp only [request, Range.mem_iff] at hv
    simp only [potential, owed]
    omega

end Growth
end RandomTerms
