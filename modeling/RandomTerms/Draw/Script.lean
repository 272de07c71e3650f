/-
# Scripts

Sources that hold the numbers to be drawn. A `Script` gives them out in order and stops at one
that does not fit; an `Unchecked` script gives them out whatever was asked for; a `Cycle` starts
over at its end and brings every number into the range.
-/
import RandomTerms.Draw

namespace RandomTerms

/-- Numbers to be drawn in order, each of them checked against the range. -/
structure Script where
  values : List Nat
deriving DecidableEq, Repr

/-- Takes the next number off the script; it is gone even if it does not fit. -/
def Script.draw (r : Range) : Script → Reply Script
  | ⟨[]⟩ => .stopped (.scriptEnded r) ⟨[]⟩
  | ⟨v :: rest⟩ => if v ∈ r then .answered v ⟨rest⟩ else .stopped (.outside v r) ⟨rest⟩

theorem Script.mem_of_draw {r : Range} {s s' : Script} {v : Nat}
    (h : s.draw r = .answered v s') : v ∈ r := by
  obtain ⟨values⟩ := s
  cases values with
  | nil => exact nomatch h
  | cons w rest =>
    simp only [draw] at h
    split at h
    · next hw => injection h with hv _; exact hv ▸ hw
    · exact nomatch h

instance : SteadySource Script where
  draw := Script.draw
  supply _ := 0
  supply_le _ := Nat.le_refl _
  supply_lt h _ hv := absurd (Script.mem_of_draw h) hv

/-- Numbers to be drawn in order, whatever the range. -/
structure Unchecked where
  values : List Nat
deriving DecidableEq, Repr

def Unchecked.draw (r : Range) : Unchecked → Reply Unchecked
  | ⟨[]⟩ => .stopped (.scriptEnded r) ⟨[]⟩
  | ⟨v :: rest⟩ => .answered v ⟨rest⟩

theorem Unchecked.length_of_draw {r : Range} {s s' : Unchecked} {v : Nat}
    (h : s.draw r = .answered v s') : s'.values.length < s.values.length := by
  obtain ⟨values⟩ := s
  cases values with
  | nil => exact nomatch h
  | cons w rest => injection h with _ hs; exact hs ▸ Nat.lt_succ_self _

instance : SteadySource Unchecked where
  draw := Unchecked.draw
  supply s := s.values.length
  supply_le h := Nat.le_of_lt (Unchecked.length_of_draw h)
  supply_lt h _ _ := Unchecked.length_of_draw h

/-- Numbers to be drawn over and over: those left of the current round, and those of every round. -/
structure Cycle where
  rest : List Nat
  round : List Nat
deriving DecidableEq, Repr

/-- A cycle at the beginning of its first round. -/
def Cycle.ofList (values : List Nat) : Cycle := ⟨values, values⟩

/-- The next number, brought into the range. A cycle of no numbers has none to give. -/
def Cycle.draw (r : Range) : Cycle → Reply Cycle
  | ⟨v :: rest, round⟩ => .answered (r.wrap v) ⟨rest, round⟩
  | ⟨[], v :: rest⟩ => .answered (r.wrap v) ⟨rest, v :: rest⟩
  | ⟨[], []⟩ => .stopped (.scriptEnded r) ⟨[], []⟩

theorem Cycle.mem_of_draw {r : Range} (hr : r.low ≤ r.high) {s s' : Cycle} {v : Nat}
    (h : s.draw r = .answered v s') : v ∈ r := by
  unfold draw at h
  split at h
  · injection h with hv _; exact hv ▸ Range.wrap_mem hr _
  · injection h with hv _; exact hv ▸ Range.wrap_mem hr _
  · exact nomatch h

instance : SteadySource Cycle where
  draw := Cycle.draw
  supply _ := 0
  supply_le _ := Nat.le_refl _
  supply_lt h hr hv := absurd (Cycle.mem_of_draw hr h) hv

end RandomTerms
