/-
# Where the text goes

A device takes text a call at a time and need not take all that it is given: it may take a part,
ask to be tried again, or fail. Writing a text means to call until all of it is taken, and a call
that takes nothing of a text is a failure. A device that asked at every call to be tried again, or
asked because it is full, would be written to for ever; there are no such devices here, so writing
always ends.

All that is written here is ASCII, so room is counted in characters.
-/

namespace RandomTerms

inductive Fault
  | brokenPipe
  | permissionDenied
  | unexpectedEnd
  | storageFull
  /-- The device asks to be tried again. -/
  | interrupted
  /-- A call took nothing of a text. -/
  | writeZero
  | other (message : String)
deriving DecidableEq, Repr

def Fault.message : Fault → String
  | .brokenPipe => "broken pipe"
  | .permissionDenied => "permission denied"
  | .unexpectedEnd => "unexpected end of file"
  | .storageFull => "No space left on device (os error 28)"
  | .interrupted => "operation interrupted"
  | .writeZero => "failed to write whole buffer"
  | .other message => message

/-- Something that text is written to. -/
class Writer (ω : Type) where
  /-- Writes all of a text, or fails on the way. -/
  writeAll : List Char → ω → Except Fault Unit × ω
  /-- Sees to it that what was written has arrived. -/
  flush : ω → Except Fault Unit × ω

/-! ## A device of limited room -/

structure Medium where
  /-- How many characters it takes in all. -/
  capacity : Option Nat := none
  /-- How it fails when it is full and given more; without a fault, such a call takes nothing. -/
  whenFull : Option Fault := some .brokenPipe
  /-- The most characters that one call takes. -/
  chunk : Option Nat := none
  /-- Each call with a number divisible by this one asks to be tried again. -/
  interruptEvery : Option Nat := none
  flushFault : Option Fault := none
  /-- To be full is no reason to ask to be tried again. -/
  whenFull_ne : whenFull ≠ some .interrupted := by decide
  /-- Not every call asks to be tried again. -/
  interruptEvery_ne : interruptEvery ≠ some 1 := by decide
deriving DecidableEq, Repr

/-- A device with what it has taken, the calls made so far, and how often it was flushed. -/
structure Sink where
  medium : Medium
  accepted : String
  size : Nat
  calls : Nat
  flushes : Nat
deriving DecidableEq, Repr

namespace Sink

/-- A device to which nothing was written yet. -/
def new (medium : Medium) : Sink := ⟨medium, "", 0, 0, 0⟩

/-- Whether the next call asks to be tried again. -/
def interrupts (s : Sink) : Bool :=
  match s.medium.interruptEvery with
  | none => false
  | some every => 0 < every && (s.calls + 1) % every == 0

/-- How much of a text of `n` characters a call may take. -/
def room (s : Sink) (n : Nat) : Nat :=
  match s.medium.capacity with
  | none => n
  | some capacity => min n (capacity - s.size)

/-- The device after a call that took `taken`. -/
def take (s : Sink) (taken : List Char) : Sink :=
  ⟨s.medium, s.accepted ++ .ofList taken, s.size + taken.length, s.calls + 1, s.flushes⟩

/-- One call, with the number of characters that it took. -/
def write (text : List Char) (s : Sink) : Except Fault Nat × Sink :=
  if s.interrupts then (.error .interrupted, s.take [])
  else if s.room text.length = 0 then
    match s.medium.whenFull with
    | some fault => (.error fault, s.take [])
    | none => (.ok 0, s.take [])
  else
    let n := match s.medium.chunk with
      | none => s.room text.length
      | some chunk => min chunk (s.room text.length)
    (.ok n, s.take (text.take n))

/-- A device that asks at one call to be tried again does not ask at the next. -/
theorem interrupts_take {s : Sink} (h : s.interrupts = true) : (s.take []).interrupts = false := by
  unfold interrupts at h ⊢
  simp only [take]
  split at h
  · cases h
  · next every hevery =>
    simp only [Bool.and_eq_true, decide_eq_true_eq, beq_iff_eq] at h
    have hne : every ≠ 1 := fun hone => s.medium.interruptEvery_ne (hone ▸ hevery)
    have hone : 1 % every = 1 := Nat.mod_eq_of_lt (by omega)
    have hnext : (s.calls + 1 + 1) % every = 1 := by
      rw [Nat.add_mod, h.2, hone, Nat.zero_add, hone]
    simp [hnext]

/-- The calls at which a device asks to be tried again are those that are meant for it: it does not
ask because it is full. -/
theorem write_eq_interrupted {text : List Char} {s s' : Sink}
    (h : s.write text = (.error .interrupted, s')) : s.interrupts = true ∧ s' = s.take [] := by
  unfold write at h
  split at h
  · next hi =>
    cases h
    exact ⟨hi, rfl⟩
  · split at h
    · split at h
      · next hfull =>
        cases h
        exact absurd hfull s.medium.whenFull_ne
      · cases h
    · cases h

/-- Calls until all of the text is taken, and calls once more if the device asks for it. -/
def writeAll : List Char → Sink → Except Fault Unit × Sink
  | [], s => (.ok (), s)
  | c :: text, s =>
    match _hwrite : s.write (c :: text) with
    | (.error .interrupted, s) => writeAll (c :: text) s
    | (.error fault, s) => (.error fault, s)
    | (.ok 0, s) => (.error .writeZero, s)
    | (.ok (n + 1), s) => writeAll (text.drop n) s
termination_by text s => (text.length, s.interrupts.toNat)
decreasing_by
  · obtain ⟨hi, rfl⟩ := write_eq_interrupted _hwrite
    rw [hi, interrupts_take hi]
    exact Prod.Lex.right _ Nat.one_pos
  · refine Prod.Lex.left _ _ ?_
    simp only [List.length_drop, List.length_cons]
    omega

theorem writeAll_cons (c : Char) (text : List Char) (s : Sink) : s.writeAll (c :: text) =
    match s.write (c :: text) with
    | (.error .interrupted, s) => s.writeAll (c :: text)
    | (.error fault, s) => (.error fault, s)
    | (.ok 0, s) => (.error .writeZero, s)
    | (.ok (n + 1), s) => s.writeAll (text.drop n) := by
  rw [writeAll]
  split <;> simp only [*]

def flush (s : Sink) : Except Fault Unit × Sink :=
  let s : Sink := ⟨s.medium, s.accepted, s.size, s.calls, s.flushes + 1⟩
  match s.medium.flushFault with
  | none => (.ok (), s)
  | some fault => (.error fault, s)

instance : Writer Sink := ⟨writeAll, flush⟩

end Sink

/-! ## A buffer in front of a device

Text gathers in the buffer and goes to the device when the next text does not fit behind it, or on
flushing. So a device that takes nothing at all is only found out then. -/

/-- A device that takes everything it is given, or nothing: then each call fails, and none asks to
be tried again. -/
inductive Device
  | accepting
  | failing (fault : Fault) (fault_ne : fault ≠ .interrupted)
deriving DecidableEq, Repr

/-- A device with a buffer in front of it: what the device has taken, and what is in the buffer. -/
structure Buffered where
  device : Device
  written : String
  pending : String
  pendingSize : Nat
deriving DecidableEq, Repr

namespace Buffered

/-- How many characters the buffer holds. -/
def capacity : Nat := 8192

/-- A device to which nothing was written yet. -/
def new (device : Device) : Buffered := ⟨device, "", "", 0⟩

/-- Gives what is in the buffer to the device. -/
def empty (b : Buffered) : Except Fault Unit × Buffered :=
  match b.pendingSize, b.device with
  | 0, _ => (.ok (), b)
  | _, .accepting => (.ok (), ⟨b.device, b.written ++ b.pending, "", 0⟩)
  | _, .failing fault _ => (.error fault, b)

/-- Puts a text into the buffer, or hands it to the device if the buffer could not hold it. -/
def put (text : List Char) (b : Buffered) : Except Fault Unit × Buffered :=
  if text.length < capacity then
    (.ok (), ⟨b.device, b.written, b.pending ++ .ofList text, b.pendingSize + text.length⟩)
  else
    match b.device with
    | .accepting => (.ok (), ⟨b.device, b.written ++ .ofList text, b.pending, b.pendingSize⟩)
    | .failing fault _ => (.error fault, b)

/-- Writes a text behind what is in the buffer, which is emptied first if there is no room. -/
def writeAll (text : List Char) (b : Buffered) : Except Fault Unit × Buffered :=
  if capacity - b.pendingSize < text.length then
    match b.empty with
    | (.error fault, b) => (.error fault, b)
    | (.ok (), b) => b.put text
  else b.put text

instance : Writer Buffered := ⟨writeAll, empty⟩

end Buffered
end RandomTerms
