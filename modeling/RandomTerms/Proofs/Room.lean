/-
# What a device takes

Call by call a device is a nuisance: it may take less than it is given, ask to be tried again, and
fail in the middle of a text.  Text by text it is simple.  If it takes something whenever it has
room (`Medium.IsFair`), it takes of a text what it has room for, and fails exactly if that is not
all (`Sink.writeAll_of_fair`).  Into how many calls the text was cut, and at which of them the
device asked to be tried again, cannot be told afterwards.
-/
import RandomTerms.Document

namespace RandomTerms

/-! ## Fair devices -/

/-- A device that takes something of a text as long as it has room. -/
def Medium.IsFair (m : Medium) : Prop := ∀ n, m.chunk = some n → 0 < n

/-- A device without limits is fair. -/
theorem Medium.isFair_unlimited : Medium.IsFair {} := by
  intro n h
  cases h

/-- The fault that a device reports when it is full and given more. -/
def Medium.fullFault (m : Medium) : Fault := m.whenFull.getD .writeZero

/-- The reply of a full device to a call. -/
def Medium.refusal (m : Medium) : Except Fault Nat :=
  match m.whenFull with
  | some fault => .error fault
  | none => .ok 0

namespace Sink

/-- The device `s` has taken this text and become `s'`. -/
structure Takes (s : Sink) (text : List Char) (s' : Sink) : Prop where
  medium : s'.medium = s.medium
  accepted : s'.accepted.toList = s.accepted.toList ++ text
  size : s'.size = s.size + text.length
  flushes : s'.flushes = s.flushes

theorem Takes.refl (s : Sink) : s.Takes [] s := ⟨rfl, (List.append_nil _).symm, rfl, rfl⟩

theorem Takes.trans {s s₁ s' : Sink} {text text' : List Char} (h : s.Takes text s₁)
    (h' : s₁.Takes text' s') : s.Takes (text ++ text') s' := by
  refine ⟨h'.medium.trans h.medium, ?_, ?_, h'.flushes.trans h.flushes⟩
  · rw [h'.accepted, h.accepted, List.append_assoc]
  · rw [h'.size, h.size, List.length_append, Nat.add_assoc]

theorem takes_take (s : Sink) (text : List Char) : s.Takes text (s.take text) :=
  ⟨rfl, by simp [take], rfl, rfl⟩

/-! ## Room -/

theorem room_le (s : Sink) (n : Nat) : s.room n ≤ n := by
  unfold room
  split
  · exact Nat.le_refl n
  · exact Nat.min_le_left ..

/-- The room for the beginning of a text, by the room for the whole. -/
theorem room_of_le (s : Sink) {k n : Nat} (h : k ≤ n) : s.room k = min k (s.room n) := by
  unfold room
  split <;> omega

theorem Takes.room {s s' : Sink} {text : List Char} (h : s.Takes text s') (n : Nat) :
    s'.room n = s.room (text.length + n) - text.length := by
  unfold Sink.room
  rw [h.medium, h.size]
  split <;> omega

/-- To have taken nothing makes no difference to the room. -/
theorem Takes.room_eq {s s' : Sink} (h : s.Takes [] s') (n : Nat) : s'.room n = s.room n := by
  simpa using h.room n

/-! ## One call -/

theorem write_of_full {s : Sink} {text : List Char} (hi : s.interrupts = false)
    (hfull : s.room text.length = 0) : s.write text = (s.medium.refusal, s.take []) := by
  simp only [write, hi, hfull, Medium.refusal, Bool.false_eq_true, if_false, if_true]
  cases s.medium.whenFull <;> rfl

/-- As long as there is room, a call takes something, and no more than there is room for. -/
theorem exists_write_of_room {s : Sink} {text : List Char} (hm : s.medium.IsFair)
    (hi : s.interrupts = false) (hroom : 0 < s.room text.length) :
    ∃ n, n + 1 ≤ s.room text.length ∧ s.write text = (.ok (n + 1), s.take (text.take (n + 1))) := by
  simp only [write, hi, Nat.ne_of_gt hroom, Bool.false_eq_true, if_false]
  cases hchunk : s.medium.chunk with
  | none =>
      refine ⟨s.room text.length - 1, by omega, ?_⟩
      rw [Nat.sub_add_cancel hroom]
  | some chunk =>
      have hpos := hm chunk hchunk
      have hmin : 0 < min chunk (s.room text.length) := Nat.lt_min.mpr ⟨hpos, hroom⟩
      refine ⟨min chunk (s.room text.length) - 1, by omega, ?_⟩
      rw [Nat.sub_add_cancel hmin]

/-! ## A whole text -/

/-- What a fair device says to a text of `n` characters: it takes all of it, or it is full. -/
def verdict (s : Sink) (n : Nat) : Except Fault Unit :=
  if n ≤ s.room n then .ok () else .error s.medium.fullFault

theorem verdict_of_le {s : Sink} {n : Nat} (h : n ≤ s.room n) : s.verdict n = .ok () := if_pos h

theorem verdict_of_lt {s : Sink} {n : Nat} (h : s.room n < n) :
    s.verdict n = .error s.medium.fullFault :=
  if_neg (Nat.not_le_of_lt h)

/-- The device was given this text, took of it what it had room for, and became `s'`. -/
def Given (s : Sink) (text : List Char) (s' : Sink) : Prop :=
  s.Takes (text.take (s.room text.length)) s'

theorem Given.takes {s s' : Sink} {text : List Char} (h : s.Given text s')
    (hfit : text.length ≤ s.room text.length) : s.Takes text s' := by
  have htake : text.take (s.room text.length) = text := List.take_of_length_le hfit
  exact htake ▸ h

/-- A device that has taken the first part of a text is to the rest as it was to the whole. -/
theorem Takes.given {s s₁ s' : Sink} {text text' : List Char} (h : s.Takes text s₁)
    (hfit : text.length ≤ s.room (text ++ text').length) (h' : s₁.Given text' s') :
    s.Given (text ++ text') s' ∧ s₁.verdict text'.length = s.verdict (text ++ text').length := by
  have hroom := h.room text'.length
  rw [← List.length_append] at hroom
  constructor
  · have htake : (text ++ text').take (s.room (text ++ text').length)
        = text ++ text'.take (s₁.room text'.length) := by
      rw [hroom, List.take_append, List.take_of_length_le hfit]
    rw [Given, htake]
    exact h.trans h'
  · have hiff : text'.length ≤ s₁.room text'.length
        ↔ (text ++ text').length ≤ s.room (text ++ text').length := by
      rw [hroom]
      simp only [List.length_append] at hfit ⊢
      omega
    simp only [verdict, hiff, h.medium]

/-- A device that is full within the first part of a text takes nothing of the rest. -/
theorem Given.append_of_lt {s s' : Sink} {text : List Char} (h : s.Given text s')
    (hfull : s.room text.length < text.length) (text' : List Char) :
    s.Given (text ++ text') s' ∧ s.verdict (text ++ text').length = .error s.medium.fullFault := by
  have hle : text.length ≤ (text ++ text').length := by simp
  have hroom := s.room_of_le hle
  have hsame : s.room (text ++ text').length = s.room text.length := by omega
  constructor
  · have htake : (text ++ text').take (s.room text.length) = text.take (s.room text.length) :=
      List.take_append_of_le_length (Nat.le_of_lt hfull)
    rw [Given, hsame, htake]
    exact h
  · exact verdict_of_lt (hsame ▸ Nat.lt_of_lt_of_le hfull hle)

/-- What is written to a device that asks to be tried again is written to it once it has asked. -/
theorem exists_quiet (s : Sink) (c : Char) (text : List Char) :
    ∃ s₁, s.Takes [] s₁ ∧ s₁.interrupts = false
      ∧ s.writeAll (c :: text) = s₁.writeAll (c :: text) := by
  cases hi : s.interrupts with
  | false => exact ⟨s, .refl s, hi, rfl⟩
  | true =>
      have hwrite : s.write (c :: text) = (.error .interrupted, s.take []) := if_pos hi
      refine ⟨s.take [], s.takes_take [], interrupts_take hi, ?_⟩
      rw [writeAll_cons, hwrite]

/-- A full device says so, however often it asked before to be tried again. -/
theorem exists_writeAll_of_full {s : Sink} {c : Char} {text : List Char}
    (hfull : s.room (c :: text).length = 0) :
    ∃ s', s.Takes [] s' ∧ s.writeAll (c :: text) = (.error s.medium.fullFault, s') := by
  obtain ⟨s₁, htake, hquiet, hsame⟩ := s.exists_quiet c text
  have hfull₁ : s₁.room (c :: text).length = 0 := (htake.room_eq _).trans hfull
  refine ⟨s₁.take [], htake.trans (s₁.takes_take []), ?_⟩
  rw [hsame, writeAll_cons, write_of_full hquiet hfull₁, htake.medium, Medium.refusal,
    Medium.fullFault]
  cases hwhen : s.medium.whenFull with
  | none => rfl
  | some fault =>
      have hne : fault ≠ .interrupted := fun h => s.medium.whenFull_ne (h ▸ hwhen)
      cases fault with
      | interrupted => exact absurd rfl hne
      | _ => rfl

/-- As long as there is room, a first part is taken and the rest is still to be written. -/
theorem exists_writeAll_of_room {s : Sink} {c : Char} {text : List Char} (hm : s.medium.IsFair)
    (hroom : 0 < s.room (c :: text).length) :
    ∃ n s', n + 1 ≤ s.room (c :: text).length ∧ s.Takes ((c :: text).take (n + 1)) s'
      ∧ s.writeAll (c :: text) = s'.writeAll (text.drop n) := by
  obtain ⟨s₁, htake, hquiet, hsame⟩ := s.exists_quiet c text
  have hroom₁ := htake.room_eq (c :: text).length
  have hpos : 0 < s₁.room (c :: text).length := hroom₁ ▸ hroom
  obtain ⟨n, hn, hwrite⟩ := exists_write_of_room (htake.medium ▸ hm) hquiet hpos
  refine ⟨n, _, hroom₁ ▸ hn, htake.trans (s₁.takes_take _), ?_⟩
  rw [hsame, writeAll_cons, hwrite]
  rfl

/-- A fair device takes of a text what it has room for. -/
theorem writeAll_of_fair : ∀ (text : List Char) {s : Sink}, s.medium.IsFair →
    ∃ s', s.Given text s' ∧ s.writeAll text = (s.verdict text.length, s')
  | [], s, _ => by
      have hok : s.verdict 0 = .ok () := verdict_of_le (Nat.zero_le _)
      refine ⟨s, ?_, ?_⟩
      · rw [Given, List.take_nil]
        exact .refl s
      · rw [writeAll, List.length_nil, hok]
  | c :: text, s, hm => by
      by_cases hfull : s.room (c :: text).length = 0
      · obtain ⟨s', htake, hwrite⟩ := exists_writeAll_of_full hfull
        have herror := verdict_of_lt (s := s) (hfull ▸ Nat.succ_pos text.length)
        refine ⟨s', ?_, hwrite.trans ?_⟩
        · rw [Given, hfull]
          exact htake
        · rw [herror]
      · obtain ⟨n, s₁, hn, htake, hwrite⟩ :=
          exists_writeAll_of_room hm (Nat.pos_of_ne_zero hfull)
        have hlen : ((c :: text).take (n + 1)).length = n + 1 :=
          List.length_take_of_le (Nat.le_trans hn (s.room_le _))
        have hwhole : (c :: text).take (n + 1) ++ text.drop n = c :: text := by simp
        obtain ⟨s', hgiven, hrest⟩ := writeAll_of_fair (text.drop n) (htake.medium ▸ hm)
        have hfit : ((c :: text).take (n + 1)).length
            ≤ s.room ((c :: text).take (n + 1) ++ text.drop n).length := by
          rw [hwhole, hlen]
          exact hn
        have h := htake.given hfit hgiven
        rw [hwhole] at h
        refine ⟨s', h.1, ?_⟩
        rw [hwrite, ← h.2]
        exact hrest
termination_by text => text.length
decreasing_by
  simp only [List.length_drop, List.length_cons]
  omega

/-- The device after it was flushed. -/
def flushed (s : Sink) : Sink := ⟨s.medium, s.accepted, s.size, s.calls, s.flushes + 1⟩

theorem flush_of_none {s : Sink} (h : s.medium.flushFault = none) :
    s.flush = (.ok (), s.flushed) := by
  simp [flush, flushed, h]

theorem flush_of_some {s : Sink} {fault : Fault} (h : s.medium.flushFault = some fault) :
    s.flush = (.error fault, s.flushed) := by
  simp [flush, flushed, h]

end Sink

/-! ## A line -/

theorem Document.writeLine_of_fair (line : List Char) {s : Sink} (hm : s.medium.IsFair) :
    ∃ s', s.Given (line ++ ['\n']) s'
      ∧ writeLine line s = (s.verdict (line ++ ['\n']).length, s') := by
  obtain ⟨s₁, hgiven, hline⟩ := Sink.writeAll_of_fair line hm
  unfold writeLine
  by_cases hfit : line.length ≤ s.room line.length
  · have htake := hgiven.takes hfit
    obtain ⟨s', hgiven', hend⟩ := Sink.writeAll_of_fair ['\n'] (htake.medium ▸ hm)
    have hroom := s.room_of_le (k := line.length) (n := (line ++ ['\n']).length) (by simp)
    obtain ⟨hwhole, hverdict⟩ := htake.given (by omega) hgiven'
    refine ⟨s', hwhole, ?_⟩
    rw [← hverdict, show Writer.writeAll line s = _ from hline, Sink.verdict_of_le hfit]
    exact hend
  · have hfull := Nat.lt_of_not_le hfit
    obtain ⟨hwhole, hverdict⟩ := hgiven.append_of_lt hfull ['\n']
    refine ⟨s₁, hwhole, ?_⟩
    rw [hverdict, show Writer.writeAll line s = _ from hline, Sink.verdict_of_lt hfull]

end RandomTerms
