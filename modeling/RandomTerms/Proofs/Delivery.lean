/-
# Documents on a device

What arrives of a document on a device of limited room.  A fair device takes the text up to the
character where its room ends, wherever this lies, and so it says where the writing stopped: the
terms that have been made are those whose line begins in the room.  One that begins just where the
room ends is among them, as a term is made before any of its line is written.

The induction is on the terms, for a device with any room (`fills_of_room`, `fills_of_full`).
-/
import RandomTerms.Proofs.Room
import RandomTerms.Proofs.Series
import RandomTerms.Proofs.Soundness

namespace RandomTerms

open Text

variable {σ : Type}

/-! ## Documents are ASCII -/

/-- A text of ASCII characters has one byte for each of them. -/
theorem utf8_eq_map {s : List Char} (h : ∀ c ∈ s, c.toNat ≤ 0x7f) :
    utf8 s = s.map fun c => UInt8.ofNat c.toNat := by
  induction s with
  | nil => rfl
  | cons c s ih =>
      obtain ⟨hc, hs⟩ := List.forall_mem_cons.mp h
      have htail := ih hs
      unfold utf8 at htail ⊢
      rw [List.flatMap_cons, utf8EncodeChar_of_le hc, htail]
      rfl

theorem Term.toNat_le_of_isTermChar {c : Char} (h : isTermChar c = true) : c.toNat ≤ 0x7f := by
  simp only [isTermChar, Bool.or_eq_true, beq_iff_eq] at h
  rcases h with (((((h | h) | h) | h) | h) | h) | h
  · have hle : c.toNat ≤ 'z'.toNat := of_decide_eq_true (Bool.and_eq_true_iff.mp h).2
    exact Nat.le_trans hle (by decide)
  · exact Nat.le_trans (Char.isDigit_iff_toNat.mp h).2 (by decide)
  all_goals exact h ▸ by decide

/-- A digit of the first line is a character of terms too. -/
theorem Document.isTermChar_of_mem_toDigits {n : Nat} {c : Char} (h : c ∈ Nat.toDigits 10 n) :
    Term.isTermChar c = true := by
  have hdigit : c.isDigit = true := Nat.isDigit_of_mem_toDigits (by decide) (by decide) h
  simp [Term.isTermChar, hdigit]

theorem Generator.Derives.isBasic {gen : Generator} {m : Made} (h : gen.Derives m) :
    m.term.IsBasic :=
  h.1.isBasic

/-- A document is written with the characters of terms and line ends. -/
theorem Document.mem_layout {c : Config} {ts : List Term} (hts : ∀ t ∈ ts, t.IsBasic) :
    ∀ x ∈ layout c ts, Term.isTermChar x = true ∨ x = '\n' := by
  intro x hx
  simp only [layout, header, lines, List.mem_append, List.mem_flatMap, List.mem_singleton] at hx
  rcases hx with (hx | hx) | ⟨t, ht, hx | hx⟩
  · exact .inl (isTermChar_of_mem_toDigits hx)
  · exact .inr hx
  · exact .inl (Term.isTermChar_of_mem (hts t ht) x hx)
  · exact .inr hx

theorem Document.toNat_le_of_mem_layout {c : Config} {ts : List Term} (hts : ∀ t ∈ ts, t.IsBasic) :
    ∀ x ∈ layout c ts, x.toNat ≤ 0x7f := by
  intro x hx
  rcases mem_layout hts x hx with h | rfl
  · exact Term.toNat_le_of_isTermChar h
  · decide

theorem Document.utf8_layout {c : Config} {ts : List Term} (hts : ∀ t ∈ ts, t.IsBasic) :
    utf8 (layout c ts) = (layout c ts).map fun x => UInt8.ofNat x.toNat :=
  utf8_eq_map (toNat_le_of_mem_layout hts)

/-! ## The terms that are reported -/

/-- The number and the length of the term that an event says is made. -/
def Event.generated? : Event → Option (Nat × Nat)
  | .generated index length => some (index, length)
  | .expanding .. => none

/-- The terms that entries say are made, by number and length. -/
def generatedTerms (es : List Entry) : List (Nat × Nat) := (reported es).filterMap Event.generated?

theorem generatedTerms_append (es es' : List Entry) :
    generatedTerms (es ++ es') = generatedTerms es ++ generatedTerms es' := by
  simp only [generatedTerms, reported, List.filterMap_append]

/-- While a term is made, none is reported as made. -/
theorem Reaches.generatedTerms_eq {maxDepth : Option Nat} {depth target : Nat} {es : List Entry}
    {t : Term} : Reaches maxDepth depth target es t → generatedTerms es = [] := by
  intro h
  induction h with
  | atom _ => rfl
  | group _ _ _ ih =>
      rw [generatedTerms_append, ih]
      rfl
  | join _ _ _ _ _ ihl ihr =>
      rw [generatedTerms_append, ihl]
      exact ihr

namespace Document

theorem generatedTerms_record {gen : Generator} {made : List Made}
    (h : ∀ m ∈ made, gen.Derives m) (index : Nat) :
    generatedTerms (record index made) = (made.zipIdx index).map fun p => (p.2, p.1.term.length) := by
  induction made generalizing index with
  | nil => rfl
  | cons m made ih =>
      obtain ⟨hm, hmade⟩ := List.forall_mem_cons.mp h
      have hone : generatedTerms m.entries = [] := hm.1.generatedTerms_eq
      rw [record, generatedTerms_append, hone, List.zipIdx_cons, List.map_cons,
        ← ih hmade (index + 1)]
      rfl

/-! ## The lines of the terms -/

/-- A device with room for all the lines gets all of them and is flushed. -/
theorem fills_of_room (made : List Made) {s : Sink} (hm : s.medium.IsFair)
    (hfit : (lines (made.map Made.term)).length ≤ s.room (lines (made.map Made.term)).length) :
    ∃ s', s.Takes (lines (made.map Made.term)) s'
      ∧ Fills made.length s made s.medium.flushFault s'.flushed := by
  induction made generalizing s with
  | nil =>
      refine ⟨s, .refl s, ?_⟩
      cases h : s.medium.flushFault with
      | none => exact .flushed (Sink.flush_of_none h)
      | some fault => exact .unflushed (Sink.flush_of_some h)
  | cons m made ih =>
      obtain ⟨s₁, hgiven, hline⟩ := writeLine_of_fair m.term.chars hm
      simp only [List.map_cons, lines_cons] at hfit ⊢
      generalize m.term.chars ++ ['\n'] = line at hfit hgiven hline ⊢
      generalize hrest : lines (made.map Made.term) = rest at hfit ih ⊢
      have hlen : (line ++ rest).length = line.length + rest.length := List.length_append
      have hroom := s.room_of_le (k := line.length) (n := (line ++ rest).length) (by omega)
      have htake := hgiven.takes (by omega)
      have hroom₁ := htake.room rest.length
      rw [← hlen] at hroom₁
      obtain ⟨s', htake', hfills⟩ := ih (htake.medium ▸ hm) (by omega)
      refine ⟨s', htake.trans htake', .line ?_ (htake.medium ▸ hfills)⟩
      rw [hline, Sink.verdict_of_le (by omega)]

/-- A device without room for all the lines gets those that begin in its room. -/
theorem fills_of_full (made : List Made) {s : Sink} (hm : s.medium.IsFair)
    (hfull : s.room (lines (made.map Made.term)).length < (lines (made.map Made.term)).length) :
    ∃ n s', s.Given (lines (made.map Made.term)) s'
      ∧ Fills made.length s (made.take n) (some s.medium.fullFault) s'
      ∧ ∀ i < made.length, i < n ↔ (lines ((made.take i).map Made.term)).length
          ≤ s.room (lines (made.map Made.term)).length := by
  induction made generalizing s with
  | nil => exact absurd hfull (Nat.not_lt_zero _)
  | cons m made ih =>
      obtain ⟨s₁, hgiven, hline⟩ := writeLine_of_fair m.term.chars hm
      have hstart (i : Nat) : (lines (((m :: made).take (i + 1)).map Made.term)).length
          = (m.term.chars ++ ['\n']).length + (lines ((made.take i).map Made.term)).length := by
        rw [List.take_succ_cons, List.map_cons, lines_cons, List.length_append]
      simp only [List.map_cons, lines_cons] at hfull ⊢
      generalize m.term.chars ++ ['\n'] = line at hfull hgiven hline hstart ⊢
      generalize lines (made.map Made.term) = rest at hfull ih ⊢
      have hlen : (line ++ rest).length = line.length + rest.length := List.length_append
      have hroom := s.room_of_le (k := line.length) (n := (line ++ rest).length) (by omega)
      by_cases hfit : line.length ≤ s.room line.length
      · have htake := hgiven.takes hfit
        have hroom₁ := htake.room rest.length
        rw [← hlen] at hroom₁
        obtain ⟨n, s', hgiven', hfills, hbegun⟩ := ih (htake.medium ▸ hm) (by omega)
        refine ⟨n + 1, s', (htake.given (by omega) hgiven').1, .line ?_ (htake.medium ▸ hfills), ?_⟩
        · rw [hline, Sink.verdict_of_le hfit]
        · intro i hi
          cases i with
          | zero => simp
          | succ i =>
              have hlast := hbegun i (Nat.lt_of_succ_lt_succ hi)
              rw [hstart, Nat.succ_lt_succ_iff, hlast]
              omega
      · have hlt := Nat.lt_of_not_le hfit
        refine ⟨1, s₁, (hgiven.append_of_lt hlt rest).1, .failed ?_, ?_⟩
        · rw [hline, Sink.verdict_of_lt hlt]
        · intro i hi
          cases i with
          | zero => simp
          | succ i =>
              rw [hstart]
              omega

/-! ## The whole document -/

theorem writes_of_room {c : Config} {made : List Made} (hcount : made.length = c.termCount)
    {s : Sink} (hm : s.medium.IsFair)
    (hfit : (layout c (made.map Made.term)).length
      ≤ s.room (layout c (made.map Made.term)).length) :
    ∃ s', s.Takes (layout c (made.map Made.term)) s'
      ∧ Writes c s made s.medium.flushFault s'.flushed := by
  obtain ⟨s₁, hgiven, hline⟩ := writeLine_of_fair (Nat.toDigits 10 c.pairCount) hm
  have hlen : (layout c (made.map Made.term)).length
      = (header c).length + (lines (made.map Made.term)).length := List.length_append
  have hroom := s.room_of_le (k := (header c).length)
    (n := (layout c (made.map Made.term)).length) (by omega)
  have hhead : (header c).length ≤ s.room (header c).length := by omega
  have htake : s.Takes (header c) s₁ := hgiven.takes hhead
  have hroom₁ := htake.room (lines (made.map Made.term)).length
  rw [← hlen] at hroom₁
  obtain ⟨s', htake', hfills⟩ := fills_of_room made (htake.medium ▸ hm) (by omega)
  refine ⟨s', htake.trans htake', .header ?_ (hcount ▸ htake.medium ▸ hfills)⟩
  rw [hline, ← header, Sink.verdict_of_le hhead]

/-- Where the device is full, the terms have been made whose line begins in the room. -/
theorem writes_of_full {c : Config} {made : List Made} (hcount : made.length = c.termCount)
    {s : Sink} (hm : s.medium.IsFair)
    (hfull : s.room (layout c (made.map Made.term)).length
      < (layout c (made.map Made.term)).length) :
    ∃ n s', s.Given (layout c (made.map Made.term)) s'
      ∧ Writes c s (made.take n) (some s.medium.fullFault) s'
      ∧ ∀ i < made.length, i < n ↔ (layout c ((made.take i).map Made.term)).length
          ≤ s.room (layout c (made.map Made.term)).length := by
  obtain ⟨s₁, hgiven, hline⟩ := writeLine_of_fair (Nat.toDigits 10 c.pairCount) hm
  have hlen (ts : List Term) : (layout c ts).length = (header c).length + (lines ts).length :=
    List.length_append
  have hall := hlen (made.map Made.term)
  have hroom := s.room_of_le (k := (header c).length)
    (n := (layout c (made.map Made.term)).length) (by omega)
  by_cases hhead : (header c).length ≤ s.room (header c).length
  · have htake : s.Takes (header c) s₁ := hgiven.takes hhead
    have hroom₁ := htake.room (lines (made.map Made.term)).length
    rw [← hall] at hroom₁
    obtain ⟨n, s', hgiven', hfills, hbegun⟩ := fills_of_full made (htake.medium ▸ hm) (by omega)
    have hfit : (header c).length ≤ s.room (layout c (made.map Made.term)).length := by omega
    refine ⟨n, s', (htake.given hfit hgiven').1, .header ?_ (hcount ▸ htake.medium ▸ hfills), ?_⟩
    · rw [hline, ← header, Sink.verdict_of_le hhead]
    · intro i hi
      rw [hbegun i hi, hlen]
      omega
  · have hlt := Nat.lt_of_not_le hhead
    refine ⟨0, s₁, (hgiven.append_of_lt hlt _).1, .failed ?_, ?_⟩
    · rw [hline, ← header, Sink.verdict_of_lt hlt]
    · intro i _
      rw [hlen]
      omega

/-! ## From a source onto a device -/

variable [DrawSource σ] {c : Config} {s s' : σ} {made : List Made}

theorem exists_write?_of_room (hmade : c.generator.Makes s made s')
    (hcount : made.length = c.termCount) {m : Medium} (hm : m.IsFair)
    (hfit : ∀ room, m.capacity = some room → (layout c (made.map Made.term)).length ≤ room) :
    ∃ w, write? c (Tape.blank s) (Sink.new m)
        = some ⟨m.flushFault.map .writer, (Tape.blank s).extend (record 0 made) s', w⟩
      ∧ w.accepted.toList = layout c (made.map Made.term) ∧ w.flushes = 1 := by
  obtain ⟨hd, ha⟩ := Generator.makes_iff.mp hmade
  have hroom : (layout c (made.map Made.term)).length
      ≤ (Sink.new m).room (layout c (made.map Made.term)).length := by
    unfold Sink.room
    cases hcap : (Sink.new m).medium.capacity with
    | none => exact Nat.le_refl _
    | some room => exact Nat.le_min.mpr ⟨Nat.le_refl _, hfit room hcap⟩
  obtain ⟨w, htake, hwrites⟩ := writes_of_room (s := Sink.new m) hcount hm hroom
  refine ⟨w.flushed, write?_eq_some_iff.mpr ⟨made, s', hd, hwrites, answers_record_iff.mpr ha, rfl⟩,
    htake.accepted, ?_⟩
  exact congrArg Nat.succ htake.flushes

theorem exists_write?_of_full (hmade : c.generator.Makes s made s')
    (hcount : made.length = c.termCount) {m : Medium} (hm : m.IsFair) {room : Nat}
    (hcap : m.capacity = some room) (hfull : room < (layout c (made.map Made.term)).length) :
    ∃ n m' w, write? c (Tape.blank s) (Sink.new m)
        = some ⟨some (.writer m.fullFault), (Tape.blank s).extend (record 0 (made.take n)) m', w⟩
      ∧ c.generator.Makes s (made.take n) m'
      ∧ w.accepted.toList = (layout c (made.map Made.term)).take room ∧ w.flushes = 0
      ∧ ∀ i < made.length, i < n ↔ (layout c ((made.take i).map Made.term)).length ≤ room := by
  have hroom : (Sink.new m).room (layout c (made.map Made.term)).length = room := by
    unfold Sink.room
    rw [show (Sink.new m).medium.capacity = some room from hcap]
    exact Nat.min_eq_right (Nat.le_of_lt hfull)
  obtain ⟨n, w, hgiven, hwrites, hbegun⟩ := writes_of_full (s := Sink.new m) hcount hm
    (hroom ▸ hfull)
  obtain ⟨m', hfirst⟩ := hmade.take n
  obtain ⟨hd, ha⟩ := Generator.makes_iff.mp hfirst
  rw [hroom] at hbegun
  rw [Sink.Given, hroom] at hgiven
  exact ⟨n, m', w, write?_eq_some_iff.mpr ⟨made.take n, m', hd, hwrites, answers_record_iff.mpr ha,
    rfl⟩, hfirst, hgiven.accepted, hgiven.flushes, hbegun⟩

end Document

/-- What a device has taken, in bytes. -/
def Sink.bytes (s : Sink) : List UInt8 := utf8 s.accepted.toList

open Document in
/-- Where a source gives all the terms of a document, a device without limits takes the document,
and a fair device takes as many bytes of it as it has room for.  If these are all, it is flushed
once, and only flushing may fail.  If not, it is not flushed and the fault is that it is full, and
then the terms that have been made, reported and paid for in draws are those whose line begins at or
before the byte where the room ends. -/
theorem Document.write?_of_fair [DrawSource σ] {c : Config} {s s' : σ} {made : List Made} :
    c.generator.Makes s made s' → made.length = c.termCount →
      ∃ full, write? c (Tape.blank s) (Sink.new {}) = some full ∧ full.trouble = none
        ∧ full.tape.source = s' ∧ full.tape.entries = record 0 made
        ∧ full.writer.bytes = utf8 (layout c (made.map Made.term))
        ∧ ∀ m : Medium, m.IsFair → ∃ W, write? c (Tape.blank s) (Sink.new m) = some W
          ∧ ((∀ room, m.capacity = some room → full.writer.bytes.length ≤ room) →
              W.writer.bytes = full.writer.bytes ∧ W.writer.flushes = 1
              ∧ W.trouble = m.flushFault.map .writer ∧ W.tape = full.tape
              ∧ generatedTerms W.tape.entries
                = made.zipIdx.map fun p => (p.2, p.1.term.length))
          ∧ ∀ room, m.capacity = some room → room < full.writer.bytes.length →
              W.writer.bytes = full.writer.bytes.take room ∧ W.writer.flushes = 0
              ∧ W.trouble = some (.writer m.fullFault)
              ∧ ∃ n, (∀ i < made.length,
                    i < n ↔ (utf8 (layout c ((made.take i).map Made.term))).length ≤ room)
                ∧ c.generator.Makes s (made.take n) W.tape.source
                ∧ W.tape.entries = record 0 (made.take n)
                ∧ generatedTerms W.tape.entries
                  = (made.take n).zipIdx.map fun p => (p.2, p.1.term.length) := by
  intro hmade hcount
  have hd := (Generator.makes_iff.mp hmade).1
  have hbasic (n : Nat) : ∀ t ∈ (made.take n).map Made.term, t.IsBasic := by
    intro t ht
    obtain ⟨m, hm, rfl⟩ := List.mem_map.mp ht
    exact (hd m (List.mem_of_mem_take hm)).isBasic
  have hall : ∀ t ∈ made.map Made.term, t.IsBasic := by
    have h := hbasic made.length
    rwa [List.take_length] at h
  have hbytes := utf8_layout (c := c) hall
  obtain ⟨w, hw, hdoc, -⟩ := exists_write?_of_room hmade hcount Medium.isFair_unlimited
    (fun _ h => nomatch h)
  have hfull : w.bytes = utf8 (layout c (made.map Made.term)) := by rw [Sink.bytes, hdoc]
  refine ⟨_, hw, rfl, rfl, Tape.entries_extend .., hfull, ?_⟩
  intro m hm
  by_cases hfit : ∀ room, m.capacity = some room → (layout c (made.map Made.term)).length ≤ room
  · obtain ⟨w', hw', hdoc', hflush⟩ := exists_write?_of_room hmade hcount hm hfit
    refine ⟨_, hw', fun _ => ⟨?_, hflush, rfl, rfl, ?_⟩, ?_⟩
    · rw [hfull, Sink.bytes, hdoc']
    · rw [Tape.entries_extend]
      exact generatedTerms_record hd 0
    · intro room hcap hlt
      have hle := hfit room hcap
      rw [hfull, hbytes, List.length_map] at hlt
      exact absurd hlt (Nat.not_lt_of_le hle)
  · obtain ⟨room, hcap, hlt⟩ : ∃ room, m.capacity = some room
        ∧ room < (layout c (made.map Made.term)).length := by
      refine Classical.byContradiction fun h => hfit fun room hcap => ?_
      exact Nat.le_of_not_lt fun hlt => h ⟨room, hcap, hlt⟩
    obtain ⟨n, s₁, w', hw', hfirst, hpart, hflush, hbegun⟩ :=
      exists_write?_of_full hmade hcount hm hcap hlt
    refine ⟨_, hw', ?_, ?_⟩
    · intro h
      have hle := h room hcap
      rw [hfull, hbytes, List.length_map] at hle
      exact absurd hlt (Nat.not_lt_of_le hle)
    · intro room' hcap' _
      obtain rfl : room = room' := Option.some.inj (hcap.symm.trans hcap')
      refine ⟨?_, hflush, rfl, n, ?_, hfirst, Tape.entries_extend .., ?_⟩
      · rw [hfull, hbytes, Sink.bytes, hpart, ← List.map_take]
        exact utf8_eq_map fun x hx => toNat_le_of_mem_layout hall x (List.mem_of_mem_take hx)
      · intro i hi
        rw [hbegun i hi, utf8_layout (hbasic i), List.length_map]
      · rw [Tape.entries_extend]
        exact generatedTerms_record (fun m hm => hd m (List.mem_of_mem_take hm)) 0

open Document in
/-- A device with room for five bytes that takes two at a time and asks at every second call to be
tried again: both terms are made, and one byte of the second arrives. -/
theorem Document.write?_of_fair_cut :
    let c : Config := ⟨2, 1, none⟩
    let made : List Made :=
      [⟨.atom (.letter 'a'), [.picked 0]⟩, ⟨.atom (.number 100), [.picked 204]⟩]
    let m : Medium := ⟨some 5, none, some 2, some 2, none, by decide, by decide⟩
    c.generator.Makes (⟨[0, 204]⟩ : Unchecked) made ⟨[]⟩ ∧ made.length = c.termCount ∧ m.IsFair
      ∧ ∃ W, write? c (Tape.blank (⟨[0, 204]⟩ : Unchecked)) (Sink.new m) = some W
        ∧ W.writer.bytes = utf8 ['1', '\n', 'a', '\n', '1'] ∧ W.writer.flushes = 0
        ∧ W.trouble = some (.writer .writeZero)
        ∧ c.generator.Makes (⟨[0, 204]⟩ : Unchecked) made W.tape.source
        ∧ W.tape.entries = record 0 made := by
  intro c made m
  have hmade : c.generator.Makes (⟨[0, 204]⟩ : Unchecked) made ⟨[]⟩ := by
    refine Generator.makes_iff.mpr ⟨?_, ⟨_, rfl, _, rfl, rfl⟩⟩
    exact List.forall_mem_cons.mpr ⟨Generator.derives_atom rfl (Nat.le_refl _),
      List.forall_mem_singleton.mpr (Generator.derives_atom rfl (by decide))⟩
  have hm : m.IsFair := by
    intro n h
    cases h
    decide
  obtain ⟨full, -, -, -, -, hdoc, hall⟩ := write?_of_fair hmade rfl
  obtain ⟨W, hW, -, hcut⟩ := hall m hm
  have hbytes : full.writer.bytes = utf8 ['1', '\n', 'a', '\n', '1', '0', '0', '\n'] :=
    hdoc.trans (by decide)
  have hlt : 5 < full.writer.bytes.length := by
    rw [hbytes]
    decide
  obtain ⟨hout, hflush, htrouble, n, hbegun, hfirst, hentries, -⟩ := hcut 5 rfl hlt
  have hn : 1 < n := (hbegun 1 (by decide)).mpr (by decide)
  have htake : made.take n = made := List.take_of_length_le hn
  rw [htake] at hfirst hentries
  refine ⟨hmade, rfl, hm, W, hW, ?_, hflush, htrouble, hfirst, hentries⟩
  rw [hout, hbytes]
  rfl

end RandomTerms
