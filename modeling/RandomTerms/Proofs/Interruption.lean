/-
# Documents that are broken off

A source may stop at any draw, deep inside a sub-term.  What has grown of the term by then is
nowhere to be seen: a term is made before any of its line is written, so the device has the first
line and the lines of the terms that are finished, and nothing else.

A document that goes on from there has these lines in front.  Growth is driven by the numbers that
are drawn and by nothing else, so two documents that draw the same numbers are made of the same
terms, whatever the sources are that give them: an induction on the terms, for the numbers of one
term are never the first of those of another (`Generator.Derives.eq_of_draws`).
-/
import RandomTerms.Proofs.Composition
import RandomTerms.Proofs.Listing

namespace RandomTerms

open Source (ofList)

variable {σ : Type}

/-! ## Terms by the numbers that are drawn -/

/-- A source that checks nothing gives any numbers. -/
theorem fits_unchecked {es : List Entry} : (∀ r, .refused r ∉ es) → Fits false es := by
  induction es with
  | nil => exact fun _ _ => rfl
  | cons e es ih =>
      intro h rest
      have hrest := ih (fun r hr => h r (List.mem_cons_of_mem _ hr)) rest
      cases e with
      | drawn r v => exact ⟨_, rfl, hrest⟩
      | refused r => exact absurd List.mem_cons_self (h r)
      | event _ => exact hrest

namespace Generator

variable {gen : Generator}

/-- Terms that begin with the same numbers are the same, and so are their records. -/
theorem Derives.eq_of_draws {m m' : Made} (h : gen.Derives m) (h' : gen.Derives m')
    {rest rest' : List Nat} :
    drawnValues m.entries ++ rest = drawnValues m'.entries ++ rest' → m = m' := by
  intro hvalues
  -- One source gives both, and a source has one run.
  let tape : Tape Source := Tape.blank (ofList false (drawnValues m.entries ++ rest))
  have hs : tape.source = ofList false (drawnValues m'.entries ++ rest') :=
    congrArg (ofList false) hvalues
  have hfirst : gen.generate tape = (.ok m.term, tape.extend m.entries (ofList false rest)) :=
    generate_of_fits h (fits_unchecked h.1.not_refused) rfl
  have hsecond := generate_of_fits h' (fits_unchecked h'.1.not_refused) hs
  rw [hfirst, Prod.mk.injEq, Except.ok.injEq] at hsecond
  obtain ⟨hterm, htape⟩ := hsecond
  obtain ⟨hentries, -⟩ := Tape.extend_inj.mp htape
  cases m
  cases m'
  cases hterm
  cases hentries
  rfl

/-- Of two series of terms that draw from the same numbers, the shorter one is the first part of
the longer one. -/
theorem prefix_of_draws {made : List Made} : ∀ {made' : List Made} {rest rest' : List Nat},
    (∀ m ∈ made, gen.Derives m) → (∀ m ∈ made', gen.Derives m) →
    (made.flatMap fun m => drawnValues m.entries) ++ rest
      = (made'.flatMap fun m => drawnValues m.entries) ++ rest' →
    made.length ≤ made'.length → made <+: made' := by
  induction made with
  | nil => exact fun _ _ _ _ => List.nil_prefix
  | cons m made ih =>
      intro made' rest rest' hd hd' hvalues hlen
      cases made' with
      | nil => exact absurd hlen (Nat.not_succ_le_zero _)
      | cons m' made' =>
          obtain ⟨hm, hmade⟩ := List.forall_mem_cons.mp hd
          obtain ⟨hm', hmade'⟩ := List.forall_mem_cons.mp hd'
          simp only [List.flatMap_cons, List.append_assoc] at hvalues
          obtain rfl := hm.eq_of_draws hm' hvalues
          have hrest := List.append_cancel_left hvalues
          exact (List.prefix_cons_inj m).mpr
            (ih hmade hmade' hrest (Nat.le_of_succ_le_succ hlen))

/-- What was recorded before has no part in how a term comes out. -/
theorem exists_generate?_blank [DrawSource σ] {tape tape' : Tape σ} {r : Except Stop Term} :
    gen.generate? tape = some (r, tape') → ∃ tape₁,
      gen.generate? (Tape.blank tape.source) = some (r, tape₁) ∧ tape' = tape₁.onto tape.past := by
  intro h
  have hends : Growth.Ends gen.maxDepth (.picking gen.target []) tape.source :=
    Growth.ends_of_run? h
  obtain ⟨⟨r₁, tape₁⟩, hblank⟩ : ∃ p, gen.generate? (Tape.blank tape.source) = some p :=
    ⟨_, dif_pos hends⟩
  have honto : gen.generate? tape = some (r₁, tape₁.onto tape.past) :=
    Growth.run?_onto tape.past hblank
  cases h.symm.trans honto
  exact ⟨tape₁, hblank, rfl⟩

/-- The source `s` gives the terms in `made` and stops at the next one, of which `tape` is then the
record. -/
def BreaksOff [DrawSource σ] (gen : Generator) (s : σ) (made : List Made) (why : Stop)
    (tape : Tape σ) : Prop :=
  ∃ m, gen.Makes s made m ∧ gen.generate? (Tape.blank m) = some (.error why, tape)

/-- A source breaks off at one place only. -/
theorem BreaksOff.unique [DrawSource σ] {s : σ} {made made' : List Made} {why why' : Stop}
    {tape tape' : Tape σ} : gen.BreaksOff s made why tape → gen.BreaksOff s made' why' tape' →
      made = made' ∧ why = why' ∧ tape = tape' := by
  rintro ⟨m, hmade, hstop⟩ ⟨m', hmade', hstop'⟩
  induction hmade generalizing made' with
  | nil =>
      cases hmade' with
      | nil =>
          cases hstop.symm.trans hstop'
          exact ⟨rfl, rfl, rfl⟩
      | cons hone _ => cases hstop.symm.trans hone
  | cons hone _ ih =>
      cases hmade' with
      | nil => cases hone.symm.trans hstop'
      | @cons _ m₁ _ t es made' hone' hrest' =>
          have hsame := Option.some.inj (hone.symm.trans hone')
          rw [Prod.mk.injEq, Except.ok.injEq, Tape.extend_inj] at hsame
          obtain ⟨rfl, rfl, rfl⟩ := hsame
          obtain ⟨rfl, hrest⟩ := ih hstop hrest'
          exact ⟨rfl, hrest⟩

end Generator

/-! ## A device without end -/

namespace Document

/-- A fair device of unlimited room takes every line. -/
theorem exists_writeLine_of_endless {w : Sink} (hm : w.medium.IsFair)
    (hcap : w.medium.capacity = none) (line : List Char) :
    ∃ w', w.Takes (line ++ ['\n']) w' ∧ writeLine line w = (.ok (), w') := by
  obtain ⟨w', hgiven, hline⟩ := writeLine_of_fair line hm
  have hroom : (line ++ ['\n']).length ≤ w.room (line ++ ['\n']).length := by
    simp only [Sink.room, hcap]
    exact Nat.le_refl _
  refine ⟨w', hgiven.takes hroom, ?_⟩
  rw [hline, Sink.verdict_of_le hroom]

variable [DrawSource σ] {gen : Generator} {why : Stop}

/-- Where the source stops the terms, some of them are finished, and the device has taken their
lines. -/
theorem exists_breaksOff_of_writeTerms? {left index : Nat} {tape : Tape σ} {w : Sink}
    {W : Writing σ Sink} (hm : w.medium.IsFair) (hcap : w.medium.capacity = none) :
    writeTerms? gen.generate? left index tape w = some W → W.trouble = some (.source why) →
      ∃ made rest, made.length < left ∧ gen.BreaksOff tape.source made why rest
        ∧ w.Takes (lines (made.map Made.term)) W.writer
        ∧ W.tape = rest.onto ((record index made).reverse ++ tape.past) := by
  intro h
  refine writeTerms?_induction (motive := fun left index tape w W => w.medium.IsFair →
    w.medium.capacity = none → W.trouble = some (.source why) →
      ∃ made rest, made.length < left ∧ gen.BreaksOff tape.source made why rest
        ∧ w.Takes (lines (made.map Made.term)) W.writer
        ∧ W.tape = rest.onto ((record index made).reverse ++ tape.past))
    ?flushed ?unflushed ?stopped ?failed ?line h hm hcap
  case flushed =>
      intro index tape w w' _ _ _ htrouble
      cases htrouble
  case unflushed =>
      intro index tape w w' fault _ _ _ htrouble
      cases htrouble
  case stopped =>
      intro left index tape tape' w why' hone _ _ htrouble
      cases htrouble
      obtain ⟨rest, hblank, htape⟩ := Generator.exists_generate?_blank hone
      exact ⟨[], rest, Nat.succ_pos left, ⟨tape.source, .nil, hblank⟩, .refl w, htape⟩
  case failed =>
      intro left index tape tape' w w' t fault _ _ _ _ htrouble
      cases htrouble
  case line =>
      intro left index tape tape' w w' t W hone hl ih hm hcap htrouble
      obtain ⟨es, s, hc, ha, rfl⟩ := Generator.generate?_eq_ok_iff.mp hone
      obtain ⟨w₁, htake, hline⟩ := exists_writeLine_of_endless hm hcap t.chars
      obtain rfl : w' = w₁ := congrArg Prod.snd (hl.symm.trans hline)
      obtain ⟨made, rest, hlt, ⟨m, hmade, hstop⟩, htake', htape⟩ :=
        ih (htake.medium ▸ hm) (htake.medium ▸ hcap) htrouble
      have hfirst : gen.generate? (Tape.blank tape.source)
          = some (.ok t, (Tape.blank tape.source).extend es s) :=
        Generator.generate?_eq_extend_iff.mpr ⟨hc, ha⟩
      refine ⟨⟨t, es⟩ :: made, rest, Nat.succ_lt_succ hlt, ⟨m, .cons hfirst hmade, hstop⟩,
        htake.trans htake', ?_⟩
      rw [htape]
      simp [record, Tape.extend, Tape.note]

/-- A source that gives some of the terms and stops at the next one stops the terms. -/
theorem exists_writeTerms?_of_makes {s m : σ} {made : List Made} {rest : Tape σ}
    (hmade : gen.Makes s made m)
    (hstop : gen.generate? (Tape.blank m) = some (.error why, rest)) :
    ∀ {left index : Nat} {past : List Entry} {w : Sink}, made.length < left → w.medium.IsFair →
      w.medium.capacity = none → ∃ W, writeTerms? gen.generate? left index ⟨s, past⟩ w = some W
        ∧ W.trouble = some (.source why) := by
  induction hmade with
  | @nil s =>
      intro left index past w hlt _ _
      cases left with
      | zero => exact absurd hlt (Nat.not_lt_zero _)
      | succ left =>
          have hone : gen.generate? ⟨s, past⟩ = some (.error why, rest.onto past) :=
            Growth.run?_onto past hstop
          simp only [writeTerms?, hone]
          exact ⟨_, rfl, rfl⟩
  | @cons s m s' t es made hone _ ih =>
      intro left index past w hlt hm hcap
      cases left with
      | zero => exact absurd hlt (Nat.not_lt_zero _)
      | succ left =>
          have hfirst : gen.generate? ⟨s, past⟩ = some (.ok t, _) := Growth.run?_onto past hone
          obtain ⟨w₁, htake, hline⟩ := exists_writeLine_of_endless hm hcap t.chars
          simp only [writeTerms?, hfirst, hline]
          exact ih hstop (Nat.lt_of_succ_lt_succ hlt) (htake.medium ▸ hm) (htake.medium ▸ hcap)

/-! ## The whole document -/

variable {c : Config} {s : σ}

theorem exists_breaksOff_of_write? {m : Medium} (hm : m.IsFair) (hcap : m.capacity = none)
    {W : Writing σ Sink} (hW : write? c (Tape.blank s) (Sink.new m) = some W)
    (htrouble : W.trouble = some (.source why)) :
    ∃ made rest, made.length < c.termCount ∧ c.generator.BreaksOff s made why rest
      ∧ W.tape.entries = record 0 made ++ rest.entries
      ∧ W.writer.accepted.toList = layout c (made.map Made.term) ∧ W.writer.flushes = 0 := by
  obtain ⟨w, htake, hline⟩ := exists_writeLine_of_endless (w := Sink.new m) hm hcap
    (Nat.toDigits 10 c.pairCount)
  simp only [write?, writeFrom?, hline] at hW
  obtain ⟨made, rest, hlt, hbreak, htake', htape⟩ :=
    exists_breaksOff_of_writeTerms? (htake.medium ▸ hm) (htake.medium ▸ hcap) hW htrouble
  have hall := htake.trans htake'
  refine ⟨made, rest, hlt, hbreak, ?_, hall.accepted, hall.flushes⟩
  rw [htape]
  simp [Tape.entries, Tape.onto, Tape.blank]

theorem exists_write?_of_breaksOff {m : Medium} (hm : m.IsFair) (hcap : m.capacity = none)
    {made : List Made} {rest : Tape σ} (hlt : made.length < c.termCount) :
    c.generator.BreaksOff s made why rest → ∃ W, write? c (Tape.blank s) (Sink.new m) = some W
      ∧ W.trouble = some (.source why) := by
  rintro ⟨m', hmade, hstop⟩
  obtain ⟨w, htake, hline⟩ := exists_writeLine_of_endless (w := Sink.new m) hm hcap
    (Nat.toDigits 10 c.pairCount)
  simp only [write?, writeFrom?, hline]
  exact exists_writeTerms?_of_makes hmade hstop hlt (htake.medium ▸ hm) (htake.medium ▸ hcap)

/-- What is written of a document goes on with more lines. -/
def GoesOn (part full : List UInt8) : Prop := ∃ ts, ts ≠ [] ∧ full = part ++ Text.utf8 (lines ts)

/-- A completed document that draws from the same numbers goes on from fewer of its terms. -/
theorem goesOn_of_draws {made : List Made} {w : Sink} (hd : ∀ m ∈ made, c.generator.Derives m)
    (hlt : made.length < c.termCount)
    (htext : w.accepted.toList = layout c (made.map Made.term)) {full : Writing σ Sink}
    (hfull : write? c (Tape.blank s) (Sink.new {}) = some full) (hnone : full.trouble = none)
    {rest rest' : List Nat} (hvalues : drawnValues (record 0 made) ++ rest
      = drawnValues full.tape.entries ++ rest') : GoesOn w.bytes full.writer.bytes := by
  obtain ⟨made', hmade', hcount, htext'⟩ :=
    exists_write?_unlimited_iff.mp ⟨full, hfull, hnone, rfl, rfl⟩
  obtain ⟨w', hw', -⟩ := exists_write?_of_room hmade' hcount Medium.isFair_unlimited
    (fun _ h => nomatch h)
  have hentries : full.tape.entries = record 0 made' := by
    rw [Option.some.inj (hfull.symm.trans hw'), Tape.entries_extend]
    rfl
  rw [hentries, drawnValues_record, drawnValues_record] at hvalues
  obtain ⟨more, rfl⟩ := Generator.prefix_of_draws hd (Generator.makes_iff.mp hmade').1 hvalues
    (hcount ▸ Nat.le_of_lt hlt)
  refine ⟨more.map Made.term, ?_, ?_⟩
  · intro hnil
    rw [List.map_eq_nil_iff.mp hnil, List.append_nil] at hcount
    exact absurd hcount (Nat.ne_of_lt hlt)
  · rw [Sink.bytes, Sink.bytes, htext, htext']
    simp [layout, lines, Text.utf8]

/-- What a document draws out of fixed values are the first of them. -/
theorem drawnValues_prefix {checked : Bool} {values : List Nat} {w : Sink}
    {W : Writing Source Sink}
    (hW : write? c (Tape.blank (ofList checked values)) w = some W) :
    drawnValues W.tape.entries <+: values := by
  have hs : (Tape.blank (ofList checked values)).source = ofList checked values := rfl
  obtain ⟨es, rest, hvalues, htape, -⟩ := pops_write c w hs
  rw [← Option.some.inj (hW.symm.trans (write?_eq ..))] at htape
  have hentries : W.tape.entries = es := by
    rw [htape, Tape.entries_extend]
    rfl
  rw [hentries, Source.ofList_inj.mp hvalues, List.append_assoc]
  exact List.prefix_append ..

end Document

open Document

/-- On a fair device of unlimited room, a document is broken off by its source exactly if the source
gives some of its terms and stops at the next one.  The device has then taken the first line and the
lines of these terms, to the last byte, and is not flushed.  Any document of the same settings that
draws the same numbers and more goes on from there with whole lines, and so does any that is made
out of fixed values that begin with these numbers. -/
theorem Document.write?_stopped [DrawSource σ] {c : Config} {s : σ} {m : Medium} {why : Stop}
    (hm : m.IsFair) (hcap : m.capacity = none) :
    ((∃ W, write? c (Tape.blank s) (Sink.new m) = some W ∧ W.trouble = some (.source why)) ↔
        ∃ made rest, made.length < c.termCount ∧ c.generator.BreaksOff s made why rest)
    ∧ ∀ W, write? c (Tape.blank s) (Sink.new m) = some W → W.trouble = some (.source why) →
        (∃ made rest, made.length < c.termCount ∧ c.generator.BreaksOff s made why rest
          ∧ W.tape.entries = record 0 made ++ rest.entries
          ∧ W.writer.bytes = Text.utf8 (layout c (made.map Made.term)) ∧ W.writer.flushes = 0)
        ∧ (∀ {τ : Type} [DrawSource τ] (s' : τ) (full : Writing τ Sink),
          write? c (Tape.blank s') (Sink.new {}) = some full → full.trouble = none →
          drawnValues W.tape.entries <+: drawnValues full.tape.entries →
          GoesOn W.writer.bytes full.writer.bytes)
        ∧ ∀ (checked : Bool) (more : List Nat) (full : Writing Source Sink),
          write? c (Tape.blank (ofList checked (drawnValues W.tape.entries ++ more))) (Sink.new {})
            = some full → full.trouble = none → GoesOn W.writer.bytes full.writer.bytes := by
  refine ⟨⟨?_, ?_⟩, fun W hW htrouble => ?_⟩
  · rintro ⟨W, hW, htrouble⟩
    obtain ⟨made, rest, hlt, hbreak, -⟩ := exists_breaksOff_of_write? hm hcap hW htrouble
    exact ⟨made, rest, hlt, hbreak⟩
  · rintro ⟨made, rest, hlt, hbreak⟩
    exact exists_write?_of_breaksOff hm hcap hlt hbreak
  · obtain ⟨made, rest, hlt, hbreak, hentries, htext, hflushes⟩ :=
      exists_breaksOff_of_write? hm hcap hW htrouble
    obtain ⟨m', hmade, -⟩ := id hbreak
    have hd := (Generator.makes_iff.mp hmade).1
    have hvalues (more : List Nat) : drawnValues W.tape.entries ++ more
        = drawnValues (record 0 made) ++ (drawnValues rest.entries ++ more) := by
      rw [hentries, drawnValues_append, List.append_assoc]
    refine ⟨⟨made, rest, hlt, hbreak, hentries, congrArg Text.utf8 htext, hflushes⟩, ?_, ?_⟩
    · rintro τ _ s' full hfull hnone ⟨more, hmore⟩
      have hsame := (hvalues more).symm.trans (hmore.trans (List.append_nil _).symm)
      exact goesOn_of_draws hd hlt htext hfull hnone hsame
    · intro checked more full hfull hnone
      obtain ⟨rest', hrest'⟩ := drawnValues_prefix hfull
      exact goesOn_of_draws hd hlt htext hfull hnone ((hvalues more).symm.trans hrest'.symm)

/-- The source ends in the middle of the second term, before its sub-term has its atom, and one more
number completes the document. -/
theorem Document.write?_stopped_nested :
    let c : Config := ⟨2, 3, none⟩
    let m : Medium := ⟨none, some .brokenPipe, some 2, some 2, none, by decide, by decide⟩
    let values := [204, 0, 25, 2]
    m.IsFair ∧ m.capacity = none
      ∧ ∃ why W, write? c (Tape.blank (ofList false values)) (Sink.new m) = some W
        ∧ W.trouble = some (.source why)
        ∧ W.writer.bytes = Text.utf8 ['1', '\n', '1', '0', '0', '\n'] ∧ W.writer.flushes = 0
        ∧ drawnValues W.tape.entries = values
        ∧ ∃ full, write? c (Tape.blank (ofList false (values ++ [204]))) (Sink.new {}) = some full
          ∧ full.trouble = none ∧ GoesOn W.writer.bytes full.writer.bytes := by
  intro c m values
  have hm : m.IsFair := by
    intro n h
    cases h
    decide
  -- The two terms, and the second one broken off.
  let first : Made := ⟨.atom (.number 100), [.picked 204]⟩
  let second : Made := ⟨.join (.atom (.letter 'a')) .plus (.atom (.number 100)),
    [.picked 0, .chosen 25, .measured 2 2, .event (.expanding 0 2 .plus), .picked 204]⟩
  have hplus : Move.ofDraw 25 = .append .plus := rfl
  have ha : Reaches none 0 3 [.picked 0] (.atom (.letter 'a')) := .atom rfl
  have hright : Reaches none 1 2 [.picked 204] (.atom (.number 100)) := .atom rfl
  have hfirst : c.generator.Derives first := Generator.derives_atom rfl (by decide)
  have hsecond : c.generator.Derives second :=
    ⟨ha.join (not_settled_iff.mpr ⟨rfl, by decide⟩) hplus hright (.inr (by decide)),
      .inr (by decide)⟩
  have hmake : c.generator.Makes (ofList false values) [first] (ofList false [0, 25, 2]) :=
    Generator.makes_iff.mpr ⟨List.forall_mem_singleton.mpr hfirst, ⟨_, rfl, rfl⟩⟩
  obtain ⟨r, rest, hcut, -, hdrawn⟩ := Generator.exists_generate_cut hsecond
    (fits_unchecked hsecond.1.not_refused) (k := 3) (by decide)
  have hstop : c.generator.generate? (Tape.blank (ofList false [0, 25, 2]))
      = some (.error (.scriptEnded r), rest) := by
    rw [Generator.generate?_eq]
    exact congrArg some hcut
  have hbreak : c.generator.BreaksOff (ofList false values) [first] (.scriptEnded r) rest :=
    ⟨_, hmake, hstop⟩
  have hbroken : ∃ W, write? c (Tape.blank (ofList false values)) (Sink.new m) = some W
      ∧ W.trouble = some (.source (.scriptEnded r)) :=
    (write?_stopped hm rfl).1.mpr ⟨[first], rest, by decide, hbreak⟩
  obtain ⟨W, hW, htrouble⟩ := hbroken
  obtain ⟨⟨made, rest', -, hbreak', hentries, hbytes, hflushes⟩, -, hmore⟩ :=
    (write?_stopped hm rfl).2 W hW htrouble
  obtain ⟨rfl, -, rfl⟩ := hbreak.unique hbreak'
  have hvalues : drawnValues W.tape.entries = values := by
    rw [hentries, drawnValues_append, hdrawn]
    rfl
  have hall : c.generator.Makes (ofList false (values ++ [204])) [first, second]
      (ofList false []) :=
    Generator.makes_iff.mpr ⟨List.forall_mem_cons.mpr ⟨hfirst,
      List.forall_mem_singleton.mpr hsecond⟩, _, rfl, fits_unchecked hsecond.1.not_refused []⟩
  obtain ⟨full, hfull, hnone, -⟩ := exists_write?_unlimited_iff.mpr ⟨_, hall, rfl, rfl⟩
  exact ⟨hm, rfl, _, W, hW, htrouble, hbytes.trans (by decide), hflushes, hvalues, full, hfull,
    hnone, hmore false [204] full (hvalues ▸ hfull) hnone⟩

end RandomTerms
