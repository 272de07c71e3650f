/-
# Where the values of a script go

A source that gives out fixed values in order has no way back.  Whatever is done with it, whether it
is completed or stopped half-way, the values that are gone are those that were answered and the one
that was thrown away where it was out of range; they are gone in this order, and the others are
still there (`Pops`).

This is a fact about one draw.  It is carried through the growth of a term by induction on the run,
through batches and documents by induction on their number, and through a session step by step.  A
writer has no part in it: when it fails, no more is drawn, and nothing that was drawn comes back.
-/
import Mathlib.Algebra.Ring.Nat
import RandomTerms.Proofs.Ending
import RandomTerms.Proofs.Series
import RandomTerms.Session

namespace RandomTerms

/-! ## Values that are gone -/

/-- The source that gives out these values in order, checked against the range or not. -/
def Source.ofList (checked : Bool) (values : List Nat) : Source :=
  if checked then .script ⟨values⟩ else .unchecked ⟨values⟩

/-- Whether drawing came to a stop at a value that was out of range. -/
def Stop.isOutside : Stop → Bool
  | .outside .. => true
  | .scriptEnded _ | .wordsEnded | .emptyRange | .noEntry .. => false

/-- The value that was thrown away where drawing came to a stop. -/
def Stop.discarded : Stop → List Nat
  | .outside value _ => [value]
  | .scriptEnded _ | .wordsEnded | .emptyRange | .noEntry .. => []

/-- The same where drawing may have come to no stop. -/
def discarded (stop : Option Stop) : List Nat := stop.toList.flatMap Stop.discarded

theorem length_discarded (stop : Option Stop) :
    (discarded stop).length = (stop.any Stop.isOutside).toNat := by
  cases stop with
  | none => rfl
  | some why => cases why <;> rfl

/-- Why something was not made. -/
def stopOf {α : Type} : Except Stop α → Option Stop
  | .ok _ => none
  | .error why => some why

variable {checked : Bool} {values : List Nat}

theorem Source.ofList_inj {values' : List Nat} :
    ofList checked values = ofList checked values' ↔ values = values' := by
  cases checked <;> simp [ofList]

/-- A source of fixed values pops the first of them, and stops if it is checked and does not
fit. -/
theorem Source.draw_ofList_cons (checked : Bool) (r : Range) (v : Nat) (rest : List Nat) :
    DrawSource.draw r (ofList checked (v :: rest)) =
      if checked = true → v ∈ r then .answered v (ofList checked rest)
      else .stopped (.outside v r) (ofList checked rest) := by
  cases checked with
  | false => rfl
  | true =>
      show (if v ∈ r then _ else _ : Reply Script).mapSource script = _
      split
      · next hv => exact (if_pos fun _ => hv).symm
      · next hv => exact (if_neg fun h => hv (h rfl)).symm

theorem Source.draw_ofList_nil (checked : Bool) (r : Range) :
    DrawSource.draw r (ofList checked []) = .stopped (.scriptEnded r) (ofList checked []) := by
  cases checked <;> rfl

namespace Tape

/-- From one tape to the other, the source has given out what was recorded as drawn, and then what
was thrown away where it came to a stop. -/
def Pops (checked : Bool) (tape : Tape Source) (stop : Option Stop) (tape' : Tape Source) : Prop :=
  ∃ es rest, tape.source = .ofList checked (drawnValues es ++ discarded stop ++ rest)
    ∧ tape' = tape.extend es (.ofList checked rest)
    ∧ (checked = false → stop.any Stop.isOutside = false)

variable {tape tape₁ tape' : Tape Source} {stop : Option Stop}

theorem Pops.refl (hs : tape.source = .ofList checked values) : tape.Pops checked none tape := by
  refine ⟨[], values, hs, ?_, fun _ => rfl⟩
  rw [← hs]
  rfl

theorem Pops.trans (h : tape.Pops checked none tape₁) (h' : tape₁.Pops checked stop tape') :
    tape.Pops checked stop tape' := by
  obtain ⟨es, rest, hs, rfl, -⟩ := h
  obtain ⟨es', rest', hs', rfl, hall⟩ := h'
  obtain rfl := Source.ofList_inj.mp hs'
  refine ⟨es ++ es', rest', ?_, extend_extend .., hall⟩
  rw [hs, drawnValues_append]
  simp [discarded]

theorem Pops.note (h : tape.Pops checked stop tape') (e : Event) :
    tape.Pops checked stop (tape'.note e) := by
  obtain ⟨es, rest, hs, rfl, hall⟩ := h
  refine ⟨es ++ [.event e], rest, ?_, note_extend .., hall⟩
  rw [hs, drawnValues_append]
  simp

/-- A stop at an index that counts nothing throws no value away. -/
theorem Pops.noEntry (h : tape.Pops checked none tape') (size index : Nat) :
    tape.Pops checked (some (.noEntry size index)) tape' := h

/-- What a source of fixed values was left as is one again. -/
theorem Pops.exists_ofList (h : tape.Pops checked stop tape') :
    ∃ rest, tape'.source = .ofList checked rest := by
  obtain ⟨_, rest, -, rfl, -⟩ := h
  exact ⟨rest, rfl⟩

/-! ## One draw -/

theorem pops_of_answered (hs : tape.source = .ofList checked values) {r : Range} {v : Nat}
    {s : Source} (hd : DrawSource.draw r tape.source = .answered v s) {es : List Entry}
    (hes : drawnValues es = [v]) : tape.Pops checked none (tape.extend es s) := by
  rw [hs] at hd
  cases values with
  | nil =>
      rw [Source.draw_ofList_nil] at hd
      cases hd
  | cons w rest =>
      rw [Source.draw_ofList_cons] at hd
      split at hd
      · cases hd
        refine ⟨es, rest, ?_, rfl, fun _ => rfl⟩
        rw [hs, hes]
        rfl
      · cases hd

theorem pops_of_stopped (hs : tape.source = .ofList checked values) {r : Range} {why : Stop}
    {s : Source} (hd : DrawSource.draw r tape.source = .stopped why s) :
    tape.Pops checked (some why) (tape.stopped why s) := by
  rw [hs] at hd
  cases values with
  | nil =>
      rw [Source.draw_ofList_nil] at hd
      cases hd
      exact ⟨[.refused r], [], hs, rfl, fun _ => rfl⟩
  | cons w rest =>
      rw [Source.draw_ofList_cons] at hd
      split at hd
      · cases hd
      · next hw =>
          cases hd
          refine ⟨[.refused r], rest, hs, rfl, fun hunchecked => ?_⟩
          exact (hw fun h => absurd (hunchecked.symm.trans h) Bool.false_ne_true).elim

theorem pops_draw (hs : tape.source = .ofList checked values) (r : Range) :
    tape.Pops checked (stopOf (tape.draw r).1) (tape.draw r).2 := by
  unfold draw
  cases hd : DrawSource.draw r tape.source with
  | answered v s =>
      have hone : drawnValues [.drawn r v] = [v] := rfl
      exact pops_of_answered hs hd hone
  | stopped why s => exact pops_of_stopped hs hd

end Tape

/-! ## Atoms, terms and documents -/

open Tape

theorem Pool.pops_pick {tape : Tape Source} (hs : tape.source = .ofList checked values) :
    tape.Pops checked (stopOf (pick tape).1) (pick tape).2 := by
  have hdraw := pops_draw hs ⟨0, size - 1⟩
  unfold pick
  cases hd : tape.draw ⟨0, size - 1⟩ with
  | mk reply tape' =>
      rw [hd] at hdraw
      cases reply with
      | error why => exact hdraw
      | ok v =>
          dsimp only
          split
          · exact hdraw
          · exact hdraw.noEntry size v

theorem Growth.pops_run? {maxDepth : Option Nat} {g : Growth} {tape tape' : Tape Source}
    {r : Except Stop Term} (hrun : g.run? maxDepth tape = some (r, tape'))
    (hs : tape.source = .ofList checked values) : tape.Pops checked (stopOf r) tape' := by
  refine run?_induction (motive := fun _ tape r tape' => ∀ {values : List Nat},
    tape.source = .ofList checked values → tape.Pops checked (stopOf r) tape')
    ?stopped ?finished ?noEntry ?growing hrun hs
  case stopped =>
      intro g tape why s hd values hs
      exact pops_of_stopped hs hd
  case finished =>
      intro g tape v s t hd _ values hs
      exact pops_of_answered hs hd (g.drawnValues_entries v)
  case noEntry =>
      intro g tape v index s hd _ values hs
      exact (pops_of_answered hs hd (g.drawnValues_entries v)).noEntry Pool.size index
  case growing =>
      intro g g' tape tape' v s r hd _ ih values hs
      have hfirst := pops_of_answered hs hd (g.drawnValues_entries v)
      obtain ⟨rest, hrest⟩ := hfirst.exists_ofList
      exact hfirst.trans (ih hrest)

theorem Generator.pops_generate (gen : Generator) {tape : Tape Source}
    (hs : tape.source = .ofList checked values) :
    tape.Pops checked (stopOf (gen.generate tape).1) (gen.generate tape).2 :=
  Growth.pops_run? (gen.generate?_eq tape) hs

/-- A batch pops what its parts pop. -/
theorem Batch.pops_make {α : Type} {one : Tape Source → Except Stop α × Tape Source}
    (hone : ∀ {tape : Tape Source} {values : List Nat}, tape.source = .ofList checked values →
      tape.Pops checked (stopOf (one tape).1) (one tape).2) (n : Nat) :
    ∀ {tape : Tape Source} {values : List Nat}, tape.source = .ofList checked values →
      tape.Pops checked (make one n tape).stop (make one n tape).tape := by
  induction n with
  | zero =>
      intro tape values hs
      exact .refl hs
  | succ n ih =>
      intro tape values hs
      have hfirst := hone hs
      unfold make
      cases ho : one tape with
      | mk reply tape' =>
          rw [ho] at hfirst
          cases reply with
          | error why => exact hfirst
          | ok a =>
              obtain ⟨rest, hrest⟩ := hfirst.exists_ofList
              exact hfirst.trans (ih hrest)

/-- Why the source stopped, if it was the source. -/
def Trouble.stop? : Trouble → Option Stop
  | .source why => some why
  | .writer _ => none

namespace Document

variable {ω : Type} [Writer ω]

theorem pops_writeTerms? {gen : Generator} {left index : Nat} {tape : Tape Source} {w : ω}
    {W : Writing Source ω} (hwrite : writeTerms? gen.generate? left index tape w = some W)
    (hs : tape.source = .ofList checked values) :
    tape.Pops checked (W.trouble.bind Trouble.stop?) W.tape := by
  have hone {tape tape' : Tape Source} {r : Except Stop Term} {values : List Nat}
      (h : gen.generate? tape = some (r, tape')) (hs : tape.source = .ofList checked values) :
      tape.Pops checked (stopOf r) tape' := Growth.pops_run? h hs
  refine writeTerms?_induction (motive := fun _ _ tape _ W => ∀ {values : List Nat},
    tape.source = .ofList checked values →
      tape.Pops checked (W.trouble.bind Trouble.stop?) W.tape)
    ?flushed ?unflushed ?stopped ?failed ?line hwrite hs
  case flushed =>
      intro index tape w w' _ values hs
      exact .refl hs
  case unflushed =>
      intro index tape w w' fault _ values hs
      exact .refl hs
  case stopped =>
      intro left index tape tape' w why h values hs
      exact hone h hs
  case failed =>
      -- The term was made, though its line fails.
      intro left index tape tape' w w' t fault h _ values hs
      exact (hone h hs).note _
  case line =>
      intro left index tape tape' w w' t W h _ ih values hs
      have hfirst := (hone h hs).note (.generated index t.length)
      obtain ⟨rest, hrest⟩ := hfirst.exists_ofList
      exact hfirst.trans (ih hrest)

theorem pops_write (c : Config) {tape : Tape Source} (w : ω)
    (hs : tape.source = .ofList checked values) :
    tape.Pops checked ((write c tape w).trouble.bind Trouble.stop?) (write c tape w).tape := by
  have hwrite := write?_eq c tape w
  generalize write c tape w = W at hwrite ⊢
  unfold write? writeFrom? at hwrite
  cases hl : writeLine (Nat.toDigits 10 c.pairCount) w with
  | mk reply w' =>
      rw [hl] at hwrite
      cases reply with
      | error fault =>
          cases hwrite
          exact .refl hs
      | ok _ => exact pops_writeTerms? hwrite hs

end Document

/-! ## Sessions -/

/-- Why a step was stopped by the source. -/
def Answer.stop? : Answer → Option Stop
  | .drawn value => stopOf value
  | .atoms _ stop | .terms _ stop | .atomSample _ stop | .termSample _ stop => stop
  | .written _ _ trouble => trouble.bind Trouble.stop?
  | .generator _ | .config _ | .rejected _ | .poolSize _ | .notRandom => none

namespace Report

/-- Whether the step was stopped because a value was out of range. -/
def isOutside (r : Report) : Bool := r.answer.stop?.any Stop.isOutside

/-- The values that are gone by the step, in order. -/
def popped (r : Report) : List Nat := drawnValues r.entries ++ discarded r.answer.stop?

theorem length_popped (r : Report) : r.popped.length = r.used + r.isOutside.toNat := by
  rw [popped, List.length_append, length_discarded]
  rfl

end Report

/-- Whether a step draws, or would with a source of random words. -/
def Step.draws : Step → Bool
  | .draw _ | .pick _ | .generate _ | .sampleAtoms _ | .sampleTerms _ | .write _ => true
  | .newGenerator _ | .limitDepth _ | .configure _ | .configureDepth _ | .setConfig _
  | .countPool => false

namespace Session

/-- The source of the session gives out fixed values, and what is gone by the step are the first of
them. -/
def Conserves (checked : Bool) (s : Session) (report : Report) (s' : Session) : Prop :=
  ∃ rest, s.source = .ofList checked (report.popped ++ rest) ∧ s'.source = .ofList checked rest
    ∧ (checked = false → report.isOutside = false)

/-- A step that pops from the source conserves the rest. -/
theorem conserves_of_pops {s : Session} {tape : Tape Source} {answer : Answer}
    (h : (Tape.blank s.source).Pops checked answer.stop? tape) :
    s.Conserves checked ⟨answer, tape.entries⟩ (s.withSource tape.source) := by
  obtain ⟨es, rest, hs, rfl, hall⟩ := h
  refine ⟨rest, ?_, rfl, hall⟩
  rw [Report.popped, Tape.entries_extend]
  exact hs

/-- A step that leaves the source alone conserves all. -/
theorem conserves_of_idle {s s' : Session} {answer : Answer}
    (hs : s.source = .ofList checked values) (hs' : s'.source = s.source)
    (hidle : answer.stop? = none) : s.Conserves checked ⟨answer, []⟩ s' := by
  refine ⟨values, ?_, hs'.trans hs, fun _ => ?_⟩
  · rw [Report.popped, hidle]
    exact hs
  · rw [Report.isOutside, hidle]
    rfl

theorem adopt_conserves {s : Session} (hs : s.source = .ofList checked values)
    (r : Except ConfigError Config) : s.Conserves checked (s.adopt r).1 (s.adopt r).2 := by
  cases r with
  | ok config => exact conserves_of_idle hs rfl rfl
  | error e => exact conserves_of_idle hs rfl rfl

/-- A source of fixed values has no random words to take samples of. -/
theorem perform_sample {s : Session} (hs : s.source = .ofList checked values) (count : Nat) :
    s.perform (.sampleAtoms count) = (⟨.notRandom, []⟩, s)
      ∧ s.perform (.sampleTerms count) = (⟨.notRandom, []⟩, s) := by
  obtain ⟨source, generator, config⟩ := s
  obtain rfl : source = .ofList checked values := hs
  cases checked <;> exact ⟨rfl, rfl⟩

/-- Every step conserves the values that it has not popped. -/
theorem perform_conserves {s : Session} (hs : s.source = .ofList checked values) (step : Step) :
    s.Conserves checked (s.perform step).1 (s.perform step).2 := by
  have hblank : (Tape.blank s.source).source = .ofList checked values := hs
  cases step with
  | newGenerator target => exact conserves_of_idle hs rfl rfl
  | limitDepth maxDepth => exact conserves_of_idle hs rfl rfl
  | configure args => exact adopt_conserves hs _
  | configureDepth text => exact adopt_conserves hs _
  | setConfig config => exact adopt_conserves hs _
  | countPool => exact conserves_of_idle hs rfl rfl
  | draw asked => exact conserves_of_pops (Tape.pops_draw hblank asked)
  | pick count => exact conserves_of_pops (Batch.pops_make Pool.pops_pick count hblank)
  | generate count =>
      exact conserves_of_pops (Batch.pops_make s.generator.pops_generate count hblank)
  | sampleAtoms count =>
      rw [(perform_sample hs count).1]
      exact conserves_of_idle hs rfl rfl
  | sampleTerms count =>
      rw [(perform_sample hs count).2]
      exact conserves_of_idle hs rfl rfl
  | write medium => exact conserves_of_pops (Document.pops_write s.config (Sink.new medium) hblank)

/-- So does every sequence of steps. -/
theorem performAll_pops (steps : List Step) : ∀ {s : Session} {values : List Nat},
    s.source = .ofList checked values → ∃ rest,
      values = (s.performAll steps).1.flatMap Report.popped ++ rest
        ∧ (s.performAll steps).2.source = .ofList checked rest
        ∧ (checked = false → ∀ r ∈ (s.performAll steps).1, r.isOutside = false) := by
  induction steps with
  | nil =>
      intro s values hs
      exact ⟨values, rfl, hs, fun _ _ hr => (List.not_mem_nil hr).elim⟩
  | cons step steps ih =>
      intro s values hs
      obtain ⟨rest, hfirst, hnext, hone⟩ := perform_conserves hs step
      obtain ⟨rest', hrest, hlast, hall⟩ := ih hnext
      refine ⟨rest', ?_, hlast, fun hc => ?_⟩
      · rw [Source.ofList_inj.mp (hs.symm.trans hfirst), hrest, ← List.append_assoc]
        rfl
      · exact List.forall_mem_cons.mpr ⟨hone hc, hall hc⟩

/-- The first steps are performed the same way, whatever comes after them. -/
theorem performAll_take (steps : List Step) : ∀ (k : Nat) (s : Session),
    (s.performAll (steps.take k)).1 = (s.performAll steps).1.take k := by
  induction steps with
  | nil =>
      intro k s
      simp [performAll]
  | cons step steps ih =>
      intro k s
      cases k with
      | zero => rfl
      | succ k => exact congrArg _ (ih k _)

theorem length_flatMap_popped (reports : List Report) : (reports.flatMap Report.popped).length
    = (reports.map Report.used).sum + reports.countP Report.isOutside := by
  induction reports with
  | nil => rfl
  | cons r reports ih =>
      rw [List.flatMap_cons, List.length_append, ih, r.length_popped, List.map_cons, List.sum_cons,
        List.countP_cons]
      cases r.isOutside <;> simp <;> omega

/-- A step that draws changes nothing but the source, whatever the source is. -/
theorem perform_eq_withSource (s : Session) {step : Step} (h : step.draws = true) :
    (s.perform step).2 = s.withSource (s.perform step).2.source := by
  obtain ⟨source, generator, config⟩ := s
  cases step with
  | draw asked => rfl
  | pick count => rfl
  | generate count => rfl
  | write medium => rfl
  | sampleAtoms count => cases source <;> rfl
  | sampleTerms count => cases source <;> rfl
  | _ => cases h

/-- Whatever is done in a session on a source of fixed values, and wherever it is stopped, the
values that are gone are the first of them: as many as were answered, and one for each step that was
stopped at a value out of range, which happens to none if the source does not check.  Each of them
was answered or thrown away once, in this order.  This holds after every step, as the first steps
are performed the same way whatever comes after them.  A step that draws changes neither the
generator nor the settings; the pool is no part of a session and cannot change. -/
theorem performAll_conserves (checked : Bool) (values : List Nat) (generator : Generator)
    (config : Config) (steps : List Step) :
    let s : Session := ⟨.ofList checked values, generator, config⟩
    let reports := (s.performAll steps).1
    let used := (reports.map Report.used).sum
    let outside := reports.countP Report.isOutside
    (s.performAll steps).2.source = .ofList checked (values.drop (used + outside))
      ∧ used + outside ≤ values.length
      ∧ values.take (used + outside) = reports.flatMap Report.popped
      ∧ (checked = false → outside = 0)
      ∧ (∀ k, (s.performAll (steps.take k)).1 = reports.take k)
      ∧ ∀ (s : Session) (step : Step), step.draws = true →
          (s.perform step).2.generator = s.generator ∧ (s.perform step).2.config = s.config := by
  intro s reports used outside
  obtain ⟨rest, hvalues, hsource, hall⟩ := performAll_pops steps (s := s) rfl
  have hlen : (reports.flatMap Report.popped).length = used + outside := length_flatMap_popped reports
  refine ⟨?_, ?_, ?_, fun hc => ?_, fun k => performAll_take steps k s, fun s step h => ?_⟩
  · rw [hsource, hvalues, ← hlen, List.drop_left]
  · rw [hvalues, List.length_append, hlen]
    exact Nat.le_add_right _ _
  · rw [hvalues, ← hlen, List.take_left]
  · exact List.countP_eq_zero.mpr fun r hr => Bool.eq_false_iff.mp (hall hc r hr)
  · rw [perform_eq_withSource s h]
    exact ⟨rfl, rfl⟩

/-- A number too great for the pool stops the first step and one too great for the range the second;
both are gone.  Unchecked they are answered. -/
theorem performAll_conserves_outside :
    let steps : List Step := [.pick 2, .configure ["1"], .draw ⟨0, 5⟩, .draw ⟨0, 5⟩]
    let values := [3, 500, 7, 4, 11]
    let s : Session := ⟨.ofList true values, ⟨1, none⟩, Config.default⟩
    let s' : Session := ⟨.ofList false values, ⟨1, none⟩, Config.default⟩
    ((s.performAll steps).1.map Report.used).sum = 2
      ∧ (s.performAll steps).1.countP Report.isOutside = 2
      ∧ (s.performAll steps).2.source = .ofList true [11]
      ∧ ((s'.performAll steps).1.map Report.used).sum = 4
      ∧ (s'.performAll steps).1.countP Report.isOutside = 0
      ∧ (s'.performAll steps).2.source = .ofList false [11]
      ∧ (s.perform (.pick 2)).2.generator = ⟨1, none⟩ := by
  intro steps values s s'
  obtain ⟨hchecked, -, -, -, -, hkept⟩ :=
    performAll_conserves true values ⟨1, none⟩ Config.default steps
  obtain ⟨hunchecked, -, -, hnone, -⟩ :=
    performAll_conserves false values ⟨1, none⟩ Config.default steps
  have hused : ((s.performAll steps).1.map Report.used).sum = 2 := by decide +kernel
  have houtside : (s.performAll steps).1.countP Report.isOutside = 2 := by decide +kernel
  have hused' : ((s'.performAll steps).1.map Report.used).sum = 4 := by decide +kernel
  have houtside' : (s'.performAll steps).1.countP Report.isOutside = 0 := hnone rfl
  refine ⟨hused, houtside, ?_, hused', houtside', ?_, (hkept s (.pick 2) rfl).1⟩
  · rw [hchecked, hused, houtside]
    rfl
  · rw [hunchecked, hused', houtside']
    rfl

end Session
end RandomTerms
