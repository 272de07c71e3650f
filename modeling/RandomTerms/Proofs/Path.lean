/-
# Paths through growth

A run has two sides.  Growth goes from state to state by the numbers it is given, whoever gives
them; a source gives numbers when it is asked, whoever asks.  What passes between the two is what
the tape records.  So a run that finishes a term is a record `es` with two properties that know
nothing of each other:

    Leads maxDepth g es (.finished t)     growth gets from `g` to `t` by the numbers in `es`
    Answers es s s'                       the source `s` gives the numbers in `es` and becomes `s'`

`run?_eq_ok_iff` says that there is nothing more to a run.  Neither side asks that an answer lie
in the range asked for, so this holds on every source; `InRange` says it of a record where it
matters, and a script may then stand for the source.
-/
import RandomTerms.Draw.Script
import RandomTerms.Generator

namespace RandomTerms

variable {σ : Type}

/-! ## What one answer adds to the tape -/

/-- The tape after the entries `es`, with the source as it is then. -/
def Tape.extend (tape : Tape σ) (es : List Entry) (s : σ) : Tape σ :=
  ⟨s, es.reverse ++ tape.past⟩

@[simp] theorem Tape.entries_extend (tape : Tape σ) (es : List Entry) (s : σ) :
    (tape.extend es s).entries = tape.entries ++ es := by
  simp [extend, entries]

@[simp] theorem Tape.extend_extend (tape : Tape σ) (es es' : List Entry) (s s' : σ) :
    (tape.extend es s).extend es' s' = tape.extend (es ++ es') s' := by
  simp [extend]

@[simp] theorem Tape.note_extend (tape : Tape σ) (es : List Entry) (s : σ) (e : Event) :
    (tape.extend es s).note e = tape.extend (es ++ [.event e]) s := by
  simp [extend, note]

/-- What is recorded when the request of a state is answered by `v`. -/
def Growth.entries (g : Growth) (v : Nat) : List Entry :=
  .drawn g.request v :: ((g.event? v).map .event).toList

theorem Growth.report_answered (g : Growth) (v : Nat) (s : σ) (tape : Tape σ) :
    g.report v (tape.answered g.request v s) = tape.extend (g.entries v) s := by
  simp only [report, entries]
  cases g.event? v <;> rfl

/-- Goes on from where an answer has led. -/
noncomputable def Progress.run? [DrawSource σ] (maxDepth : Option Nat) (p : Progress)
    (tape : Tape σ) : Option (Except Stop Term × Tape σ) :=
  match p with
  | .growing g => g.run? maxDepth tape
  | .finished t => some (.ok t, tape)
  | .noEntry index => some (.error (.noEntry Pool.size index), tape)

/-- One step of a run whose source answers. -/
theorem Growth.run?_of_answered [DrawSource σ] {maxDepth : Option Nat} {g : Growth}
    {tape : Tape σ} {v : Nat} {s : σ} :
    DrawSource.draw g.request tape.source = .answered v s →
      g.run? maxDepth tape = (g.answer maxDepth v).run? maxDepth (tape.extend (g.entries v) s) := by
  intro h
  rw [run?_eq, Tape.draw, h]
  simp only [report_answered]
  cases g.answer maxDepth v <;> rfl

/-! ## The two sides of a run -/

/-- Growth gets from the state `g` to `p` by the numbers in `es`. -/
inductive Leads (maxDepth : Option Nat) : Growth → List Entry → Progress → Prop
  | last {g : Growth} {v : Nat} : Leads maxDepth g (g.entries v) (g.answer maxDepth v)
  | step {g g' : Growth} {v : Nat} {es : List Entry} {p : Progress} :
      g.answer maxDepth v = .growing g' → Leads maxDepth g' es p →
      Leads maxDepth g (g.entries v ++ es) p

theorem Leads.trans {maxDepth : Option Nat} {g g' : Growth} {es es' : List Entry} {p : Progress} :
    Leads maxDepth g es (.growing g') → Leads maxDepth g' es' p →
      Leads maxDepth g (es ++ es') p := by
  intro h h'
  generalize hq : Progress.growing g' = q at h
  induction h with
  | last => exact .step hq.symm h'
  | step hg _ ih =>
      rw [List.append_assoc]
      exact .step hg (ih hq)

/-- The source `s` gives the numbers in `es` when it is asked for them, and becomes `s'`. -/
def Answers [DrawSource σ] : List Entry → σ → σ → Prop
  | [], s, s' => s = s'
  | .drawn r v :: es, s, s' => ∃ m, DrawSource.draw r s = .answered v m ∧ Answers es m s'
  | .refused _ :: _, _, _ => False
  | .event _ :: es, s, s' => Answers es s s'

theorem Answers.append [DrawSource σ] :
    ∀ {es es' : List Entry} {s m s' : σ}, Answers es s m → Answers es' m s' →
      Answers (es ++ es') s s'
  | [], _, _, _, _, rfl, h' => h'
  | .drawn _ _ :: _, _, _, _, _, ⟨n, hn, h⟩, h' => ⟨n, hn, h.append h'⟩
  | .refused _ :: _, _, _, _, _, h, _ => h.elim
  | .event _ :: es, _, s, m, _, h, h' =>
      have hrest : Answers es s m := h
      hrest.append h'

theorem Answers.split [DrawSource σ] :
    ∀ {es es' : List Entry} {s s' : σ}, Answers (es ++ es') s s' →
      ∃ m, Answers es s m ∧ Answers es' m s'
  | [], _, s, _, h => ⟨s, rfl, h⟩
  | .drawn _ _ :: _, _, _, _, ⟨n, hn, h⟩ =>
      let ⟨m, hm, hm'⟩ := Answers.split h
      ⟨m, ⟨n, hn, hm⟩, hm'⟩
  | .refused _ :: _, _, _, _, h => h.elim
  | .event _ :: es, es', s, s', h =>
      have hrest : Answers (es ++ es') s s' := h
      hrest.split

theorem answers_append_iff [DrawSource σ] {es es' : List Entry} {s s' : σ} :
    Answers (es ++ es') s s' ↔ ∃ m, Answers es s m ∧ Answers es' m s' := by
  constructor
  · exact Answers.split
  · rintro ⟨m, h, h'⟩
    exact h.append h'

theorem answers_entries_iff [DrawSource σ] {g : Growth} {v : Nat} {s s' : σ} :
    Answers (g.entries v) s s' ↔ DrawSource.draw g.request s = .answered v s' := by
  unfold Growth.entries
  cases g.event? v with
  | none => exact ⟨fun ⟨m, hm, h⟩ => h ▸ hm, fun h => ⟨s', h, rfl⟩⟩
  | some e => exact ⟨fun ⟨m, hm, h⟩ => h ▸ hm, fun h => ⟨s', h, rfl⟩⟩

/-- A source that gives the numbers along a path takes the run to the end of the path. -/
theorem Leads.run?_eq [DrawSource σ] {maxDepth : Option Nat} {g : Growth} {es : List Entry}
    {p : Progress} :
    Leads maxDepth g es p → ∀ {tape : Tape σ} {s : σ}, Answers es tape.source s →
      g.run? maxDepth tape = p.run? maxDepth (tape.extend es s) := by
  intro h
  induction h with
  | last =>
      intro tape s ha
      exact Growth.run?_of_answered (answers_entries_iff.mp ha)
  | @step g g' v es p hg _ ih =>
      intro tape s ha
      obtain ⟨m, hm, ha⟩ := ha.split
      have hrest := @ih (tape.extend (g.entries v) m) s ha
      rw [Tape.extend_extend] at hrest
      rw [← hrest, Growth.run?_of_answered (answers_entries_iff.mp hm), hg]
      rfl

theorem Growth.ends_of_run? [DrawSource σ] {maxDepth : Option Nat} {g : Growth} {tape : Tape σ}
    {r : Except Stop Term × Tape σ} (h : g.run? maxDepth tape = some r) :
    Ends maxDepth g tape.source := by
  refine Classical.byContradiction fun hends => ?_
  rw [run?, dif_neg hends] at h
  cases h

/-- What holds of runs that take one more draw if it holds of what comes after it, holds of every
run that comes to an end. -/
theorem Growth.run?_induction [DrawSource σ] {maxDepth : Option Nat}
    {motive : Growth → Tape σ → Except Stop Term → Tape σ → Prop}
    (stopped : ∀ {g : Growth} {tape : Tape σ} {why : Stop} {s : σ},
      DrawSource.draw g.request tape.source = .stopped why s →
        motive g tape (.error why) (tape.stopped why s))
    (finished : ∀ {g : Growth} {tape : Tape σ} {v : Nat} {s : σ} {t : Term},
      DrawSource.draw g.request tape.source = .answered v s → g.answer maxDepth v = .finished t →
        motive g tape (.ok t) (tape.extend (g.entries v) s))
    (noEntry : ∀ {g : Growth} {tape : Tape σ} {v index : Nat} {s : σ},
      DrawSource.draw g.request tape.source = .answered v s → g.answer maxDepth v = .noEntry index →
        motive g tape (.error (.noEntry Pool.size index)) (tape.extend (g.entries v) s))
    (growing : ∀ {g g' : Growth} {tape tape' : Tape σ} {v : Nat} {s : σ} {r : Except Stop Term},
      DrawSource.draw g.request tape.source = .answered v s → g.answer maxDepth v = .growing g' →
        motive g' (tape.extend (g.entries v) s) r tape' → motive g tape r tape')
    {g : Growth} {tape tape' : Tape σ} {r : Except Stop Term} :
    g.run? maxDepth tape = some (r, tape') → motive g tape r tape' := by
  intro hrun
  have hends : Acc (Next maxDepth) (g, tape.source) := ends_of_run? hrun
  generalize hx : (g, tape.source) = x at hends
  induction hends generalizing g tape with
  | intro x _ ih =>
      subst hx
      cases hd : DrawSource.draw g.request tape.source with
      | stopped why s =>
          rw [run?_eq, Tape.draw, hd] at hrun
          cases hrun
          exact stopped hd
      | answered v s =>
          rw [run?_of_answered hd] at hrun
          cases hp : g.answer maxDepth v with
          | finished t =>
              rw [hp] at hrun
              cases hrun
              exact finished hd hp
          | noEntry index =>
              rw [hp] at hrun
              cases hrun
              exact noEntry hd hp
          | growing g' =>
              rw [hp] at hrun
              exact growing hd hp (ih (g', s) ⟨v, hd, hp⟩ hrun rfl)

/-- A run that finishes a term has taken a path to it. -/
theorem Growth.exists_leads_of_run? [DrawSource σ] {maxDepth : Option Nat} {g : Growth}
    {tape tape' : Tape σ} {t : Term} :
    g.run? maxDepth tape = some (.ok t, tape') →
      ∃ es s, Leads maxDepth g es (.finished t) ∧ Answers es tape.source s
        ∧ tape' = tape.extend es s := by
  intro hrun
  refine run?_induction (motive := fun g tape r tape' => ∀ t, r = .ok t → ∃ es s,
    Leads maxDepth g es (.finished t) ∧ Answers es tape.source s ∧ tape' = tape.extend es s)
    ?stopped ?finished ?noEntry ?growing hrun t rfl
  case stopped =>
      intro g tape why s _ t ht
      cases ht
  case noEntry =>
      intro g tape v index s _ _ t ht
      cases ht
  case finished =>
      intro g tape v s t hd hp t' ht
      cases ht
      exact ⟨g.entries v, s, hp ▸ .last, answers_entries_iff.mpr hd, rfl⟩
  case growing =>
      intro g g' tape tape' v s r hd hp ih t ht
      obtain ⟨es, s', hl, ha, rfl⟩ := ih t ht
      exact ⟨g.entries v ++ es, s', .step hp hl, (answers_entries_iff.mpr hd).append ha,
        Tape.extend_extend ..⟩

/-- A run finishes a term exactly if it takes a path to it and the source gives the numbers. -/
theorem Growth.run?_eq_ok_iff [DrawSource σ] {maxDepth : Option Nat} {g : Growth}
    {tape tape' : Tape σ} {t : Term} :
    g.run? maxDepth tape = some (.ok t, tape') ↔
      ∃ es s, Leads maxDepth g es (.finished t) ∧ Answers es tape.source s
        ∧ tape' = tape.extend es s := by
  constructor
  · exact exists_leads_of_run?
  · rintro ⟨es, s, hl, ha, rfl⟩
    exact hl.run?_eq ha

/-! ## Scripts in place of a source -/

/-- Every number in the record lies in the range that was asked for. -/
def InRange (es : List Entry) : Prop := ∀ r v, .drawn r v ∈ es → v ∈ r

theorem inRange_append {es es' : List Entry} : InRange (es ++ es') ↔ InRange es ∧ InRange es' := by
  constructor
  · intro h
    exact ⟨fun r v hv => h r v (List.mem_append_left _ hv),
      fun r v hv => h r v (List.mem_append_right _ hv)⟩
  · rintro ⟨h, h'⟩ r v hv
    exact (List.mem_append.mp hv).elim (h r v) (h' r v)

theorem inRange_drawn_cons {r : Range} {v : Nat} {es : List Entry} :
    InRange (.drawn r v :: es) ↔ v ∈ r ∧ InRange es := by
  constructor
  · intro h
    exact ⟨h r v List.mem_cons_self, fun r' v' hv => h r' v' (List.mem_cons_of_mem _ hv)⟩
  · rintro ⟨h, h'⟩ r' v' hv
    cases hv with
    | head => exact h
    | tail _ hv => exact h' r' v' hv

theorem inRange_event_cons {e : Event} {es : List Entry} :
    InRange (.event e :: es) ↔ InRange es := by
  constructor
  · intro h r v hv
    exact h r v (List.mem_cons_of_mem _ hv)
  · intro h r v hv
    cases hv with
    | tail _ hv => exact h r v hv

theorem inRange_nil : InRange [] := fun _ _ h => nomatch h

theorem inRange_entries {g : Growth} {v : Nat} (hv : v ∈ g.request) : InRange (g.entries v) := by
  refine inRange_drawn_cons.mpr ⟨hv, ?_⟩
  cases g.event? v with
  | none => exact inRange_nil
  | some e => exact inRange_event_cons.mpr inRange_nil

@[simp] theorem drawnValues_append (es es' : List Entry) :
    drawnValues (es ++ es') = drawnValues es ++ drawnValues es' :=
  List.filterMap_append

@[simp] theorem drawnValues_drawn (r : Range) (v : Nat) (es : List Entry) :
    drawnValues (.drawn r v :: es) = v :: drawnValues es := rfl

@[simp] theorem drawnValues_event (e : Event) (es : List Entry) :
    drawnValues (.event e :: es) = drawnValues es := rfl

@[simp] theorem drawnValues_nil : drawnValues [] = [] := rfl

theorem answers_script_cons_iff {r : Range} {v w : Nat} {es : List Entry} {rest : List Nat}
    {s : Script} : Answers (.drawn r v :: es) (⟨w :: rest⟩ : Script) s ↔
      v ∈ r ∧ w = v ∧ Answers es (⟨rest⟩ : Script) s := by
  by_cases hw : w ∈ r
  · simp only [Answers, DrawSource.draw, Script.draw, if_pos hw, Reply.answered.injEq]
    constructor
    · rintro ⟨m, ⟨rfl, rfl⟩, ha⟩
      exact ⟨hw, rfl, ha⟩
    · rintro ⟨-, rfl, ha⟩
      exact ⟨_, ⟨rfl, rfl⟩, ha⟩
  · simp only [Answers, DrawSource.draw, Script.draw, if_neg hw]
    constructor
    · rintro ⟨m, hm, -⟩
      cases hm
    · rintro ⟨hv, rfl, -⟩
      exact absurd hv hw

/-- A script gives the numbers of a record exactly if they stand at its head, in order and each in
its range; what follows them is left. -/
theorem answers_script_iff : ∀ {es : List Entry} {s s' : Script}, Answers es s s' ↔
    (∀ r, .refused r ∉ es) ∧ InRange es ∧ s.values = drawnValues es ++ s'.values
  | [], ⟨_⟩, ⟨_⟩ => by simp [Answers, inRange_nil]
  | .drawn r v :: es, ⟨[]⟩, s' => by simp [Answers, DrawSource.draw, Script.draw]
  | .drawn r v :: es, ⟨w :: rest⟩, s' => by
      have ih := @answers_script_iff es ⟨rest⟩ s'
      rw [answers_script_cons_iff, ih, inRange_drawn_cons, drawnValues_drawn]
      simp only [List.mem_cons, reduceCtorEq, false_or, List.cons_append, List.cons.injEq]
      constructor
      · rintro ⟨hv, rfl, hr, hin, hs⟩
        exact ⟨hr, ⟨hv, hin⟩, rfl, hs⟩
      · rintro ⟨hr, ⟨hv, hin⟩, rfl, hs⟩
        exact ⟨hv, rfl, hr, hin, hs⟩
  | .refused r :: es, s, s' =>
      ⟨fun h => h.elim, fun h => absurd List.mem_cons_self (h.1 r)⟩
  | .event e :: es, s, s' => by
      have ih := @answers_script_iff es s s'
      simpa [Answers, inRange_event_cons] using ih

end RandomTerms
