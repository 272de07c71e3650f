/-
# What a source is asked for

Whatever a source answers, it is only ever asked for a number in a range that has one: an entry of
the pool, a move, or a target between one and what a draft lacks.  The last is the one to wonder
about.  A draft is short of its target when it asks, so the target of a sub-term is at least one;
and each level of nesting has at least one character in front of it, so as long as all answers are
in range, a target at depth `k` is at most `target - 1 - k`.

To speak of every request, also of a run that does not end or comes to a bad end, a source is
watched (`Watched`): it keeps what it has been asked for and is cut off after so many answers.
What it has been asked for by then is what the states of growth request that it has led to
(`Generator.mem_asked_iff`), and about these there is an invariant (`Follows`).

A source of random words answers all such requests, so on it nothing fails.
-/
import RandomTerms.Proofs.Ending
import RandomTerms.Proofs.Series

namespace RandomTerms

open Growth

variable {σ ω : Type}

/-! ## The states that a source leads to -/

/-- Making a term out of the source `s`, a generator comes to the state `g` of growth.  The source
is then `m`, and `es` is recorded. -/
inductive Generator.Visits [DrawSource σ] (gen : Generator) (s : σ) :
    List Entry → Growth → σ → Prop
  | start : Visits gen s [] (.picking gen.target []) s
  | answered {es : List Entry} {g g' : Growth} {m m' : σ} {v : Nat} :
      Visits gen s es g m → DrawSource.draw g.request m = .answered v m' →
      g.answer gen.maxDepth v = .growing g' → Visits gen s (es ++ g.entries v) g' m'

/-- Making a term out of the source `s`, a generator comes to a state that requests `r`. -/
def Generator.Requests [DrawSource σ] (gen : Generator) (s : σ) (r : Range) : Prop :=
  ∃ es g m, gen.Visits s es g m ∧ r = g.request

theorem Generator.Visits.follows [DrawSource σ] {gen : Generator} {s m : σ} {es : List Entry}
    {g : Growth} : gen.Visits s es g m → Follows gen.maxDepth gen.target g es := by
  intro h
  induction h with
  | start => exact .picking .nil
  | @answered es g g' m m' v _ _ hg ih =>
      have hnext := ih.answer v
      rw [hg] at hnext
      exact hnext

/-- The requests are of three kinds. -/
theorem Growth.request_cases (g : Growth) :
    g.request = ⟨0, Pool.size - 1⟩ ∨ g.request = ⟨0, Move.greatest⟩
      ∨ ∃ h, 1 ≤ h ∧ g.request = ⟨1, h⟩ := by
  cases g with
  | picking => exact .inl rfl
  | choosing => exact .inr (.inl rfl)
  | measuring draft => exact .inr (.inr ⟨draft.gap, draft.gap_pos, rfl⟩)

/-- A draft has at least one character, so the target of a sub-term is below that of the draft. -/
theorem Draft.gap_lt (draft : Draft) : draft.gap < draft.target :=
  Nat.sub_lt (Nat.lt_of_le_of_lt (Nat.zero_le _) draft.short) draft.length_pos

/-- Every draft that waits keeps a character of its target to itself. -/
theorem Pending.target_add_depth_le {maxDepth : Option Nat} {goal target : Nat}
    {outer : List Waiting} {es : List Entry} :
    Pending maxDepth goal outer target es → InRange es → target + outer.length ≤ goal := by
  intro h
  induction h with
  | nil =>
      intro _
      exact Nat.le_refl _
  | @cons w outer v s es es' _ _ _ _ ih =>
      intro hin
      obtain ⟨hes, hrest⟩ := inRange_append.mp hin
      have hs : s ≤ w.draft.gap := (hrest ⟨1, w.draft.gap⟩ s (by simp [Entry.measured])).2
      calc s + (outer.length + 1)
          ≤ w.draft.gap + 1 + outer.length := by omega
        _ ≤ w.draft.target + outer.length := Nat.add_le_add_right w.draft.gap_lt _
        _ ≤ goal := ih hes

/-- While all answers are in range, what a draft lacks is bounded by its depth. -/
theorem Generator.Visits.gap_le [DrawSource σ] {gen : Generator} {s m : σ} {es : List Entry}
    {draft : Draft} {op : Op} {outer : List Waiting} :
    gen.Visits s es (.measuring draft op outer) m → InRange es →
      draft.gap ≤ gen.target - 1 - outer.length := by
  intro h hin
  cases h.follows with
  | @measuring _ _ _ v es es' hp _ _ _ =>
      have hle := hp.target_add_depth_le (inRange_append.mp hin).1
      have hlt := draft.gap_lt
      omega

/-! ## A source that is watched -/

/-- A source with what it has been asked for, the latest first, that is let answer only so many
more times. -/
structure Watched (σ : Type) where
  source : σ
  left : Nat
  asked : List Range

namespace Watched

/-- A source of which nothing has been asked yet, let answer `n` times. -/
def watch (s : σ) (n : Nat) : Watched σ := ⟨s, n, []⟩

def draw [DrawSource σ] (r : Range) (w : Watched σ) : Reply (Watched σ) :=
  match w.left with
  | 0 => .stopped (.scriptEnded r) ⟨w.source, 0, r :: w.asked⟩
  | n + 1 =>
    match DrawSource.draw r w.source with
    | .answered v s => .answered v ⟨s, n, r :: w.asked⟩
    | .stopped why s => .stopped why ⟨s, n, r :: w.asked⟩

theorem draw_eq_answered_iff [DrawSource σ] {r : Range} {w w' : Watched σ} {v : Nat} :
    w.draw r = .answered v w' ↔ ∃ n s, w.left = n + 1 ∧ DrawSource.draw r w.source = .answered v s
      ∧ w' = ⟨s, n, r :: w.asked⟩ := by
  obtain ⟨s, left, asked⟩ := w
  cases left with
  | zero => simp [draw]
  | succ n =>
      simp only [draw]
      cases hd : DrawSource.draw r s with
      | answered u s' =>
          simp only [Reply.answered.injEq, Nat.add_right_cancel_iff]
          constructor
          · rintro ⟨rfl, rfl⟩
            exact ⟨n, s', rfl, ⟨rfl, rfl⟩, rfl⟩
          · rintro ⟨_, _, rfl, ⟨rfl, rfl⟩, rfl⟩
            exact ⟨rfl, rfl⟩
      | stopped why s' => simp

theorem asked_of_answered [DrawSource σ] {r : Range} {w w' : Watched σ} {v : Nat} :
    w.draw r = .answered v w' → w'.asked = r :: w.asked := by
  intro h
  obtain ⟨n, s, -, -, rfl⟩ := draw_eq_answered_iff.mp h
  rfl

theorem asked_of_stopped [DrawSource σ] {r : Range} {w w' : Watched σ} {why : Stop} :
    w.draw r = .stopped why w' → w'.asked = r :: w.asked := by
  obtain ⟨s, left, asked⟩ := w
  cases left with
  | zero =>
      intro h
      cases h
      rfl
  | succ n =>
      simp only [draw]
      cases DrawSource.draw r s with
      | answered u s' =>
          intro h
          cases h
      | stopped why s' =>
          intro h
          cases h
          rfl

instance [DrawSource σ] : SteadySource (Watched σ) where
  draw := draw
  supply := left
  supply_le h := by
    obtain ⟨n, s, hn, -, rfl⟩ := draw_eq_answered_iff.mp h
    exact hn ▸ Nat.le_succ n
  supply_lt h _ _ := by
    obtain ⟨n, s, hn, -, rfl⟩ := draw_eq_answered_iff.mp h
    exact hn ▸ Nat.lt_succ_self n

/-- What a watched source answers is what the source answers. -/
theorem source_of_answers [DrawSource σ] : ∀ {es : List Entry} {w w' : Watched σ},
    Answers es w w' → Answers es w.source w'.source
  | [], _, _, h => congrArg source h
  | .drawn _ _ :: _, _, _, ⟨_, hm, h⟩ => by
      obtain ⟨n, s, -, hs, rfl⟩ := draw_eq_answered_iff.mp hm
      exact ⟨s, hs, source_of_answers h⟩
  | .refused _ :: _, _, _, h => h.elim
  | .event _ :: es, w, w', h =>
      have hrest : Answers es w w' := h
      have hsource : Answers es w.source w'.source := source_of_answers hrest
      hsource

end Watched

open Watched

/-! ## What is asked for -/

@[simp] theorem Tape.source_stopped (tape : Tape σ) (why : Stop) (s : σ) :
    (tape.stopped why s).source = s := by
  unfold stopped
  cases why.refused? <;> rfl

theorem Pool.snd_pick [DrawSource σ] (tape : Tape σ) :
    (pick tape).2 = (tape.draw ⟨0, size - 1⟩).2 := by
  unfold pick
  split
  · next h => rw [h]
  · next v _ h =>
      rw [h]
      cases entry? v <;> rfl

section

variable [DrawSource σ] {gen : Generator}

theorem Tape.asked_draw (r : Range) (tape : Tape (Watched σ)) :
    (tape.draw r).2.source.asked = r :: tape.source.asked := by
  unfold draw
  cases hd : DrawSource.draw r tape.source with
  | answered v w => exact asked_of_answered hd
  | stopped why w =>
      show (tape.stopped why w).source.asked = _
      rw [source_stopped]
      exact asked_of_stopped hd

theorem Pool.asked_pick (s : σ) (n : Nat) :
    (pick (Tape.blank (watch s n))).2.source.asked = [⟨0, size - 1⟩] := by
  rw [snd_pick, Tape.asked_draw]
  rfl

/-- A run goes on to ask for what is requested in the states that the source leads to. -/
theorem Growth.asked_run? {s : σ} {g : Growth} {tape tape' : Tape (Watched σ)}
    {result : Except Stop Term} {es : List Entry} :
    g.run? gen.maxDepth tape = some (result, tape') → gen.Visits s es g tape.source.source →
      ∀ r ∈ tape'.source.asked, r ∈ tape.source.asked ∨ gen.Requests s r := by
  intro hrun hv
  -- One more request is that of the state at hand.
  have hone {es : List Entry} {g : Growth} {m : σ} {asked : List Range}
      (hv : gen.Visits s es g m) : ∀ r ∈ g.request :: asked, r ∈ asked ∨ gen.Requests s r := by
    intro r hr
    rcases List.mem_cons.mp hr with rfl | hr
    · exact .inr ⟨es, g, m, hv, rfl⟩
    · exact .inl hr
  refine run?_induction (motive := fun g tape _ tape' => ∀ es,
    gen.Visits s es g tape.source.source → ∀ r ∈ tape'.source.asked,
      r ∈ tape.source.asked ∨ gen.Requests s r)
    ?stopped ?finished ?noEntry ?growing hrun es hv
  case stopped =>
      intro g tape why w hd es hv
      rw [Tape.source_stopped, asked_of_stopped hd]
      exact hone hv
  case finished =>
      intro g tape v w t hd _ es hv
      exact asked_of_answered hd ▸ hone hv
  case noEntry =>
      intro g tape v index w hd _ es hv
      exact asked_of_answered hd ▸ hone hv
  case growing =>
      intro g g' tape tape' v w result hd hp ih es hv r hr
      obtain ⟨n, s', -, hs, rfl⟩ := draw_eq_answered_iff.mp hd
      rcases ih _ (hv.answered hs hp) r hr with hr | hr
      · exact hone hv r hr
      · exact .inr hr

/-- A source that is watched long enough gets to every state that it leads to. -/
theorem Generator.Visits.exists_generate?_eq {s m : σ} {es : List Entry} {g : Growth} :
    gen.Visits s es g m → ∀ left : Nat, ∃ tape : Tape (Watched σ), tape.source.source = m
      ∧ tape.source.left = left
      ∧ gen.generate? (Tape.blank (watch s ((drawnValues es).length + left)))
          = g.run? gen.maxDepth tape := by
  intro h
  induction h with
  | start =>
      intro left
      exact ⟨_, rfl, Nat.zero_add left, rfl⟩
  | @answered es g g' m m' v _ hs hp ih =>
      intro left
      obtain ⟨tape, rfl, hleft, hrun⟩ := ih (left + 1)
      have hd : DrawSource.draw g.request tape.source
          = .answered v ⟨m', left, g.request :: tape.source.asked⟩ :=
        draw_eq_answered_iff.mpr ⟨left, m', hleft, hs, rfl⟩
      refine ⟨tape.extend (g.entries v) ⟨m', left, g.request :: tape.source.asked⟩, rfl, rfl, ?_⟩
      rw [drawnValues_append, drawnValues_entries, List.length_append, List.length_singleton,
        Nat.add_assoc, Nat.add_comm 1, hrun, run?_of_answered hd, hp]
      rfl

/-- While a term is made, a source is asked for what is requested in the states that it leads to,
and for nothing else. -/
theorem Generator.mem_asked_iff {s : σ} {r : Range} :
    (∃ n, r ∈ (gen.generate (Tape.blank (watch s n))).2.source.asked) ↔ gen.Requests s r := by
  constructor
  · rintro ⟨n, hr⟩
    have hrun := gen.generate?_eq (Tape.blank (watch s n))
    exact (asked_run? hrun .start r hr).resolve_left List.not_mem_nil
  · rintro ⟨es, g, m, hv, rfl⟩
    obtain ⟨tape, -, hleft, hrun⟩ := hv.exists_generate?_eq 0
    have hd : DrawSource.draw g.request tape.source
        = .stopped (.scriptEnded g.request)
            ⟨tape.source.source, 0, g.request :: tape.source.asked⟩ := by
      show Watched.draw g.request tape.source = _
      rw [Watched.draw, hleft]
    rw [generate?_eq, run?_eq, Tape.draw, hd] at hrun
    refine ⟨(drawnValues es).length + 0, ?_⟩
    rw [Option.some.inj hrun, Tape.source_stopped]
    exact List.mem_cons_self

/-- Terms one after the other ask for what each of them asks for. -/
theorem Document.asked_writeTerms? [Writer ω] {left index : Nat} {tape : Tape (Watched σ)} {w : ω}
    {W : Writing (Watched σ) ω} :
    writeTerms? gen.generate? left index tape w = some W → ∀ r ∈ W.tape.source.asked,
      r ∈ tape.source.asked ∨ ∃ made s, gen.Makes tape.source.source made s
        ∧ made.length < left ∧ gen.Requests s r := by
  intro h
  -- What is asked for the first of the terms.
  have hfirst {left : Nat} {tape tape' : Tape (Watched σ)} {result : Except Stop Term}
      (hone : gen.generate? tape = some (result, tape')) : ∀ r ∈ tape'.source.asked,
        r ∈ tape.source.asked ∨ ∃ made s, gen.Makes tape.source.source made s
          ∧ made.length < left + 1 ∧ gen.Requests s r := by
    intro r hr
    rcases asked_run? hone .start r hr with hr | hreq
    · exact .inl hr
    · exact .inr ⟨[], _, .nil, Nat.succ_pos _, hreq⟩
  refine writeTerms?_induction (motive := fun left _ tape _ W => ∀ r ∈ W.tape.source.asked,
    r ∈ tape.source.asked ∨ ∃ made s, gen.Makes tape.source.source made s
      ∧ made.length < left ∧ gen.Requests s r)
    ?flushed ?unflushed ?stopped ?failed ?line h
  case flushed =>
      intro index tape w w' _ r hr
      exact .inl hr
  case unflushed =>
      intro index tape w w' fault _ r hr
      exact .inl hr
  case stopped =>
      intro left index tape tape' w why hone r hr
      exact hfirst hone r hr
  case failed =>
      intro left index tape tape' w w' t fault hone _ r hr
      exact hfirst hone r hr
  case line =>
      intro left index tape tape' w w' t W hone _ ih r hr
      rcases ih r hr with hr | ⟨made, s, hmade, hlt, hreq⟩
      · exact hfirst hone r hr
      · obtain ⟨es', w₁, hd, ha, rfl⟩ := Generator.generate?_eq_ok_iff.mp hone
        have hterm : gen.generate? (Tape.blank tape.source.source) = some
            (.ok t, (Tape.blank tape.source.source).extend es' w₁.source) :=
          Generator.generate?_eq_extend_iff.mpr ⟨hd, source_of_answers ha⟩
        exact .inr ⟨⟨t, es'⟩ :: made, s, .cons hterm hmade, Nat.succ_lt_succ hlt, hreq⟩

theorem Document.asked_write [Writer ω] {c : Config} {s : σ} {n : Nat} {w : ω} :
    ∀ r ∈ (write c (Tape.blank (watch s n)) w).tape.source.asked, ∃ made s',
      c.generator.Makes s made s' ∧ made.length < c.termCount ∧ c.generator.Requests s' r := by
  intro r hr
  have hwrite := write?_eq c (Tape.blank (watch s n)) w
  simp only [write?, writeFrom?] at hwrite
  cases hl : writeLine (Nat.toDigits 10 c.pairCount) w with
  | mk reply w' =>
      rw [hl] at hwrite
      cases reply with
      | error fault =>
          rw [← Option.some.inj hwrite] at hr
          exact absurd hr List.not_mem_nil
      | ok _ => exact (asked_writeTerms? hwrite r hr).resolve_left List.not_mem_nil

/-! ## A source that answers -/

/-- From every state of the source, atoms and terms are made, and a document fails only where its
writer does. -/
def NeverFails (σ : Type) [DrawSource σ] : Prop :=
  ∀ tape : Tape σ, (∃ a tape', Pool.pick tape = (.ok a, tape'))
    ∧ (∀ gen : Generator, ∃ t tape', gen.generate? tape = some (.ok t, tape'))
    ∧ ∀ {ω : Type} [Writer ω] (c : Config) (w : ω), ∃ W fault,
        Document.write? c tape w = some W ∧ W.trouble = Option.map .writer fault

theorem Pool.exists_pick (hσ : AnswersInRange σ) (tape : Tape σ) :
    ∃ a tape', pick tape = (.ok a, tape') := by
  obtain ⟨v, s, hd, hv⟩ := hσ ⟨0, size - 1⟩ tape.source (Nat.zero_le _)
  obtain ⟨a, ha⟩ := entry?_of_le hv.2
  refine ⟨a, tape.answered ⟨0, size - 1⟩ v s, ?_⟩
  simp only [pick, Tape.draw, hd, ha]

theorem Generator.exists_generate? (hσ : AnswersInRange σ) (gen : Generator) (tape : Tape σ) :
    ∃ t tape', gen.generate? tape = some (.ok t, tape') := by
  obtain ⟨t, es, s, hrun, -⟩ := exists_run?_of_answersInRange hσ gen.maxDepth
    (.picking gen.target []) tape
  exact ⟨t, _, hrun⟩

theorem Document.exists_writeTerms? [Writer ω] (hσ : AnswersInRange σ) (left : Nat) :
    ∀ (index : Nat) (tape : Tape σ) (w : ω), ∃ W fault,
      writeTerms? gen.generate? left index tape w = some W
        ∧ W.trouble = Option.map .writer fault := by
  induction left with
  | zero =>
      intro index tape w
      cases hf : Writer.flush w with
      | mk reply w' =>
          simp only [writeTerms?, hf]
          cases reply with
          | error fault => exact ⟨_, some fault, rfl, rfl⟩
          | ok _ => exact ⟨_, none, rfl, rfl⟩
  | succ left ih =>
      intro index tape w
      obtain ⟨t, tape', hone⟩ := Generator.exists_generate? hσ gen tape
      cases hl : writeLine t.chars w with
      | mk reply w' =>
          simp only [writeTerms?, hone, hl]
          cases reply with
          | error fault => exact ⟨_, some fault, rfl, rfl⟩
          | ok _ => exact ih (index + 1) _ w'

theorem Document.exists_write? [Writer ω] (hσ : AnswersInRange σ) (c : Config) (tape : Tape σ)
    (w : ω) : ∃ W fault, write? c tape w = some W ∧ W.trouble = Option.map .writer fault := by
  cases hl : writeLine (Nat.toDigits 10 c.pairCount) w with
  | mk reply w' =>
      simp only [write?, writeFrom?, hl]
      cases reply with
      | error fault => exact ⟨_, some fault, rfl, rfl⟩
      | ok _ => exact exists_writeTerms? hσ c.termCount 0 tape w'

/-- Answers in range are all that it takes. -/
theorem AnswersInRange.neverFails (hσ : AnswersInRange σ) : NeverFails σ := by
  intro tape
  refine ⟨Pool.exists_pick hσ tape, fun gen => Generator.exists_generate? hσ gen tape, ?_⟩
  intro ω _ c w
  exact Document.exists_write? hσ c tape w

end

/-! ## A source of random words -/

section

variable [WordSource σ]

theorem Scaled.exists_takeWord (hσ : ∀ s : σ, (WordSource.next s).1.isSome) (size : WordSize)
    (s : σ) : ∃ word s', takeWord size s = (some word, s') := by
  have hnext (s : σ) : ∃ word s', WordSource.next s = (some word, s') := by
    obtain ⟨word, hword⟩ := Option.isSome_iff_exists.mp (hσ s)
    exact ⟨word, _, Prod.ext hword rfl⟩
  obtain ⟨low, s₁, hlow⟩ := hnext s
  obtain ⟨high, s₂, hhigh⟩ := hnext s₁
  cases size with
  | single =>
      refine ⟨low.toNat, s₁, ?_⟩
      simp only [takeWord, hlow]
  | double =>
      refine ⟨low.toNat + WordSize.single.count * high.toNat, s₂, ?_⟩
      simp only [takeWord, hlow, hhigh]

/-- As long as there are words, a number is drawn from every range that has one. -/
theorem Scaled.answersInRange (hσ : ∀ s : σ, (WordSource.next s).1.isSome) : AnswersInRange σ := by
  intro r s hr
  have hans : ∃ v s', draw r s = .answered v s' := by
    obtain ⟨word, s₁, hword⟩ := exists_takeWord hσ (wordSize r) s
    obtain ⟨second, s₂, hsecond⟩ := exists_takeWord hσ (wordSize r) s₁
    simp only [draw, if_neg (Nat.not_lt_of_le hr), hword, hsecond]
    split
    · exact ⟨_, s₁, rfl⟩
    · split
      · exact ⟨_, s₂, rfl⟩
      · exact ⟨_, s₁, rfl⟩
  obtain ⟨v, s', hd⟩ := hans
  exact ⟨v, s', hd, mem_of_draw hr hd⟩

end

/-! ## Requests that can be met -/

open Document in
/-- Whatever a source answers, it is asked for nothing but an entry of the pool, a move, or the
target of a sub-term, and always in a range that has a number; a draft that asks for a target is
short of its own.  While all answers are in range, the target asked for at depth `k` is at most
`target - 1 - k`, and no answer in range misses the pool.  So a source that answers in range never
fails, and every source of random words that does not end is one. -/
theorem Generator.requests_met :
    (∀ {σ : Type} [DrawSource σ] (s : σ),
        (∀ n, (Pool.pick (Tape.blank (watch s n))).2.source.asked = [⟨0, Pool.size - 1⟩])
        ∧ (∀ (gen : Generator) (r : Range),
            (∃ n, r ∈ (gen.generate (Tape.blank (watch s n))).2.source.asked) ↔
              gen.Requests s r)
        ∧ ∀ {ω : Type} [Writer ω] (c : Config) (w : ω) (n : Nat),
            ∀ r ∈ (write c (Tape.blank (watch s n)) w).tape.source.asked,
              ∃ made s', c.generator.Makes s made s' ∧ made.length < c.termCount
                ∧ c.generator.Requests s' r)
    ∧ (∀ {σ : Type} [DrawSource σ] {gen : Generator} {s m : σ} {es : List Entry} {g : Growth},
        gen.Visits s es g m →
          g.request.low ≤ g.request.high
          ∧ (g.request = ⟨0, Pool.size - 1⟩ ∨ g.request = ⟨0, 101⟩
            ∨ ∃ h, 1 ≤ h ∧ g.request = ⟨1, h⟩)
          ∧ (∀ draft op outer, g = .measuring draft op outer →
              draft.term.length < draft.target
                ∧ g.request = ⟨1, draft.target - draft.term.length⟩
                ∧ (InRange es → g.request.high ≤ gen.target - 1 - outer.length))
          ∧ ∀ v ∈ g.request, ∀ index, g.answer gen.maxDepth v ≠ .noEntry index)
    ∧ (∀ v ∈ (⟨0, Pool.size - 1⟩ : Range), ∃ a, Pool.entry? v = some a)
    ∧ (∀ {σ : Type} [DrawSource σ], AnswersInRange σ → NeverFails σ)
    ∧ ∀ {σ : Type} [WordSource σ], (∀ s : σ, (WordSource.next s).1.isSome) → NeverFails σ := by
  refine ⟨?_, ?_, fun v hv => Pool.entry?_of_le hv.2, AnswersInRange.neverFails, ?_⟩
  · intro σ _ s
    refine ⟨Pool.asked_pick s, fun gen r => mem_asked_iff, ?_⟩
    intro ω _ c w n
    exact asked_write
  · intro σ _ gen s m es g hv
    refine ⟨g.request_low_le, g.request_cases, ?_, fun v h index => answer_ne_noEntry h⟩
    rintro draft op outer rfl
    rw [← draft.length_eq]
    exact ⟨draft.short, rfl, hv.gap_le⟩
  · intro σ _ hσ
    exact (Scaled.answersInRange hσ).neverFails

/-- A sub-term asks for a sub-term of its own, which may be as long as its depth allows. -/
theorem Generator.requests_met_nested :
    let gen : Generator := ⟨7, none⟩
    let outer : List Waiting := [⟨⟨.atom (.letter 'a'), 7, by decide⟩, .plus⟩]
    let draft : Draft := ⟨.atom (.letter 'a'), 6, by decide⟩
    let es : List Entry := [.picked 0, .chosen 25, .measured 6 6, .event (.expanding 0 6 .plus),
      .picked 0, .chosen 50]
    gen.Visits (⟨[0, 25, 6, 0, 50]⟩ : Unchecked) es (.measuring draft .minus outer) ⟨[]⟩
      ∧ InRange es
      ∧ (measuring draft .minus outer).request = ⟨1, 5⟩
      ∧ (measuring draft .minus outer).request.high ≤ 7 - 1 - 1
      ∧ AnswersInRange Congruential ∧ NeverFails Congruential
      ∧ (∀ s : XorShift, (WordSource.next s).1.isSome) ∧ NeverFails XorShift := by
  intro gen outer draft es
  let s : Unchecked := ⟨[0, 25, 6, 0, 50]⟩
  have hstart : gen.Visits s [] (.picking 7 []) s := .start
  have hv : gen.Visits s es (.measuring draft .minus outer) ⟨[]⟩ :=
    ((((hstart.answered rfl rfl).answered rfl rfl).answered rfl rfl).answered rfl rfl).answered
      rfl rfl
  have hpick : 0 ∈ (⟨0, Pool.size - 1⟩ : Range) := ⟨Nat.le_refl _, Nat.zero_le _⟩
  have hin : InRange es :=
    inRange_drawn_cons.mpr ⟨hpick, inRange_drawn_cons.mpr ⟨by decide,
      inRange_drawn_cons.mpr ⟨by decide, inRange_event_cons.mpr <|
        inRange_drawn_cons.mpr ⟨hpick, inRange_drawn_cons.mpr ⟨by decide, inRange_nil⟩⟩⟩⟩⟩
  have hwords : ∀ s : XorShift, (WordSource.next s).1.isSome := fun _ => rfl
  obtain ⟨-, hvisits, -, hanswers, hrandom⟩ := requests_met
  obtain ⟨-, hreq, hhigh⟩ := (hvisits hv).2.2.1 draft .minus outer rfl
  exact ⟨hv, hin, hreq, hhigh hin, Congruential.answersInRange,
    hanswers Congruential.answersInRange, hwords, hrandom hwords⟩

end RandomTerms
