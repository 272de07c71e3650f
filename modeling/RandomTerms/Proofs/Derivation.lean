/-
# The growth of a term as a recursion

The machine of `RandomTerms.Growth` keeps the drafts that wait in a stack.  Seen from one draft,
nothing of that shows: it starts as an atom, is wrapped or has a complete sub-term appended, over
and over, until it is settled.  `Reaches` says just this, by recursion on the term, with what is
recorded along the way; a sub-term is a term of its own, one level deeper, that has settled.

The stack and the recursion agree (`leads_finished_iff`).  From the stack to the recursion goes an
invariant: a stack stands for the derivations of its drafts, one inside the other (`Pending`), and
every answer keeps that up (`Follows.answer`).  The other way is an induction on the derivation,
for every stack below it.  With the two sides of a run this gives `generate?_eq_ok_iff`, by which
everything about finished terms is proved: it leaves an induction on the term.
-/
import RandomTerms.Proofs.Path

namespace RandomTerms

open Growth

/-! ## The entries of a term -/

namespace Entry

/-- The atom with number `v` is picked. -/
def picked (v : Nat) : Entry := .drawn ⟨0, Pool.size - 1⟩ v

/-- The move with number `v` is chosen. -/
def chosen (v : Nat) : Entry := .drawn ⟨0, Move.greatest⟩ v

/-- A sub-term gets the target `v`, where `gap` characters are lacking. -/
def measured (gap v : Nat) : Entry := .drawn ⟨1, gap⟩ v

end Entry

/-! ## Derivations -/

/-- A term grows no further: it has to stay an atom, or it is as long as its target. -/
def Settled (maxDepth : Option Nat) (depth target : Nat) (t : Term) : Prop :=
  isCapped maxDepth depth = true ∨ target ≤ t.length

theorem not_settled_iff {maxDepth : Option Nat} {depth target : Nat} {t : Term} :
    ¬ Settled maxDepth depth target t ↔ isCapped maxDepth depth = false ∧ t.length < target := by
  simp [Settled]

/-- Where a term at this depth is to grow toward this target, it has become `t` when `es` is
recorded. -/
inductive Reaches (maxDepth : Option Nat) : (depth target : Nat) → List Entry → Term → Prop
  | atom {depth target v : Nat} {a : Atom} :
      Pool.entry? v = some a → Reaches maxDepth depth target [.picked v] (.atom a)
  | group {depth target v : Nat} {es : List Entry} {t : Term} :
      Reaches maxDepth depth target es t → ¬ Settled maxDepth depth target t →
      Move.ofDraw v = .wrap →
      Reaches maxDepth depth target (es ++ [.chosen v]) (.group t)
  | join {depth target v s : Nat} {op : Op} {es es' : List Entry} {l r : Term} :
      Reaches maxDepth depth target es l → ¬ Settled maxDepth depth target l →
      Move.ofDraw v = .append op →
      Reaches maxDepth (depth + 1) s es' r → Settled maxDepth (depth + 1) s r →
      Reaches maxDepth depth target
        (es ++ .chosen v :: .measured (target - l.length) s
          :: .event (.expanding depth s op) :: es')
        (.join l op r)

/-- A term at this depth with this target is complete as `t` when `es` is recorded. -/
def Completes (maxDepth : Option Nat) (depth target : Nat) (es : List Entry) (t : Term) : Prop :=
  Reaches maxDepth depth target es t ∧ Settled maxDepth depth target t

/-! ## From the recursion to the stack -/

/-- A term with its length counted. -/
def Term.measured (t : Term) : Measured := ⟨t, t.length, rfl⟩

/-- Where growth is once a term has become `m`. -/
def Growth.arrive (maxDepth : Option Nat) (m : Measured) (target : Nat) (outer : List Waiting) :
    Progress :=
  if isCapped maxDepth outer.length then complete m outer else settle m target outer

theorem Growth.arrive_of_settled {maxDepth : Option Nat} {t : Term} {target : Nat}
    {outer : List Waiting} :
    Settled maxDepth outer.length target t →
      arrive maxDepth t.measured target outer = complete t.measured outer := by
  rintro (hc | hle)
  · exact if_pos hc
  · have hn : ¬ t.measured.length < target := Nat.not_lt_of_le hle
    simp [arrive, settle, hn]

theorem Growth.arrive_of_not_settled {maxDepth : Option Nat} {t : Term} {target : Nat}
    {outer : List Waiting} (h : ¬ Settled maxDepth outer.length target t) :
    arrive maxDepth t.measured target outer =
      .growing (.choosing ⟨t.measured, target, (not_settled_iff.mp h).2⟩ outer) := by
  have hlt : t.measured.length < target := (not_settled_iff.mp h).2
  simp [arrive, settle, (not_settled_iff.mp h).1, hlt]

/-- A draft whose depth allows it to grow arrives where it settles. -/
theorem Growth.arrive_of_open {maxDepth : Option Nat} {m : Measured} {target : Nat}
    {outer : List Waiting} (h : isCapped maxDepth outer.length = false) :
    arrive maxDepth m target outer = settle m target outer := by
  simp [arrive, h]

/-- Whatever drafts wait below, the machine takes a term to where its derivation has it. -/
theorem Reaches.leads {maxDepth : Option Nat} {depth target : Nat} {es : List Entry} {t : Term} :
    Reaches maxDepth depth target es t → ∀ outer : List Waiting, outer.length = depth →
      Leads maxDepth (.picking target outer) es (arrive maxDepth t.measured target outer) := by
  intro h
  induction h with
  | @atom depth target v a ha =>
      rintro outer rfl
      have hans : (picking target outer).answer maxDepth v
          = arrive maxDepth (Term.atom a).measured target outer := by
        simp only [answer, ha]
        rfl
      exact hans ▸ Leads.last
  | @group depth target v es t _ hs hv ih =>
      rintro outer rfl
      have hpre := ih outer rfl
      rw [arrive_of_not_settled hs] at hpre
      rw [arrive_of_open (not_settled_iff.mp hs).1]
      have hans : (choosing ⟨t.measured, target, (not_settled_iff.mp hs).2⟩ outer).answer maxDepth v
          = settle (Term.group t).measured target outer := by
        simp only [answer, hv]
        rfl
      exact hpre.trans (hans ▸ Leads.last)
  | @join depth target v s op es es' l r _ hs hv _ hr ihl ihr =>
      rintro outer rfl
      have hpre := ihl outer rfl
      rw [arrive_of_not_settled hs] at hpre
      rw [arrive_of_open (not_settled_iff.mp hs).1]
      let draft : Draft := ⟨l.measured, target, (not_settled_iff.mp hs).2⟩
      have hsub := ihr (⟨draft, op⟩ :: outer) rfl
      rw [arrive_of_settled hr] at hsub
      have hjoin : complete r.measured (⟨draft, op⟩ :: outer)
          = settle (Term.join l op r).measured target outer := rfl
      rw [hjoin] at hsub
      have hmove : (choosing draft outer).answer maxDepth v
          = .growing (.measuring draft op outer) := by simp only [answer, hv]
      exact hpre.trans (.step hmove (.step (v := s) rfl hsub))

/-! ## From the stack to the recursion -/

/-- The drafts in the stack wait for a term with this target, and at the bottom the whole is to
reach `goal`, when `es` is recorded. -/
inductive Pending (maxDepth : Option Nat) (goal : Nat) :
    List Waiting → (target : Nat) → List Entry → Prop
  | nil : Pending maxDepth goal [] goal []
  | cons {w : Waiting} {outer : List Waiting} {v s : Nat} {es es' : List Entry} :
      Pending maxDepth goal outer w.draft.target es →
      Reaches maxDepth outer.length w.draft.target es' w.draft.term →
      isCapped maxDepth outer.length = false → Move.ofDraw v = .append w.op →
      Pending maxDepth goal (w :: outer) s
        (es ++ (es' ++ [.chosen v, .measured w.draft.gap s,
          .event (.expanding outer.length s w.op)]))

/-- What a state of growth stands for when `es` is recorded. -/
inductive Follows (maxDepth : Option Nat) (goal : Nat) : Growth → List Entry → Prop
  | picking {target : Nat} {outer : List Waiting} {es : List Entry} :
      Pending maxDepth goal outer target es → Follows maxDepth goal (.picking target outer) es
  | choosing {draft : Draft} {outer : List Waiting} {es es' : List Entry} :
      Pending maxDepth goal outer draft.target es →
      Reaches maxDepth outer.length draft.target es' draft.term →
      isCapped maxDepth outer.length = false →
      Follows maxDepth goal (.choosing draft outer) (es ++ es')
  | measuring {draft : Draft} {op : Op} {outer : List Waiting} {v : Nat} {es es' : List Entry} :
      Pending maxDepth goal outer draft.target es →
      Reaches maxDepth outer.length draft.target es' draft.term →
      isCapped maxDepth outer.length = false → Move.ofDraw v = .append op →
      Follows maxDepth goal (.measuring draft op outer) (es ++ (es' ++ [.chosen v]))

/-- What the outcome of an answer stands for. -/
def Progress.Follows (maxDepth : Option Nat) (goal : Nat) (es : List Entry) : Progress → Prop
  | .growing g => RandomTerms.Follows maxDepth goal g es
  | .finished t => Completes maxDepth 0 goal es t
  | .noEntry _ => True

theorem Draft.not_settled {maxDepth : Option Nat} {depth : Nat} (draft : Draft)
    (h : isCapped maxDepth depth = false) :
    ¬ Settled maxDepth depth draft.target draft.term :=
  not_settled_iff.mpr ⟨h, draft.length_eq ▸ draft.short⟩

/-- A complete term is appended to the draft that waits for it, and so on outwards. -/
theorem Pending.complete {maxDepth : Option Nat} {goal : Nat} {outer : List Waiting} {target : Nat}
    {es es' : List Entry} {m : Measured} :
    Pending maxDepth goal outer target es → Completes maxDepth outer.length target es' m.term →
      (complete m outer).Follows maxDepth goal (es ++ es') := by
  intro hp
  induction hp generalizing es' m with
  | nil => exact fun hm => hm
  | @cons w outer v s es es₀ hp hr hc hv ih =>
      rintro ⟨hm, hms⟩
      have hjoin : Reaches maxDepth outer.length w.draft.target
          (es₀ ++ .chosen v :: .measured (w.draft.target - w.draft.term.length) s
            :: .event (.expanding outer.length s w.op) :: es') (w.draft.join w.op m).term :=
        hr.join (w.draft.not_settled hc) hv hm hms
      rw [← w.draft.length_eq] at hjoin
      simp only [Growth.complete, List.append_assoc, List.cons_append, List.nil_append]
      split
      · next hlt => exact .choosing hp hjoin hc
      · next hge =>
          exact ih ⟨hjoin, .inr ((w.draft.join w.op m).length_eq ▸ Nat.le_of_not_lt hge)⟩

/-- A term that the machine goes on with is what its derivation has. -/
theorem Pending.settle {maxDepth : Option Nat} {goal : Nat} {outer : List Waiting} {target : Nat}
    {es es' : List Entry} {m : Measured} :
    Pending maxDepth goal outer target es → Reaches maxDepth outer.length target es' m.term →
      isCapped maxDepth outer.length = false →
      (settle m target outer).Follows maxDepth goal (es ++ es') := by
  intro hp hr hc
  unfold Growth.settle
  split
  · next hlt =>
      show RandomTerms.Follows maxDepth goal (.choosing ⟨m, target, hlt⟩ outer) _
      exact .choosing hp hr hc
  · next hge => exact hp.complete ⟨hr, .inr (m.length_eq ▸ Nat.le_of_not_lt hge)⟩

/-- Every answer, in its range or not, keeps up what the states stand for. -/
theorem Follows.answer {maxDepth : Option Nat} {goal : Nat} {g : Growth} {es : List Entry} :
    Follows maxDepth goal g es → ∀ v : Nat,
      (g.answer maxDepth v).Follows maxDepth goal (es ++ g.entries v) := by
  intro h v
  cases h with
  | @picking target outer es hp =>
      simp only [Growth.answer]
      cases ha : Pool.entry? v with
      | none => exact trivial
      | some a =>
          have hr : Reaches maxDepth outer.length target [.picked v] (Measured.atom a).term :=
            .atom ha
          cases hc : isCapped maxDepth outer.length with
          | true => exact hp.complete ⟨hr, .inl hc⟩
          | false => exact hp.settle hr hc
  | @choosing draft outer es es' hp hr hc =>
      rw [List.append_assoc]
      simp only [Growth.answer]
      cases hv : Move.ofDraw v with
      | wrap => exact hp.settle (m := draft.group) (hr.group (draft.not_settled hc) hv) hc
      | append op => exact Follows.measuring hp hr hc hv
  | measuring hp hr hc hv =>
      simp only [List.append_assoc, List.cons_append, List.nil_append]
      exact Follows.picking (.cons hp hr hc hv)

/-- So does every path. -/
theorem Follows.leads {maxDepth : Option Nat} {goal : Nat} {g : Growth} {p : Progress}
    {es es' : List Entry} : Follows maxDepth goal g es → Leads maxDepth g es' p →
      p.Follows maxDepth goal (es ++ es') := by
  intro hf h
  induction h generalizing es with
  | last => exact hf.answer _
  | @step g g' v es' p hg _ ih =>
      have hnext := hf.answer v
      rw [hg] at hnext
      rw [← List.append_assoc]
      exact ih hnext

/-! ## The two agree -/

/-- A path to a finished term is a derivation of it. -/
theorem leads_finished_iff {maxDepth : Option Nat} {goal : Nat} {es : List Entry} {t : Term} :
    Leads maxDepth (.picking goal []) es (.finished t) ↔ Completes maxDepth 0 goal es t := by
  constructor
  · intro h
    have hstart : Follows maxDepth goal (.picking goal []) [] := .picking .nil
    exact hstart.leads h
  · rintro ⟨hr, hs⟩
    have h := hr.leads [] rfl
    rwa [arrive_of_settled hs] at h

/-- A generator makes a term exactly if the term has a derivation whose numbers the source gives,
and the derivation is what is recorded. -/
theorem Generator.generate?_eq_ok_iff {σ : Type} [DrawSource σ] {gen : Generator}
    {tape tape' : Tape σ} {t : Term} :
    gen.generate? tape = some (.ok t, tape') ↔
      ∃ es s, Completes gen.maxDepth 0 gen.target es t ∧ Answers es tape.source s
        ∧ tape' = tape.extend es s := by
  rw [generate?, run?_eq_ok_iff]
  simp only [leads_finished_iff]

/-! ## Terms out of a script -/

/-- The generator makes the term out of these numbers, each of them in the range that is asked for
and none left over. -/
def Generator.Yields (gen : Generator) (values : List Nat) (t : Term) : Prop :=
  ∃ past, gen.generate? (Tape.blank (⟨values⟩ : Script)) = some (.ok t, ⟨⟨[]⟩, past⟩)

theorem Reaches.not_refused {maxDepth : Option Nat} {depth target : Nat} {es : List Entry}
    {t : Term} : Reaches maxDepth depth target es t → ∀ r, .refused r ∉ es := by
  intro h r
  induction h with
  | atom _ => simp [Entry.picked]
  | group _ _ _ ih => simp [ih, Entry.chosen]
  | join _ _ _ _ _ ihl ihr => simp [ihl, ihr, Entry.chosen, Entry.measured]

theorem Generator.yields_iff_completes {gen : Generator} {values : List Nat} {t : Term} :
    gen.Yields values t ↔
      ∃ es, Completes gen.maxDepth 0 gen.target es t ∧ InRange es ∧ drawnValues es = values := by
  simp only [Yields, generate?_eq_ok_iff, answers_script_iff]
  constructor
  · rintro ⟨past, es, s, hc, ⟨-, hin, hvalues⟩, htape⟩
    cases htape
    exact ⟨es, hc, hin, by simpa [Tape.blank] using hvalues.symm⟩
  · rintro ⟨es, hc, hin, rfl⟩
    exact ⟨es.reverse ++ [], es, ⟨[]⟩, hc, ⟨hc.1.not_refused, hin, by simp [Tape.blank]⟩, rfl⟩

/-- A script whose first numbers are those of a derivation leads to the term, whatever comes after
them. -/
theorem Generator.exists_generate?_of_completes (gen : Generator) {es : List Entry} {t : Term} :
    Completes gen.maxDepth 0 gen.target es t → InRange es → ∀ rest : List Nat,
      ∃ tape, gen.generate? (Tape.blank (⟨drawnValues es ++ rest⟩ : Script)) = some (.ok t, tape) := by
  intro hc hin rest
  have hanswers : Answers es (⟨drawnValues es ++ rest⟩ : Script) ⟨rest⟩ :=
    answers_script_iff.mpr ⟨hc.1.not_refused, hin, rfl⟩
  exact ⟨_, generate?_eq_ok_iff.mpr ⟨es, ⟨rest⟩, hc, hanswers, rfl⟩⟩

end RandomTerms
