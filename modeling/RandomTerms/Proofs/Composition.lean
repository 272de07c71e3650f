/-
# Scripts one behind the other

A generator does not look ahead: it draws a number when it needs one, and when its term is finished
it draws no more.  So the values that a term takes from a source of fixed values are its script,

    values   =   script ++ rest        makes the term and leaves `rest`

and what stands behind the script does not matter (`Fits`).  With less than its script a term is not
finished, and the source is found empty once all that is there has been answered: an induction on
the path (`Leads.exists_run?_cut`).  It follows that no script goes on as another, and that scripts
one behind the other make their terms one after the other.

Batches are composed in the same way, whatever the source: to make so many and then more is to make
all of them, unless the source stops.  What was recorded before does not matter (`Tape.onto`), so
this goes for the steps of a session as well.
-/
import RandomTerms.Proofs.Conservation

namespace RandomTerms

open Source (ofList)

variable {checked : Bool} {values : List Nat}

/-! ## What a source of fixed values gives -/

/-- A source of the numbers in `es` gives them, whatever stands behind them. -/
def Fits (checked : Bool) (es : List Entry) : Prop :=
  ∀ rest, Answers es (ofList checked (drawnValues es ++ rest)) (ofList checked rest)

/-- A source of fixed values gives the first of them and leaves the others. -/
theorem Answers.exists_ofList : ∀ {es : List Entry} {values : List Nat} {s : Source},
    Answers es (ofList checked values) s →
      Fits checked es ∧ ∃ rest, values = drawnValues es ++ rest ∧ s = ofList checked rest
  | [], values, _, rfl => ⟨fun _ => rfl, values, rfl, rfl⟩
  | .drawn r v :: es, [], s, ⟨m, hm, _⟩ => by
      rw [Source.draw_ofList_nil] at hm
      cases hm
  | .drawn r v :: es, w :: values, s, ⟨m, hm, h⟩ => by
      rw [Source.draw_ofList_cons] at hm
      split at hm
      · next hw =>
          cases hm
          obtain ⟨hfits, rest, rfl, rfl⟩ := h.exists_ofList
          have hone (rest : List Nat) : DrawSource.draw r (ofList checked (v :: rest))
              = .answered v (ofList checked rest) := by rw [Source.draw_ofList_cons, if_pos hw]
          exact ⟨fun rest' => ⟨_, hone _, hfits rest'⟩, rest, rfl, rfl⟩
      · cases hm
  | .refused _ :: _, _, _, h => h.elim
  | .event _ :: es, values, s, h => by
      have hrest : Answers es (ofList checked values) s := h
      exact hrest.exists_ofList

theorem Fits.split {es es' : List Entry} (h : Fits checked (es ++ es')) :
    Fits checked es ∧ Fits checked es' := by
  obtain ⟨m, hfirst, hrest⟩ := (h []).split
  obtain ⟨hes, rest, -, rfl⟩ := Answers.exists_ofList hfirst
  exact ⟨hes, (Answers.exists_ofList hrest).1⟩

/-- Where no value is left, the next request ends the run. -/
theorem Growth.run?_of_empty (maxDepth : Option Nat) (g : Growth) {tape : Tape Source}
    (hs : tape.source = ofList checked []) :
    g.run? maxDepth tape = some (.error (.scriptEnded g.request),
      tape.extend [.refused g.request] (ofList checked [])) := by
  rw [run?_eq, Tape.draw, hs, Source.draw_ofList_nil]
  rfl

/-- While not all of the numbers along a path are there, the run stops at a source that has none
left, and all that were there have been answered. -/
theorem Leads.exists_run?_cut {maxDepth : Option Nat} {g : Growth} {es : List Entry}
    {p : Progress} : Leads maxDepth g es p → Fits checked es → ∀ k < (drawnValues es).length,
      ∀ tape : Tape Source, tape.source = ofList checked ((drawnValues es).take k) →
        ∃ r es', g.run? maxDepth tape
            = some (.error (.scriptEnded r), tape.extend es' (ofList checked []))
          ∧ drawnValues es' = (drawnValues es).take k := by
  intro h
  induction h with
  | @last g v =>
      intro _ k hk tape hs
      rw [Growth.drawnValues_entries] at hk hs ⊢
      obtain rfl : k = 0 := Nat.lt_one_iff.mp hk
      exact ⟨g.request, _, g.run?_of_empty maxDepth hs, rfl⟩
  | @step g g' v es p hg _ ih =>
      intro hfits k hk tape hs
      have hvalues : drawnValues (g.entries v ++ es) = v :: drawnValues es := by
        rw [drawnValues_append, Growth.drawnValues_entries]
        rfl
      rw [hvalues] at hk hs ⊢
      cases k with
      | zero => exact ⟨g.request, _, g.run?_of_empty maxDepth hs, rfl⟩
      | succ k =>
          obtain ⟨hfirst, hrest⟩ := hfits.split
          have hd := answers_entries_iff.mp (hfirst ((drawnValues es).take k))
          rw [Growth.drawnValues_entries, List.singleton_append, ← List.take_succ_cons, ← hs] at hd
          obtain ⟨r, es', hrun, hes'⟩ := ih hrest k (Nat.lt_of_succ_lt_succ hk)
            (tape.extend (g.entries v) (ofList checked ((drawnValues es).take k))) rfl
          rw [Tape.extend_extend] at hrun
          refine ⟨r, g.entries v ++ es', ?_, ?_⟩
          · rw [Growth.run?_of_answered hd, hg]
            exact hrun
          · rw [drawnValues_append, Growth.drawnValues_entries, hes']
            rfl

/-! ## The script of a term -/

namespace Generator

variable {gen : Generator} {t : Term} {es : List Entry}

/-- The generator makes the term out of a source that has the numbers of its record in front. -/
theorem generate_of_fits (hd : gen.Derives ⟨t, es⟩) (hfits : Fits checked es) {tape : Tape Source}
    {rest : List Nat} (hs : tape.source = ofList checked (drawnValues es ++ rest)) :
    gen.generate tape = (.ok t, tape.extend es (ofList checked rest)) := by
  have hanswers : Answers es tape.source (ofList checked rest) := hs ▸ hfits rest
  have hsome := generate?_eq_extend_iff.mpr ⟨hd, hanswers⟩
  rw [generate?_eq] at hsome
  exact Option.some.inj hsome

/-- Whatever term it makes, it has made of such a source. -/
theorem exists_fits {tape : Tape Source}
    (h : gen.generate (Tape.blank (ofList checked values)) = (.ok t, tape)) :
    ∃ es rest, gen.Derives ⟨t, es⟩ ∧ Fits checked es ∧ values = drawnValues es ++ rest
      ∧ tape = ⟨ofList checked rest, es.reverse⟩ := by
  have hsome := (gen.generate?_eq (Tape.blank (ofList checked values))).trans (congrArg some h)
  obtain ⟨es, s, hc, ha, rfl⟩ := generate?_eq_ok_iff.mp hsome
  obtain ⟨hfits, rest, hvalues, rfl⟩ := Answers.exists_ofList ha
  refine ⟨es, rest, hc, hfits, hvalues, ?_⟩
  simp [Tape.extend, Tape.blank]

/-- With less than these numbers, the source is found empty. -/
theorem exists_generate_cut (hd : gen.Derives ⟨t, es⟩) (hfits : Fits checked es) {k : Nat}
    (hk : k < (drawnValues es).length) :
    ∃ r tape, gen.generate (Tape.blank (ofList checked ((drawnValues es).take k)))
        = (.error (.scriptEnded r), tape)
      ∧ tape.source = ofList checked [] ∧ drawnValues tape.entries = (drawnValues es).take k := by
  obtain ⟨r, es', hrun, hes'⟩ := (leads_finished_iff.mpr hd).exists_run?_cut hfits k hk
    (Tape.blank (ofList checked ((drawnValues es).take k))) rfl
  have hsome : gen.generate? _ = _ := hrun
  rw [generate?_eq] at hsome
  refine ⟨r, _, Option.some.inj hsome, rfl, ?_⟩
  rw [Tape.entries_extend]
  exact hes'

/-- Out of these values the generator makes the term, and leaves none of them. -/
def IsScript (gen : Generator) (checked : Bool) (values : List Nat) (t : Term) : Prop :=
  ∃ past, gen.generate (Tape.blank (ofList checked values)) = (.ok t, ⟨ofList checked [], past⟩)

theorem isScript_iff : gen.IsScript checked values t ↔
    ∃ es, gen.Derives ⟨t, es⟩ ∧ Fits checked es ∧ values = drawnValues es := by
  constructor
  · rintro ⟨past, h⟩
    obtain ⟨es, rest, hd, hfits, hvalues, htape⟩ := exists_fits h
    obtain rfl : [] = rest := Source.ofList_inj.mp (congrArg Tape.source htape)
    exact ⟨es, hd, hfits, hvalues.trans (List.append_nil _)⟩
  · rintro ⟨es, hd, hfits, rfl⟩
    have hs : (Tape.blank (ofList checked (drawnValues es))).source
        = ofList checked (drawnValues es ++ []) := by
      rw [List.append_nil]
      rfl
    exact ⟨_, generate_of_fits hd hfits hs⟩

/-- No script goes on as another. -/
theorem IsScript.eq_of_prefix {values' : List Nat} {t' : Term} (h : gen.IsScript checked values t)
    (h' : gen.IsScript checked values' t') : values <+: values' → values = values' ∧ t = t' := by
  rintro ⟨more, rfl⟩
  obtain ⟨es, hd, hfits, rfl⟩ := isScript_iff.mp h
  obtain ⟨past, h'⟩ := h'
  rw [generate_of_fits hd hfits rfl, Prod.mk.injEq, Except.ok.injEq] at h'
  obtain ⟨ht, htape⟩ := h'
  obtain rfl : more = [] := Source.ofList_inj.mp (congrArg Tape.source htape)
  exact ⟨(List.append_nil _).symm, ht⟩

/-- Scripts one behind the other make their terms one after the other. -/
theorem make_of_scripts : ∀ {parts : List (List Nat × Term)},
    (∀ p ∈ parts, gen.IsScript checked p.1 p.2) → ∀ (rest : List Nat) (tape : Tape Source),
      tape.source = ofList checked (parts.flatMap Prod.fst ++ rest) →
      ∃ past, Batch.make gen.generate parts.length tape
        = ⟨parts.map Prod.snd, none, ⟨ofList checked rest, past⟩⟩
  | [], _, rest, tape, hs => ⟨tape.past, congrArg _ (congrArg (Tape.mk · tape.past) hs)⟩
  | (script, t) :: parts, h, rest, tape, hs => by
      obtain ⟨hp, hparts⟩ := List.forall_mem_cons.mp h
      obtain ⟨es, hd, hfits, rfl⟩ := isScript_iff.mp hp
      rw [List.flatMap_cons, List.append_assoc] at hs
      obtain ⟨past, hmake⟩ := make_of_scripts hparts rest
        (tape.extend es (ofList checked (parts.flatMap Prod.fst ++ rest))) rfl
      refine ⟨past, ?_⟩
      simp only [List.length_cons, Batch.make, generate_of_fits hd hfits hs, hmake, List.map_cons]

end Generator

/-! ## One batch behind the other -/

section

variable {σ α : Type}

/-- One batch, and then another from where it left the source, unless it came to a stop. -/
def Batch.andThen (first : Batch σ α) (next : Tape σ → Batch σ α) : Batch σ α :=
  match first.stop with
  | some _ => first
  | none =>
    let second := next first.tape
    ⟨first.made ++ second.made, second.stop, second.tape⟩

theorem Batch.make_add (one : Tape σ → Except Stop α × Tape σ) (b : Nat) : ∀ (a : Nat)
    (tape : Tape σ), make one (a + b) tape = (make one a tape).andThen (make one b)
  | 0, tape => by
      rw [Nat.zero_add]
      rfl
  | a + 1, tape => by
      rw [Nat.add_right_comm]
      simp only [make]
      cases one tape with
      | mk reply tape₁ =>
          cases reply with
          | error why => rfl
          | ok x =>
              dsimp only
              rw [make_add one b a tape₁]
              cases make one a tape₁ with
              | mk made stop tape₂ => cases stop <;> rfl

/-! ## What was recorded before -/

/-- The tape with `past` as what was recorded before its own record. -/
def Tape.onto (past : List Entry) (tape : Tape σ) : Tape σ := ⟨tape.source, tape.past ++ past⟩

theorem Tape.extend_onto (tape : Tape σ) (past es : List Entry) (s : σ) :
    (tape.onto past).extend es s = (tape.extend es s).onto past := by
  simp [extend, onto]

theorem Tape.stopped_onto (tape : Tape σ) (past : List Entry) (why : Stop) (s : σ) :
    (tape.onto past).stopped why s = (tape.stopped why s).onto past := by
  unfold stopped
  cases why.refused? <;> rfl

/-- What was recorded before has no part in a run and stays as it is. -/
theorem Growth.run?_onto [DrawSource σ] {maxDepth : Option Nat} {g : Growth} {tape tape' : Tape σ}
    {r : Except Stop Term} (past : List Entry) : g.run? maxDepth tape = some (r, tape') →
      g.run? maxDepth (tape.onto past) = some (r, tape'.onto past) := by
  intro h
  refine run?_induction (motive := fun g tape r tape' =>
    g.run? maxDepth (tape.onto past) = some (r, tape'.onto past))
    ?stopped ?finished ?noEntry ?growing h
  case stopped =>
      intro g tape why s hd
      have hd' : DrawSource.draw g.request (tape.onto past).source = .stopped why s := hd
      rw [run?_eq, Tape.draw, hd']
      dsimp only
      rw [Tape.stopped_onto]
  case finished =>
      intro g tape v s t hd hp
      have hd' : DrawSource.draw g.request (tape.onto past).source = .answered v s := hd
      rw [run?_of_answered hd', hp, Tape.extend_onto]
      rfl
  case noEntry =>
      intro g tape v index s hd hp
      have hd' : DrawSource.draw g.request (tape.onto past).source = .answered v s := hd
      rw [run?_of_answered hd', hp, Tape.extend_onto]
      rfl
  case growing =>
      intro g g' tape tape' v s r hd hp ih
      have hd' : DrawSource.draw g.request (tape.onto past).source = .answered v s := hd
      rw [run?_of_answered hd', hp, Tape.extend_onto]
      exact ih

theorem Generator.generate_onto [SteadySource σ] (gen : Generator) (past : List Entry)
    (tape : Tape σ) :
    gen.generate (tape.onto past) = ((gen.generate tape).1, (gen.generate tape).2.onto past) := by
  have honto := Growth.run?_onto past (gen.generate?_eq tape)
  have hsome : gen.generate? (tape.onto past) = _ := honto
  rw [generate?_eq] at hsome
  exact Option.some.inj hsome

theorem Batch.make_onto {one : Tape σ → Except Stop α × Tape σ} {past : List Entry}
    (hone : ∀ tape, one (tape.onto past) = ((one tape).1, (one tape).2.onto past)) :
    ∀ (n : Nat) (tape : Tape σ), make one n (tape.onto past)
      = ⟨(make one n tape).made, (make one n tape).stop, (make one n tape).tape.onto past⟩
  | 0, tape => rfl
  | n + 1, tape => by
      simp only [make, hone]
      cases one tape with
      | mk reply tape₁ =>
          cases reply with
          | error why => rfl
          | ok x =>
              dsimp only
              rw [make_onto hone n tape₁]

end

/-- A step that made two batches reports what two steps would. -/
theorem Session.finish_andThen (s : Session) {first second : Batch Source Term}
    {next : Tape Source → Batch Source Term}
    (h : next first.tape = ⟨second.made, second.stop, second.tape.onto first.tape.past⟩) :
    s.finish id .terms (first.andThen next) = if first.stop = none
      then (⟨.terms (first.made ++ second.made) second.stop,
        first.tape.entries ++ second.tape.entries⟩, s.withSource second.tape.source)
      else s.finish id .terms first := by
  obtain ⟨made, stop, tape⟩ := first
  cases stop with
  | some why => rfl
  | none =>
      have hentries : (second.tape.onto tape.past).entries
          = tape.entries ++ second.tape.entries := List.reverse_append
      rw [if_pos rfl, ← hentries]
      simp only [Batch.andThen, finish, h]
      rfl

/-- To make so many terms and then more in a session is to make all of them in one step, unless the
first of the two is stopped. -/
theorem Session.perform_generate_add (s : Session) (a b : Nat) :
    let first := s.perform (.generate a)
    let second := first.2.perform (.generate b)
    ∃ made stop made' stop', first.1.answer = .terms made stop
      ∧ second.1.answer = .terms made' stop'
      ∧ s.perform (.generate (a + b)) = if stop = none
        then (⟨.terms (made ++ made') stop', first.1.entries ++ second.1.entries⟩, second.2)
        else first := by
  let batch := Batch.make s.generator.generate a (Tape.blank s.source)
  have hadd : s.perform (.generate (a + b))
      = s.finish id .terms (batch.andThen (Batch.make s.generator.generate b)) :=
    congrArg (s.finish id .terms) (Batch.make_add _ b a _)
  have honto := Batch.make_onto (s.generator.generate_onto batch.tape.past) b
    (Tape.blank batch.tape.source)
  exact ⟨_, _, _, _, rfl, rfl, hadd.trans (s.finish_andThen honto)⟩

/-! ## No looking ahead -/

/-- A term out of a source of fixed values takes the first `n` of them.  It is made of these and left
by any others that stand behind them; with fewer, the source answers all that there are and is found
empty.  So no script goes on as another, and scripts one behind the other make their terms one after
the other.  To make so many terms and then more is to make all of them, from every source unless it
stops, and in every session. -/
theorem Generator.scripts_compose (gen : Generator) (checked : Bool) :
    (∀ {values : List Nat} {t : Term} {tape : Tape Source},
        gen.generate (Tape.blank (ofList checked values)) = (.ok t, tape) →
          let n := (drawnValues tape.entries).length
          drawnValues tape.entries = values.take n
            ∧ (∀ rest, gen.generate (Tape.blank (ofList checked (values.take n ++ rest)))
                = (.ok t, ⟨ofList checked rest, tape.past⟩))
            ∧ ∀ k < n, ∃ r tape', gen.generate (Tape.blank (ofList checked (values.take k)))
                = (.error (.scriptEnded r), tape')
              ∧ tape'.source = ofList checked [] ∧ drawnValues tape'.entries = values.take k)
    ∧ (∀ {values values' : List Nat} {t t' : Term},
        gen.IsScript checked values t → gen.IsScript checked values' t' → values <+: values' →
          values = values' ∧ t = t')
    ∧ (∀ {parts : List (List Nat × Term)}, (∀ p ∈ parts, gen.IsScript checked p.1 p.2) →
        ∀ rest, ∃ past, Batch.make gen.generate parts.length
            (Tape.blank (ofList checked (parts.flatMap Prod.fst ++ rest)))
          = ⟨parts.map Prod.snd, none, ⟨ofList checked rest, past⟩⟩)
    ∧ (∀ {σ : Type} [SteadySource σ] (a b : Nat) (tape : Tape σ),
        Batch.make gen.generate (a + b) tape
          = (Batch.make gen.generate a tape).andThen (Batch.make gen.generate b))
    ∧ ∀ (s : Session) (a b : Nat),
        let first := s.perform (.generate a)
        let second := first.2.perform (.generate b)
        ∃ made stop made' stop', first.1.answer = .terms made stop
          ∧ second.1.answer = .terms made' stop'
          ∧ s.perform (.generate (a + b)) = if stop = none
            then (⟨.terms (made ++ made') stop', first.1.entries ++ second.1.entries⟩, second.2)
            else first := by
  refine ⟨?_, IsScript.eq_of_prefix, fun h rest => make_of_scripts h rest _ rfl,
    fun a b tape => Batch.make_add _ b a tape, Session.perform_generate_add⟩
  intro values t tape h n
  obtain ⟨es, rest, hd, hfits, rfl, rfl⟩ := exists_fits h
  have hdrawn : drawnValues (Tape.entries (⟨ofList checked rest, es.reverse⟩ : Tape Source))
      = drawnValues es := congrArg drawnValues es.reverse_reverse
  have hn : n = (drawnValues es).length := congrArg List.length hdrawn
  rw [hdrawn, hn, List.take_left]
  refine ⟨rfl, fun rest' => ?_, fun k hk => ?_⟩
  · rw [generate_of_fits hd hfits rfl]
    simp [Tape.extend, Tape.blank]
  · rw [List.take_append_of_le_length (Nat.le_of_lt hk)]
    exact exists_generate_cut hd hfits hk

/-- Five values for a term with a sub-term that is wrapped.  Three of them stop at the end of the
source, and twice the five with one more make two terms and leave the one. -/
theorem Generator.scripts_compose_nested :
    let gen : Generator := ⟨3, none⟩
    let script := [0, 25, 2, 1, 24]
    let t : Term := .join (.atom (.letter 'a')) .plus (.group (.atom (.letter 'b')))
    (∃ tape, gen.generate (Tape.blank (ofList true (script ++ [9]))) = (.ok t, tape)
        ∧ drawnValues tape.entries = script
        ∧ gen.generate (Tape.blank (ofList true (script ++ [7, 7])))
          = (.ok t, ⟨ofList true [7, 7], tape.past⟩)
        ∧ ∃ r tape', gen.generate (Tape.blank (ofList true [0, 25, 2]))
            = (.error (.scriptEnded r), tape')
          ∧ tape'.source = ofList true [] ∧ drawnValues tape'.entries = [0, 25, 2])
      ∧ gen.IsScript true script t ∧ (script <+: script ∧ script = script ∧ t = t)
      ∧ (∀ p ∈ [(script, t), (script, t)], gen.IsScript true p.1 p.2)
      ∧ ∃ past, Batch.make gen.generate 2 (Tape.blank (ofList true (script ++ script ++ [7])))
          = ⟨[t, t], none, ⟨ofList true [7], past⟩⟩ := by
  intro gen script t
  obtain ⟨htake, hfree, hmake, -⟩ := scripts_compose gen true
  let es : List Entry := [.picked 0, .chosen 25, .measured 2 2, .event (.expanding 0 2 .plus),
    .picked 1, .chosen 24]
  have hplus : Move.ofDraw 25 = .append .plus := rfl
  have hwrap : Move.ofDraw 24 = .wrap := rfl
  have hb : Reaches none 1 2 [.picked 1] (.atom (.letter 'b')) := .atom rfl
  have hsub : Reaches none 1 2 [.picked 1, .chosen 24] (.group (.atom (.letter 'b'))) :=
    hb.group (not_settled_iff.mpr ⟨rfl, by decide⟩) hwrap
  have ha : Reaches none 0 3 [.picked 0] (.atom (.letter 'a')) := .atom rfl
  have hd : gen.Derives ⟨t, es⟩ :=
    ⟨ha.join (not_settled_iff.mpr ⟨rfl, by decide⟩) hplus hsub (.inr (by decide)),
      .inr (by decide)⟩
  have hdraw (r : Range) (v : Nat) (rest : List Nat) (hv : v ∈ r) :
      DrawSource.draw r (ofList true (v :: rest)) = .answered v (ofList true rest) :=
    (Source.draw_ofList_cons ..).trans (if_pos fun _ => hv)
  have hsize : Pool.size - 1 = 204 := congrArg (· - 1) Pool.size_eq
  have hpick (v : Nat) (hv : v ≤ 204) : v ∈ (⟨0, Pool.size - 1⟩ : Range) :=
    ⟨Nat.zero_le v, hsize ▸ hv⟩
  have hfits : Fits true es := fun rest => ⟨_, hdraw _ _ _ (hpick 0 (by decide)),
    _, hdraw _ _ _ (by decide), _, hdraw _ _ _ (by decide), _, hdraw _ _ _ (hpick 1 (by decide)),
    _, hdraw _ _ _ (by decide), rfl⟩
  have hscript : gen.IsScript true script t := isScript_iff.mpr ⟨es, hd, hfits, rfl⟩
  let start : Tape Source := Tape.blank (ofList true (script ++ [9]))
  have hs : start.source = ofList true (drawnValues es ++ [9]) := rfl
  have hrun := generate_of_fits hd hfits hs
  obtain ⟨hdrawn, hleft, hcut⟩ := htake hrun
  have hall : ∀ p ∈ [(script, t), (script, t)], gen.IsScript true p.1 p.2 :=
    List.forall_mem_cons.mpr ⟨hscript, List.forall_mem_singleton.mpr hscript⟩
  have hsame : script <+: script := List.prefix_refl _
  exact ⟨⟨_, hrun, hdrawn, hleft [7, 7], hcut 3 (by decide)⟩, hscript,
    ⟨hsame, hfree hscript hscript hsame⟩, hall, hmake hall [7]⟩

end RandomTerms
