/-
# What a generator can make

Which texts can come out of a generator, if the numbers that it draws are chosen for it.  Without a
limit on the depth, a text comes out for the targets from the least target of its reading to its
length (`yields_iff_leastTarget_le`).  With a limit, what counts is the level of the reading
(`yields_limited_iff_level_le`).

That nothing else comes out is an induction on the derivation.  That all of this does is an
induction on the chain, and the two theorems need two ways to grow the same text.  The least target
is met by appending all that follows the first factor as one sub-term, whose own target is as small
as can be; the least level by appending one factor after the other.
-/
import RandomTerms.Proofs.Soundness

namespace RandomTerms

open Growth

/-! ## Only these texts -/

/-- The target of a sub-term in a record that is in range. -/
theorem inRange_joined {depth gap s v : Nat} {op : Op} {es es' : List Entry} :
    InRange (es ++ .chosen v :: .measured gap s :: .event (.expanding depth s op) :: es') →
      InRange es ∧ (1 ≤ s ∧ s ≤ gap) ∧ InRange es' := by
  intro h
  obtain ⟨hes, hrest⟩ := inRange_append.mp h
  obtain ⟨hs, hes'⟩ := inRange_drawn_cons.mp (inRange_drawn_cons.mp hrest).2
  exact ⟨hes, hs, inRange_event_cons.mp hes'⟩

theorem Reaches.leastTarget_le {maxDepth : Option Nat} {depth target : Nat} {es : List Entry}
    {t : Term} : Reaches maxDepth depth target es t → InRange es → ∀ ht : t.IsBasic,
      (t.reading ht).leastTarget ≤ max target 1 := by
  intro h
  induction h with
  | atom _ => exact fun _ _ => Nat.le_max_right _ _
  | @group _ target _ _ t _ hs _ _ =>
      rintro _ (ht : t.IsBasic)
      have hlt := (not_settled_iff.mp hs).2
      show (t.reading ht).length + 1 ≤ max target 1
      rw [Term.length_reading]
      omega
  | @join _ target _ s op es es' l r _ hs _ _ _ _ ihr =>
      intro hin ht
      have hlt := (not_settled_iff.mp hs).2
      obtain ⟨-, ⟨hs₁, hs₂⟩, hright⟩ := inRange_joined hin
      have hr := ihr hright ht.2
      have happend := (l.reading ht.1).leastTarget_append_le op (r.reading ht.2)
      rw [Term.length_reading] at happend
      show ((l.reading ht.1).append op (r.reading ht.2)).leastTarget ≤ max target 1
      omega

/-- A draft that may grow stands at most as deep as the limit, so a sub-term stands at most one
deeper. -/
theorem Reaches.level_le {d depth target : Nat} {es : List Entry} {t : Term} :
    Reaches (some d) depth target es t → depth ≤ d + 1 → ∀ ht : t.IsBasic,
      (t.reading ht).level + depth ≤ d + 1 := by
  intro h
  induction h with
  | atom _ =>
      intro hd _
      simpa only [Term.reading, Chain.level, Factor.level, Nat.zero_add] using hd
  | group _ hs _ ih =>
      intro hd ht
      have hlimit := (not_settled_iff.mp hs).1
      have ih := ih hd ht
      simp only [isCapped, decide_eq_false_iff_not] at hlimit
      simp only [Term.reading, Chain.level, Factor.level]
      omega
  | @join _ _ _ _ op _ _ l r _ hs _ _ _ ihl ihr =>
      intro hd ht
      have hlimit := (not_settled_iff.mp hs).1
      simp only [isCapped, decide_eq_false_iff_not] at hlimit
      have ihl := ihl hd ht.1
      have ihr := ihr (by omega) ht.2
      have hbelow := (r.reading ht.2).levelBelow_le
      simp only [Term.reading, Chain.level_append]
      omega

/-! ## All of these texts -/

/-- A term at this depth with this target can become one with these characters. -/
def Reachable (maxDepth : Option Nat) (depth target : Nat) (s : List Char) : Prop :=
  ∃ t es, Reaches maxDepth depth target es t ∧ InRange es ∧ t.chars = s

theorem Move.exists_ofDraw (m : Move) : ∃ v, v ≤ greatest ∧ ofDraw v = m := by
  cases m with
  | wrap => exact ⟨0, by decide, rfl⟩
  | append op =>
      cases op with
      | plus => exact ⟨25, by decide, rfl⟩
      | minus => exact ⟨45, by decide, rfl⟩
      | times => exact ⟨75, by decide, rfl⟩

theorem inRange_picked {v : Nat} (h : v < Pool.size) : InRange [.picked v] :=
  inRange_drawn_cons.mpr ⟨⟨Nat.zero_le _, Nat.le_sub_one_of_lt h⟩, inRange_nil⟩

theorem inRange_chosen {v : Nat} {es : List Entry} (h : v ≤ Move.greatest) (hes : InRange es) :
    InRange (.chosen v :: es) :=
  inRange_drawn_cons.mpr ⟨⟨Nat.zero_le _, h⟩, hes⟩

namespace Reachable

variable {maxDepth : Option Nat} {depth target : Nat}

theorem atom (a : BasicAtom) : Reachable maxDepth depth target a.1.chars := by
  obtain ⟨v, hv, ha⟩ := Pool.exists_entry? a.2
  exact ⟨.atom a.1, _, .atom ha, inRange_picked hv, Term.chars_atom _⟩

theorem group {s : List Char} : Reachable maxDepth depth target s →
    isCapped maxDepth depth = false → s.length < target →
    Reachable maxDepth depth target ('(' :: (s ++ [')'])) := by
  rintro ⟨t, es, hr, hin, rfl⟩ hc hlt
  obtain ⟨v, hv, hmove⟩ := Move.exists_ofDraw .wrap
  have hs := not_settled_iff.mpr ⟨hc, t.length_chars ▸ hlt⟩
  exact ⟨.group t, _, hr.group hs hmove,
    inRange_append.mpr ⟨hin, inRange_chosen hv inRange_nil⟩, Term.chars_group _⟩

theorem join {l r : List Char} {n : Nat} (op : Op) : Reachable maxDepth depth target l →
    isCapped maxDepth depth = false → l.length < target →
    Reachable maxDepth (depth + 1) n r → n ≤ r.length → 0 < n → l.length + n ≤ target →
    Reachable maxDepth depth target (l ++ op.char :: r) := by
  rintro ⟨l, es, hl, hin, rfl⟩ hc hlt ⟨r, es', hr, hin', rfl⟩ hn hpos hle
  obtain ⟨v, hv, hmove⟩ := Move.exists_ofDraw (.append op)
  rw [Term.length_chars] at hlt hn hle
  have hs := not_settled_iff.mpr ⟨hc, hlt⟩
  have hmeasured : InRange (.measured (target - l.length) n
      :: .event (.expanding depth n op) :: es') :=
    inRange_drawn_cons.mpr ⟨⟨hpos, Nat.le_sub_of_add_le' hle⟩, inRange_event_cons.mpr hin'⟩
  exact ⟨.join l op r, _, hl.join hs hmove hr (.inr hn),
    inRange_append.mpr ⟨hin, inRange_chosen hv hmeasured⟩, Term.chars_join ..⟩

/-- A factor can be appended as a sub-term that grows to its length. -/
theorem join_factor {d : Nat} {l : List Char} {f : Factor} (op : Op) :
    Reachable (some d) depth target l → Reachable (some d) (depth + 1) f.length f.chars →
    depth ≤ d → l.length + 1 + f.length ≤ target →
    Reachable (some d) depth target (l ++ op.char :: f.chars) := by
  intro hl hf hdepth hlen
  have hopen : isCapped (some d) depth = false := by simp [isCapped, hdepth]
  have hpos := Nat.lt_of_lt_of_le f.leastTarget_pos f.leastTarget_le_length
  exact hl.join op hopen (by omega) hf (Nat.le_refl _) hpos (by omega)

end Reachable

mutual

theorem Factor.reachable : ∀ (f : Factor) {depth target : Nat}, f.leastTarget ≤ max target 1 →
    Reachable none depth target f.chars
  | .atom a, _, _, _ => by
      rw [Factor.chars]
      exact .atom a
  | .group e, _, target, h => by
      have hlen : e.length + 1 ≤ max target 1 := h
      have hle := e.leastTarget_le_length
      have hpos := e.leastTarget_pos
      have hlt : e.length < target := by omega
      rw [Factor.chars]
      exact (e.reachable (by omega)).group rfl hlt

/-- A chain can be grown from its least target on: all that follows the first factor is appended as
one sub-term. -/
theorem Chain.reachable : ∀ (e : Chain) {depth target : Nat}, e.leastTarget ≤ max target 1 →
    Reachable none depth target e.chars
  | .one f, _, _, h => by
      rw [Chain.chars]
      exact f.reachable h
  | .more f op rest, _, target, h => by
      have hsum : f.length + rest.leastTarget ≤ max target 1 := h
      have hle := f.leastTarget_le_length
      have hpos := f.leastTarget_pos
      have hrest := rest.leastTarget_pos
      have hlt : f.length < target := by omega
      have hroom : f.length + rest.leastTarget ≤ target := by omega
      rw [Chain.chars]
      exact (f.reachable (by omega)).join op rfl hlt (rest.reachable (Nat.le_max_left _ _))
        rest.leastTarget_le_length hrest hroom

end

mutual

theorem Factor.reachable_of_level {d : Nat} : ∀ (f : Factor) {depth target : Nat},
    f.level + depth ≤ d + 1 → f.length ≤ target → Reachable (some d) depth target f.chars
  | .atom a, _, _, _, _ => by
      rw [Factor.chars]
      exact .atom a
  | .group e, depth, target, hd, hlen => by
      simp only [Factor.level] at hd
      have hlt : e.chars.length < target := by
        simp only [Factor.length, Factor.chars, List.length_cons, List.length_append] at hlen
        omega
      have hopen : isCapped (some d) depth = false := by simp [isCapped]; omega
      rw [Factor.chars]
      exact (e.reachable_of_level (by omega) (Nat.le_of_lt hlt)).group hopen hlt

/-- A chain can be grown to its length where its level allows it: one factor is appended after the
other. -/
theorem Chain.reachable_of_level {d : Nat} : ∀ (e : Chain) {depth target : Nat},
    e.level + depth ≤ d + 1 → e.length ≤ target → Reachable (some d) depth target e.chars
  | .one f, _, _, hd, hlen => by
      simp only [Chain.level] at hd
      rw [Chain.chars]
      exact f.reachable_of_level hd hlen
  | .more f op rest, depth, target, hd, hlen => by
      simp only [Chain.level] at hd
      simp only [Chain.length, Chain.chars, List.length_append, List.length_cons] at hlen
      have hfirst : Reachable (some d) depth target f.chars :=
        f.reachable_of_level (by omega) (by simp only [Factor.length]; omega)
      rw [Chain.chars]
      exact rest.reachable_append op hfirst (by omega) (by omega)
        (by rw [Chain.length]; omega)

/-- The factors of a chain can be appended one after the other to what is there. -/
theorem Chain.reachable_append {d : Nat} : ∀ (e : Chain) (op : Op) {depth target : Nat}
    {l : List Char}, Reachable (some d) depth target l → depth ≤ d →
    e.levelBelow + depth ≤ d + 1 → l.length + 1 + e.length ≤ target →
    Reachable (some d) depth target (l ++ op.char :: e.chars)
  | .one f, op, _, _, _, hl, hdepth, hd, hlen => by
      simp only [Chain.levelBelow] at hd
      rw [Chain.length, Chain.chars] at hlen
      rw [Chain.chars]
      exact hl.join_factor op (f.reachable_of_level (by omega) (Nat.le_refl _)) hdepth hlen
  | .more f op' rest, op, _, _, l, hl, hdepth, hd, hlen => by
      simp only [Chain.levelBelow] at hd
      simp only [Chain.length, Chain.chars, List.length_append, List.length_cons] at hlen
      have hfirst := hl.join_factor op (f.reachable_of_level (by omega) (Nat.le_refl _)) hdepth
        (by simp only [Factor.length]; omega)
      have hrest := rest.reachable_append op' hfirst hdepth (by omega)
        (by simp only [Chain.length, List.length_append, List.length_cons]; omega)
      simpa only [Chain.chars, List.append_assoc, List.cons_append] using hrest

end

/-! ## The texts of a generator -/

/-- The top level is never capped, so a term comes out where it is reached and long enough. -/
theorem Generator.yields_text_iff {gen : Generator} {s : String} :
    (∃ values t, gen.Yields values t ∧ t.text = s) ↔
      Reachable gen.maxDepth 0 gen.target s.toList ∧ gen.target ≤ s.length := by
  simp only [yields_iff_completes]
  constructor
  · rintro ⟨values, t, ⟨es, hc, hin, -⟩, ht⟩
    refine ⟨⟨t, es, hc.1, hin, Term.text_eq_iff.mp ht⟩, ?_⟩
    rw [← ht, Term.length_text]
    exact hc.target_le
  · rintro ⟨⟨t, es, hr, hin, ht⟩, hlen⟩
    have ht := Term.text_eq_iff.mpr ht
    rw [← ht, Term.length_text] at hlen
    exact ⟨_, t, ⟨es, ⟨hr, .inr hlen⟩, hin, rfl⟩, ht⟩

/-- Without a limit on the depth, a text comes out for the targets from the least target of its
reading to its length. -/
theorem Generator.yields_iff_leastTarget_le (target : Nat) (s : String) :
    (∃ values t, Generator.Yields ⟨target, none⟩ values t ∧ t.text = s) ↔
      ∃ e : Chain, e.IsReading s ∧ e.leastTarget ≤ max target 1 ∧ target ≤ s.length := by
  rw [yields_text_iff]
  constructor
  · rintro ⟨⟨t, es, hr, hin, ht⟩, hlen⟩
    have hbasic := hr.isBasic
    exact ⟨_, Term.isReading hbasic ht, hr.leastTarget_le hin hbasic, hlen⟩
  · rintro ⟨e, he, hleast, hlen⟩
    exact ⟨Chain.isReading_iff.mp he ▸ e.reachable hleast, hlen⟩

/-- With a limit on the depth, a text comes out for some target exactly if its reading takes at most
one level more than the limit, and then it comes out for its own length. -/
theorem Generator.yields_limited_iff_level_le (d : Nat) (s : String) :
    ((∃ target values t, Generator.Yields ⟨target, some d⟩ values t ∧ t.text = s) ↔
      ∃ e : Chain, e.IsReading s ∧ e.level ≤ d + 1)
    ∧ ((∃ values t, Generator.Yields ⟨s.length, some d⟩ values t ∧ t.text = s) ↔
      ∃ e : Chain, e.IsReading s ∧ e.level ≤ d + 1) := by
  have only (target : Nat) :
      (∃ values t, Generator.Yields ⟨target, some d⟩ values t ∧ t.text = s) →
        ∃ e : Chain, e.IsReading s ∧ e.level ≤ d + 1 := by
    intro h
    obtain ⟨⟨t, es, hr, -, ht⟩, -⟩ := yields_text_iff.mp h
    have hbasic := hr.isBasic
    exact ⟨_, Term.isReading hbasic ht, hr.level_le (Nat.zero_le _) hbasic⟩
  have all : (∃ e : Chain, e.IsReading s ∧ e.level ≤ d + 1) →
      ∃ values t, Generator.Yields ⟨s.length, some d⟩ values t ∧ t.text = s := by
    rintro ⟨e, he, hlevel⟩
    have hchars := Chain.isReading_iff.mp he
    have hlen : e.length = s.length := by rw [Chain.length, hchars, String.length_toList]
    refine yields_text_iff.mpr ⟨?_, Nat.le_refl _⟩
    exact hchars ▸ e.reachable_of_level hlevel (Nat.le_of_eq hlen)
  exact ⟨⟨fun ⟨target, h⟩ => only target h, fun h => ⟨_, all h⟩⟩, only _, all⟩

end RandomTerms
