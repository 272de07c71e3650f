/-
# The sources at hand

One type for all kinds of sources, for whoever chooses the source when the program runs.
-/
import RandomTerms.Draw.Script
import RandomTerms.Draw.Words

namespace RandomTerms

/-- A source of one of the kinds. -/
inductive Source
  | script (s : Script)
  | unchecked (s : Unchecked)
  | cycle (s : Cycle)
  | congruential (s : Congruential)
  | xorShift (s : XorShift)
  | words (s : WordList)
deriving DecidableEq, Repr

/-- The same reply, with the source that goes on put into another type. -/
def Reply.mapSource {σ τ : Type} (f : σ → τ) : Reply σ → Reply τ
  | .answered v s => .answered v (f s)
  | .stopped why s => .stopped why (f s)

theorem Reply.mapSource_eq_answered {σ τ : Type} {f : σ → τ} {reply : Reply σ} {v : Nat} {t : τ}
    (h : reply.mapSource f = .answered v t) : ∃ s, reply = .answered v s ∧ f s = t := by
  cases reply with
  | answered w s => injection h with hv hs; exact ⟨s, hv ▸ rfl, hs⟩
  | stopped why s => exact nomatch h

namespace Source

def draw (r : Range) : Source → Reply Source
  | script s => (DrawSource.draw r s).mapSource script
  | unchecked s => (DrawSource.draw r s).mapSource unchecked
  | cycle s => (DrawSource.draw r s).mapSource cycle
  | congruential s => (DrawSource.draw r s).mapSource congruential
  | xorShift s => (DrawSource.draw r s).mapSource xorShift
  | words s => (DrawSource.draw r s).mapSource words

def supply : Source → Nat
  | script s => SteadySource.supply s
  | unchecked s => SteadySource.supply s
  | cycle s => SteadySource.supply s
  | congruential s => SteadySource.supply s
  | xorShift s => SteadySource.supply s
  | words s => SteadySource.supply s

instance : SteadySource Source where
  draw := draw
  supply := supply
  supply_le {r s s' v} h := by
    cases s <;>
      (simp only [draw] at h
       obtain ⟨t, ht, rfl⟩ := Reply.mapSource_eq_answered h
       exact SteadySource.supply_le ht)
  supply_lt {r s s' v} h hr hv := by
    cases s <;>
      (simp only [draw] at h
       obtain ⟨t, ht, rfl⟩ := Reply.mapSource_eq_answered h
       exact SteadySource.supply_lt ht hr hv)

end Source
end RandomTerms
