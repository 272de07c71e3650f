/-
# Draws from random words

Every source of random words is a source of draws: a word is scaled to the range that was asked
for. The number drawn always lies in the range, whatever the words are.
-/
import RandomTerms.Draw.Scaled
import RandomTerms.Draw.XorShift

namespace RandomTerms

/-- A source of random words of 32 bits; `none` where it has no word left. -/
class WordSource (σ : Type) where
  /-- The next word and the source after it. -/
  next : σ → Option UInt32 × σ

/-- A list of words, given out in order. -/
structure WordList where
  words : List UInt32
deriving DecidableEq, Repr

def WordList.next : WordList → Option UInt32 × WordList
  | ⟨[]⟩ => (none, ⟨[]⟩)
  | ⟨w :: rest⟩ => (some w, ⟨rest⟩)

instance : WordSource WordList := ⟨WordList.next⟩

instance : WordSource XorShift := ⟨fun s => (some s.next.1, s.next.2)⟩

namespace Scaled

variable {σ : Type} [WordSource σ]

/-- Takes a word of a size; a double word has its lower half first. -/
def takeWord (size : WordSize) (s : σ) : Option Nat × σ :=
  match size, WordSource.next s with
  | _, (none, s) => (none, s)
  | .single, (some w, s) => (some w.toNat, s)
  | .double, (some low, s) =>
    match WordSource.next s with
    | (none, s) => (none, s)
    | (some high, s) => (some (low.toNat + WordSize.single.count * high.toNat), s)

theorem takeWord_lt {size : WordSize} {s s' : σ} {w : Nat}
    (h : takeWord size s = (some w, s')) : w < size.count := by
  unfold takeWord at h
  split at h
  · exact nomatch h
  · next w' _ _ =>
    have := w'.toNat_lt
    simp only [Prod.mk.injEq, Option.some.injEq] at h
    simp only [WordSize.count]
    omega
  · next low _ _ =>
    split at h
    · exact nomatch h
    · next high _ _ =>
      have := low.toNat_lt
      have := high.toNat_lt
      simp only [Prod.mk.injEq, Option.some.injEq, WordSize.count] at h
      simp only [WordSize.count]
      omega

/-- Draws a number from a range by scaling a word to it. -/
def draw (r : Range) (s : σ) : Reply σ :=
  if r.high < r.low then .stopped .emptyRange s
  else
    let count := (wordSize r).count
    match takeWord (wordSize r) s with
    | (none, s) => .stopped .wordsEnded s
    | (some word, s) =>
      if span r = 0 then .answered (r.low + word) s
      else if isOpen count (span r) word then
        match takeWord (wordSize r) s with
        | (none, s) => .stopped .wordsEnded s
        | (some second, s) =>
          .answered (r.low + (whole count (span r) word + carry count (span r) word second)) s
      else .answered (r.low + whole count (span r) word) s

theorem mem_of_draw {r : Range} (hr : r.low ≤ r.high) {s s' : σ} {v : Nat}
    (h : draw r s = .answered v s') : v ∈ r := by
  unfold draw at h
  split at h
  · exact nomatch h
  · simp only at h
    split at h
    · exact nomatch h
    · next word _ hword =>
      have hlt := takeWord_lt hword
      split at h
      · next hspan => injection h with hv _; exact hv ▸ add_mem_of_span_eq_zero hspan hlt
      · next hspan =>
        have hpos : 0 < span r := Nat.pos_of_ne_zero hspan
        split at h
        · split at h
          · exact nomatch h
          · next second _ hsecond =>
            injection h with hv _
            exact hv ▸ add_mem_of_lt_span hr (whole_add_carry_lt hlt (takeWord_lt hsecond) hpos)
        · injection h with hv _
          exact hv ▸ add_mem_of_lt_span hr (whole_lt hlt hpos)

end Scaled

instance {σ : Type} [WordSource σ] : SteadySource σ where
  draw := Scaled.draw
  supply _ := 0
  supply_le _ := Nat.le_refl _
  supply_lt h hr hv := absurd (Scaled.mem_of_draw hr h) hv

end RandomTerms
