/-
# Draws from random words are spread evenly

Two random words are one word of twice the bits, and all of these are equally likely.  A draw from a
range of `size` numbers scales it, so the words that answer one number follow one another: those from
one end of a part of the size `count ^ 2 / size` to the other (`filter_mul_div_eq`).  Wherever such a
part begins, there are as many whole numbers in it as its size, rounded down or up (`card_part`), and
that is as even as it can be.

An atom is picked where one of its places in the pool is drawn, and a letter has four places where
a number has one.
-/
import Mathlib.Algebra.BigOperators.Group.Finset.Piecewise
import Mathlib.Algebra.Order.BigOperators.Group.Finset
import Mathlib.Algebra.Order.Floor.Div
import Mathlib.Data.Finset.Prod
import Mathlib.GroupTheory.GroupAction.Ring
import Mathlib.Order.Interval.Finset.Nat
import RandomTerms.Generator
import RandomTerms.Proofs.Grammar
import RandomTerms.Proofs.Scaling

namespace RandomTerms

open Finset

/-! ## Parts of a range of whole numbers -/

section

variable {total size part : Nat}

/-- What is scaled to the same number follows one another. -/
theorem filter_mul_div_eq (hsize : 0 < size) (hpart : part < size) :
    (range total).filter (fun n => n * size / total = part)
      = Ico (part * total ⌈/⌉ size) ((part + 1) * total ⌈/⌉ size) := by
  have hbelow (n bound : Nat) : n < bound ⌈/⌉ size ↔ size * n < bound := by
    rw [← Nat.not_le, ceilDiv_le_iff_le_mul hsize, Nat.not_le]
  ext n
  rw [mem_filter, mem_range, mem_Ico, ceilDiv_le_iff_le_mul hsize, hbelow, Nat.mul_comm size n]
  constructor
  · rintro ⟨hn, rfl⟩
    have hpos : 0 < total := Nat.lt_of_le_of_lt (Nat.zero_le n) hn
    exact ⟨Nat.div_mul_le_self _ _, (Nat.div_lt_iff_lt_mul hpos).mp (Nat.lt_succ_self _)⟩
  · rintro ⟨hlow, hhigh⟩
    have hall : (part + 1) * total ≤ size * total := Nat.mul_le_mul_right total hpart
    have hn : n < total := by
      refine Nat.lt_of_mul_lt_mul_left (a := size) ?_
      rw [Nat.mul_comm size n]
      exact Nat.lt_of_lt_of_le hhigh hall
    exact ⟨hn, Nat.div_eq_of_lt_le hlow hhigh⟩

theorem div_le_ceilDiv : total / size ≤ total ⌈/⌉ size := by
  rw [← Nat.floorDiv_eq_div]
  exact floorDiv_le_ceilDiv

theorem ceilDiv_le_succ (hsize : 0 < size) : total ⌈/⌉ size ≤ total / size + 1 := by
  rw [ceilDiv_le_iff_le_mul hsize, Nat.mul_add_one]
  exact Nat.le_of_lt (Nat.lt_mul_div_succ _ hsize)

/-- A part holds as many whole numbers as its size, rounded down or up. -/
theorem card_part (hsize : 0 < size) (start : Nat) :
    (Ico (start ⌈/⌉ size) ((start + total) ⌈/⌉ size)).card = total / size
      ∨ (Ico (start ⌈/⌉ size) ((start + total) ⌈/⌉ size)).card = total ⌈/⌉ size := by
  have hup (n : Nat) : n ≤ size * (n ⌈/⌉ size) := (ceilDiv_le_iff_le_mul hsize).mp (Nat.le_refl _)
  have hdown : size * (total / size) ≤ total := Nat.mul_div_le total size
  have hle : (start + total) ⌈/⌉ size ≤ start ⌈/⌉ size + total ⌈/⌉ size := by
    rw [ceilDiv_le_iff_le_mul hsize, Nat.mul_add]
    exact Nat.add_le_add (hup start) (hup total)
  have hge : start ⌈/⌉ size ≤ (start + total) ⌈/⌉ size - total / size := by
    rw [ceilDiv_le_iff_le_mul hsize, Nat.mul_sub]
    have := hup (start + total)
    omega
  have hfits : total / size ≤ (start + total) ⌈/⌉ size := by
    refine Nat.le_of_mul_le_mul_left (Nat.le_trans hdown ?_) hsize
    exact Nat.le_trans (Nat.le_add_left _ _) (hup (start + total))
  -- Between rounding down and rounding up there is no other whole number.
  have hnext : total ⌈/⌉ size ≤ total / size + 1 := ceilDiv_le_succ hsize
  rw [Nat.card_Ico]
  omega

end

/-- The number that a reply answers. -/
def Reply.value? {σ : Type} : Reply σ → Option Nat
  | .answered v _ => some v
  | .stopped .. => none

/-! ## Pairs of words -/

namespace Scaled

/-- All pairs of words of this size, which are too many to be listed. -/
@[irreducible]
def pairs (size : WordSize) : Finset (Nat × Nat) := range size.count ×ˢ range size.count

theorem mem_pairs {size : WordSize} {p : Nat × Nat} :
    p ∈ pairs size ↔ p.1 < size.count ∧ p.2 < size.count := by
  rw [pairs, mem_product, mem_range, mem_range]

theorem card_pairs (size : WordSize) : (pairs size).card = size.count ^ 2 := by
  rw [pairs, card_product, card_range, Nat.pow_two]

/-- The random words of 32 bits that the two words are put together from. -/
def WordSize.spellPair (size : WordSize) (p : Nat × Nat) : WordList :=
  ⟨size.spell p.1 ++ size.spell p.2⟩

/-- As many pairs of words as words of twice the bits have a property. -/
theorem card_filter_pairs (size : WordSize) (P : Nat → Prop) [DecidablePred P] :
    ((pairs size).filter fun p => P (p.1 * size.count + p.2)).card
      = ((range (size.count ^ 2)).filter P).card := by
  have hpos := size.count_pos
  refine card_nbij' (fun p => p.1 * size.count + p.2) (fun n => (n / size.count, n % size.count))
    ?maps ?maps_back ?left ?right
  case maps =>
      intro p hp
      obtain ⟨hp, hP⟩ := mem_filter.mp hp
      obtain ⟨h1, h2⟩ := mem_pairs.mp hp
      exact mem_filter.mpr ⟨mem_range.mpr (mul_add_lt_sq h1 h2), hP⟩
  case maps_back =>
      intro n hn
      obtain ⟨hn, hP⟩ := mem_filter.mp hn
      have h1 : n / size.count < size.count :=
        Nat.div_lt_of_lt_mul (Nat.pow_two size.count ▸ mem_range.mp hn)
      refine mem_filter.mpr ⟨mem_pairs.mpr ⟨h1, Nat.mod_lt _ hpos⟩, ?_⟩
      rwa [Nat.div_add_mod']
  case left =>
      intro p hp
      obtain ⟨-, h2⟩ := mem_pairs.mp (mem_filter.mp hp).1
      have hdiv : (p.1 * size.count + p.2) / size.count = p.1 := by
        rw [Nat.mul_comm, Nat.mul_add_div hpos, Nat.div_eq_of_lt h2, Nat.add_zero]
      have hmod : (p.1 * size.count + p.2) % size.count = p.2 := by
        rw [Nat.mul_add_mod', Nat.mod_eq_of_lt h2]
      exact Prod.ext hdiv hmod
  case right =>
      intro n _
      exact Nat.div_add_mod' n size.count

/-- The pairs of words out of which `v` is drawn from the range.  A second word that is not taken
may be any. -/
def answering (r : Range) (v : Nat) : Finset (Nat × Nat) :=
  (pairs (wordSize r)).filter fun p =>
    (DrawSource.draw r ((wordSize r).spellPair p)).value? = some v

section

variable {r : Range} {v : Nat}

theorem draw_spellPair {p : Nat × Nat} (hr : r.low ≤ r.high) (hhigh : r.high < 2 ^ 64)
    (hp : p ∈ pairs (wordSize r)) : ∃ s,
      DrawSource.draw r ((wordSize r).spellPair p) = .answered (product r p.1 p.2) s := by
  obtain ⟨h1, h2⟩ := mem_pairs.mp hp
  have hdraw := draw_spell hr hhigh h1 h2 []
  rw [List.append_nil] at hdraw
  exact ⟨_, hdraw⟩

theorem mem_answering {p : Nat × Nat} (hr : r.low ≤ r.high) (hhigh : r.high < 2 ^ 64) :
    p ∈ answering r v ↔ p ∈ pairs (wordSize r) ∧ product r p.1 p.2 = v := by
  rw [answering, mem_filter]
  refine and_congr_right fun hp => ?_
  obtain ⟨s, hs⟩ := draw_spellPair hr hhigh hp
  rw [hs]
  exact Option.some_inj

/-- Each number of a range is drawn out of as many pairs as its part of all of them. -/
theorem card_answering (hr : r.low ≤ r.high) (hhigh : r.high < 2 ^ 64) (hv : v ∈ r) :
    (answering r v).card = (wordSize r).count ^ 2 / r.size
      ∨ (answering r v).card = (wordSize r).count ^ 2 ⌈/⌉ r.size := by
  have hsize : 0 < r.size := Nat.succ_pos _
  have hpart : v - r.low < r.size := Nat.lt_succ_of_le (Nat.sub_le_sub_right hv.2 _)
  have heq : answering r v = (pairs (wordSize r)).filter fun p =>
      (p.1 * (wordSize r).count + p.2) * r.size / (wordSize r).count ^ 2 = v - r.low := by
    ext p
    rw [mem_answering hr hhigh, mem_filter, product, Nat.add_comm r.low,
      eq_tsub_iff_add_eq_of_le hv.1]
  rw [heq, card_filter_pairs _ fun n => n * r.size / (wordSize r).count ^ 2 = v - r.low,
    filter_mul_div_eq hsize hpart, Nat.succ_mul]
  exact card_part hsize _

end

end Scaled

/-! ## Places in the pool -/

namespace Pool

/-- As many places hold an element as it occurs in the list. -/
theorem card_filter_getElem? {α : Type} [DecidableEq α] (a : α) : ∀ l : List α,
    ((range l.length).filter fun i => l[i]? = some a).card = l.count a
  | [] => rfl
  | b :: l => by
      have ih := card_filter_getElem? a l
      rw [card_filter] at ih ⊢
      rw [List.length_cons, sum_range_succ', List.count_cons]
      simp [ih]

/-- The places of an atom in the pool. -/
def places (a : Atom) : Finset Nat := (range size).filter fun i => entry? i = some a

theorem card_places (a : Atom) : (places a).card = entries.count a :=
  card_filter_getElem? a entries

theorem nodup_letters : letters.Nodup := by decide

theorem nodup_numbers : numbers.Nodup := by
  refine List.nodup_range.map_on ?_
  intro n hn m hm h
  have hn : n < 101 := List.mem_range.mp hn
  have hm : m < 101 := List.mem_range.mp hm
  have hmod : n % 2 ^ 8 = m % 2 ^ 8 := by
    rw [← UInt8.toNat_ofNat', ← UInt8.toNat_ofNat', Atom.number.inj h]
  omega

theorem card_places_letter {c : Char} (h : 'a' ≤ c ∧ c ≤ 'z') :
    (places (.letter c)).card = letterWeight := by
  have hone : letters.count (.letter c) = 1 :=
    List.count_eq_one_of_mem nodup_letters (mem_letters h)
  have hnone : numbers.count (.letter c) = 0 := by
    refine List.count_eq_zero_of_not_mem fun hc => ?_
    obtain ⟨n, -, hn⟩ := List.mem_map.mp hc
    exact Atom.noConfusion hn
  rw [card_places, entries, List.count_append, List.count_flatten, List.map_replicate, hone, hnone,
    List.sum_replicate]
  rfl

theorem card_places_number {n : UInt8} (h : n.toNat ≤ 100) : (places (.number n)).card = 1 := by
  have hnone : letters.count (.number n) = 0 := by
    refine List.count_eq_zero_of_not_mem fun hn => ?_
    obtain ⟨c, -, hc⟩ := List.mem_map.mp hn
    exact Atom.noConfusion hc
  rw [card_places, entries, List.count_append, List.count_flatten, List.map_replicate, hnone,
    List.count_eq_one_of_mem nodup_numbers (mem_numbers h), List.sum_replicate]
  rfl

/-- What is drawn for a pick. -/
def indices : Range := ⟨0, size - 1⟩

end Pool

namespace Scaled

/-! ## Atoms -/

/-- The pairs of words out of which an atom is picked. -/
def picking (a : Atom) : Finset (Nat × Nat) :=
  (pairs .single).filter fun p =>
    (Pool.pick (Tape.blank (WordSize.single.spellPair p))).1.toOption = some a

theorem indices_bounds : Pool.indices.low ≤ Pool.indices.high ∧ Pool.indices.high < 2 ^ 64 := by
  rw [Pool.indices, Pool.size_eq]
  decide

theorem size_indices : Pool.indices.size = 205 := by
  rw [Pool.indices, Pool.size_eq]
  rfl

theorem wordSize_indices : wordSize Pool.indices = .single := by
  rw [Pool.indices, Pool.size_eq]
  rfl

variable {a : Atom}

/-- An atom is picked at the place that is drawn. -/
theorem toOption_pick {source : WordList} {v : Nat} {s : WordList}
    (h : DrawSource.draw Pool.indices source = .answered v s) :
    (Pool.pick (Tape.blank source)).1.toOption = Pool.entry? v := by
  have hdraw : DrawSource.draw ⟨0, Pool.size - 1⟩ (Tape.blank source).source = .answered v s := h
  rw [Pool.pick, Tape.draw, hdraw]
  dsimp only
  cases Pool.entry? v <;> rfl

theorem mem_picking {p : Nat × Nat} : p ∈ picking a ↔
    p ∈ pairs .single ∧ Pool.entry? (product Pool.indices p.1 p.2) = some a := by
  obtain ⟨hr, hhigh⟩ := indices_bounds
  rw [picking, mem_filter, ← wordSize_indices]
  refine and_congr_right fun hp => ?_
  obtain ⟨s, hs⟩ := draw_spellPair hr hhigh hp
  rw [toOption_pick hs]

/-- An atom is picked out of the pairs out of which one of its places is drawn. -/
theorem card_picking : (picking a).card = ∑ v ∈ Pool.places a, (answering Pool.indices v).card := by
  obtain ⟨hr, hhigh⟩ := indices_bounds
  have hplace : ∀ p ∈ picking a, product Pool.indices p.1 p.2 ∈ Pool.places a := by
    intro p hp
    obtain ⟨-, ha⟩ := mem_picking.mp hp
    obtain ⟨hlt, -⟩ := List.getElem?_eq_some_iff.mp ha
    exact mem_filter.mpr ⟨mem_range.mpr hlt, ha⟩
  rw [card_eq_sum_card_fiberwise hplace]
  refine sum_congr rfl fun v hv => congrArg card ?_
  obtain ⟨-, ha⟩ := mem_filter.mp hv
  ext p
  rw [mem_filter, mem_picking, mem_answering hr hhigh, wordSize_indices]
  constructor
  · rintro ⟨⟨hp, -⟩, hproduct⟩
    exact ⟨hp, hproduct⟩
  · rintro ⟨hp, rfl⟩
    exact ⟨⟨hp, ha⟩, rfl⟩

/-- A place in the pool is drawn out of one in 205 pairs, rounded down or up. -/
theorem card_answering_place {v : Nat} (hv : v ∈ Pool.places a) :
    (answering Pool.indices v).card = 2 ^ 64 / 205
      ∨ (answering Pool.indices v).card = 2 ^ 64 ⌈/⌉ 205 := by
  obtain ⟨hr, hhigh⟩ := indices_bounds
  have hlt : v < Pool.size := mem_range.mp (mem_filter.mp hv).1
  have hmem : v ∈ Pool.indices := ⟨Nat.zero_le v, Nat.le_sub_one_of_lt hlt⟩
  have hcount : WordSize.single.count ^ 2 = 2 ^ 64 := by decide
  have h := card_answering hr hhigh hmem
  rwa [wordSize_indices, size_indices, hcount] at h

theorem card_picking_letter {c : Char} (h : 'a' ≤ c ∧ c ≤ 'z') :
    4 * (2 ^ 64 / 205) ≤ (picking (.letter c)).card
      ∧ (picking (.letter c)).card ≤ 4 * (2 ^ 64 ⌈/⌉ 205) := by
  have hbounds : ∀ v ∈ Pool.places (.letter c),
      2 ^ 64 / 205 ≤ (answering Pool.indices v).card
        ∧ (answering Pool.indices v).card ≤ 2 ^ 64 ⌈/⌉ 205 := by
    intro v hv
    rcases card_answering_place hv with hdown | hup
    · rw [hdown]
      exact ⟨Nat.le_refl _, div_le_ceilDiv⟩
    · rw [hup]
      exact ⟨div_le_ceilDiv, Nat.le_refl _⟩
  have hfour : (Pool.places (.letter c)).card = 4 := Pool.card_places_letter h
  have hlow := card_nsmul_le_sum _ (fun v => (answering Pool.indices v).card) _
    fun v hv => (hbounds v hv).1
  have hhigh := sum_le_card_nsmul _ (fun v => (answering Pool.indices v).card) _
    fun v hv => (hbounds v hv).2
  rw [hfour, smul_eq_mul, ← card_picking] at hlow hhigh
  exact ⟨hlow, hhigh⟩

theorem card_picking_number {n : UInt8} (h : n.toNat ≤ 100) :
    (picking (.number n)).card = 2 ^ 64 / 205 ∨ (picking (.number n)).card = 2 ^ 64 ⌈/⌉ 205 := by
  obtain ⟨v, hv⟩ := card_eq_one.mp (Pool.card_places_number h)
  rw [card_picking, hv, sum_singleton]
  exact card_answering_place (hv ▸ mem_singleton_self v)

/-! ## Spread evenly -/

/-- Out of all pairs of words, each number of a range is drawn out of an equal part, rounded down or
up.  So each letter is picked out of four such parts in 205, and each number out of one. -/
theorem draw_uniform :
    (∀ {r : Range}, r.low ≤ r.high → r.high < 2 ^ 64 →
        let total := (pairs (wordSize r)).card
        total = (2 ^ (if r.high < 2 ^ 32 then 32 else 64)) ^ 2
          ∧ ∀ v ∈ r, (answering r v).card = total / r.size
            ∨ (answering r v).card = total ⌈/⌉ r.size)
    ∧ (∀ c : Char, 'a' ≤ c → c ≤ 'z' →
        4 * (2 ^ 64 / 205) ≤ (picking (.letter c)).card
          ∧ (picking (.letter c)).card ≤ 4 * (2 ^ 64 ⌈/⌉ 205))
    ∧ ∀ n : UInt8, n.toNat ≤ 100 →
        (picking (.number n)).card = 2 ^ 64 / 205 ∨ (picking (.number n)).card = 2 ^ 64 ⌈/⌉ 205 := by
  refine ⟨?_, fun c hlow hhigh => card_picking_letter ⟨hlow, hhigh⟩, fun n => card_picking_number⟩
  intro r hr hhigh total
  have htotal : total = (wordSize r).count ^ 2 := card_pairs _
  refine ⟨?_, fun v hv => ?_⟩
  · rw [htotal, count_wordSize]
  · rw [htotal]
    exact card_answering hr hhigh hv

/-- A range of five numbers that is drawn from with single words, a letter and the greatest
number. -/
theorem draw_uniform_five :
    let r : Range := ⟨3, 7⟩
    r.low ≤ r.high ∧ r.high < 2 ^ 64 ∧ 4 ∈ r
      ∧ (pairs .single).card = (2 ^ 32) ^ 2
      ∧ ((answering r 4).card = (pairs .single).card / 5
        ∨ (answering r 4).card = (pairs .single).card ⌈/⌉ 5)
      ∧ 'a' ≤ 'q' ∧ 'q' ≤ 'z' ∧ 4 * (2 ^ 64 / 205) ≤ (picking (.letter 'q')).card
      ∧ (100 : UInt8).toNat ≤ 100
      ∧ ((picking (.number 100)).card = 2 ^ 64 / 205
        ∨ (picking (.number 100)).card = 2 ^ 64 ⌈/⌉ 205) := by
  intro r
  have hr : r.low ≤ r.high := by decide
  have hhigh : r.high < 2 ^ 64 := by decide
  have hmem : 4 ∈ r := by decide
  have hq : 'a' ≤ 'q' ∧ 'q' ≤ 'z' := by decide
  have h100 : (100 : UInt8).toNat ≤ 100 := by decide
  obtain ⟨hrange, hletter, hnumber⟩ := draw_uniform
  obtain ⟨htotal, hspread⟩ := hrange hr hhigh
  exact ⟨hr, hhigh, hmem, htotal, hspread 4 hmem, hq.1, hq.2, (hletter 'q' hq.1 hq.2).1, h100,
    hnumber 100 h100⟩

end Scaled

end RandomTerms
