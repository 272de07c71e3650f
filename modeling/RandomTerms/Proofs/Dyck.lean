/-
# The scan decides the words of Dyck

The parentheses of a text match if, all other characters left out, they are a word of the language
`D = empty | '(' D ')' D`.  The scan reads bytes and keeps a count, so it says this twice over: the
text has a word of `D` in it (`balancedFrom_eq_true_iff_closes`), and no prefix of it closes more
than it opens, while the whole closes all (`balancedFrom_eq_true_iff_counts`).

Both are inductions on the text, for any number of parentheses that are open already.  Either notion
has one equation for an opening parenthesis, one for a closing one and one for the end, and leaves
out any other character, just as the scan does (`balancedFrom_eq_true_iff`).
-/
import RandomTerms.Proofs.Balance

namespace RandomTerms

open Text

/-! ## Words of parentheses -/

/-- The parentheses match: there are none, or the first of them opens a pair around such a word, and
such a word follows the pair. -/
inductive Dyck : List Char → Prop
  | nil : Dyck []
  | pair {u v : List Char} : Dyck u → Dyck v → Dyck ('(' :: (u ++ ')' :: v))

/-- The parentheses of a text. -/
def parens (s : List Char) : List Char := s.filter fun c => c = '(' || c = ')'

@[simp] theorem parens_open (s : List Char) : parens ('(' :: s) = '(' :: parens s := rfl

@[simp] theorem parens_close (s : List Char) : parens (')' :: s) = ')' :: parens s := rfl

theorem parens_cons {c : Char} (s : List Char) (ho : c ≠ '(') (hc : c ≠ ')') :
    parens (c :: s) = parens s := by
  simp [parens, ho, hc]

/-- The word closes `depth` parentheses that were open before it, and what it opens itself. -/
inductive Closes : Nat → List Char → Prop
  | all {w : List Char} : Dyck w → Closes 0 w
  | next {depth : Nat} {u w : List Char} :
      Dyck u → Closes depth w → Closes (depth + 1) (u ++ ')' :: w)

theorem closes_nil_iff {depth : Nat} : Closes depth [] ↔ depth = 0 := by
  constructor
  · intro h
    generalize hw : ([] : List Char) = w at h
    cases h with
    | all _ => rfl
    | next _ _ => simp at hw
  · rintro rfl
    exact .all .nil

/-- What an opening parenthesis opens is closed by what follows it. -/
theorem closes_open_iff {depth : Nat} {w : List Char} :
    Closes depth ('(' :: w) ↔ Closes (depth + 1) w := by
  constructor
  · intro h
    generalize hw : '(' :: w = w' at h
    cases h with
    | all h =>
        cases h with
        | nil => cases hw
        | pair hu hv =>
            cases hw
            exact .next hu (.all hv)
    | next h hrest =>
        cases h with
        | nil => cases hw
        | pair hu hv =>
            -- The pair ends inside the first word, and the rest of that word comes after it.
            rw [List.cons_append, List.append_assoc, List.cons_append] at hw
            cases hw
            exact .next hu (.next hv hrest)
  · intro h
    cases h with
    | next hu h =>
        cases h with
        | all hv => exact .all (.pair hu hv)
        | next hv hrest =>
            have hnext := Closes.next (.pair hu hv) hrest
            rwa [List.cons_append, List.append_assoc, List.cons_append] at hnext

theorem closes_close_iff {depth : Nat} {w : List Char} :
    Closes depth (')' :: w) ↔ ∃ d, depth = d + 1 ∧ Closes d w := by
  constructor
  · intro h
    generalize hw : ')' :: w = w' at h
    cases h with
    | all h =>
        cases h with
        | nil => cases hw
        | pair _ _ => cases hw
    | next h hrest =>
        cases h with
        | nil =>
            cases hw
            exact ⟨_, rfl, hrest⟩
        | pair _ _ => cases hw
  · rintro ⟨d, rfl, h⟩
    exact .next .nil h

/-! ## Counts of parentheses -/

/-- No prefix of the text closes more than was open before it and what it opens itself, and the
whole text closes all of that. -/
structure Counts (depth : Nat) (s : List Char) : Prop where
  take : ∀ n, (s.take n).count ')' ≤ depth + (s.take n).count '('
  whole : s.count ')' = depth + s.count '('

theorem counts_nil_iff {depth : Nat} : Counts depth [] ↔ depth = 0 := by
  constructor
  · intro h
    exact h.whole.symm
  · rintro rfl
    exact ⟨fun n => by simp, rfl⟩

/-- The empty prefix closes nothing, so only those count that begin with the first character. -/
theorem counts_cons_iff {depth : Nat} {c : Char} {s : List Char} :
    Counts depth (c :: s) ↔
      (∀ n, (c :: s.take n).count ')' ≤ depth + (c :: s.take n).count '(')
        ∧ (c :: s).count ')' = depth + (c :: s).count '(' := by
  constructor
  · rintro ⟨htake, hwhole⟩
    exact ⟨fun n => htake (n + 1), hwhole⟩
  · rintro ⟨htake, hwhole⟩
    refine ⟨fun n => ?_, hwhole⟩
    cases n with
    | zero => exact Nat.zero_le _
    | succ n => exact htake n

theorem count_close_open (s : List Char) : ('(' :: s).count ')' = s.count ')' :=
  List.count_cons_of_ne (by decide)

theorem count_open_close (s : List Char) : (')' :: s).count '(' = s.count '(' :=
  List.count_cons_of_ne (by decide)

theorem counts_open_iff {depth : Nat} {s : List Char} :
    Counts depth ('(' :: s) ↔ Counts (depth + 1) s := by
  simp only [counts_cons_iff, count_close_open, List.count_cons_self]
  constructor
  · rintro ⟨htake, hwhole⟩
    refine ⟨fun n => ?_, by omega⟩
    have hn := htake n
    omega
  · rintro ⟨htake, hwhole⟩
    refine ⟨fun n => ?_, by omega⟩
    have hn := htake n
    omega

theorem counts_close_iff {depth : Nat} {s : List Char} :
    Counts depth (')' :: s) ↔ ∃ d, depth = d + 1 ∧ Counts d s := by
  simp only [counts_cons_iff, count_open_close, List.count_cons_self]
  constructor
  · rintro ⟨htake, hwhole⟩
    -- The prefix that is this parenthesis alone needs one that is open.
    have hone : 1 ≤ depth := htake 0
    refine ⟨depth - 1, by omega, fun n => ?_, by omega⟩
    have hn := htake n
    omega
  · rintro ⟨d, rfl, htake, hwhole⟩
    refine ⟨fun n => ?_, by omega⟩
    have hn := htake n
    omega

theorem counts_cons_of_ne_iff {depth : Nat} {c : Char} {s : List Char} (ho : c ≠ '(')
    (hc : c ≠ ')') : Counts depth (c :: s) ↔ Counts depth s := by
  simp only [counts_cons_iff, List.count_cons_of_ne ho, List.count_cons_of_ne hc]
  exact ⟨fun h => ⟨h.1, h.2⟩, fun h => ⟨h.take, h.whole⟩⟩

/-! ## The scan -/

theorem balancedFrom_nil_eq_true_iff {depth : Nat} :
    balancedFrom depth (utf8 []) = true ↔ depth = 0 :=
  beq_iff_eq

theorem balancedFrom_close_eq_true_iff {depth : Nat} {s : List Char} :
    balancedFrom depth (utf8 (')' :: s)) = true ↔
      ∃ d, depth = d + 1 ∧ balancedFrom d (utf8 s) = true := by
  cases depth with
  | zero =>
      constructor
      · intro h
        cases h
      · rintro ⟨d, hd, -⟩
        cases hd
  | succ d =>
      rw [balancedFrom_close]
      constructor
      · exact fun h => ⟨d, rfl, h⟩
      · rintro ⟨_, hd, h⟩
        cases hd
        exact h

/-- The scan has an equation for each parenthesis and for the end, and skips every other character:
what has the same equations is what it decides. -/
theorem balancedFrom_eq_true_iff {P : Nat → List Char → Prop}
    (hnil : ∀ depth, P depth [] ↔ depth = 0)
    (hopen : ∀ depth s, P depth ('(' :: s) ↔ P (depth + 1) s)
    (hclose : ∀ depth s, P depth (')' :: s) ↔ ∃ d, depth = d + 1 ∧ P d s)
    (hskip : ∀ depth c s, c ≠ '(' → c ≠ ')' → (P depth (c :: s) ↔ P depth s))
    {s : List Char} : ∀ depth, balancedFrom depth (utf8 s) = true ↔ P depth s := by
  induction s with
  | nil =>
      intro depth
      rw [balancedFrom_nil_eq_true_iff, hnil]
  | cons c s ih =>
      intro depth
      by_cases ho : c = '('
      · subst ho
        rw [balancedFrom_open, ih, hopen]
      · by_cases hc : c = ')'
        · subst hc
          simp only [balancedFrom_close_eq_true_iff, hclose, ih]
        · rw [balancedFrom_cons depth s ho hc, ih, hskip depth c s ho hc]

/-- The scan accepts a text with `depth` parentheses open if the parentheses of the text close them
and all that it opens itself. -/
theorem balancedFrom_eq_true_iff_closes {depth : Nat} {s : List Char} :
    balancedFrom depth (utf8 s) = true ↔ Closes depth (parens s) := by
  refine balancedFrom_eq_true_iff (P := fun depth s => Closes depth (parens s)) ?_ ?_ ?_ ?_ depth
  · exact fun _ => closes_nil_iff
  · intro depth s
    rw [parens_open, closes_open_iff]
  · intro depth s
    rw [parens_close, closes_close_iff]
  · intro depth c s ho hc
    rw [parens_cons s ho hc]

theorem balancedFrom_eq_true_iff_counts {depth : Nat} {s : List Char} :
    balancedFrom depth (utf8 s) = true ↔ Counts depth s :=
  balancedFrom_eq_true_iff (fun _ => counts_nil_iff) (fun _ _ => counts_open_iff)
    (fun _ _ => counts_close_iff) (fun _ _ _ => counts_cons_of_ne_iff) depth

theorem closes_zero_iff {w : List Char} : Closes 0 w ↔ Dyck w := by
  constructor
  · intro h
    cases h with
    | all h => exact h
  · exact .all

/-- A text is found balanced exactly if its parentheses, whatever characters stand between them, are
a word of Dyck: exactly if no prefix of it has more closing than opening parentheses, and the whole
has as many of both. -/
theorem isBalanced_iff_dyck (text : String) :
    (isBalanced text = true ↔ Dyck (parens text.toList))
    ∧ (isBalanced text = true ↔
        (∀ n, (text.toList.take n).count ')' ≤ (text.toList.take n).count '(')
          ∧ text.toList.count '(' = text.toList.count ')') := by
  refine ⟨balancedFrom_eq_true_iff_closes.trans closes_zero_iff, ?_⟩
  rw [isBalanced, balancedFrom_eq_true_iff_counts]
  constructor
  · rintro ⟨htake, hwhole⟩
    exact ⟨fun n => by simpa using htake n, by omega⟩
  · rintro ⟨htake, hwhole⟩
    exact ⟨fun n => by simpa using htake n, by omega⟩

/-- U+2829 is no parenthesis, though its number is made of those of both. -/
example : isBalanced "(\u2829\u2829)" = true := by decide

end RandomTerms
