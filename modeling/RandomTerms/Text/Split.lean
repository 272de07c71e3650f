/-
# Cutting a text

A text cut at every occurrence of a separator. There is always one part more than separators, so a
text that ends in the separator has an empty last part.
-/

namespace RandomTerms.Text

/-- Cuts at the separator; `part` holds the current part so far, the last character first. -/
def splitFrom (separator : Char) (part : List Char) : List Char → List (List Char)
  | [] => [part.reverse]
  | c :: rest =>
    if c = separator then part.reverse :: splitFrom separator [] rest
    else splitFrom separator (c :: part) rest

def split (separator : Char) (s : List Char) : List (List Char) := splitFrom separator [] s

theorem splitFrom_of_not_mem {separator : Char} {s : List Char} (h : separator ∉ s)
    (part : List Char) : splitFrom separator part s = [part.reverse ++ s] := by
  induction s generalizing part with
  | nil => rw [splitFrom, List.append_nil]
  | cons c s ih =>
    have hc : c ≠ separator := fun hc => h (hc ▸ List.mem_cons_self)
    have hs : separator ∉ s := fun hm => h (List.mem_cons_of_mem _ hm)
    rw [splitFrom, if_neg hc, ih hs, List.reverse_cons, List.append_assoc, List.singleton_append]

/-- A text without the separator is one part. -/
theorem split_of_not_mem {separator : Char} {s : List Char} (h : separator ∉ s) :
    split separator s = [s] :=
  splitFrom_of_not_mem h []

end RandomTerms.Text
