/-
# The wording of errors

The text of an error says all there is to say about it.  It begins with a lead that belongs to one
sort of error and to no other, and no lead is the beginning of another, so the lead can be told from
what follows it; what follows is a number, or a text in quotes, and neither has two readings.

The wording does not name the problem of a numeral.  It need not, for errors that arise: reading the
quoted text once more gives the problem (`Arises.read_eq_of_notAnInteger`).  Two errors that are put
together by hand may have one text, two that arise may not (`isUnambiguous_messageBy`).

No text of an error holds a control, whatever was rejected, so each of them stands on one line.
-/
import RandomTerms.Proofs.Grammar
import RandomTerms.Proofs.Quoting
import RandomTerms.Proofs.Refusals
import RandomTerms.Text.Split

namespace RandomTerms

open Text Numeral

/-! ## Numbers in a message -/

theorem toString_nat_injective {m n : Nat} (h : toString m = toString n) : m = n := by
  rw [Nat.toString_eq_ofList_toDigits, Nat.toString_eq_ofList_toDigits, String.ofList_inj] at h
  exact toDigits_injective h

theorem Numeral.text_injective {m n : Int} (h : Numeral.text m = Numeral.text n) : m = n := by
  have hminus (a b : Nat) : '-' :: Nat.toDigits 10 a ≠ Nat.toDigits 10 b := by
    intro hab
    have hdigit : '-'.isDigit = true := Nat.isDigit_of_mem_toDigits (by decide) (by decide)
      (hab ▸ List.mem_cons_self)
    exact absurd hdigit (by decide)
  have hlist := String.ofList_inj.mp h
  split at hlist
  · split at hlist
    · have habs := toDigits_injective (List.cons.inj hlist).2
      omega
    · exact absurd hlist (hminus _ _)
  · split at hlist
    · exact absurd hlist.symm (hminus _ _)
    · have habs := toDigits_injective hlist
      omega

theorem not_isControl_of_mem_toDigits {n : Nat} {c : Char} (h : c ∈ Nat.toDigits 10 n) :
    ¬ IsControl c :=
  not_isControl_of_isDigit (Nat.isDigit_of_mem_toDigits (by decide) (by decide) h)

theorem not_isControl_of_mem_toString {n : Nat} {c : Char} (h : c ∈ (toString n).toList) :
    ¬ IsControl c := by
  rw [Nat.toString_eq_ofList_toDigits, String.toList_ofList] at h
  exact not_isControl_of_mem_toDigits h

theorem Numeral.not_isControl_of_mem_text {z : Int} {c : Char} (h : c ∈ (Numeral.text z).toList) :
    ¬ IsControl c := by
  rw [Numeral.text, String.toList_ofList] at h
  split at h
  · rcases List.mem_cons.mp h with rfl | h
    · decide
    · exact not_isControl_of_mem_toDigits h
  · exact not_isControl_of_mem_toDigits h

namespace ConfigError

/-! ## The lead of a message -/

/-- The sort of an error, with the argument it is about. -/
inductive Topic
  | arity
  | notAnInteger (parameter : Parameter)
  | notPositive (parameter : Parameter)
  | oddTermCount
  | invalidMaxDepth
deriving DecidableEq

def topic : ConfigError → Topic
  | arity _ => .arity
  | notAnInteger parameter _ _ => .notAnInteger parameter
  | notPositive parameter _ => .notPositive parameter
  | oddTermCount _ => .oddTermCount
  | invalidMaxDepth _ _ => .invalidMaxDepth

/-- What a message begins with. -/
def Topic.lead : Topic → String
  | arity => "expected 0 or 2 arguments, got "
  | notAnInteger parameter => parameter.name ++ " is not an integer: "
  | notPositive parameter => parameter.name ++ " must be positive, got "
  | oddTermCount => "N must be even, got "
  | invalidMaxDepth => maxDepthVariable ++ " is not a non-negative integer: "

def Topic.all : List Topic :=
  [.arity, .notAnInteger .count, .notAnInteger .length, .notPositive .count, .notPositive .length,
    .oddTermCount, .invalidMaxDepth]

theorem Topic.mem_all (t : Topic) : t ∈ all := by
  rcases t with _ | (_ | _) | (_ | _) | _ | _ <;> decide

/-- No lead is the beginning of another. -/
theorem Topic.eq_of_begins {t u : Topic} (h : t.lead.toList <+: u.lead.toList) : t = u := by
  have hall : ∀ t ∈ all, ∀ u ∈ all, t.lead.toList <+: u.lead.toList → t = u := by decide +kernel
  exact hall t t.mem_all u u.mem_all h

theorem Topic.not_isControl_of_mem_lead {t : Topic} {c : Char} (h : c ∈ t.lead.toList) :
    ¬ IsControl c := by
  have hall : ∀ t ∈ all, t.lead.toList.all (fun c => !decide (IsControl c)) = true := by
    decide +kernel
  exact not_isControl_of_all (hall t t.mem_all) c h

/-- Texts with a lead in front are the same only if the leads are. -/
theorem Topic.lead_append_inj {t u : Topic} {s s' : String} (h : t.lead ++ s = u.lead ++ s') :
    t = u ∧ s = s' := by
  have hlist : t.lead.toList ++ s.toList = u.lead.toList ++ s'.toList := by
    rw [← String.toList_append, h, String.toList_append]
  have htopic : t = u := by
    have hboth := List.prefix_or_prefix_of_prefix (List.prefix_append t.lead.toList s.toList)
      (hlist ▸ List.prefix_append u.lead.toList s'.toList)
    rcases hboth with hprefix | hprefix
    · exact eq_of_begins hprefix
    · exact (eq_of_begins hprefix).symm
  subst htopic
  exact ⟨rfl, String.toList_inj.mp (List.append_cancel_left hlist)⟩

/-! ## The message as a whole -/

/-- What a message says after its lead, where `hides` says which characters would not show. -/
def detail (hides : Char → Bool) : ConfigError → String
  | arity count => toString count
  | notAnInteger _ text _ => quoteBy hides text
  | notPositive _ value => Numeral.text value
  | oddTermCount count => toString count
  | invalidMaxDepth text _ => quoteBy hides text

/-- The wording of an error, where `hides` says which characters would not show. -/
def messageBy (hides : Char → Bool) (e : ConfigError) : String := e.topic.lead ++ e.detail hides

theorem message_eq_messageBy (e : ConfigError) : e.message = e.messageBy isHidden := by
  cases e with
  | notAnInteger parameter text _ =>
      exact congrArg ((Topic.notAnInteger parameter).lead ++ ·) (quote_eq_quoteBy text)
  | invalidMaxDepth text _ =>
      exact congrArg (Topic.invalidMaxDepth.lead ++ ·) (quote_eq_quoteBy text)
  | arity | notPositive | oddTermCount => rfl

/-- The error is the answer to some arguments or to some text of the limit. -/
inductive Arises : ConfigError → Prop
  | arguments {args : List String} {e : ConfigError} : Config.ofArgs args = .error e → Arises e
  | limit {c : Config} {text : Option String} {e : ConfigError} :
      c.withMaxDepthText text = .error e → Arises e

theorem exists_invalidMaxDepth_of_withMaxDepthText {c : Config} {text : Option String}
    {e : ConfigError} (h : c.withMaxDepthText text = .error e) :
    ∃ s problem, Numeral.read unsigned64 (trim s.toList) = .error problem
      ∧ e = .invalidMaxDepth s problem := by
  cases text with
  | none => cases h
  | some s =>
      obtain ⟨problem, hproblem, he⟩ := Config.withMaxDepthText_eq_error_iff.mp h
      exact ⟨s, problem, hproblem, he⟩

/-- The problem of an argument is the one that reading the argument has. -/
theorem Arises.read_eq_of_notAnInteger {parameter : Parameter} {text : String} {problem : Problem}
    (h : Arises (.notAnInteger parameter text problem)) :
    Numeral.read signed64 (trim text.toList) = .error problem := by
  cases h with
  | arguments h =>
      cases Config.ofArgs_eq_iff.mp h with
      | count he =>
          cases he with
          | notAnInteger _ hproblem => exact hproblem
      | length _ he =>
          cases he with
          | notAnInteger _ hproblem => exact hproblem
  | limit h =>
      obtain ⟨_, _, -, he⟩ := exists_invalidMaxDepth_of_withMaxDepthText h
      cases he

theorem Arises.read_eq_of_invalidMaxDepth {text : String} {problem : Problem}
    (h : Arises (.invalidMaxDepth text problem)) :
    Numeral.read unsigned64 (trim text.toList) = .error problem := by
  cases h with
  | arguments h => exact absurd h (Config.ofArgs_ne_invalidMaxDepth _ _ _)
  | limit h =>
      obtain ⟨_, _, hproblem, he⟩ := exists_invalidMaxDepth_of_withMaxDepthText h
      cases he
      exact hproblem

/-- A wording is unambiguous if no two errors that arise have the same text. -/
def IsUnambiguous (wording : ConfigError → String) : Prop :=
  ∀ e e' : ConfigError, e.Arises → e'.Arises → wording e = wording e' → e = e'

/-- A wording stands on one line, and no control is in it. -/
def IsOneLine (wording : ConfigError → String) : Prop :=
  ∀ e : ConfigError, (∀ c ∈ (wording e).toList, ¬ IsControl c)
    ∧ split '\n' (wording e).toList = [(wording e).toList]

variable {hides : Char → Bool}

theorem isUnambiguous_messageBy (hides : Char → Bool) : IsUnambiguous (messageBy hides) := by
  intro e e' he he' h
  obtain ⟨htopic, hdetail⟩ := Topic.lead_append_inj h
  cases e with
  | arity count =>
      cases e' with
      | arity count' => rw [toString_nat_injective hdetail]
      | _ => cases htopic
  | notAnInteger parameter text problem =>
      cases e' with
      | notAnInteger parameter' text' problem' =>
          obtain rfl : parameter = parameter' := Topic.notAnInteger.inj htopic
          obtain rfl : text = text' := quoteBy_injective hdetail
          have hproblem := he.read_eq_of_notAnInteger.symm.trans he'.read_eq_of_notAnInteger
          rw [Except.error.inj hproblem]
      | _ => cases htopic
  | notPositive parameter value =>
      cases e' with
      | notPositive parameter' value' =>
          obtain rfl : parameter = parameter' := Topic.notPositive.inj htopic
          rw [Numeral.text_injective hdetail]
      | _ => cases htopic
  | oddTermCount count =>
      cases e' with
      | oddTermCount count' => rw [toString_nat_injective hdetail]
      | _ => cases htopic
  | invalidMaxDepth text problem =>
      cases e' with
      | invalidMaxDepth text' problem' =>
          obtain rfl : text = text' := quoteBy_injective hdetail
          have hproblem := he.read_eq_of_invalidMaxDepth.symm.trans he'.read_eq_of_invalidMaxDepth
          rw [Except.error.inj hproblem]
      | _ => cases htopic

theorem not_isControl_of_mem_detail (hides_control : ∀ c, IsControl c → hides c = true)
    {e : ConfigError} {c : Char} (h : c ∈ (e.detail hides).toList) : ¬ IsControl c := by
  cases e with
  | arity count => exact not_isControl_of_mem_toString h
  | notAnInteger _ text _ => exact not_isControl_of_mem_quoteBy hides_control h
  | notPositive _ value => exact Numeral.not_isControl_of_mem_text h
  | oddTermCount count => exact not_isControl_of_mem_toString h
  | invalidMaxDepth text _ => exact not_isControl_of_mem_quoteBy hides_control h

theorem isOneLine_messageBy (hides_control : ∀ c, IsControl c → hides c = true) :
    IsOneLine (messageBy hides) := by
  intro e
  have hcontrol : ∀ c ∈ (e.messageBy hides).toList, ¬ IsControl c := by
    intro c hc
    rw [messageBy, String.toList_append] at hc
    rcases List.mem_append.mp hc with hc | hc
    · exact Topic.not_isControl_of_mem_lead hc
    · exact not_isControl_of_mem_detail hides_control hc
  exact ⟨hcontrol, split_of_not_mem fun hline => hcontrol _ hline (by decide)⟩

/-- Of all errors that reading settings can give, no two have the same text, and no text of an error
holds a control, so each stands on one line.  Neither hangs on the table of what would not show: the
first holds for every choice of it, and the second for every choice that has the controls in it. -/
theorem message_decided :
    IsUnambiguous message ∧ IsOneLine message
    ∧ (∀ e, message e = messageBy isHidden e)
    ∧ ∀ hides : Char → Bool, IsUnambiguous (messageBy hides)
      ∧ ((∀ c, IsControl c → hides c = true) → IsOneLine (messageBy hides)) := by
  have hmessage : message = messageBy isHidden := funext message_eq_messageBy
  refine ⟨?_, ?_, message_eq_messageBy, fun hides =>
    ⟨isUnambiguous_messageBy hides, isOneLine_messageBy⟩⟩
  · rw [hmessage]
    exact isUnambiguous_messageBy isHidden
  · rw [hmessage]
    exact isOneLine_messageBy fun _ => isHidden_of_isControl

/-- A line end that was rejected and a backslash with an `n` behind it have different messages, of
one line each; this is so as well if nothing but the controls is taken for what would not show. -/
theorem message_decided_escaped :
    let lineEnd : ConfigError := .notAnInteger .count "1\n2" .invalidDigit
    let backslash : ConfigError := .notAnInteger .count "1\\n2" .invalidDigit
    let hides : Char → Bool := fun c => decide (IsControl c)
    lineEnd.Arises ∧ backslash.Arises ∧ lineEnd.message ≠ backslash.message
      ∧ (∀ c ∈ lineEnd.message.toList, ¬ IsControl c)
      ∧ lineEnd.messageBy hides ≠ backslash.messageBy hides ∧ IsOneLine (messageBy hides) := by
  intro lineEnd backslash hides
  obtain ⟨hunambiguous, hline, -, hany⟩ := message_decided
  obtain ⟨hunambiguous', hline'⟩ := hany hides
  have harises : lineEnd.Arises := .arguments (show Config.ofArgs ["1\n2", "8"] = _ from rfl)
  have harises' : backslash.Arises := .arguments (show Config.ofArgs ["1\\n2", "8"] = _ from rfl)
  have hne : lineEnd ≠ backslash := by decide
  exact ⟨harises, harises', fun h => hne (hunambiguous _ _ harises harises' h), (hline lineEnd).1,
    fun h => hne (hunambiguous' _ _ harises harises' h),
    hline' fun c hc => decide_eq_true hc⟩

end ConfigError
end RandomTerms
