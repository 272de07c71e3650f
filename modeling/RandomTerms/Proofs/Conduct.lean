/-
# How the command ends

What becomes of the command is settled by its arguments, by the variable and by the output, in this
order.  The arguments alone decide whether they are accepted (`Invocation.requested`), the variable
then gives a limit on the depth or no number (`Limits`, `Misstates`), and what is written after that
is written to a device behind a buffer.  How the lines of the log are chosen changes nothing but the
log, so all of this is proved for any `Selection`.

Arguments that are rejected are answered on the output; a variable that is no number and a fault of
the device are errors of the log.  `ConfigError.isUsage` tells the first from the second, as an
error about the arguments is never one about the depth, and the other way round.

Bytes that are no text are treated in two ways.  In the variable they count as none.  In an argument
they leave a character that is neither a digit nor a sign nor white space, so it is rejected.
-/
import RandomTerms.Command
import RandomTerms.Proofs.Buffering
import RandomTerms.Proofs.Decoding
import RandomTerms.Proofs.Listing
import RandomTerms.Proofs.Settings

namespace RandomTerms.Command

open Numeral

/-! ## Where the settings come from -/

namespace Invocation

/-- What the arguments ask for, before the variable is looked at. -/
def requested (i : Invocation) : Except ConfigError Config :=
  Config.ofArgs (i.args.map Text.ofUtf8Lossy)

/-- The variable is set to a text that spells no number of 64 bits. -/
structure Misstates (i : Invocation) (text : String) : Prop where
  maxDepth : i.maxDepth = some (Text.utf8 text.toList)
  spells : ∀ n < 2 ^ 64, ¬ IsNatural (Text.trim text.toList) n

/-- The limit on the depth that the variable gives. -/
inductive Limits (i : Invocation) : Option Nat → Prop
  | unset : i.maxDepth = none → Limits i none
  /-- What is no text counts as not set. -/
  | noText {bytes : List UInt8} :
      i.maxDepth = some bytes → (∀ s : String, bytes ≠ Text.utf8 s.toList) → Limits i none
  | number {text : String} {n : Nat} :
      i.maxDepth = some (Text.utf8 text.toList) → IsNatural (Text.trim text.toList) n → n < 2 ^ 64 →
      Limits i (some n)

variable {i : Invocation}

theorem settings_eq (i : Invocation) : i.settings = i.requested.bind fun c =>
    c.withMaxDepthText (i.maxDepth.bind Text.ofUtf8?) := rfl

/-- Arguments that are texts are read as they are. -/
theorem requested_utf8 (args : List String) (maxDepth filter : Option (List UInt8)) :
    requested ⟨args.map fun arg => Text.utf8 arg.toList, maxDepth, filter⟩
      = Config.ofArgs args := by
  have hread : (fun arg : String => Text.ofUtf8Lossy (Text.utf8 arg.toList)) = id :=
    funext Text.ofUtf8Lossy_utf8
  rw [requested, List.map_map]
  exact congrArg Config.ofArgs ((congrArg (List.map · args) hread).trans (List.map_id args))

theorem settings_of_rejected {e : ConfigError} (h : i.requested = .error e) :
    i.settings = .error e := by
  rw [settings_eq, h]
  rfl

theorem settings_of_misstates {c : Config} (hc : i.requested = .ok c) {text : String}
    (h : i.Misstates text) : ∃ problem, i.settings = .error (.invalidMaxDepth text problem) := by
  have htext : i.maxDepth.bind Text.ofUtf8? = some text := by
    rw [h.maxDepth]
    exact Text.ofUtf8?_eq_some_iff.mpr rfl
  rw [settings_eq, hc, htext]
  cases hread : Numeral.read unsigned64 (Text.trim text.toList) with
  | ok z =>
      obtain ⟨n, hn, hlt, -⟩ := read_unsigned64_eq_ok_iff.mp hread
      exact absurd hn (h.spells n hlt)
  | error problem => exact ⟨problem, by simp only [Except.bind, Config.withMaxDepthText, hread]⟩

theorem settings_of_limits {c : Config} (hc : i.requested = .ok c) {limit : Option Nat}
    (h : i.Limits limit) : i.settings = .ok ⟨c.termCount, c.targetLength, limit⟩ := by
  have htext : Config.Limits (i.maxDepth.bind Text.ofUtf8?) limit := by
    cases h with
    | unset hnone =>
        rw [hnone]
        exact .absent
    | noText hbytes hno =>
        rw [hbytes, Option.bind_some, Text.ofUtf8?_eq_none_iff.mpr hno]
        exact .absent
    | number hbytes hn hlt =>
        rw [hbytes, Option.bind_some, Text.ofUtf8?_eq_some_iff.mpr rfl]
        exact .spelled hn hlt
  rw [settings_eq, hc]
  exact Config.withMaxDepthText_eq_ok_iff.mpr ⟨limit, htext, rfl⟩

/-- The variable gives a limit unless it is set to a text that spells no number. -/
theorem exists_limits (i : Invocation) (h : ∀ text, ¬ i.Misstates text) :
    ∃ limit, i.Limits limit := by
  cases hd : i.maxDepth with
  | none => exact ⟨none, .unset hd⟩
  | some bytes =>
      cases htext : Text.ofUtf8? bytes with
      | none => exact ⟨none, .noText hd (Text.ofUtf8?_eq_none_iff.mp htext)⟩
      | some text =>
          obtain rfl := Text.ofUtf8?_eq_some_iff.mp htext
          refine Classical.byContradiction fun hno => h text ⟨hd, fun n hlt hn => ?_⟩
          exact hno ⟨some n, .number hd hn hlt⟩

/-- Arguments of which one is no text are rejected. -/
theorem exists_rejected_of_noText {bytes : List UInt8} (hb : bytes ∈ i.args)
    (h : ∀ s : String, bytes ≠ Text.utf8 s.toList) : ∃ e, i.requested = .error e := by
  cases hr : i.requested with
  | error e => exact ⟨e, rfl⟩
  | ok c =>
      have hmem := Config.mem_of_ofArgs hr (List.mem_map_of_mem hb) (Text.mem_ofUtf8Lossy h)
      exact absurd hmem (by decide)

end Invocation

/-! ## What is logged -/

namespace Outcome

/-- The lines of the log that report an error. -/
def errors (o : Outcome) : List Line := o.log.filter fun l => l.level == .error

/-- The outcome with the log cut down to the lines that are kept. -/
def kept (keeps : Line → Bool) (o : Outcome) : Outcome := ⟨o.exit, o.output, o.log.filter keeps⟩

theorem errors_kept (keeps : Line → Bool) (o : Outcome) :
    (o.kept keeps).errors = o.errors.filter keeps := by
  simp only [errors, kept, List.filter_filter]
  exact List.filter_congr fun l _ => Bool.and_comm _ _

end Outcome

/-- Nothing can be asked of the log, and warnings and errors are kept. -/
def warnings : Selection := ⟨fun _ => none, fun l => decide (l.level.rank ≤ Level.warn.rank)⟩

/-- No event is an error. -/
theorem filter_error_map_line (es : List Event) :
    ((es.map Event.line).filter fun l => l.level == .error) = [] := by
  rw [List.filter_eq_nil_iff]
  intro l hl
  obtain ⟨e, -, rfl⟩ := List.mem_map.mp hl
  cases e <;> exact Bool.false_ne_true

/-! ## Writing the document -/

section

variable {σ : Type} [SteadySource σ]

/-- An accepting device gets what a device without limits gets. -/
theorem runConfig_accepting (hσ : AnswersInRange σ) (c : Config) (s : σ) :
    let full := Document.write c (Tape.blank s) (Sink.new {})
    let o := runConfig c .accepting s
    full.trouble = none ∧ o.output = full.writer.accepted ∧ o.exit = .success ∧ o.errors = [] := by
  intro full o
  obtain ⟨made, s', hmade, hcount⟩ := hσ.exists_makes c.generator c.termCount s
  obtain ⟨W, hW, hnone, -, htext⟩ := Document.exists_write?_unlimited_iff.mpr
    ⟨made, hmade, hcount, rfl⟩
  obtain ⟨b, hb, hout⟩ := Document.exists_write?_of_accepting hmade hcount
  rw [Document.write?_eq] at hW hb
  obtain rfl : full = W := Option.some.inj hW
  refine ⟨hnone, ?_, ?_, ?_⟩
  · have hsame : b.written = full.writer.accepted :=
      String.toList_injective (hout.trans htext.symm)
    simp only [o, runConfig, Option.some.inj hb, hsame]
  · simp only [o, runConfig, Option.some.inj hb]
  · simp only [o, runConfig, Option.some.inj hb, Outcome.errors]
    exact filter_error_map_line _

/-- A failing device gets nothing, and its fault is the one error. -/
theorem runConfig_failing (hσ : AnswersInRange σ) (c : Config) {fault : Fault}
    (hfault : fault ≠ .interrupted) (s : σ) :
    let o := runConfig c (.failing fault hfault) s
    o.output = "" ∧ o.exit = .failure
      ∧ o.errors = [line .error ("failed to write terms: " ++ fault.message)] := by
  intro o
  obtain ⟨made, s', hmade, hcount⟩ := hσ.exists_makes c.generator c.termCount s
  obtain ⟨es, m, b, hb, hout⟩ := Document.exists_write?_of_failing hmade hcount hfault
  rw [Document.write?_eq] at hb
  refine ⟨?_, ?_, ?_⟩
  · simp only [o, runConfig, Option.some.inj hb, hout]
  · simp only [o, runConfig, Option.some.inj hb]
  · -- All but the last line of the log are of level debug or trace.
    simp only [o, runConfig, Option.some.inj hb, Outcome.errors, List.filter_append]
    exact congrArg (· ++ [_]) (filter_error_map_line _)

/-! ## Running the command -/

variable {i : Invocation}

theorem run_of_ok (selection : Selection) {c : Config} (hc : i.settings = .ok c) (device : Device)
    (s : σ) :
    run selection i device s = (runConfig c device s).kept (selection.keeps i.filter) := by
  simp only [run, hc, Outcome.kept]

theorem run_of_error (selection : Selection) {e : ConfigError} (he : i.settings = .error e)
    (device : Device) (s : σ) :
    run selection i device s = (reject e device).kept (selection.keeps i.filter) := by
  simp only [run, he, Outcome.kept]

/-- Arguments that are rejected are answered on the output, whatever the variable holds. -/
theorem run_of_rejected (selection : Selection) {e : ConfigError} (he : i.requested = .error e)
    (s : σ) :
    (∀ device, (run selection i device s).errors = [])
      ∧ (run selection i .accepting s).output = usage ++ "\n"
      ∧ (run selection i .accepting s).exit = .failure
      ∧ ∀ fault hfault, (run selection i (.failing fault hfault) s).output = ""
          ∧ (run selection i (.failing fault hfault) s).exit
            = .abrupt ("failed printing to stdout: " ++ fault.message) := by
  have husage := Config.isUsage_of_ofArgs he
  have hrun := fun device =>
    run_of_error selection (Invocation.settings_of_rejected he) device s
  simp only [reject, husage, if_true] at hrun
  refine ⟨fun device => ?_, ?_, ?_, fun fault hfault => ⟨?_, ?_⟩⟩
  · rw [hrun, Outcome.errors_kept]
    cases device <;> rfl
  all_goals rw [hrun, Outcome.kept]

/-- A variable that spells no number is an error of the log, and nothing is written. -/
theorem run_of_misstates (selection : Selection) {c : Config} (hc : i.requested = .ok c)
    {text : String} (h : i.Misstates text) (device : Device) (s : σ) :
    (run selection i device s).output = "" ∧ (run selection i device s).exit = .failure
      ∧ (run selection i device s).errors
        = [line .error ("TERMGEN_MAX_DEPTH is not a non-negative integer: "
            ++ Text.quote text)].filter (selection.keeps i.filter) := by
  obtain ⟨problem, he⟩ := Invocation.settings_of_misstates hc h
  rw [run_of_error selection he, Outcome.errors_kept]
  exact ⟨rfl, rfl, rfl⟩

theorem run_accepting_of_limits (hσ : AnswersInRange σ) (selection : Selection) {c : Config}
    (hc : i.requested = .ok c) {limit : Option Nat} (h : i.Limits limit) (s : σ) :
    let full := Document.write ⟨c.termCount, c.targetLength, limit⟩ (Tape.blank s) (Sink.new {})
    full.trouble = none ∧ (run selection i .accepting s).output = full.writer.accepted
      ∧ (run selection i .accepting s).exit = .success
      ∧ (run selection i .accepting s).errors = [] := by
  rw [run_of_ok selection (Invocation.settings_of_limits hc h), Outcome.errors_kept]
  obtain ⟨hnone, hout, hexit, herrors⟩ :=
    runConfig_accepting hσ ⟨c.termCount, c.targetLength, limit⟩ s
  exact ⟨hnone, hout, hexit, congrArg (List.filter (selection.keeps i.filter)) herrors⟩

theorem run_failing_of_limits (hσ : AnswersInRange σ) (selection : Selection) {c : Config}
    (hc : i.requested = .ok c) {limit : Option Nat} (h : i.Limits limit) {fault : Fault}
    (hfault : fault ≠ .interrupted) (s : σ) :
    (run selection i (.failing fault hfault) s).output = ""
      ∧ (run selection i (.failing fault hfault) s).exit = .failure
      ∧ (run selection i (.failing fault hfault) s).errors
        = [line .error ("failed to write terms: " ++ fault.message)].filter
            (selection.keeps i.filter) := by
  rw [run_of_ok selection (Invocation.settings_of_limits hc h), Outcome.errors_kept]
  obtain ⟨hout, hexit, herrors⟩ :=
    runConfig_failing hσ ⟨c.termCount, c.targetLength, limit⟩ hfault s
  exact ⟨hout, hexit, congrArg (List.filter (selection.keeps i.filter)) herrors⟩

/-- Arguments that are rejected are answered with how the command is used and the exit code 1; no
error is logged, and the variable plays no part.  Otherwise a variable that spells no number is the
one error, the exit code is 1 and nothing is written.  Otherwise the variable gives a limit or none.
Then the document for these settings is written and the exit code is 0, or, where the output fails,
this is the one error and the exit code is 1.  Arguments of which one is no text are rejected.  All
this is so however the lines of the log are chosen; an error is in the log if it is among them. -/
theorem run_conducted (hσ : AnswersInRange σ) (selection : Selection) (i : Invocation) (s : σ) :
    (∀ e, i.requested = .error e →
        (run selection i .accepting s).output = usage ++ "\n"
        ∧ (run selection i .accepting s).exit.code = 1
        ∧ (run selection i .accepting s).errors = []
        ∧ ∀ held, run selection ⟨i.args, held, i.filter⟩ .accepting s
            = run selection i .accepting s)
    ∧ (∀ c, i.requested = .ok c →
        (∀ text, i.Misstates text → ∀ device,
          (run selection i device s).output = "" ∧ (run selection i device s).exit.code = 1
          ∧ (run selection i device s).errors
            = [line .error ("TERMGEN_MAX_DEPTH is not a non-negative integer: "
                ++ Text.quote text)].filter (selection.keeps i.filter))
        ∧ ((∀ text, ¬ i.Misstates text) → ∃ limit, i.Limits limit
          ∧ (let full := Document.write ⟨c.termCount, c.targetLength, limit⟩ (Tape.blank s)
              (Sink.new {})
            full.trouble = none ∧ (run selection i .accepting s).output = full.writer.accepted
              ∧ (run selection i .accepting s).exit.code = 0
              ∧ (run selection i .accepting s).errors = [])
          ∧ ∀ fault hfault, (run selection i (.failing fault hfault) s).output = ""
            ∧ (run selection i (.failing fault hfault) s).exit.code = 1
            ∧ (run selection i (.failing fault hfault) s).errors
              = [line .error ("failed to write terms: " ++ fault.message)].filter
                  (selection.keeps i.filter)))
    ∧ ∀ bytes ∈ i.args, (∀ text : String, bytes ≠ Text.utf8 text.toList) →
        ∃ e, i.requested = .error e := by
  refine ⟨fun e he => ?_, fun c hc => ⟨fun text htext device => ?_, fun hnone => ?_⟩,
    fun bytes hbytes => Invocation.exists_rejected_of_noText hbytes⟩
  · obtain ⟨herrors, hout, hexit, -⟩ := run_of_rejected selection he s
    refine ⟨hout, congrArg Exit.code hexit, herrors .accepting, fun held => ?_⟩
    have hrejected : (⟨i.args, held, i.filter⟩ : Invocation).settings = .error e :=
      Invocation.settings_of_rejected he
    rw [run_of_error selection (Invocation.settings_of_rejected he),
      run_of_error selection hrejected]
  · obtain ⟨hout, hexit, herrors⟩ := run_of_misstates selection hc htext device s
    exact ⟨hout, congrArg Exit.code hexit, herrors⟩
  · obtain ⟨limit, hlimit⟩ := i.exists_limits hnone
    obtain ⟨hdone, hout, hexit, herrors⟩ := run_accepting_of_limits hσ selection hc hlimit s
    refine ⟨limit, hlimit, ⟨hdone, hout, congrArg Exit.code hexit, herrors⟩, fun fault hfault => ?_⟩
    obtain ⟨hnothing, hfailed, herror⟩ :=
      run_failing_of_limits hσ selection hc hlimit hfault s
    exact ⟨hnothing, congrArg Exit.code hfailed, herror⟩

/-- A stray byte is rejected as an argument and ignored in the variable, in which a word is an
error. -/
theorem run_conducted_settled :
    let s : XorShift := XorShift.ofSeed 7
    let stray : Invocation := ⟨[[0xff], [0x31]], none, none⟩
    let deep : Invocation := ⟨[[0x32], [0x31]], some [0x64, 0x65, 0x65, 0x70], none⟩
    let plain : Invocation := ⟨[[0x32], [0x31]], some [0xff], none⟩
    let full : Device := .failing .storageFull (by decide)
    (∀ text : String, [0xff] ≠ Text.utf8 text.toList)
      ∧ (run warnings stray .accepting s).output = usage ++ "\n"
      ∧ (run warnings stray .accepting s).exit.code = 1
      ∧ (run warnings stray .accepting s).errors = []
      ∧ deep.requested = .ok ⟨2, 1, none⟩ ∧ deep.Misstates "deep"
      ∧ (run warnings deep .accepting s).output = ""
      ∧ (run warnings deep .accepting s).exit.code = 1
      ∧ (run warnings deep .accepting s).errors
        = [line .error ("TERMGEN_MAX_DEPTH is not a non-negative integer: " ++ Text.quote "deep")]
      ∧ plain.requested = .ok ⟨2, 1, none⟩ ∧ plain.Limits none
      ∧ (run warnings plain .accepting s).output
        = (Document.write ⟨2, 1, none⟩ (Tape.blank s) (Sink.new {})).writer.accepted
      ∧ (run warnings plain .accepting s).exit.code = 0
      ∧ (run warnings plain full s).exit.code = 1
      ∧ (run warnings plain full s).errors
        = [line .error ("failed to write terms: " ++ "No space left on device (os error 28)")] := by
  intro s stray deep plain full
  have hσ : AnswersInRange XorShift := Scaled.answersInRange fun _ => rfl
  have hnoText : ∀ text : String, [0xff] ≠ Text.utf8 text.toList :=
    Text.ofUtf8?_eq_none_iff.mp (by simp [Text.ofUtf8?, Text.pieces, Text.piece, Text.lead?])
  have hargs : Config.ofArgs ["2", "1"] = .ok ⟨2, 1, none⟩ := rfl
  have hdeep : deep.requested = .ok ⟨2, 1, none⟩ :=
    (Invocation.requested_utf8 ["2", "1"] _ _).trans hargs
  have hplain : plain.requested = .ok ⟨2, 1, none⟩ :=
    (Invocation.requested_utf8 ["2", "1"] _ _).trans hargs
  have hmisstates : deep.Misstates "deep" := by
    refine ⟨rfl, fun n _ hn => ?_⟩
    exact absurd (hn.isDigit_or_eq_plus 'd' (by decide)) (by decide)
  have hlimits : plain.Limits none := .noText rfl hnoText
  -- What gives a limit is not misstated.
  have hstated : ∀ text, ¬ plain.Misstates text := fun text h =>
    hnoText text (Option.some.inj h.maxDepth)
  obtain ⟨hrejected, -, hstray⟩ := run_conducted hσ warnings stray s
  obtain ⟨e, he⟩ := hstray [0xff] List.mem_cons_self hnoText
  obtain ⟨hout, hcode, herrors, -⟩ := hrejected e he
  obtain ⟨-, hokDeep, -⟩ := run_conducted hσ warnings deep s
  obtain ⟨hout', hcode', herrors'⟩ := (hokDeep _ hdeep).1 "deep" hmisstates .accepting
  obtain ⟨-, hokPlain, -⟩ := run_conducted hσ warnings plain s
  obtain ⟨limit, hlimit, ⟨-, hdocument, hzero, -⟩, hfailing⟩ := (hokPlain _ hplain).2 hstated
  obtain rfl : limit = none := by
    cases hlimit with
    | unset _ => rfl
    | noText _ _ => rfl
    | number hmax _ _ => exact absurd (Option.some.inj hmax) (hnoText _)
  obtain ⟨-, hone, herror⟩ := hfailing .storageFull (by decide)
  exact ⟨hnoText, hout, hcode, herrors, hdeep, hmisstates, hout', hcode', herrors', hplain, hlimits,
    hdocument, hzero, hone, herror⟩

/-- Where arguments are rejected and the output fails, the command breaks off, and its last words
are how the output failed.  This is the only way in which it breaks off, that is, ends with the exit
code 101.  The exit code is 0 just for accepted settings and an output that accepts, and 1 in all
other cases. -/
theorem run_exit_code_iff (hσ : AnswersInRange σ) (selection : Selection) (i : Invocation)
    (device : Device) (s : σ) :
    (∀ e fault hfault, i.requested = .error e →
        (run selection i (.failing fault hfault) s).exit
          = .abrupt ("failed printing to stdout: " ++ fault.message))
    ∧ ((run selection i device s).exit.code = 101 ↔
        (∃ e, i.requested = .error e) ∧ device ≠ .accepting)
    ∧ ((run selection i device s).exit.code = 0 ↔
        (∃ c, i.settings = .ok c) ∧ device = .accepting)
    ∧ ((run selection i device s).exit.code = 1 ↔
        (∃ e, i.requested = .error e) ∧ device = .accepting
          ∨ (∃ c, i.requested = .ok c)
            ∧ ((∃ e, i.settings = .error e) ∨ device ≠ .accepting)) := by
  refine ⟨fun e fault hfault he => ((run_of_rejected selection he s).2.2.2 fault hfault).2, ?_⟩
  cases hr : i.requested with
  | error e =>
      have hsettings := Invocation.settings_of_rejected hr
      obtain ⟨-, -, haccepting, hfailing⟩ := run_of_rejected selection hr s
      cases device with
      | accepting => simp [haccepting, hsettings, Exit.code]
      | failing fault hfault =>
          have hexit := (hfailing fault hfault).2
          simp [hexit, hsettings, Exit.code]
  | ok c =>
      by_cases hm : ∃ text, i.Misstates text
      · obtain ⟨text, htext⟩ := hm
        obtain ⟨problem, hsettings⟩ := Invocation.settings_of_misstates hr htext
        obtain ⟨-, hexit, -⟩ := run_of_misstates selection hr htext device s
        simp [hexit, hsettings, Exit.code]
      · obtain ⟨limit, hlimit⟩ := i.exists_limits fun text htext => hm ⟨text, htext⟩
        have hsettings := Invocation.settings_of_limits hr hlimit
        cases device with
        | accepting =>
            obtain ⟨-, -, hexit, -⟩ := run_accepting_of_limits hσ selection hr hlimit s
            simp [hexit, hsettings, Exit.code]
        | failing fault hfault =>
            obtain ⟨-, hexit, -⟩ := run_failing_of_limits hσ selection hr hlimit hfault s
            simp [hexit, hsettings, Exit.code]

/-- Where arguments are rejected and the output is full, the command breaks off. -/
theorem run_exit_code_rejected :
    let i : Invocation := ⟨[[0x31]], none, none⟩
    let s : XorShift := XorShift.ofSeed 7
    let full : Device := .failing .storageFull (by decide)
    i.requested = .error (.arity 1) ∧ (run warnings i full s).exit.code = 101
      ∧ (run warnings i full s).exit
        = .abrupt ("failed printing to stdout: " ++ "No space left on device (os error 28)")
      ∧ (run warnings i .accepting s).exit.code = 1 := by
  intro i s full
  have hσ : AnswersInRange XorShift := Scaled.answersInRange fun _ => rfl
  have hrejected : i.requested = .error (.arity 1) := rfl
  obtain ⟨hwords, habrupt, -, -⟩ := run_exit_code_iff hσ warnings i full s
  obtain ⟨-, -, -, hone⟩ := run_exit_code_iff hσ warnings i .accepting s
  exact ⟨hrejected, habrupt.mpr ⟨⟨_, hrejected⟩, nofun⟩, hwords _ _ _ hrejected,
    hone.mpr (.inl ⟨⟨_, hrejected⟩, rfl⟩)⟩

/-- Such a run ends neither with 0 nor with 1. -/
theorem not_forall_exit_code :
    ¬ ∀ (selection : Selection) (i : Invocation) (device : Device) (s : XorShift),
      (run selection i device s).exit.code = 0 ∨ (run selection i device s).exit.code = 1 := by
  intro h
  have hrun := h warnings ⟨[[0x31]], none, none⟩ (.failing .storageFull (by decide))
    (XorShift.ofSeed 7)
  exact absurd hrun (by decide)

end
end RandomTerms.Command
