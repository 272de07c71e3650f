/-
# The settings over a session

The settings of a session change in two ways: accepted arguments replace all of them, and an
accepted text replaces the limit on the depth.  What is refused leaves them as they are, and so does
everything else that is done (`Step.Turns`).  A session starts with settings that could have been
read, so they stay such with every step.

The limit is a matter of history: it is looked for backwards from the last step, up to the last
arguments that were accepted (`limitAfter`).  Steps come at the end of what was done before, so the
induction that shows this takes the steps from the last one.

Settings that are put together by hand are not checked, and nothing is said about them here.
-/
import Mathlib.Data.List.Induction
import RandomTerms.Proofs.Conservation
import RandomTerms.Proofs.Settings

namespace RandomTerms

/-! ## Steps that change the settings -/

namespace Step

/-- Whether the step replaces all settings by what its arguments ask for. -/
def resets : Step → Bool
  | .configure args => (Config.ofArgs args).toBool
  | _ => false

/-- The limit on the depth that the step sets or removes, if it does. -/
def limit? : Step → Option (Option Nat)
  | .configureDepth text => (Config.default.withMaxDepthText text).toOption.map Config.maxDepth
  | _ => none

theorem resets_configure_iff {args : List String} :
    (configure args).resets = true ↔ ∃ c, Config.ofArgs args = .ok c := by
  simp only [resets]
  cases Config.ofArgs args <;> simp [Except.toBool]

theorem limit?_configureDepth_iff {text : Option String} {limit : Option Nat} :
    (configureDepth text).limit? = some limit ↔ Config.Limits text limit := by
  simp only [limit?]
  constructor
  · intro h
    cases hr : Config.default.withMaxDepthText text with
    | error e =>
        rw [hr] at h
        cases h
    | ok c =>
        obtain ⟨limit', hlimit, rfl⟩ := Config.withMaxDepthText_eq_ok_iff.mp hr
        rw [hr] at h
        cases h
        exact hlimit
  · intro h
    rw [Config.withMaxDepthText_eq_ok_iff.mpr ⟨limit, h, rfl⟩]
    rfl

/-- What becomes of settings by a step that does not put them together by hand. -/
inductive Turns (c : Config) : Step → Config → Prop
  | replaced {args : List String} {c' : Config} :
      Config.ofArgs args = .ok c' → Turns c (.configure args) c'
  | limited {text : Option String} {limit : Option Nat} :
      Config.Limits text limit →
      Turns c (.configureDepth text) ⟨c.termCount, c.targetLength, limit⟩
  | kept {step : Step} : step.resets = false → step.limit? = none → Turns c step c

variable {c c' : Config} {step : Step}

theorem Turns.wellFormed (h : step.Turns c c') (hc : c.WellFormed) : c'.WellFormed := by
  cases h with
  | replaced hargs => exact Config.wellFormed_of_ofArgs hargs
  | @limited _ limit _ => exact hc.limit limit
  | kept _ _ => exact hc

theorem Turns.maxDepth_eq (h : step.Turns c c') :
    c'.maxDepth = if step.resets then none else step.limit?.getD c.maxDepth := by
  cases h with
  | replaced hargs =>
      rw [if_pos (resets_configure_iff.mpr ⟨_, hargs⟩)]
      exact Config.maxDepth_of_ofArgs hargs
  | limited hlimit =>
      rw [limit?_configureDepth_iff.mpr hlimit]
      rfl
  | kept hresets hlimit =>
      rw [hresets, hlimit]
      rfl

end Step

/-- The limit on the depth that steps leave behind: the last one that was set since the last
arguments that were accepted, and none if there is none. -/
def limitAfter (steps : List Step) : Option Nat :=
  ((steps.reverse.takeWhile fun step => !step.resets).findSome? Step.limit?).join

theorem limitAfter_concat (steps : List Step) (step : Step) : limitAfter (steps ++ [step]) =
    if step.resets then none else step.limit?.getD (limitAfter steps) := by
  rw [limitAfter, List.reverse_append, List.reverse_singleton, List.singleton_append,
    List.takeWhile_cons]
  cases step.resets with
  | true => rfl
  | false =>
      simp only [Bool.not_false, if_true, List.findSome?_cons]
      cases step.limit? <;> rfl

/-! ## Sessions -/

namespace Session

theorem perform_turns (s : Session) {step : Step} (h : ∀ c, step ≠ .setConfig c) :
    step.Turns s.config (s.perform step).2.config := by
  cases step with
  | setConfig c => exact absurd rfl (h c)
  | configure args =>
      show Step.Turns _ _ (s.adopt (Config.ofArgs args)).2.config
      cases hr : Config.ofArgs args with
      | ok c => exact .replaced hr
      | error e =>
          refine .kept (Bool.eq_false_iff.mpr fun hresets => ?_) rfl
          obtain ⟨c, hc⟩ := Step.resets_configure_iff.mp hresets
          cases hr.symm.trans hc
  | configureDepth text =>
      show Step.Turns _ _ (s.adopt (s.config.withMaxDepthText text)).2.config
      cases hr : s.config.withMaxDepthText text with
      | ok c =>
          obtain ⟨limit, hlimit, rfl⟩ := Config.withMaxDepthText_eq_ok_iff.mp hr
          exact .limited hlimit
      | error e =>
          refine .kept rfl (Option.eq_none_iff_forall_not_mem.mpr fun limit hmem => ?_)
          have hlimit := Step.limit?_configureDepth_iff.mp hmem
          cases hr.symm.trans (Config.withMaxDepthText_eq_ok_iff.mpr ⟨limit, hlimit, rfl⟩)
  | newGenerator _ | limitDepth _ | countPool => exact .kept rfl rfl
  | draw _ | pick _ | generate _ | sampleAtoms _ | sampleTerms _ | write _ =>
      rw [perform_eq_withSource s rfl]
      exact .kept rfl rfl

theorem performAll_concat (s : Session) (steps : List Step) (step : Step) :
    (s.performAll (steps ++ [step])).2 = ((s.performAll steps).2.perform step).2 := by
  induction steps generalizing s with
  | nil => rfl
  | cons first steps ih => exact ih _

/-- Settings that could have been read stay such, and from settings without a limit, the steps
lead to the limit that they leave behind. -/
theorem performAll_turns {s : Session} {steps : List Step} (hs : s.config.WellFormed)
    (hnone : s.config.maxDepth = none) : (∀ c, .setConfig c ∉ steps) →
      (s.performAll steps).2.config.WellFormed
        ∧ (s.performAll steps).2.config.maxDepth = limitAfter steps := by
  induction steps using List.reverseRecOn with
  | nil => exact fun _ => ⟨hs, hnone⟩
  | append_singleton steps step ih =>
      intro hsteps
      obtain ⟨hwell, hlimit⟩ := ih fun c hc => hsteps c (List.mem_append_left _ hc)
      have hstep (c : Config) : step ≠ .setConfig c := by
        rintro rfl
        exact hsteps c List.mem_concat_self
      have hturn := perform_turns (s.performAll steps).2 hstep
      rw [performAll_concat, limitAfter_concat, ← hlimit]
      exact ⟨hturn.wellFormed hwell, hturn.maxDepth_eq⟩

/-- Whatever a session does, but for putting settings together by hand, they ask for a positive and
even number of terms and a positive length, both within 64 bits with a sign, and their limit on the
depth is the last one that was set since the last arguments that were accepted.  Accepted arguments
leave no limit, an accepted text changes only the limit, to the number that it spells, and what is
refused changes nothing at all. -/
theorem performAll_settings :
    (∀ (source : Source) (steps : List Step), (∀ c, .setConfig c ∉ steps) →
      let c := ((start source).performAll steps).2.config
      (0 < c.termCount ∧ c.termCount % 2 = 0 ∧ c.termCount ≤ 2 ^ 63 - 2)
        ∧ (1 ≤ c.targetLength ∧ c.targetLength ≤ 2 ^ 63 - 1)
        ∧ 2 * c.pairCount = c.termCount ∧ c.maxDepth = limitAfter steps)
    ∧ (∀ args, (Step.configure args).resets = true ↔ ∃ c, Config.ofArgs args = .ok c)
    ∧ (∀ text limit, (Step.configureDepth text).limit? = some limit ↔ Config.Limits text limit)
    ∧ (∀ args c, Config.ofArgs args = .ok c → c.maxDepth = none)
    ∧ (∀ (c : Config) text c', c.withMaxDepthText text = .ok c' ↔
        ∃ limit, Config.Limits text limit ∧ c' = ⟨c.termCount, c.targetLength, limit⟩)
    ∧ ∀ (s : Session) (e : ConfigError),
        (∀ args, Config.ofArgs args = .error e → (s.perform (.configure args)).2 = s)
        ∧ ∀ text, s.config.withMaxDepthText text = .error e →
          (s.perform (.configureDepth text)).2 = s := by
  refine ⟨fun source steps hsteps => ?_, fun _ => Step.resets_configure_iff,
    fun _ _ => Step.limit?_configureDepth_iff, fun _ _ => Config.maxDepth_of_ofArgs,
    fun _ _ _ => Config.withMaxDepthText_eq_ok_iff, fun s e => ⟨fun args h => ?_, fun text h => ?_⟩⟩
  · have hdefault : (start source).config.WellFormed := Config.wellFormed_default
    obtain ⟨hwell, hlimit⟩ := performAll_turns hdefault rfl hsteps
    exact ⟨⟨hwell.count_pos, hwell.count_even, hwell.count_le⟩,
      ⟨hwell.length_pos, Nat.le_sub_one_of_lt hwell.length_lt⟩, hwell.two_mul_pairCount, hlimit⟩
  · show (s.adopt (Config.ofArgs args)).2 = s
    rw [h]
    rfl
  · show (s.adopt (s.config.withMaxDepthText text)).2 = s
    rw [h]
    rfl

/-- A limit goes with the next arguments that are accepted, and what is refused does not count. -/
theorem performAll_settings_mixed :
    let steps : List Step := [.configureDepth (some "8"), .configure ["4", "30"],
      .configureDepth (some " +03 "), .configureDepth (some "-1"), .pick 2, .configure ["3", "1"]]
    let source : Source := .script ⟨[0, 7]⟩
    (∀ c, .setConfig c ∉ steps)
      ∧ ((start source).performAll steps).2.config.maxDepth = some 3
      ∧ Config.ofArgs ["4", "30"] = .ok ⟨4, 30, none⟩
      ∧ (⟨4, 30, none⟩ : Config).maxDepth = none
      ∧ Config.ofArgs ["3", "1"] = .error (.oddTermCount 3)
      ∧ ((start source).perform (.configure ["3", "1"])).2 = start source
      ∧ Config.default.withMaxDepthText (some "-1") = .error (.invalidMaxDepth "-1" .invalidDigit)
      ∧ ((start source).perform (.configureDepth (some "-1"))).2 = start source := by
  intro steps source
  obtain ⟨hrun, -, -, haccepted, -, hrefused⟩ := performAll_settings
  have hsteps (c : Config) : .setConfig c ∉ steps := by simp [steps]
  obtain ⟨-, -, -, hlimit⟩ := hrun source steps hsteps
  have hafter : limitAfter steps = some 3 := by decide +kernel
  have heven : Config.ofArgs ["4", "30"] = .ok ⟨4, 30, none⟩ := by decide +kernel
  have hodd : Config.ofArgs ["3", "1"] = .error (.oddTermCount 3) := by decide +kernel
  have hsign : Config.default.withMaxDepthText (some "-1")
      = .error (.invalidMaxDepth "-1" .invalidDigit) := by decide +kernel
  exact ⟨hsteps, hlimit.trans hafter, heven, haccepted _ _ heven, hodd,
    (hrefused (start source) _).1 _ hodd, hsign, (hrefused (start source) _).2 _ hsign⟩

end Session
end RandomTerms
