import ReducedDowntime.Invocation.Settings
import ReducedDowntime.Proofs.Schedule
import ReducedDowntime.Proofs.InitPayload

/-!
# Checking the options of a command line

The options of a subcommand go through a fixed sequence of checks before they make an action.
The first check that refuses them gives the refusal, and every refusal is an invalid
configuration.

* A step checks its schedule beside a pause and against the supported instants, then asks for
  the four target options together or not at all, then asks for them for `configure`
  (`stepChecks`).
* A scenario refuses a schedule for `readiness` and `two-phase`, checks the schedule against the
  supported instants, and asks for the four target options (`scenarioChecks`).
* Updating the plug-in checks nothing.

`Checked checks P r` says that `r` is what running `checks` in order gives: the first refusal,
or, when none refuses, a value with the property `P`. It composes along the binds of the code
(`Checked.bind`), so each part of an action is checked once: the schedule by making the apply
spec (`make_checked`), the target options by `targetSpec` (`targetSpec_checked`).

A refusal for missing target options names exactly the absent ones, in the fixed order of
`targetOptions` (`mem_missingTargets`, `missingTargets_sublist`). An action that is made holds the
schedule asked for and an init spec that carries the options as given (`InitSpec.Carries`), and
the settings hold the top-level options (`read_ready_iff`).
-/

namespace ReducedDowntime

open Cli Time

/-- A spec carries the target options of `f` as given: the four texts, the two switches, and the
managing server exactly when its three parts are given and none is empty. -/
structure InitSpec.Carries (f : Found) (s : InitSpec) : Prop where
  rootPassword : f.value? "target_temp_password" = some s.rootPassword
  targetVersion : f.value? "target_version" = some s.targetVersion
  targetUpgradeRepo : f.value? "target_upgrade_repo" = some s.targetUpgradeRepo
  targetOva : f.value? "target_ova" = some s.targetOva
  autocancellation : s.autocancellation = f.flag "autocancellation"
  preserveOriginalName : s.preserveOriginalName = f.flag "preserve_original_name"
  managingServer : ∀ c : Credentials, s.managingServer = some c ↔
    f.value? "uber_vc_hostname" = some c.hostname ∧ f.value? "uber_vc_username" = some c.username ∧
      f.value? "uber_vc_password" = some c.password ∧
        c.hostname ≠ "" ∧ c.username ≠ "" ∧ c.password ≠ ""

namespace Invocation

/-! ## Checks in order -/

/-- One check of the options: whether it refuses them, and its refusal. -/
structure Check where
  refuses : Bool
  refusal : UpgradeError

/-- The refusal of the first check that refuses, if one does. -/
def firstRefusal (checks : List Check) : Option UpgradeError :=
  (checks.find? (·.refuses)).map (·.refusal)

@[simp] theorem firstRefusal_nil : firstRefusal [] = none := rfl

@[simp] theorem firstRefusal_cons (c : Check) (cs : List Check) :
    firstRefusal (c :: cs) = if c.refuses then some c.refusal else firstRefusal cs := by
  unfold firstRefusal
  cases h : c.refuses <;> simp [h]

theorem firstRefusal_append (cs ds : List Check) :
    firstRefusal (cs ++ ds) = (firstRefusal cs).or (firstRefusal ds) := by
  induction cs with
  | nil => rfl
  | cons c cs ih => cases h : c.refuses <;> simp [h, ih]

theorem firstRefusal_eq_none {cs : List Check} :
    firstRefusal cs = none ↔ ∀ c ∈ cs, c.refuses = false := by
  simp [firstRefusal]

/-- `r` is what running `checks` in order gives: the first refusal when one refuses, and
otherwise a value with the property `P`. -/
def Checked {α : Type} (checks : List Check) (P : α → Prop) (r : Except UpgradeError α) : Prop :=
  match firstRefusal checks with
  | some e => r = .error e
  | none => ∃ a, r = .ok a ∧ P a

namespace Checked

variable {α β : Type} {cs ds : List Check} {P : α → Prop} {Q : β → Prop} {r : Except UpgradeError α}

theorem of_refusal {e : UpgradeError} (hf : firstRefusal cs = some e) (hr : r = .error e) :
    Checked cs P r := by
  unfold Checked
  rw [hf]
  exact hr

theorem of_passes {a : α} (hf : firstRefusal cs = none) (hr : r = .ok a) (ha : P a) :
    Checked cs P r := by
  unfold Checked
  rw [hf]
  exact ⟨a, hr, ha⟩

/-- A check that refuses is the refusal, whatever follows. -/
theorem cons_of_refuses {c : Check} (hc : c.refuses = true) (hr : r = .error c.refusal) :
    Checked (c :: cs) P r :=
  of_refusal (by rw [firstRefusal_cons, hc, if_pos rfl]) hr

/-- A check that passes changes nothing. -/
theorem cons_pass_iff {c : Check} (hc : c.refuses = false) : Checked (c :: cs) P r ↔ Checked cs P r := by
  unfold Checked
  rw [firstRefusal_cons, hc, if_neg Bool.false_ne_true]

/-- A checked value is the first refusal, or, when none refuses, a value with the property. -/
theorem refused_or_made (h : Checked cs P r) :
    (∃ e, firstRefusal cs = some e ∧ r = .error e) ∨ (firstRefusal cs = none ∧ ∃ a, r = .ok a ∧ P a) := by
  unfold Checked at h
  cases hf : firstRefusal cs with
  | some e =>
    rw [hf] at h
    exact .inl ⟨e, rfl, h⟩
  | none =>
    rw [hf] at h
    exact .inr ⟨rfl, h⟩

theorem error_iff (h : Checked cs P r) {e : UpgradeError} :
    r = .error e ↔ firstRefusal cs = some e := by
  rcases h.refused_or_made with ⟨e', hf, rfl⟩ | ⟨hf, a, rfl, -⟩
  · rw [hf, Except.error.injEq, Option.some.injEq]
  · simp [hf]

theorem ok_iff (h : Checked cs P r) : (∃ a, r = .ok a) ↔ firstRefusal cs = none := by
  rcases h.refused_or_made with ⟨e, hf, rfl⟩ | ⟨hf, a, rfl, -⟩ <;> simp [hf]

theorem prop_of_ok (h : Checked cs P r) {a : α} (hr : r = .ok a) : P a := by
  rcases h.refused_or_made with ⟨e, -, rfl⟩ | ⟨-, a', rfl, ha'⟩
  · cases hr
  · rw [Except.ok.injEq] at hr
    exact hr ▸ ha'

/-- Checks compose along a bind: those of the first part, then those of the rest. -/
theorem bind {g : α → Except UpgradeError β} (h : Checked cs P r)
    (hg : ∀ a, P a → Checked ds Q (g a)) : Checked (cs ++ ds) Q (r >>= g) := by
  rcases h.refused_or_made with ⟨e, hf, rfl⟩ | ⟨hf, a, rfl, ha⟩
  · exact of_refusal (by rw [firstRefusal_append, hf]; rfl) rfl
  · -- the first part passes: what is left is the rest's checks on its value
    have hrest := hg a ha
    unfold Checked at hrest ⊢
    rw [firstRefusal_append, hf]
    exact hrest

end Checked

/-! ## The schedule -/

/-- A schedule beside a pause is refused. -/
def pauseCheck (n : Option Nat) (pause : Bool) : Check :=
  ⟨n.isSome && pause, ApplySpec.scheduledAndPaused⟩

/-- A schedule must end at a supported instant. -/
def reachCheck (n : Option Nat) (now : Instant) : Check :=
  ⟨n.any fun h => (now.addSeconds (h * 3600)).isNone, ApplySpec.outOfRange (n.getD 0)⟩

/-- Making an apply spec checks the schedule beside the pause, then its instant, and the spec it
makes keeps both. -/
theorem make_checked (hours : Option Nat) (pause : Bool) (now : Instant) :
    Checked [pauseCheck (hours.filter (· > 0)) pause, reachCheck (hours.filter (· > 0)) now]
      (· = { switchoverInHours := hours.filter (· > 0), pauseBeforeSwitchover := pause })
      (ApplySpec.make hours pause now).value := by
  cases hf : hours.filter (· > 0) with
  | none =>
    -- no schedule: neither check refuses
    exact Checked.of_passes (by simp [pauseCheck, reachCheck]) (ApplySpec.make_unscheduled hf) rfl
  | some n =>
  cases pause with
  | true => exact Checked.cons_of_refuses rfl (ApplySpec.make_paused hf)
  | false =>
    refine (Checked.cons_pass_iff rfl).mpr ?_
    rw [ApplySpec.make_scheduled hf]
    cases hs : now.addSeconds (n * 3600) with
    | none =>
      refine Checked.cons_of_refuses (by simp [reachCheck, hs]) ?_
      rw [ApplySpec.switchoverAt_eq_error.mpr ⟨hs, rfl⟩]
      rfl
    | some t =>
      refine Checked.of_passes (by simp [reachCheck, hs]) ?_ rfl
      rw [ApplySpec.switchoverAt_eq_ok.mpr hs]
      rfl

/-- The schedule is already without zero hours. -/
theorem schedule_filter (f : Found) : (schedule f).filter (· > 0) = schedule f := by
  simp only [schedule, Option.filter_filter, Bool.and_self]

/-! ## The target options -/

/-- Every target option is given. -/
def TargetsGiven (f : Found) : Prop := ∀ o ∈ targetOptions, f.value? o.2 ≠ none

/-- No target option is given. -/
def TargetsAbsent (f : Found) : Prop := ∀ o ∈ targetOptions, f.value? o.2 = none

instance (f : Found) : Decidable (TargetsGiven f) :=
  inferInstanceAs (Decidable (∀ o ∈ targetOptions, f.value? o.2 ≠ none))

instance (f : Found) : Decidable (TargetsAbsent f) :=
  inferInstanceAs (Decidable (∀ o ∈ targetOptions, f.value? o.2 = none))

theorem TargetsGiven.not_absent {f : Found} (h : TargetsGiven f) : ¬TargetsAbsent f :=
  fun ha => h _ List.mem_cons_self (ha _ List.mem_cons_self)

theorem missingTargets_eq (f : Found) :
    missingTargets f = ((targetOptions).filter fun o => (f.value? o.2).isNone).map Prod.fst := by
  unfold missingTargets
  rw [← List.filterMap_eq_filter, List.map_filterMap]
  congr 1
  funext o
  by_cases h : (f.value? o.2).isNone <;> simp [h, Option.guard]

/-- A missing option is one of the four whose argument was not given. -/
theorem mem_missingTargets {f : Found} {flag : String} :
    flag ∈ missingTargets f ↔ ∃ id, (flag, id) ∈ targetOptions ∧ f.value? id = none := by
  simp [missingTargets_eq]

/-- The missing options come in the fixed order. -/
theorem missingTargets_sublist (f : Found) :
    (missingTargets f).Sublist ((targetOptions).map Prod.fst) := by
  rw [missingTargets_eq]
  exact List.filter_sublist.map Prod.fst

-- only the version given: the other three are named, in their order
example : missingTargets ⟨"step", [{ id := "target_version", values := ["8.0.3"], source := .commandLine }]⟩ =
    ["--target-temp-password", "--target-upgrade-repo", "--target-ova"] := by decide

/-- Fewer than four options are missing exactly when one is given. -/
theorem length_missingTargets_lt {f : Found} : (missingTargets f).length < 4 ↔ ¬TargetsAbsent f := by
  have hall := List.length_filter_eq_length_iff (l := targetOptions) (p := fun o => (f.value? o.2).isNone)
  have hle := List.length_filter_le (fun o => (f.value? o.2).isNone) targetOptions
  rw [missingTargets_eq, List.length_map]
  simp only [TargetsAbsent, ← Option.isNone_iff_eq_none, ← hall]
  simp only [targetOptions, List.length_cons, List.length_nil] at hle ⊢
  omega

/-- The init spec of a step: none when no target option is given, and otherwise one that
carries them. -/
def InitFrom (f : Found) : Option InitSpec → Prop
  | none => TargetsAbsent f
  | some s => s.Carries f

/-- When not all four options are given, the target is refused if one is, and absent
otherwise. -/
theorem targetSpec_of_not_given {f : Found} (h : ¬TargetsGiven f) :
    targetSpec f = if (missingTargets f).length < 4 then .error (missingTargetError f) else .ok none := by
  unfold targetSpec
  split
  · rename_i hp hv ho hr
    exact absurd (by simp [TargetsGiven, targetOptions, hp, hv, ho, hr]) h
  · rfl

/-- The target options make a spec that carries them when all four are given, none when none is,
and are refused otherwise. -/
theorem targetSpec_cases (f : Found) :
    (∃ s, TargetsGiven f ∧ targetSpec f = .ok (some s) ∧ s.Carries f) ∨
    (TargetsAbsent f ∧ targetSpec f = .ok none) ∨
    (¬TargetsGiven f ∧ ¬TargetsAbsent f ∧ targetSpec f = .error (missingTargetError f)) := by
  by_cases hg : TargetsGiven f
  · -- all four given: they make the spec
    obtain ⟨⟨p, hp⟩, ⟨v, hv⟩, ⟨r, hr⟩, ⟨o, ho⟩⟩ : (∃ p, f.value? "target_temp_password" = some p) ∧
        (∃ v, f.value? "target_version" = some v) ∧ (∃ r, f.value? "target_upgrade_repo" = some r) ∧
        ∃ o, f.value? "target_ova" = some o := by
      simpa [TargetsGiven, targetOptions, Option.ne_none_iff_exists'] using hg
    have hspec : targetSpec f = .ok (some
        { rootPassword := p, targetVersion := v, targetOva := o, targetUpgradeRepo := r
          autocancellation := f.flag "autocancellation"
          preserveOriginalName := f.flag "preserve_original_name"
          managingServer := Credentials.ofParts (f.value? "uber_vc_hostname")
            (f.value? "uber_vc_username") (f.value? "uber_vc_password") }) := by
      simp only [targetSpec, hp, hv, ho, hr]
    exact .inl ⟨_, hg, hspec, hp, hv, hr, ho, rfl, rfl, fun c => Credentials.ofParts_eq_some _ _ _ c⟩
  rw [targetSpec_of_not_given hg]
  by_cases ha : TargetsAbsent f
  · exact .inr (.inl ⟨ha, by rw [if_neg fun hlt => length_missingTargets_lt.mp hlt ha]⟩)
  · exact .inr (.inr ⟨hg, ha, by rw [if_pos (length_missingTargets_lt.mpr ha)]⟩)

/-! ## A step -/

/-- The four target options go together or not at all. -/
def partialCheck (f : Found) : Check :=
  ⟨decide (¬TargetsGiven f ∧ ¬TargetsAbsent f), missingTargetError f⟩

/-- `configure` needs the target. -/
def configureCheck (kind : StepKind) (f : Found) : Check :=
  ⟨kind == .configure && decide (TargetsAbsent f), missingTargetError f⟩

/-- The checks of a step, in order: its schedule beside the pause and its instant, the target
options together, and a target for `configure`. -/
def stepChecks (kind : StepKind) (f : Found) (clock : Instant) : List Check :=
  [pauseCheck (schedule f) (f.flag "pause_before_switchover"), reachCheck (schedule f) clock] ++
    [partialCheck f, configureCheck kind f]

/-- The action of a step that passes its checks: the apply spec of the schedule and the pause
asked for, and the init spec of the target options. -/
def StepMade (kind : StepKind) (f : Found) (a : Action) : Prop :=
  ∃ init, a = .step kind init
      { switchoverInHours := schedule f, pauseBeforeSwitchover := f.flag "pause_before_switchover" }
      (f.flag "autocancellation") ∧ InitFrom f init

theorem stepAction_checked (kind : StepKind) (f : Found) (clock : Instant) :
    Checked (stepChecks kind f clock) (StepMade kind f) (stepAction kind f clock).value := by
  refine (make_checked (hours? f) (f.flag "pause_before_switchover") clock).bind fun apply happly => ?_
  subst happly
  rcases targetSpec_cases f with ⟨s, hg, hs, hc⟩ | ⟨ha, hs⟩ | ⟨hg, ha, hs⟩
  · -- all four given: the step holds their spec
    exact Checked.of_passes (by simp [partialCheck, configureCheck, hg, hg.not_absent])
      (by rw [hs]; rfl) ⟨some s, rfl, hc⟩
  · -- none given: refused for `configure` only
    by_cases hk : kind = .configure
    · subst hk
      exact Checked.of_refusal (e := missingTargetError f)
        (by simp [partialCheck, configureCheck, ha]) (by rw [hs]; rfl)
    · have hk' : (kind == .configure) = false := by simpa using hk
      exact Checked.of_passes (by simp [partialCheck, configureCheck, ha, hk'])
        (by rw [hs]; simp only [hk', Bool.and_false]; rfl) ⟨none, rfl, ha⟩
  · -- some given: refused
    exact Checked.cons_of_refuses (by simp [partialCheck, hg, ha]) (by rw [hs]; rfl)

/-- A step passes its checks exactly when a schedule stands neither beside a pause nor past the
supported instants, the target options are all given or none is, and `configure` has them. -/
theorem stepChecks_pass_iff (kind : StepKind) (f : Found) (clock : Instant) :
    firstRefusal (stepChecks kind f clock) = none ↔
      (∀ n, schedule f = some n →
        f.flag "pause_before_switchover" = false ∧ clock.addSeconds (n * 3600) ≠ none) ∧
      (TargetsGiven f ∨ TargetsAbsent f) ∧ ¬(kind = .configure ∧ TargetsAbsent f) := by
  rw [firstRefusal_eq_none]
  cases hn : schedule f <;>
    simp [stepChecks, pauseCheck, reachCheck, partialCheck, configureCheck, hn,
      Decidable.or_iff_not_imp_left, Option.isSome_iff_ne_none, and_assoc]

/-! ## A scenario -/

/-- `readiness` and `two-phase` take no schedule. -/
def kindCheck (kind : ScenarioKind) (n : Option Nat) : Check :=
  ⟨n.isSome && (kind == .readiness || kind == .twoPhase), scheduleRefusal kind⟩

/-- A scenario needs the target. -/
def targetCheck (f : Found) : Check := ⟨!decide (TargetsGiven f), missingTargetError f⟩

/-- The checks of a scenario, in order: a schedule for a scenario that takes none, the schedule's
instant, and the target options. -/
def scenarioChecks (kind : ScenarioKind) (f : Found) (clock : Instant) : List Check :=
  [kindCheck kind (schedule f), reachCheck (schedule f) clock, targetCheck f]

/-- The action of a scenario that passes its checks: the schedule asked for and the init spec of
the target options. -/
def ScenarioMade (kind : ScenarioKind) (f : Found) (a : Action) : Prop :=
  ∃ s, a = .scenario kind { init := s, switchoverInHours := schedule f } ∧ s.Carries f

theorem scenarioAction_checked (kind : ScenarioKind) (f : Found) (clock : Instant) :
    Checked (scenarioChecks kind f clock) (ScenarioMade kind f) (scenarioAction kind f clock).value := by
  by_cases hkind : ((schedule f).isSome && (kind == .readiness || kind == .twoPhase)) = true
  · -- a schedule for a scenario that takes none
    refine Checked.cons_of_refuses hkind ?_
    simp only [scenarioAction, hkind, if_true]
    rfl
  simp only [scenarioAction, hkind, Bool.false_eq_true, if_false]
  refine (Checked.cons_pass_iff (Bool.eq_false_iff.mpr hkind)).mpr ?_
  -- the apply spec is made with no pause, so only the schedule's instant is checked
  have hmake := make_checked (schedule f) false clock
  rw [schedule_filter, Checked.cons_pass_iff (by simp [pauseCheck])] at hmake
  refine hmake.bind fun _ _ => ?_
  rcases targetSpec_cases f with ⟨s, hg, hs, hc⟩ | ⟨ha, hs⟩ | ⟨hg, ha, hs⟩
  · exact Checked.of_passes (by simp [targetCheck, hg]) (by rw [hs]; rfl) ⟨s, rfl, hc⟩
  · have hg : ¬TargetsGiven f := fun hg => hg.not_absent ha
    exact Checked.cons_of_refuses (by simp [targetCheck, hg]) (by rw [hs]; rfl)
  · exact Checked.cons_of_refuses (by simp [targetCheck, hg]) (by rw [hs]; rfl)

/-- A scenario passes its checks exactly when a schedule is asked only of a scenario that takes
one and ends at a supported instant, and all four target options are given. -/
theorem scenarioChecks_pass_iff (kind : ScenarioKind) (f : Found) (clock : Instant) :
    firstRefusal (scenarioChecks kind f clock) = none ↔
      (schedule f = none ∨ kind ≠ .readiness ∧ kind ≠ .twoPhase) ∧
      (∀ n, schedule f = some n → clock.addSeconds (n * 3600) ≠ none) ∧ TargetsGiven f := by
  rw [firstRefusal_eq_none]
  cases hn : schedule f <;>
    simp [scenarioChecks, kindCheck, reachCheck, targetCheck, hn, Option.isSome_iff_ne_none]

/-! ## Refusals and settings -/

/-- Every refusal of a check is an invalid configuration. -/
theorem refusal_invalidConfig {kind : StepKind} {scenario : ScenarioKind} {f : Found}
    {clock : Instant} :
    ∀ c ∈ stepChecks kind f clock ++ scenarioChecks scenario f clock,
      ∃ what, c.refusal = .invalidConfig what := by
  simp [stepChecks, scenarioChecks, pauseCheck, reachCheck, partialCheck, configureCheck, kindCheck,
    targetCheck, ApplySpec.scheduledAndPaused, ApplySpec.outOfRange, missingTargetError,
    scheduleRefusal]

/-- Updating the plug-in checks nothing. -/
theorem action_updatePlugin {sub : Found} (clock : Instant) (hstep : sub.command ≠ "step")
    (hscenario : sub.command ≠ "scenario") :
    (action sub clock).value = .ok (.updatePlugin ((sub.value? "plugin_repo").getD "")) := by
  unfold action
  split
  · contradiction
  · contradiction
  · rfl

section Read

variable {env : Environment} {words : List String} {top sub : Found} {rest : List Found}

/-- A command line whose subcommand makes an action gives the settings of the top-level options
and that action. -/
theorem read_ready_iff (clock : Instant) (h : grammar.read env words = .ok (top :: sub :: rest))
    (s : Settings) :
    (read env words clock).value = .ready s ↔ ∃ a, (action sub clock).value = .ok a ∧ s = settings top a := by
  unfold read
  rw [h]
  cases hv : (action sub clock).value <;> simp [hv, eq_comm]

/-- A command line whose subcommand is refused gives that refusal. -/
theorem read_invalid_iff (clock : Instant) (h : grammar.read env words = .ok (top :: sub :: rest))
    (e : UpgradeError) :
    (read env words clock).value = .invalid e ↔ (action sub clock).value = .error e := by
  unfold read
  rw [h]
  cases hv : (action sub clock).value <;> simp [hv]

end Read

/-- **The checks of a command line.** A step is accepted exactly when a schedule (zero hours
being none) stands neither beside a pause nor past the supported instants counted from the
clock, the four target options are all given or none is, and `configure` has them; a scenario
exactly when a schedule is asked only of a scenario other than `readiness` and `two-phase` and
ends at a supported instant, and all four target options are given; updating the plug-in
always. A refusal is that of the first check that refuses, in the order `stepChecks` and
`scenarioChecks` list, and every one is an invalid configuration; the missing target options
are named exactly, in the order temporary password, version, upgrade repository, OVA. An
accepted action holds the schedule asked for and an init spec that carries the options as given,
the managing server only when its three parts are given and none is empty; the settings hold
the top-level options and the action. -/
theorem options_checked_in_order (kind : StepKind) (scenario : ScenarioKind) (f : Found)
    (clock : Instant) (e : UpgradeError) (a : Action) :
    ((∃ a, (stepAction kind f clock).value = .ok a) ↔
      (∀ n, schedule f = some n →
        f.flag "pause_before_switchover" = false ∧ clock.addSeconds (n * 3600) ≠ none) ∧
      (TargetsGiven f ∨ TargetsAbsent f) ∧ ¬(kind = .configure ∧ TargetsAbsent f)) ∧
    ((stepAction kind f clock).value = .error e ↔ firstRefusal (stepChecks kind f clock) = some e) ∧
    ((stepAction kind f clock).value = .ok a → StepMade kind f a) ∧
    ((∃ a, (scenarioAction scenario f clock).value = .ok a) ↔
      (schedule f = none ∨ scenario ≠ .readiness ∧ scenario ≠ .twoPhase) ∧
      (∀ n, schedule f = some n → clock.addSeconds (n * 3600) ≠ none) ∧ TargetsGiven f) ∧
    ((scenarioAction scenario f clock).value = .error e ↔
      firstRefusal (scenarioChecks scenario f clock) = some e) ∧
    ((scenarioAction scenario f clock).value = .ok a → ScenarioMade scenario f a) ∧
    (f.command ≠ "step" → f.command ≠ "scenario" →
      (action f clock).value = .ok (.updatePlugin ((f.value? "plugin_repo").getD ""))) ∧
    (∀ c ∈ stepChecks kind f clock ++ scenarioChecks scenario f clock,
      ∃ what, c.refusal = .invalidConfig what) ∧
    (∀ flag, flag ∈ missingTargets f ↔ ∃ id, (flag, id) ∈ targetOptions ∧ f.value? id = none) ∧
    (missingTargets f).Sublist ((targetOptions).map Prod.fst) ∧
    ∀ (env : Environment) (words : List String) (top : Found) (rest : List Found) (s : Settings),
      grammar.read env words = .ok (top :: f :: rest) →
        ((read env words clock).value = .ready s ↔
          ∃ a, (action f clock).value = .ok a ∧ s = settings top a) ∧
        ((read env words clock).value = .invalid e ↔ (action f clock).value = .error e) := by
  have hstep := stepAction_checked kind f clock
  have hscenario := scenarioAction_checked scenario f clock
  refine ⟨hstep.ok_iff.trans (stepChecks_pass_iff kind f clock), hstep.error_iff, hstep.prop_of_ok,
    hscenario.ok_iff.trans (scenarioChecks_pass_iff scenario f clock), hscenario.error_iff,
    hscenario.prop_of_ok, action_updatePlugin clock, refusal_invalidConfig,
    fun _ => mem_missingTargets, missingTargets_sublist f, ?_⟩
  intro env words top rest s h
  exact ⟨read_ready_iff clock h s, read_invalid_iff clock h e⟩

end Invocation

end ReducedDowntime
