import ReducedDowntime.Proofs.Scenarios

/-!
# Which calls a scenario may make

A scenario calls the lifecycle manager in a careful order. Its history of exchanges with the
manager, and the prompts it showed, tell before each call whether the call is permitted
(`MayCall`):

* after a pre-check that returned a result with error notifications (`FailsCheck`), no call;
* an apply only after an accepted configure, with the confirmation seen before it: the settings
  assume yes, or a prompt shown before the call was answered yes (`ConfirmationSeen`);
* a cancel only after an accepted apply.

A pre-check with error notifications also ends the run, with those errors.

## The proof

The discipline is a Hoare logic over histories of exchanges and prompts (`Keeps`). A stage
keeps it from a `Milestone` (what the history has reached: an accepted configure, a confirmation
seen, an accepted apply) to the next one, and `Keeps.seq` joins stages along `Trace.Seq`, the
prompts of a later stage placed after the exchanges of the earlier ones. So each scenario's
trace from `Proofs/Scenarios` keeps it, stage by stage, from the start.
-/

namespace ReducedDowntime

open ReducedDowntime.Flow

/-! ## Histories -/

/-- An exchange in which a pre-check returned a result with error notifications: a look at a
task whose state ends the wait with `res`. -/
def FailsCheck (x : LifecycleExchange) (res : CheckResult) : Prop :=
  ∃ task ti, x = (.taskInfo task, .ok (.taskInfo ti)) ∧ ti.verdict = .result res ∧
    res.notifications.hasErrors = true

/-- A history in which no pre-check returned errors. -/
def Clean (h : List LifecycleExchange) : Prop := ∀ x ∈ h, ∀ res, ¬ FailsCheck x res

/-- The failure of a pre-check whose result has errors: their default messages, joined. -/
def Failure.ofFailedCheck (res : CheckResult) : Failure :=
  Failure.ofError (.precheckFailed
    ("; ".intercalate (res.notifications.errors.map (·.message.defaultMessage))))

/-- The confirmation is seen before a call that follows the exchanges `h`, among the prompts
`ps`: the settings assume yes, or a prompt shown before the call was answered yes. A prompt
placed at `k` came after the first `k` exchanges, so before the call when `k ≤ h.length`. -/
def ConfirmationSeen (settings : ScenarioSettings) (h : List LifecycleExchange)
    (ps : List (Nat × PromptAnswer)) : Prop :=
  settings.assumeYes = true ∨ ∃ k, k ≤ h.length ∧ (k, PromptAnswer.yes) ∈ ps

/-- The conditions on an apply and a cancel: an apply after an accepted configure, with the
confirmation seen, and a cancel after an accepted apply. -/
def Permits (settings : ScenarioSettings) (h : List LifecycleExchange)
    (ps : List (Nat × PromptAnswer)) (call : LifecycleCall) : Prop :=
  (∀ doc c, call = .apply doc c →
    (∃ d, (LifecycleCall.configure d, Except.ok LifecycleReply.accepted) ∈ h) ∧
      ConfirmationSeen settings h ps) ∧
  (call = .cancel → ∃ doc c, (LifecycleCall.apply doc c, Except.ok LifecycleReply.accepted) ∈ h)

/-- The calls a scenario may make after the history `h`, with the prompts `ps`. -/
def MayCall (settings : ScenarioSettings) (h : List LifecycleExchange)
    (ps : List (Nat × PromptAnswer)) (call : LifecycleCall) : Prop :=
  Clean h ∧ Permits settings h ps call

section Seen

variable {settings : ScenarioSettings} {h : List LifecycleExchange}
  {ps : List (Nat × PromptAnswer)} {call : LifecycleCall}

/-- A confirmation seen stays seen as exchanges and prompts follow. -/
theorem ConfirmationSeen.append (hc : ConfirmationSeen settings h ps)
    (h' : List LifecycleExchange) (qs : List (Nat × PromptAnswer)) :
    ConfirmationSeen settings (h ++ h') (ps ++ qs) := by
  rcases hc with hyes | ⟨k, hk, hmem⟩
  · exact .inl hyes
  · refine .inr ⟨k, ?_, List.mem_append_left _ hmem⟩
    rw [List.length_append]
    omega

theorem ConfirmationSeen.append_prompts (hc : ConfirmationSeen settings h ps)
    (qs : List (Nat × PromptAnswer)) : ConfirmationSeen settings h (ps ++ qs) :=
  List.append_nil h ▸ hc.append [] qs

/-- Prompts shown after a call do not change whether it was permitted. -/
theorem Permits.append_prompts (hp : Permits settings h ps call) (qs : List (Nat × PromptAnswer)) :
    Permits settings h (ps ++ qs) call := by
  obtain ⟨happ, hcancel⟩ := hp
  refine ⟨fun doc c hcall => ?_, hcancel⟩
  obtain ⟨hconf, hseen⟩ := happ doc c hcall
  exact ⟨hconf, hseen.append_prompts qs⟩

theorem MayCall.append_prompts (hm : MayCall settings h ps call) (qs : List (Nat × PromptAnswer)) :
    MayCall settings h (ps ++ qs) call :=
  ⟨hm.1, hm.2.append_prompts qs⟩

end Seen

/-- The calls that change the upgrade: configure, apply and cancel. -/
def LifecycleCall.changesUpgrade : LifecycleCall → Bool
  | .configure _ | .apply _ _ | .cancel => true
  | _ => false

theorem Clean.append {h h' : List LifecycleExchange} (hc : Clean h) (hc' : Clean h') :
    Clean (h ++ h') := by
  intro x hx res
  rcases List.mem_append.mp hx with hx | hx
  · exact hc x hx res
  · exact hc' x hx res

/-- Only a look at a task can fail a check. -/
theorem not_failsCheck {x : LifecycleExchange} (hx : ∀ task, x.1 ≠ .taskInfo task)
    (res : CheckResult) : ¬ FailsCheck x res := by
  rintro ⟨task, ti, rfl, -⟩
  exact hx task rfl

/-- Calls other than apply and cancel are permitted whenever the history is clean. -/
theorem permits_of_not {settings : ScenarioSettings} {h : List LifecycleExchange}
    {ps : List (Nat × PromptAnswer)} {call : LifecycleCall} (happ : ∀ doc c, call ≠ .apply doc c)
    (hcancel : call ≠ .cancel) : Permits settings h ps call :=
  ⟨fun doc c hc => absurd hc (happ doc c), fun hc => absurd hc hcancel⟩

/-- A call in a joined history is in the first part, or in the second after all of the
first. -/
theorem split_append {α : Type} {l₁ l₂ pre post : List α} {x : α}
    (h : l₁ ++ l₂ = pre ++ x :: post) :
    (∃ post₁, l₁ = pre ++ x :: post₁) ∨ ∃ pre₂, l₂ = pre₂ ++ x :: post ∧ pre = l₁ ++ pre₂ := by
  rcases List.append_eq_append_iff.mp h with ⟨as, hpre, hl₂⟩ | ⟨bs, hl₁, hxs⟩
  · exact .inr ⟨as, hl₂, hpre⟩
  · cases bs with
    | nil =>
      rw [List.nil_append] at hxs
      rw [List.append_nil] at hl₁
      exact .inr ⟨[], hxs.symm, by rw [hl₁, List.append_nil]⟩
    | cons y bs =>
      rw [List.cons_append, List.cons.injEq] at hxs
      obtain ⟨rfl, -⟩ := hxs
      exact .inl ⟨bs, hl₁⟩

theorem Permits.of_changesUpgrade {settings : ScenarioSettings} {h : List LifecycleExchange}
    {ps : List (Nat × PromptAnswer)} {call : LifecycleCall} (hc : call.changesUpgrade = false) :
    Permits settings h ps call := by
  refine ⟨fun doc c happ => ?_, fun hcancel => ?_⟩
  · subst happ
    cases hc
  · subst hcancel
    cases hc

/-- What comes before a call in a clean history, with one more exchange at its end, is
clean. -/
theorem Clean.of_snoc {l pre post : List LifecycleExchange} {x y : LifecycleExchange}
    (hc : Clean l) (h : l ++ [y] = pre ++ x :: post) : Clean pre := by
  rcases split_append h with ⟨post₁, rfl⟩ | ⟨pre₂, hy, rfl⟩
  · exact fun z hz => hc z (List.mem_append_left _ hz)
  · -- the call is the last exchange, so all of `l` comes before it
    have hpre₂ : pre₂ = [] := by
      have hlen := congrArg List.length hy
      simp only [List.length_append, List.length_cons, List.length_nil] at hlen
      exact List.eq_nil_of_length_eq_zero (by omega)
    rw [hpre₂, List.append_nil]
    exact hc

/-! ## Pre-checks in a history -/

/-- An answer of the task endpoint that does not end the wait with a result. -/
def NoResult (a : Except UpgradeError TaskInfo) : Prop :=
  ∀ ti res, a = .ok ti → ti.verdict ≠ .result res

/-- Looks at a task whose answers give no result do not fail a check. -/
theorem clean_taskExchanges {task : String} {as : List (Except UpgradeError TaskInfo)}
    (h : ∀ a ∈ as, NoResult a) : Clean (taskExchanges task as) := by
  rintro x hx res ⟨task', ti, hxeq, hv, -⟩
  obtain ⟨a, ha, rfl⟩ := List.mem_map.mp hx
  cases a with
  | error e => simp at hxeq
  | ok ti' =>
    simp only [map_ok, Prod.mk.injEq, Except.ok.injEq, LifecycleReply.taskInfo.injEq] at hxeq
    rw [← hxeq.2] at hv
    exact h _ ha ti' res rfl hv

/-- A wait that returns a result read answers without one, then the answer with it. -/
theorem awaitAnswers_ok {b : Budget} {left : Nat} {as rest : List (Except UpgradeError TaskInfo)}
    {res : CheckResult} (h : Precheck.awaitAnswers b left as = some (.ok res, rest)) :
    ∃ as' ti, as = as' ++ .ok ti :: rest ∧ (∀ a ∈ as', NoResult a) ∧
      ti.verdict = .result res := by
  induction left generalizing as with
  | zero => simp [Precheck.awaitAnswers] at h
  | succ left ih =>
    cases as with
    | nil => simp [Precheck.awaitAnswers] at h
    | cons a as =>
      cases a with
      | error e => simp [Precheck.awaitAnswers] at h
      | ok ti =>
        simp only [Precheck.awaitAnswers] at h
        split at h
        · next r hv =>
          simp only [Option.some.injEq, Prod.mk.injEq, Except.ok.injEq] at h
          obtain ⟨rfl, rfl⟩ := h
          exact ⟨[], ti, rfl, by simp, hv⟩
        · simp at h
        · next hv =>
          obtain ⟨as', ti', rfl, hno, hv'⟩ := ih h
          refine ⟨.ok ti :: as', ti', rfl, ?_, hv'⟩
          rintro a (_ | ⟨_, ha⟩)
          · intro ti'' res' heq
            cases heq
            rw [hv]
            exact fun h => by cases h
          · exact hno a ha

/-- A wait that fails read only answers without a result. -/
theorem awaitAnswers_error {b : Budget} {left : Nat}
    {as rest : List (Except UpgradeError TaskInfo)} {e : UpgradeError}
    (h : Precheck.awaitAnswers b left as = some (.error e, rest)) :
    ∃ as', as = as' ++ rest ∧ ∀ a ∈ as', NoResult a := by
  induction left generalizing as with
  | zero =>
    simp only [Precheck.awaitAnswers, Option.some.injEq, Prod.mk.injEq] at h
    exact ⟨[], by rw [h.2, List.nil_append], by simp⟩
  | succ left ih =>
    cases as with
    | nil => simp [Precheck.awaitAnswers] at h
    | cons a as =>
      cases a with
      | error e' =>
        simp only [Precheck.awaitAnswers, Option.some.injEq, Prod.mk.injEq] at h
        refine ⟨[.error e'], by rw [h.2]; rfl, ?_⟩
        intro a ha ti res heq
        simp only [List.mem_singleton] at ha
        rw [ha] at heq
        cases heq
      | ok ti =>
        simp only [Precheck.awaitAnswers] at h
        split at h
        · simp at h
        · next hv =>
          simp only [Option.some.injEq, Prod.mk.injEq] at h
          refine ⟨[.ok ti], by rw [h.2]; rfl, ?_⟩
          intro a ha ti' res heq
          simp only [List.mem_singleton] at ha
          rw [ha] at heq
          cases heq
          rw [hv]
          exact fun h => by cases h
        · next hv =>
          obtain ⟨as', rfl, hno⟩ := ih h
          refine ⟨.ok ti :: as', rfl, ?_⟩
          rintro a (_ | ⟨_, ha⟩)
          · intro ti'' res' heq
            cases heq
            rw [hv]
            exact fun h => by cases h
          · exact hno a ha

/-- A wait that runs out of answers read only answers without a result. -/
theorem awaitAnswers_none {b : Budget} {left : Nat} {as : List (Except UpgradeError TaskInfo)}
    (h : Precheck.awaitAnswers b left as = none) : ∀ a ∈ as, NoResult a := by
  induction left generalizing as with
  | zero => simp [Precheck.awaitAnswers] at h
  | succ left ih =>
    cases as with
    | nil => simp
    | cons a as =>
      cases a with
      | error e => simp [Precheck.awaitAnswers] at h
      | ok ti =>
        simp only [Precheck.awaitAnswers] at h
        split at h
        · simp at h
        · simp at h
        · next hv =>
          rintro a (_ | ⟨_, ha⟩)
          · intro ti'' res' heq
            cases heq
            rw [hv]
            exact fun h => by cases h
          · exact ih h a ha

theorem Clean.nil : Clean [] := fun _ hx => absurd hx List.not_mem_nil

/-- The start of a pre-check does not fail it. -/
theorem Clean.startCheck {doc : Option InitDocument} {a : Except UpgradeError LifecycleReply}
    {l : List LifecycleExchange} (hc : Clean l) : Clean ((.startCheck doc, a) :: l) := by
  rintro x (_ | ⟨_, hx⟩) res
  · exact not_failsCheck (fun task h => by cases h) res
  · exact hc x hx res

theorem taskExchanges_calls {task : String} {as : List (Except UpgradeError TaskInfo)} :
    ∀ x ∈ taskExchanges task as, x.1 = .taskInfo task := by
  intro x hx
  obtain ⟨a, -, rfl⟩ := List.mem_map.mp hx
  rfl

/-- What a pre-check leaves in the history: only calls that start a check or look at its
task, and a result with errors only in its last exchange, when it returns that result. -/
theorem Trace.Checked.history {doc : Option InitDocument} {b : Budget}
    {r : Except Failure CheckResult} {t : Trace} (h : Trace.Checked doc b r t) :
    (∀ x ∈ t.lifecycle, x.1.changesUpgrade = false) ∧
    (∀ pre x post, t.lifecycle = pre ++ x :: post → Clean pre) ∧
    (∀ e, r = .error e → Clean t.lifecycle) ∧
    (∀ res, r = .ok res → ∀ x ∈ t.lifecycle, ∀ res', FailsCheck x res' → res' = res) := by
  obtain ⟨-, -, hcases⟩ := h
  -- in a clean history, what comes before each call is clean
  have hsplits : ∀ {l : List LifecycleExchange}, Clean l →
      ∀ pre x post, l = pre ++ x :: post → Clean pre :=
    fun hc pre x post hl z hz => hc z (by rw [hl]; exact List.mem_append_left _ hz)
  rcases hcases with ⟨hl, rfl⟩ | ⟨e, hl, rfl⟩ | ⟨task, as, hl, hf⟩
  · rw [hl]
    exact ⟨by simp, hsplits Clean.nil, fun _ _ => Clean.nil, fun _ h => (by cases h)⟩
  · rw [hl]
    have hc : Clean [(.startCheck doc, .error e)] := Clean.nil.startCheck
    refine ⟨by simp [LifecycleCall.changesUpgrade], hsplits hc, fun _ _ => hc,
      fun _ h => (by cases h)⟩
  · rw [hl]
    have hkind : ∀ x ∈ (LifecycleCall.startCheck doc, Except.ok (LifecycleReply.task task)) ::
        taskExchanges task as, x.1.changesUpgrade = false := by
      rintro x (_ | ⟨_, hx⟩)
      · rfl
      · rw [taskExchanges_calls x hx]
        rfl
    -- looks that give no result leave the pre-check's history clean
    have hstart : ∀ {as' : List (Except UpgradeError TaskInfo)}, (∀ a ∈ as', NoResult a) →
        Clean ((LifecycleCall.startCheck doc, Except.ok (LifecycleReply.task task)) ::
          taskExchanges task as') :=
      fun h => (clean_taskExchanges h).startCheck
    rcases hres : Precheck.awaitAnswers b b.retries.toNat as with _ | ⟨a, rest⟩
    · -- the answers ran out before a result
      rw [hres] at hf
      have hc := hstart (awaitAnswers_none hres)
      exact ⟨hkind, hsplits hc, fun _ _ => hc, fun _ h => (by rw [hf] at h; cases h)⟩
    · rw [hres] at hf
      obtain ⟨rfl, rfl⟩ := hf
      cases a with
      | error e =>
        obtain ⟨as', rfl, hno⟩ := awaitAnswers_error hres
        rw [List.append_nil] at hkind ⊢
        have hc := hstart hno
        exact ⟨hkind, hsplits hc, fun _ _ => hc, fun _ h => (by cases h)⟩
      | ok res =>
        -- the last answer gives the result; the ones before it give none
        obtain ⟨as', ti, rfl, hno, hv⟩ := awaitAnswers_ok hres
        have hc := hstart hno
        have hlast : (LifecycleCall.startCheck doc, Except.ok (LifecycleReply.task task)) ::
            taskExchanges task (as' ++ [.ok ti]) =
            ((LifecycleCall.startCheck doc, Except.ok (LifecycleReply.task task)) ::
              taskExchanges task as') ++ [(.taskInfo task, .ok (.taskInfo ti))] := by
          simp [taskExchanges]
        rw [hlast]
        refine ⟨by rw [← hlast]; exact hkind, fun pre x post h => hc.of_snoc h,
          fun _ h => (by cases h), ?_⟩
        rintro res' hr x hx res'' hf
        cases hr
        rcases List.mem_append.mp hx with hx | hx
        · exact absurd hf (hc x hx res'')
        · obtain ⟨task', ti', hxeq, hv', -⟩ := hf
          rw [List.mem_singleton] at hx
          rw [hx, Prod.mk.injEq, Except.ok.injEq, LifecycleReply.taskInfo.injEq] at hxeq
          rw [← hxeq.2, hv] at hv'
          cases hv'
          rfl

/-! ## Milestones -/

/-- How far a scenario has come. -/
inductive Milestone where
  | start
  | configured
  | confirmed
  | applied

/-- What a history of exchanges and prompts shows at a milestone: an accepted configure, then
also the confirmation seen, then also an accepted apply. -/
def Milestone.Holds (settings : ScenarioSettings) :
    Milestone → List LifecycleExchange → List (Nat × PromptAnswer) → Prop
  | .start, _, _ => True
  | .configured, h, _ => ∃ d, (LifecycleCall.configure d, Except.ok LifecycleReply.accepted) ∈ h
  | .confirmed, h, ps =>
      (∃ d, (LifecycleCall.configure d, Except.ok LifecycleReply.accepted) ∈ h) ∧
        ConfirmationSeen settings h ps
  | .applied, h, ps =>
      ((∃ d, (LifecycleCall.configure d, Except.ok LifecycleReply.accepted) ∈ h) ∧
        ConfirmationSeen settings h ps) ∧
      ∃ doc c, (LifecycleCall.apply doc c, Except.ok LifecycleReply.accepted) ∈ h

/-- A milestone, once reached, stays reached. -/
theorem Milestone.Holds.append {settings : ScenarioSettings} {m : Milestone}
    {h : List LifecycleExchange} {ps : List (Nat × PromptAnswer)} (hm : m.Holds settings h ps)
    (h' : List LifecycleExchange) (qs : List (Nat × PromptAnswer)) :
    m.Holds settings (h ++ h') (ps ++ qs) := by
  cases m with
  | start => trivial
  | configured =>
    obtain ⟨d, hd⟩ := hm
    exact ⟨d, List.mem_append_left _ hd⟩
  | confirmed =>
    obtain ⟨⟨d, hd⟩, hseen⟩ := hm
    exact ⟨⟨d, List.mem_append_left _ hd⟩, hseen.append h' qs⟩
  | applied =>
    obtain ⟨⟨⟨d, hd⟩, hseen⟩, doc, c, ha⟩ := hm
    exact ⟨⟨⟨d, List.mem_append_left _ hd⟩, hseen.append h' qs⟩, doc, c, List.mem_append_left _ ha⟩

/-- A milestone stays reached as prompts follow. -/
theorem Milestone.Holds.append_prompts {settings : ScenarioSettings} {m : Milestone}
    {h : List LifecycleExchange} {ps : List (Nat × PromptAnswer)} (hm : m.Holds settings h ps)
    (qs : List (Nat × PromptAnswer)) : m.Holds settings h (ps ++ qs) :=
  List.append_nil h ▸ hm.append [] qs

/-! ## Keeping the discipline -/

section Keeps

variable (settings : ScenarioSettings)

/-- A stage keeps the discipline from milestone `m` to `m'`: from a clean history of exchanges
`h` and prompts `ps` at `m`, each call it makes may be made, a run that gives a value leaves a
clean history at `m'`, and a failed run whose history shows a failed pre-check failed with that
pre-check's errors. The stage's prompts join the history after the exchanges of `h`. -/
def Keeps {α : Type} (m : Milestone) (P : Except Failure α → Trace → Prop) (m' : Milestone) :
    Prop :=
  ∀ h ps r t, Clean h → m.Holds settings h ps → P r t →
    (∀ pre x post, t.lifecycle = pre ++ x :: post →
      MayCall settings (h ++ pre) (ps ++ Trace.shiftPrompts h.length t.prompts) x.1) ∧
    (∀ a, r = .ok a → Clean (h ++ t.lifecycle) ∧
      m'.Holds settings (h ++ t.lifecycle) (ps ++ Trace.shiftPrompts h.length t.prompts)) ∧
    (∀ e, r = .error e → ∀ x ∈ h ++ t.lifecycle, ∀ res, FailsCheck x res →
      e = Failure.ofFailedCheck res)

variable {settings} {α β : Type} {m m' m'' : Milestone} {P : Except Failure α → Trace → Prop}
  {Q : α → Except Failure β → Trace → Prop}

/-- Stages in sequence keep the discipline from the first one's milestone to the last one's. -/
theorem Keeps.seq (hP : Keeps settings m P m') (hQ : ∀ a, Keeps settings m' (Q a) m'') :
    Keeps settings m (Trace.Seq P Q) m'' := by
  intro h ps r t hc hm hs
  rcases hs with ⟨e, rfl, hp⟩ | ⟨a, t₁, t₂, hp, hq, -, rfl⟩
  · obtain ⟨hcalls, -, herr⟩ := hP h ps _ t hc hm hp
    refine ⟨hcalls, fun a ha => (by cases ha), fun e' he => ?_⟩
    cases he
    exact herr e rfl
  · obtain ⟨hcalls₁, hok₁, -⟩ := hP h ps _ t₁ hc hm hp
    obtain ⟨hc₁, hm₁⟩ := hok₁ a rfl
    obtain ⟨hcalls₂, hok₂, herr₂⟩ := hQ a _ _ r t₂ hc₁ hm₁ hq
    have hhist : h ++ (t₁.append t₂).lifecycle = h ++ t₁.lifecycle ++ t₂.lifecycle := by
      rw [Trace.append_lifecycle, List.append_assoc]
    -- the second stage's prompts come after the first stage's exchanges
    have hprompts : ps ++ Trace.shiftPrompts h.length (t₁.append t₂).prompts =
        ps ++ Trace.shiftPrompts h.length t₁.prompts ++
          Trace.shiftPrompts (h ++ t₁.lifecycle).length t₂.prompts := by
      simp only [Trace.append_prompts, Trace.shiftPrompts_append, Trace.shiftPrompts_shiftPrompts,
        List.length_append, List.append_assoc]
    refine ⟨fun pre x post hsplit => ?_, fun b hb => by rw [hhist, hprompts]; exact hok₂ b hb,
      fun e he => hhist ▸ herr₂ e he⟩
    rw [Trace.append_lifecycle] at hsplit
    rw [hprompts]
    -- the call is the first stage's, or the second's after all of the first
    rcases split_append hsplit with ⟨post₁, h₁⟩ | ⟨pre₂, h₂, rfl⟩
    · exact (hcalls₁ pre x post₁ h₁).append_prompts _
    · rw [← List.append_assoc]
      exact hcalls₂ pre₂ x post h₂

/-- A stage that calls no pre-check task keeps the history clean; it keeps the discipline when
its apply and cancel calls are permitted at `m` and it reaches `m'` when it gives a value. -/
theorem Keeps.clean
    (hP : ∀ r t, P r t → (∀ x ∈ t.lifecycle, ∀ task, x.1 ≠ .taskInfo task) ∧
      (∀ pre x post, t.lifecycle = pre ++ x :: post → ∀ h ps, m.Holds settings h ps →
        Permits settings (h ++ pre) (ps ++ Trace.shiftPrompts h.length t.prompts) x.1) ∧
      ∀ a h ps, r = .ok a → m.Holds settings h ps →
        m'.Holds settings (h ++ t.lifecycle) (ps ++ Trace.shiftPrompts h.length t.prompts)) :
    Keeps settings m P m' := by
  intro h ps r t hc hm hp
  obtain ⟨htask, hpermits, hreach⟩ := hP r t hp
  have hclean : Clean t.lifecycle := fun x hx res => not_failsCheck (htask x hx) res
  have hall : Clean (h ++ t.lifecycle) := hc.append hclean
  refine ⟨fun pre x post hsplit => ⟨?_, hpermits pre x post hsplit h ps hm⟩,
    fun a ha => ⟨hall, hreach a h ps ha hm⟩, fun e _ x hx res hf => absurd hf (hall x hx res)⟩
  -- what comes before a call of the stage is part of a clean history
  refine hc.append fun y hy res => hclean y ?_ res
  rw [hsplit]
  exact List.mem_append_left _ hy

/-- A stage that calls nothing keeps the discipline, from `m` to any milestone it reaches. -/
theorem Keeps.silent (hl : ∀ r t, P r t → t.lifecycle = [])
    (hreach : ∀ a t h ps, P (.ok a) t → m.Holds settings h ps →
      m'.Holds settings h (ps ++ Trace.shiftPrompts h.length t.prompts)) :
    Keeps settings m P m' := by
  refine Keeps.clean fun r t hp => ?_
  have hlt := hl r t hp
  refine ⟨by simp [hlt], fun pre x post hsplit => by simp [hlt] at hsplit, ?_⟩
  rintro a h ps rfl hm
  rw [hlt, List.append_nil]
  exact hreach a t h ps hp hm

/-- A stage that calls nothing keeps the discipline at its milestone. -/
theorem Keeps.quiet (hl : ∀ r t, P r t → t.lifecycle = []) : Keeps settings m P m :=
  Keeps.silent hl fun _ _ _ _ _ hm => hm.append_prompts _

theorem Keeps.mono {P' : Except Failure α → Trace → Prop} (hk : Keeps settings m P m')
    (h : ∀ r t, P' r t → P r t) : Keeps settings m P' m' :=
  fun hist ps r t hc hm hp => hk hist ps r t hc hm (h r t hp)

theorem Keeps.assoc {γ : Type} {Q : α → Except Failure β → Trace → Prop}
    {R : β → Except Failure γ → Trace → Prop}
    (hk : Keeps settings m (Trace.Seq (Trace.Seq P Q) R) m') :
    Keeps settings m (Trace.Seq P fun a => Trace.Seq (Q a) R) m' :=
  hk.mono fun _ _ h => h.assoc

/-- A stage may end at an earlier milestone than the one it reaches. -/
theorem Keeps.forget (hk : Keeps settings m P m') : Keeps settings m P .start := by
  intro h ps r t hc hm hp
  obtain ⟨hcalls, hok, herr⟩ := hk h ps r t hc hm hp
  exact ⟨hcalls, fun a ha => ⟨(hok a ha).1, trivial⟩, herr⟩

/-- A pre-check and the check of its result keep the discipline: a result with error
notifications fails the run with them. -/
theorem Keeps.checked (doc : Option InitDocument) (b : Budget) :
    Keeps settings m (Trace.Seq (Trace.Checked doc b) Trace.Passed) m := by
  intro h ps r t hc hm hs
  rcases hs with ⟨e, rfl, hp⟩ | ⟨res, t₁, t₂, hp, ⟨hr, hq⟩, -, rfl⟩
  · -- a failed pre-check leaves a clean history
    obtain ⟨hkind, hpre, herr, -⟩ := hp.history
    have hall := hc.append (herr e rfl)
    refine ⟨fun pre x post hsplit => ⟨hc.append (hpre pre x post hsplit), ?_⟩,
      fun a ha => (by cases ha), fun e' _ x hx res hf => absurd hf (hall x hx res)⟩
    exact Permits.of_changesUpgrade (hkind x (by rw [hsplit]; simp))
  · obtain ⟨hkind, hpre, -, hres⟩ := hp.history
    have hl : (t₁.append t₂).lifecycle = t₁.lifecycle := by
      rw [Trace.append_lifecycle, hq.1, List.append_nil]
    -- every failed check in the history is this one's
    have honly : ∀ x ∈ h ++ t₁.lifecycle, ∀ res', FailsCheck x res' → res' = res := by
      intro x hx res' hf
      rcases List.mem_append.mp hx with hx | hx
      · exact absurd hf (hc x hx res')
      · exact hres res rfl x hx res' hf
    rw [hl]
    refine ⟨fun pre x post hsplit => ⟨hc.append (hpre pre x post hsplit), ?_⟩,
      fun a ha => ?_, fun e he x hx res' hf => ?_⟩
    · exact Permits.of_changesUpgrade (hkind x (by rw [hsplit]; simp))
    · -- a passed check has no errors, so no check in the history failed
      rw [ha] at hr
      have herrs : res.notifications.hasErrors = false := by
        cases hE : res.notifications.hasErrors
        · rfl
        · rw [hE, if_pos rfl] at hr
          cases hr
      refine ⟨fun x hx res' hf => ?_, hm.append _ _⟩
      have hsame := honly x hx res' hf
      subst hsame
      obtain ⟨-, -, -, -, hE⟩ := hf
      rw [herrs] at hE
      cases hE
    · have hsame := honly x hx res' hf
      subst hsame
      obtain ⟨-, -, -, -, hE⟩ := hf
      rw [he, hE, if_pos rfl] at hr
      cases hr
      rfl

/-- A run that makes at most the one call `call`, accepted when the run gives a value. -/
def AtMostOne {γ : Type} (call : LifecycleCall) (r : Except Failure γ) (t : Trace) : Prop :=
  (t.lifecycle = [] ∨ ∃ ans, t.lifecycle = [(call, ans)]) ∧
    ∀ a, r = .ok a → t.lifecycle = [(call, .ok .accepted)]

theorem Trace.CalledWithin.atMostOne {call : LifecycleCall} {line : String}
    {r : Except Failure Unit} {t : Trace} (h : Trace.CalledWithin call line r t) :
    AtMostOne call r t := by
  obtain ⟨-, ⟨hl, hr⟩ | ⟨a, hl, hr⟩⟩ := h
  · refine ⟨.inl hl, fun a ha => ?_⟩
    rw [hr] at ha
    cases ha
  · refine ⟨.inr ⟨_, hl⟩, fun u hu => ?_⟩
    cases a with
    | error e =>
      rw [hr] at hu
      cases hu
    | ok v => exact hl

theorem Trace.AppliedSpec.atMostOne {spec : ApplySpec} {r : Except Failure ApplyDocument}
    {t : Trace} (h : Trace.AppliedSpec spec r t) : ∃ doc c, AtMostOne (.apply doc c) r t := by
  unfold Trace.AppliedSpec Trace.AppliedAt at h
  split at h
  · -- an unresolvable spec fails before the call
    obtain ⟨hr, hq⟩ := h
    refine ⟨default, t.start, .inl hq.1, fun a ha => ?_⟩
    rw [hr] at ha
    cases ha
  · next doc _ =>
    -- the call carries the clock read just before it
    obtain ⟨r₀, ⟨hcall, -⟩, hr⟩ := h
    obtain ⟨hone, hok⟩ := hcall.atMostOne
    refine ⟨doc, tick t.start, hone, fun a ha => hok () ?_⟩
    rw [hr] at ha
    cases r₀ with
    | error e => cases ha
    | ok u => rfl

/-- A call with only the one call, permitted at `m` and reaching `m'` when it is accepted,
keeps the discipline. -/
theorem Keeps.atMostOne
    (hP : ∀ r t, P r t → ∃ call, (∀ task, call ≠ .taskInfo task) ∧
      (∀ h ps, m.Holds settings h ps → Permits settings h ps call) ∧
      (∀ h ps, m.Holds settings h ps → m'.Holds settings (h ++ [(call, .ok .accepted)]) ps) ∧
      AtMostOne call r t) :
    Keeps settings m P m' := by
  refine Keeps.clean fun r t hp => ?_
  obtain ⟨call, htask, hpermit, hreach, hone, hok⟩ := hP r t hp
  refine ⟨fun x hx => ?_, fun pre x post hsplit h ps hm => ?_, fun a h ps ha hm => ?_⟩
  · rcases hone with hl | ⟨ans, hl⟩
    · rw [hl] at hx
      cases hx
    · rw [hl, List.mem_singleton] at hx
      rw [hx]
      exact htask
  · -- the only call is the first one
    rcases hone with hl | ⟨ans, hl⟩
    · rw [hl] at hsplit
      simp at hsplit
    · rw [hl] at hsplit
      cases pre with
      | nil =>
        rw [List.nil_append, List.cons.injEq] at hsplit
        rw [← hsplit.1, List.append_nil]
        exact ((hpermit h ps hm).append_prompts _)
      | cons y pre => simp at hsplit
  · rw [hok a ha]
    exact (hreach h ps hm).append_prompts _

theorem Keeps.configured (spec : InitSpec) :
    Keeps settings .start (Trace.Configured spec) .configured := by
  refine Keeps.atMostOne fun _ _ h => ⟨_, ?_, ?_, ?_, h.1.atMostOne⟩
  · intro task htask
    cases htask
  · intro h ps _
    refine permits_of_not (fun doc c happ => ?_) (fun hcancel => ?_)
    · cases happ
    · cases hcancel
  · intro h ps _
    exact ⟨_, List.mem_append_right _ (List.mem_singleton_self _)⟩

theorem Keeps.appliedSpec (spec : ApplySpec) :
    Keeps settings .confirmed (Trace.AppliedSpec spec) .applied := by
  refine Keeps.atMostOne fun _ _ h => ?_
  obtain ⟨doc, c, hone⟩ := h.atMostOne
  refine ⟨_, ?_, fun h ps hm => ⟨fun _ _ _ => hm, fun hcancel => ?_⟩, fun h ps hm => ?_, hone⟩
  · intro task htask
    cases htask
  · cases hcancel
  · obtain ⟨⟨d, hd⟩, hseen⟩ := hm
    exact ⟨⟨⟨d, List.mem_append_left _ hd⟩, List.append_nil ps ▸ hseen.append _ []⟩, doc, c,
      List.mem_append_right _ (List.mem_singleton_self _)⟩

/-- The confirmation passes only when the settings assume yes or the prompt it shows is
answered yes; that prompt comes after every exchange before it. -/
theorem Keeps.confirmed : Keeps settings .configured (Trace.Confirmed settings) .confirmed := by
  refine Keeps.silent (fun _ _ h => h.1) fun u t h ps hp hm => ⟨hm, ?_⟩
  obtain ⟨-, -, -, ⟨hyes, -, -⟩ | ⟨-, answer, hprompts, hr⟩⟩ := hp
  · exact .inl hyes
  · -- only a yes gives a value, and the prompt is placed after the whole history
    cases u
    rw [Scenario.confirmation_eq_ok hr.symm] at hprompts
    refine .inr ⟨h.length, Nat.le_refl _, ?_⟩
    rw [hprompts]
    simp [Trace.shiftPrompts]

/-- Once an apply was accepted, every call is permitted; a stage that looks at no task keeps
the discipline there. -/
theorem Keeps.afterApply (hP : ∀ r t, P r t → ∀ x ∈ t.lifecycle, ∀ task, x.1 ≠ .taskInfo task) :
    Keeps settings .applied P .applied := by
  refine Keeps.clean fun r t hp => ⟨hP r t hp, fun pre x post _ h ps hm => ?_,
    fun _ h ps _ hm => hm.append _ _⟩
  obtain ⟨⟨⟨d, hd⟩, hseen⟩, doc, c, ha⟩ := hm.append pre (Trace.shiftPrompts h.length t.prompts)
  exact ⟨fun _ _ _ => ⟨⟨d, hd⟩, hseen⟩, fun _ => ⟨doc, c, ha⟩⟩

end Keeps

/-! ## What each stage calls -/

theorem AtMostOne.mem {γ : Type} {call : LifecycleCall} {r : Except Failure γ} {t : Trace}
    (h : AtMostOne call r t) : ∀ x ∈ t.lifecycle, x.1 = call := by
  intro x hx
  rcases h.1 with hl | ⟨ans, hl⟩
  · rw [hl] at hx
    cases hx
  · rw [hl, List.mem_singleton] at hx
    rw [hx]

theorem Monitor.Watched.noTask {settings : MonitorSettings} {autocancel : Bool}
    {doc : ApplyDocument} {r : Except Failure MonitorOutcome} {t : Trace}
    (h : Monitor.Watched settings autocancel doc r t) :
    ∀ x ∈ t.lifecycle, ∀ task, x.1 ≠ .taskInfo task := by
  obtain ⟨-, as, hl, -⟩ := h
  intro x hx task
  rw [hl] at hx
  obtain ⟨a, -, rfl⟩ := List.mem_map.mp hx
  exact fun h => by cases h

theorem Trace.AppliedSpec.noTask {spec : ApplySpec} {r : Except Failure ApplyDocument}
    {t : Trace} (h : Trace.AppliedSpec spec r t) :
    ∀ x ∈ t.lifecycle, ∀ task, x.1 ≠ .taskInfo task := by
  obtain ⟨doc, c, hone⟩ := h.atMostOne
  intro x hx task
  rw [hone.mem x hx]
  exact fun h => by cases h

theorem Trace.Cancelled.noTask {r : Except Failure Unit} {t : Trace} (h : Trace.Cancelled r t) :
    ∀ x ∈ t.lifecycle, ∀ task, x.1 ≠ .taskInfo task := by
  intro x hx task
  rw [h.1.atMostOne.mem x hx]
  exact fun h => by cases h

/-- The recovery cancels, or applies the document again, or calls nothing. -/
theorem Trace.Recovered.noTask {reapply : Bool} {doc : ApplyDocument}
    {m : Except Failure MonitorOutcome} {r : Except Failure ScenarioOutcome} {t : Trace}
    (h : Trace.Recovered reapply doc m r t) :
    ∀ x ∈ t.lifecycle, ∀ task, x.1 ≠ .taskInfo task := by
  have hquiet : t.Quiet → ∀ x ∈ t.lifecycle, ∀ task, x.1 ≠ .taskInfo task := by
    intro hq x hx
    rw [hq.1] at hx
    cases hx
  unfold Trace.Recovered at h
  split at h
  · exact hquiet h.1
  · split at h
    · obtain ⟨r₀, hcancel, -⟩ := h
      exact hcancel.noTask
    · split at h
      · obtain ⟨r₀, ⟨hcall, -⟩, -⟩ := h
        intro x hx task
        rw [hcall.atMostOne.mem x hx]
        exact fun h => by cases h
      · exact hquiet h.1
    · exact hquiet h.1

theorem Trace.MonitoredAndRecovered.noTask {s : Session} {autocancel : Bool}
    {doc : ApplyDocument} {reapply : Bool} {r : Except Failure ScenarioOutcome} {t : Trace}
    (h : Trace.MonitoredAndRecovered s autocancel doc reapply r t) :
    ∀ x ∈ t.lifecycle, ∀ task, x.1 ≠ .taskInfo task := by
  obtain ⟨m, t₁, t₂, hw, hrec, -, rfl⟩ := h
  intro x hx
  rcases List.mem_append.mp hx with hx | hx
  · exact hw.noTask x hx
  · exact hrec.noTask x hx

/-- What holds of every exchange of both parts holds of every exchange of a sequence. -/
theorem Flow.Trace.Seq.forall_mem {α β : Type} {P : Except Failure α → Trace → Prop}
    {Q : α → Except Failure β → Trace → Prop} {S : LifecycleExchange → Prop}
    (hP : ∀ r t, P r t → ∀ x ∈ t.lifecycle, S x) (hQ : ∀ a r t, Q a r t → ∀ x ∈ t.lifecycle, S x)
    {r : Except Failure β} {t : Trace} (h : Trace.Seq P Q r t) : ∀ x ∈ t.lifecycle, S x := by
  rcases h with ⟨e, rfl, hp⟩ | ⟨a, t₁, t₂, hp, hq, -, rfl⟩
  · exact hP _ t hp
  · intro x hx
    rcases List.mem_append.mp hx with hx | hx
    · exact hP _ t₁ hp x hx
    · exact hQ a r t₂ hq x hx

/-! ## The scenarios keep the discipline -/

section Scenarios

variable (settings : ScenarioSettings) (request : UpgradeRequest)

/-- The readiness check only pre-checks. -/
theorem Trace.Readiness.calls {r : Except Failure ScenarioOutcome} {t : Trace}
    (h : Trace.Readiness settings request r t) : ∀ x ∈ t.lifecycle, x.1.changesUpgrade = false := by
  have hquiet : ∀ {t : Trace}, t.Quiet → ∀ x ∈ t.lifecycle, x.1.changesUpgrade = false := by
    intro t hq x hx
    rw [hq.1] at hx
    cases hx
  unfold Trace.Readiness at h
  refine h.forall_mem (fun _ t hp x hx => ?_) fun _ _ _ hq => ?_
  · rw [hp.1] at hx
    cases hx
  · refine hq.forall_mem (fun _ _ hc => hc.history.1) fun _ _ _ hrest => ?_
    exact hrest.forall_mem (fun _ _ hp => hquiet hp.2) fun _ _ _ hp => hquiet hp.2

theorem Keeps.readiness : Keeps settings .start (Trace.Readiness settings request) .start := by
  unfold Trace.Readiness
  refine Keeps.seq (Keeps.quiet fun _ _ h => h.1) fun _ => ?_
  exact Keeps.assoc (Keeps.seq (Keeps.checked _ _) fun _ => Keeps.quiet fun _ _ h => h.2.1)

theorem Keeps.fullUpgrade : Keeps settings .start (Trace.FullUpgrade settings request) .applied := by
  unfold Trace.FullUpgrade
  refine Keeps.seq (Keeps.quiet fun _ _ h => h.2.1) fun spec => ?_
  refine Keeps.seq (Keeps.quiet fun _ _ h => h.1) fun _ => ?_
  refine Keeps.assoc (Keeps.seq (Keeps.checked _ _) fun _ => ?_)
  refine Keeps.seq (Keeps.configured _) fun _ => ?_
  refine Keeps.assoc (Keeps.seq (Keeps.checked _ _) fun _ => ?_)
  refine Keeps.seq Keeps.confirmed fun _ => ?_
  refine Keeps.seq (Keeps.appliedSpec _) fun doc => ?_
  exact Keeps.afterApply fun _ _ h => h.noTask

theorem Keeps.uberUpgrade : Keeps settings .start (Trace.UberUpgrade settings request) .start := by
  unfold Trace.UberUpgrade
  split
  · exact Keeps.quiet fun _ _ h => h.2.1
  · refine Keeps.forget (?_ : Keeps settings .start _ .applied)
    refine Keeps.seq (Keeps.quiet fun _ _ h => h.2.1) fun spec => ?_
    refine Keeps.seq (Keeps.quiet fun _ _ h => h.1) fun _ => ?_
    refine Keeps.seq (Keeps.configured _) fun _ => ?_
    refine Keeps.seq Keeps.confirmed fun _ => ?_
    refine Keeps.seq (Keeps.appliedSpec _) fun doc => ?_
    exact Keeps.afterApply fun _ _ h => h.noTask

theorem Keeps.twoPhase : Keeps settings .start (Trace.TwoPhase settings request) .applied := by
  unfold Trace.TwoPhase
  refine Keeps.seq (Keeps.quiet fun _ _ h => h.1) fun _ => ?_
  refine Keeps.seq (Keeps.configured _) fun _ => ?_
  refine Keeps.seq Keeps.confirmed fun _ => ?_
  refine Keeps.seq (Keeps.appliedSpec _) fun prepare => ?_
  refine Keeps.seq (Keeps.afterApply fun _ _ h => h.noTask) fun o => ?_
  -- after the preparation, the switchover is applied only when the upgrade paused
  cases o <;> unfold Trace.AfterPreparation
  · exact Keeps.quiet fun _ _ h => h.2.1
  · exact Keeps.quiet fun _ _ h => h.2.1
  · exact Keeps.seq (Keeps.afterApply fun _ _ h => h.noTask) fun _ =>
      Keeps.afterApply fun _ _ h => h.noTask

theorem Keeps.cancellation :
    Keeps settings .start (Trace.Cancellation settings request) .applied := by
  unfold Trace.Cancellation
  refine Keeps.seq (Keeps.quiet fun _ _ h => h.2.1) fun spec => ?_
  refine Keeps.seq (Keeps.quiet fun _ _ h => h.1) fun _ => ?_
  refine Keeps.seq (Keeps.configured _) fun _ => ?_
  refine Keeps.assoc (Keeps.seq (Keeps.checked _ _) fun _ => ?_)
  refine Keeps.seq Keeps.confirmed fun _ => ?_
  refine Keeps.seq (Keeps.appliedSpec _) fun doc => ?_
  refine Keeps.seq (Keeps.afterApply fun _ _ h => h.noTask) fun _ => ?_
  exact Keeps.afterApply fun _ _ h => h.noTask

theorem Keeps.ofScenario (kind : ScenarioKind) :
    Keeps settings .start (Trace.OfScenario settings kind request) .start := by
  cases kind
  · exact Keeps.readiness settings request
  · exact (Keeps.fullUpgrade settings request).forget
  · exact Keeps.uberUpgrade settings request
  · exact (Keeps.twoPhase settings request).forget
  · exact (Keeps.cancellation settings request).forget

end Scenarios

/-- The safety of a scenario's calls, for every kind, request and settings and whatever the
services and the terminal answer: the lifecycle manager is called only when the plug-in update
succeeds from where the run starts; every call is permitted by the exchanges and prompts before
it (none after a pre-check that returned errors, an apply only after an accepted configure and
a confirmation seen in the run, the settings assuming yes or a prompt before it answered yes, a
cancel only after an accepted apply); a pre-check that returned errors is the run's last
exchange and fails the run with those errors; and the readiness check changes nothing. -/
theorem scenario_call_safety (settings : ScenarioSettings) (kind : ScenarioKind)
    (request : UpgradeRequest) :
    Gated request.init.targetUpgradeRepo settings.pluginBudget (Scenario.run settings kind request) ∧
    (Scenario.run settings kind request).Spec fun r t =>
      (∀ pre x post, t.lifecycle = pre ++ x :: post → MayCall settings pre t.prompts x.1) ∧
      (∀ pre x post res, t.lifecycle = pre ++ x :: post → FailsCheck x res →
        post = [] ∧ r = .error (Failure.ofFailedCheck res)) ∧
      (kind = .readiness → ∀ x ∈ t.lifecycle, x.1.changesUpgrade = false) := by
  have hrun := Settled.run settings request kind
  refine ⟨hrun.gated, hrun.spec.mono fun r t h => ?_⟩
  obtain ⟨hcalls, hok, herr⟩ :=
    Keeps.ofScenario settings request kind [] [] r t Clean.nil trivial h
  refine ⟨fun pre x post hsplit => ?_, fun pre x post res hsplit hf => ⟨?_, ?_⟩, fun hk => ?_⟩
  · have hmay := hcalls pre x post hsplit
    rwa [List.nil_append, List.length_nil, Trace.shiftPrompts_zero, List.nil_append] at hmay
  · -- a call after the failed pre-check would need a clean history before it
    cases post with
    | nil => rfl
    | cons y post =>
      have hmay := hcalls (pre ++ [x]) y post (by rw [hsplit]; simp)
      exact absurd hf (hmay.1 x (by simp) res)
  · have hx : x ∈ [] ++ t.lifecycle := by
      rw [List.nil_append, hsplit]
      simp
    cases r with
    | ok a => exact absurd hf ((hok a rfl).1 x hx res)
    | error e => rw [herr e rfl x hx res hf]
  · subst hk
    exact Trace.Readiness.calls settings request h

end ReducedDowntime
