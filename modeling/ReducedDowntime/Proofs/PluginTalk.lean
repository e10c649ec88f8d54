import ReducedDowntime.Proofs.PrecheckPoll

/-!
# The plug-in update, call by call

The plug-in update talks to the appliance only. Its conversations are listed here once, as the
ways an update can end (`PluginUpdate.Talk`): each with the exchanges it is made of and the
result it ends with.

1. The policy is set to the repository; a failure of the call ends the update.
2. The pending updates are listed. A missing list or an empty one is no update; any other
   failure ends the update.
3. The components of the first pending version are listed; without the plug-in component the
   update does not apply.
4. The plug-in component of that version is staged and installed, once.
5. The state of the update is read, at most once per check of the budget, as the reference
   `PluginUpdate.awaitAnswers` says: up to date ends it, a failed install fails it, and any
   other state is waited out.

A failed call is the last call, and its error is the update's, in the context of its step.

## The proof

* `Flow.Spec.pluginTalk`: every run of the update follows a complete talk, or one cut short
  where the appliance refused the next call. The run is taken a call at a time
  (`talk_call`, `talk_pending`, `talk_poll`), each step carrying the exchanges made so far.
* `Flow.SleepsAfter.pluginUpdate`: the update sleeps the budget's delay once after each state
  it reads that is still going, and at no other time.

`plugin_update_talks` puts both together with the bound on the number of status calls.
-/

namespace ReducedDowntime

open ReducedDowntime.Flow

namespace PluginUpdate

/-! ## The reference -/

/-- What the poll makes of a state of the update: up to date ends it, a failed install fails
it, and any other state leaves it going. -/
def ending : UpdateState → Option (Except UpgradeError Unit)
  | .upToDate => some (.ok ())
  | .installFailed => some (.error (.pluginUpdateFailed "appliance reported INSTALL_FAILED"))
  | _ => none

/-- The update poll over the answers of the status endpoint, with `left` checks left: how it
ends, and the answers it leaves unread; `none` when the answers run out first. -/
def awaitAnswers (b : Budget) :
    Nat → List (Except UpgradeError UpdateStatus) →
      Option (Except UpgradeError Unit × List (Except UpgradeError UpdateStatus))
  | 0, as => some (.error (b.timeout "lifecycle plugin update"), as)
  | _ + 1, [] => none
  | _ + 1, .error e :: as => some (.error e, as)
  | left + 1, .ok s :: as =>
    match ending s.state with
    | some o => some (o, as)
    | none => awaitAnswers b left as

/-- The exchanges of status calls answered in turn by `as`. -/
def updateExchanges (as : List (Except UpgradeError UpdateStatus)) : List ApplianceExchange :=
  as.map fun a => (.updateStatus, a.map .updateStatus)

/-- The policy set to the repository, and accepted. -/
def policySet (repo : String) : ApplianceExchange := (.setPolicy (policyFor repo), .ok .accepted)

/-- The pending updates listed. -/
def pendingListed (us : List UpdateSummary) : ApplianceExchange := (.listPending, .ok (.pending us))

/-- The components of a version listed. -/
def componentsListed (version : String) (cs : List UpgradeableComponent) : ApplianceExchange :=
  (.listComponents version, .ok (.components cs))

/-- The plug-in component of a version staged and installed. -/
def installStarted (version : String) : ApplianceExchange :=
  (.stageAndInstall version component, .ok .accepted)

/-- The complete conversations of a plug-in update from `repo` within `b` with an appliance
that takes every call: the exchanges, in order, and how the update ends. -/
inductive Talk (repo : String) (b : Budget) : List ApplianceExchange → Except Failure PluginUpdate → Prop
  /-- Setting the policy fails. -/
  | policyFailed (e : UpgradeError) :
      Talk repo b [(.setPolicy (policyFor repo), .error e)]
        (.error ((Failure.ofError e).within "Failed to set the appliance update policy"))
  /-- The list of pending updates is missing: no update. -/
  | missingList (path : String) :
      Talk repo b [policySet repo, (.listPending, .error (.notFound path))] (.ok .noUpdates)
  /-- The list of pending updates is empty: no update. -/
  | emptyList : Talk repo b [policySet repo, pendingListed []] (.ok .noUpdates)
  /-- Listing the pending updates fails, other than by a missing list. -/
  | listingFailed (e : UpgradeError) (he : ∀ path, e ≠ .notFound path) :
      Talk repo b [policySet repo, (.listPending, .error e)]
        (.error ((Failure.ofError e).within "Failed to list the pending updates"))
  /-- Listing the components of the first pending version fails. -/
  | componentsFailed (u : UpdateSummary) (us : List UpdateSummary) (e : UpgradeError) :
      Talk repo b [policySet repo, pendingListed (u :: us), (.listComponents u.version, .error e)]
        (.error ((Failure.ofError e).within "Failed to list the upgradeable components"))
  /-- No component of the first pending version is the plug-in: the update does not apply. -/
  | notApplicable (u : UpdateSummary) (us : List UpdateSummary) (cs : List UpgradeableComponent)
      (hcs : ∀ c ∈ cs, c.component ≠ component) :
      Talk repo b [policySet repo, pendingListed (u :: us), componentsListed u.version cs]
        (.ok (.notApplicable u.version))
  /-- Staging and installing the plug-in fails. -/
  | installFailed (u : UpdateSummary) (us : List UpdateSummary) (cs : List UpgradeableComponent)
      (hcs : ∃ c ∈ cs, c.component = component) (e : UpgradeError) :
      Talk repo b [policySet repo, pendingListed (u :: us), componentsListed u.version cs,
          (.stageAndInstall u.version component, .error e)]
        (.error ((Failure.ofError e).within "Failed to start the plugin update"))
  /-- The plug-in is installed, and its state is polled until the poll ends. -/
  | polled (u : UpdateSummary) (us : List UpdateSummary) (cs : List UpgradeableComponent)
      (hcs : ∃ c ∈ cs, c.component = component) (as : List (Except UpgradeError UpdateStatus))
      (o : Except UpgradeError Unit) (ho : awaitAnswers b b.retries.toNat as = some (o, [])) :
      Talk repo b ([policySet repo, pendingListed (u :: us), componentsListed u.version cs,
          installStarted u.version] ++ updateExchanges as)
        ((fun _ => .installed u.version) <$> o.mapError Failure.ofError)

/-! ## Facts about the poll -/

/-- The poll reads at most one answer per check it has. -/
theorem awaitAnswers_reads {b : Budget} {left : Nat} {as rest : List (Except UpgradeError UpdateStatus)}
    {o : Except UpgradeError Unit} (h : awaitAnswers b left as = some (o, rest)) :
    as.length ≤ left + rest.length := by
  induction left generalizing as with
  | zero =>
    simp only [awaitAnswers, Option.some.injEq, Prod.mk.injEq] at h
    simp [h.2]
  | succ left ih =>
    rcases as with _ | ⟨a, as⟩
    · cases h
    cases a with
    | error e =>
      simp only [awaitAnswers, Option.some.injEq, Prod.mk.injEq] at h
      simp only [List.length_cons, h.2]
      omega
    | ok s =>
      -- a final state ends the poll, any other leaves one check fewer
      cases hs : ending s.state with
      | some o' =>
        simp only [awaitAnswers, hs, Option.some.injEq, Prod.mk.injEq] at h
        simp only [List.length_cons, h.2]
        omega
      | none =>
        simp only [awaitAnswers, hs] at h
        have := ih h
        simp only [List.length_cons]
        omega

/-- A poll whose answers ran out ends once the next state read is up to date. -/
theorem awaitAnswers_extend {b : Budget} {left : Nat} {as : List (Except UpgradeError UpdateStatus)}
    (h : awaitAnswers b left as = none) :
    awaitAnswers b left (as ++ [.ok ⟨.upToDate⟩]) = some (.ok (), []) := by
  induction left generalizing as with
  | zero => cases h
  | succ left ih =>
    rcases as with _ | ⟨a, as⟩
    · rfl
    cases a with
    | error e => cases h
    | ok s =>
      cases hs : ending s.state with
      | some o => simp [awaitAnswers, hs] at h
      | none =>
        simp only [awaitAnswers, hs] at h
        simpa only [List.cons_append, awaitAnswers, hs] using ih h

theorem updateExchanges_append (as bs : List (Except UpgradeError UpdateStatus)) :
    updateExchanges (as ++ bs) = updateExchanges as ++ updateExchanges bs :=
  List.map_append

/-- A talk makes at most one status call per check of the budget. -/
theorem Talk.count_status {repo : String} {b : Budget} {xs : List ApplianceExchange}
    {r : Except Failure PluginUpdate} (h : Talk repo b xs r) :
    (xs.map Prod.fst).count .updateStatus ≤ b.retries.toNat := by
  cases h
  case polled u us cs hcs as o ho =>
    have hlen := awaitAnswers_reads ho
    simp only [List.length_nil, Nat.add_zero] at hlen
    have hcount : ((updateExchanges as).map Prod.fst).count .updateStatus = as.length := by
      simp [updateExchanges, Function.comp_def, List.map_const', List.count_replicate_self]
    simp [hcount, policySet, pendingListed, componentsListed, installStarted, hlen]
  all_goals simp [policySet, pendingListed, componentsListed]

end PluginUpdate

/-! ## The update as its trace shows it -/

open PluginUpdate in
/-- The rest of a plug-in update after the exchanges `pre`: it calls the appliance only, and its
exchanges complete a talk that `pre` began, or are cut short by an appliance that refused the
next call of one. -/
def Trace.TalkFrom (repo : String) (b : Budget) (pre : List ApplianceExchange)
    (r : Except Failure PluginUpdate) (t : Trace) : Prop :=
  t.lifecycle = [] ∧ t.stop = t.start ∧
    (Talk repo b (pre ++ t.appliance) r ∨
      r = .error (Failure.halted callLimitText) ∧
        ∃ x xs r', Talk repo b (pre ++ t.appliance ++ x :: xs) r')

/-- The state of the update read until the poll with `left` checks left ends. -/
def Trace.InstallAwaited (b : Budget) (left : Nat) (r : Except Failure Unit) (t : Trace) : Prop :=
  t.lifecycle = [] ∧ t.stop = t.start ∧
    ∃ as, t.appliance = PluginUpdate.updateExchanges as ∧
      Trace.Follows (PluginUpdate.awaitAnswers b left as) r

/-- One state read and what follows it: a final state ends the poll quietly, any other is
waited out with `left` checks left. -/
def Trace.StateRead (b : Budget) (left : Nat) (s : UpdateStatus) (r : Except Failure Unit)
    (t : Trace) : Prop :=
  match PluginUpdate.ending s.state with
  | some o => r = o.mapError Failure.ofError ∧ t.Quiet
  | none => Trace.InstallAwaited b left r t

/-- Listing the pending updates as its trace shows it: one call, or none when the appliance
refuses it; a missing list reads as an empty one, and any other failure carries the step's
context. -/
def Trace.ListedPending (r : Except Failure (List UpdateSummary)) (t : Trace) : Prop :=
  t.lifecycle = [] ∧ t.stop = t.start ∧
    (t.appliance = [] ∧ r = .error (Failure.halted callLimitText) ∨
      (∃ path, t.appliance = [(.listPending, .error (.notFound path))] ∧ r = .ok []) ∨
      (∃ e, (∀ path, e ≠ .notFound path) ∧ t.appliance = [(.listPending, .error e)] ∧
        r = .error ((Failure.ofError e).within "Failed to list the pending updates")) ∨
      ∃ us, t.appliance = [PluginUpdate.pendingListed us] ∧ r = .ok us)

@[simp] theorem Failure.within_halted (text line : String) :
    (Failure.halted text).within line = Failure.halted text := rfl

namespace Flow.Spec

/-- The update poll follows the reference over the states it reads. -/
theorem installAwaited (b : Budget) (left : Nat) :
    (PluginUpdate.awaitInstall b left).Spec (Trace.InstallAwaited b left) := by
  induction left with
  | zero =>
    refine (bind_quiet (Spec.emit _ _ _) (Spec.fail _)).mono ?_
    rintro r t ⟨rfl, hl, ha, hstop, -⟩
    exact ⟨hl, hstop, [], ha, rfl, rfl⟩
  | succ left ih =>
    unfold PluginUpdate.awaitInstall
    refine bind (Spec.askAppliance .updateStatus fun _ => rfl)
      (fun s => (?_ : Spec _ (Trace.StateRead b left s))) ?_ ?_
    · -- the model reads the state, the reference reads it the same way
      unfold Trace.StateRead
      cases s.state
      case upToDate => exact Spec.emit _ _ _
      case installFailed => exact bind_quiet (Spec.emit _ _ _) (Spec.fail _)
      case stageInProgress | installInProgress =>
        exact bind_quiet (Spec.emit _ _ _) (bind_quiet (Spec.sleep _) ih)
      all_goals exact bind_quiet (Spec.sleep _) ih
    · -- a refused or failed call ends the poll
      rintro e t ⟨hl, hstop, ⟨ha, he⟩ | ⟨a, ha, he⟩⟩
      · cases he
        exact ⟨hl, hstop, [], ha, rfl⟩
      · cases a with
        | ok s => cases he
        | error e' =>
          cases he
          exact ⟨hl, hstop, [.error e'], ha, rfl, rfl⟩
    · rintro s t₁ r t₂ ⟨hl, hstop, ⟨-, he⟩ | ⟨a, ha, he⟩⟩ hread hs
      · cases he
      · cases a with
        | error e => cases he
        | ok s' =>
          cases he
          unfold Trace.StateRead at hread
          -- the state read here comes first, then those the rest of the poll reads
          rcases hend : PluginUpdate.ending s.state with _ | o <;> rw [hend] at hread
          · obtain ⟨hl₂, hstop₂, as, ha₂, hf⟩ := hread
            refine ⟨by simp [hl, hl₂], by simp [hstop₂, ← hs, hstop], .ok s :: as, ?_, ?_⟩
            · simp [ha, ha₂, PluginUpdate.updateExchanges]
            · simpa only [PluginUpdate.awaitAnswers, hend] using hf
          · obtain ⟨rfl, hq⟩ := hread
            rw [hq.append_right hs]
            refine ⟨hl, hstop, [.ok s], ha, ?_⟩
            simp [Trace.Follows, PluginUpdate.awaitAnswers, hend]

/-- Listing the pending updates: a missing list is none, and any other failure is reported in
its context. -/
theorem listedPending : PluginUpdate.pendingUpdates.Spec Trace.ListedPending := by
  unfold PluginUpdate.pendingUpdates
  refine tryCatch (Spec.askAppliance .pending fun _ => rfl)
    (fun f => (?_ : Spec _ fun r t => t.Quiet ∧
      ((∃ path, f.error? = some (.notFound path) ∧ r = .ok []) ∨
        (∀ path, f.error? ≠ some (.notFound path)) ∧
          r = .error (f.within "Failed to list the pending updates")))) ?_ ?_
  · split
    · next path hp => exact (Spec.pure _).mono fun _ _ ⟨hr, hq⟩ => ⟨hq, .inl ⟨path, hp, hr⟩⟩
    · next hp =>
      exact (Spec.throw _).mono fun _ _ ⟨hr, hq⟩ => ⟨hq, .inr ⟨fun path h => hp path h, hr⟩⟩
  · rintro us t ⟨hl, hstop, ⟨-, he⟩ | ⟨a, ha, he⟩⟩
    · cases he
    · cases a with
      | error e => cases he
      | ok us' =>
        cases he
        exact ⟨hl, hstop, .inr (.inr (.inr ⟨_, by simpa [PluginUpdate.pendingListed] using ha, rfl⟩))⟩
  · rintro f t₁ r t₂ ⟨hl, hstop, hcall⟩ ⟨hq, hend⟩ hs
    rw [hq.append_right hs]
    rcases hcall with ⟨ha, hf⟩ | ⟨a, ha, hf⟩
    · -- a refused call: the handler passes the halt on
      cases hf
      rcases hend with ⟨path, hp, -⟩ | ⟨-, rfl⟩
      · cases hp
      · exact ⟨hl, hstop, .inl ⟨ha, rfl⟩⟩
    · cases a with
      | ok us => cases hf
      | error e =>
        cases hf
        rcases hend with ⟨path, hp, rfl⟩ | ⟨hne, rfl⟩
        · cases hp
          exact ⟨hl, hstop, .inr (.inl ⟨path, by simpa using ha, rfl⟩)⟩
        · exact ⟨hl, hstop, .inr (.inr (.inl ⟨e, fun path h => hne path (by rw [h]; rfl),
            by simpa using ha, rfl⟩))⟩

section Talk

variable {repo : String} {b : Budget}

open PluginUpdate

/-- A run that ends quietly with the result of a talk that `pre` completes. -/
theorem talk_quiet {f : Flow PluginUpdate} {x : PluginUpdate} {pre : List ApplianceExchange}
    (hf : f.Spec fun r t => r = .ok x ∧ t.Quiet) (h : Talk repo b pre (.ok x)) :
    f.Spec (Trace.TalkFrom repo b pre) :=
  hf.mono fun _ _ ⟨hr, hl, ha, hstop, _⟩ => ⟨hl, hstop, .inl (by rw [ha, List.append_nil, hr]; exact h)⟩

/-- One call inside a context line, then the rest: a failed call ends a talk with its error in
context, a refused one cuts a talk short, and an answered one carries the talk on. -/
theorem talk_call {α : Type} {call : ApplianceCall} {endpoint : ApplianceService → Script α}
    {advance : ApplianceService → Script α → ApplianceService} {wrap : α → ApplianceReply}
    {line : String} {g : α → Flow PluginUpdate} {pre : List ApplianceExchange}
    (h : ∀ s, s.answer call = ((endpoint s).next.1.map wrap, advance s (endpoint s).next.2))
    (hfail : ∀ e, Talk repo b (pre ++ [(call, .error e)]) (.error ((Failure.ofError e).within line)))
    (hg : ∀ a, (g a).Spec (Trace.TalkFrom repo b (pre ++ [(call, .ok (wrap a))]))) :
    (Flow.within line (Flow.askAppliance call endpoint advance) >>= g).Spec
      (Trace.TalkFrom repo b pre) := by
  refine bind (Spec.within line (Spec.askAppliance wrap h)) hg ?_ ?_
  · rintro e t ⟨r₀, ⟨hl, hstop, ⟨ha, rfl⟩ | ⟨a, ha, rfl⟩⟩, he⟩
    · -- the appliance refused the call, which a talk makes next
      cases he
      refine ⟨hl, hstop, .inr ⟨rfl, (call, .error .userCancelled), [],
        .error ((Failure.ofError .userCancelled).within line), ?_⟩⟩
      simpa [ha] using hfail .userCancelled
    · cases a with
      | ok v => cases he
      | error e' =>
        cases he
        exact ⟨hl, hstop, .inl (by simpa [ha] using hfail e')⟩
  · rintro a t₁ r t₂ ⟨r₀, ⟨hl, hstop, ⟨-, rfl⟩ | ⟨a', ha, rfl⟩⟩, he⟩ ⟨hl₂, hstop₂, hrest⟩ hs
    · cases he
    · cases a' with
      | error e => cases he
      | ok v =>
        cases he
        refine ⟨by simp [hl, hl₂], by simp [hstop₂, ← hs, hstop], ?_⟩
        simpa [ha, List.append_assoc] using hrest

/-- Listing the pending updates, then the rest: a missing list reads as an empty one, any other
failure ends a talk in context, and a refused call cuts a talk short. -/
theorem talk_pending {g : List UpdateSummary → Flow PluginUpdate} {pre : List ApplianceExchange}
    (hfail : ∀ e, (∀ path, e ≠ .notFound path) →
      Talk repo b (pre ++ [(.listPending, .error e)])
        (.error ((Failure.ofError e).within "Failed to list the pending updates")))
    (hnone : (∀ path, Talk repo b (pre ++ [(.listPending, .error (.notFound path))]) (.ok .noUpdates)) ∧
      Talk repo b (pre ++ [pendingListed []]) (.ok .noUpdates))
    (hempty : (g []).Spec fun r t => r = .ok .noUpdates ∧ t.Quiet)
    (hg : ∀ u us, (g (u :: us)).Spec (Trace.TalkFrom repo b (pre ++ [pendingListed (u :: us)]))) :
    (PluginUpdate.pendingUpdates >>= g).Spec (Trace.TalkFrom repo b pre) := by
  refine bind listedPending
    (Q := fun us r t => (us = [] → r = .ok .noUpdates ∧ t.Quiet) ∧
      ∀ u us', us = u :: us' → Trace.TalkFrom repo b (pre ++ [pendingListed us]) r t)
    (fun us => ?_) ?_ ?_
  · cases us with
    | nil => exact hempty.mono fun _ _ h => ⟨fun _ => h, fun _ _ h => (by cases h)⟩
    | cons u us => exact (hg u us).mono fun _ _ h => ⟨fun h => (by cases h), fun _ _ _ => h⟩
  · rintro e t ⟨hl, hstop, ⟨ha, he⟩ | ⟨path, -, he⟩ | ⟨e', hne, ha, he⟩ | ⟨us, -, he⟩⟩
    · -- refused: a talk would list the pending updates next
      cases he
      refine ⟨hl, hstop, .inr ⟨rfl, (.listPending, .error .userCancelled), [],
        .error ((Failure.ofError .userCancelled).within "Failed to list the pending updates"), ?_⟩⟩
      simpa [ha] using hfail .userCancelled fun _ h => by cases h
    · cases he
    · cases he
      exact ⟨hl, hstop, .inl (by simpa [ha] using hfail e' hne)⟩
    · cases he
  · rintro us t₁ r t₂ ⟨hl, hstop, ⟨-, he⟩ | ⟨path, ha, he⟩ | ⟨e', -, -, he⟩ | ⟨us', ha, he⟩⟩
      ⟨hempty', hlisted⟩ hs
    · cases he
    · -- a missing list is no update, with no further call
      cases he
      obtain ⟨rfl, hq⟩ := hempty' rfl
      rw [hq.append_right hs]
      exact ⟨hl, hstop, .inl (by simpa [ha] using hnone.1 path)⟩
    · cases he
    · cases he
      cases us with
      | nil =>
        obtain ⟨rfl, hq⟩ := hempty' rfl
        rw [hq.append_right hs]
        exact ⟨hl, hstop, .inl (by simpa [ha] using hnone.2)⟩
      | cons u us =>
        obtain ⟨hl₂, hstop₂, hrest⟩ := hlisted u us rfl
        refine ⟨by simp [hl, hl₂], by simp [hstop₂, ← hs, hstop], ?_⟩
        simpa [ha, List.append_assoc] using hrest

/-- The poll after the install, then the installed version: a poll that ends completes a talk,
and one whose answers ran out was cut short by a refused call. -/
theorem talk_poll {v : String} {pre : List ApplianceExchange}
    (hpolled : ∀ as o, awaitAnswers b b.retries.toNat as = some (o, []) →
      Talk repo b (pre ++ updateExchanges as) ((fun _ => .installed v) <$> o.mapError Failure.ofError)) :
    (PluginUpdate.awaitInstall b b.retries.toNat >>= fun _ => Pure.pure (PluginUpdate.installed v)).Spec
      (Trace.TalkFrom repo b pre) := by
  refine (bind_quiet_right (installAwaited b _) fun _ => Spec.pure _).mono ?_
  rintro r t ⟨r₀, ⟨hl, hstop, as, ha, hf⟩, rfl⟩
  refine ⟨hl, hstop, ?_⟩
  rw [ha]
  cases hpoll : awaitAnswers b b.retries.toNat as with
  | some p =>
    obtain ⟨o, rest⟩ := p
    simp only [hpoll, Trace.Follows] at hf
    obtain ⟨rfl, rfl⟩ := hf
    exact .inl (hpolled as o hpoll)
  | none =>
    simp only [hpoll, Trace.Follows] at hf
    subst hf
    -- the appliance refused the next status call; an up-to-date state there ends the poll
    refine .inr ⟨rfl, (.updateStatus, .ok (.updateStatus ⟨.upToDate⟩)), [],
      (fun _ => .installed v) <$> (Except.ok () : Except UpgradeError Unit).mapError Failure.ofError, ?_⟩
    have h := hpolled _ _ (awaitAnswers_extend hpoll)
    simpa [updateExchanges_append, updateExchanges, List.append_assoc] using h

end Talk

/-- **The plug-in update follows its talk.** Every run of the update from `repo` within `b`
calls the appliance only, and its exchanges are those of a complete talk, with its result, or
those of a talk cut short where the appliance refused the next call. -/
theorem pluginTalk (repo : String) (b : Budget) :
    (PluginUpdate.run repo b).Spec (Trace.TalkFrom repo b []) := by
  unfold PluginUpdate.run
  refine bind_quiet (Spec.emit _ _ _) ?_
  refine talk_call (fun _ => rfl) PluginUpdate.Talk.policyFailed fun _ => ?_
  refine bind_quiet (Spec.emit _ _ _) ?_
  refine talk_pending (fun e he => PluginUpdate.Talk.listingFailed e he)
    ⟨PluginUpdate.Talk.missingList, PluginUpdate.Talk.emptyList⟩
    (bind_quiet (Spec.emit _ _ _) (Spec.pure _)) fun u us => ?_
  refine bind_quiet (Spec.emit _ _ _) ?_
  refine talk_call (fun _ => rfl) (PluginUpdate.Talk.componentsFailed u us) fun cs => ?_
  refine bind_quiet (Spec.emit _ _ _) ?_
  -- the plug-in component decides whether the update applies
  split
  · next hnone =>
    refine talk_quiet (bind_quiet (Spec.emit _ _ _) (Spec.pure _))
      (PluginUpdate.Talk.notApplicable u us cs ?_)
    simpa using hnone
  · next hsome =>
    have hcs : ∃ c ∈ cs, c.component = PluginUpdate.component := by simpa using hsome
    refine bind_quiet (Spec.emit _ _ _) ?_
    refine talk_call (fun _ => rfl) (PluginUpdate.Talk.installFailed u us cs hcs) fun _ => ?_
    refine bind_quiet (Spec.emit _ _ _) ?_
    exact talk_poll fun as o ho => PluginUpdate.Talk.polled u us cs hcs as o ho

end Flow.Spec

/-! ## Sleeps -/

/-- Whether an exchange read a state of the update that is still going, after which the poll
sleeps. -/
def readsPendingState : ApplianceExchange → Bool
  | (.updateStatus, .ok (.updateStatus s)) => (PluginUpdate.ending s.state).isNone
  | _ => false

/-- A call the appliance takes moves the world by that call. -/
theorem moved_applianceCall (call : ApplianceCall) (w : World) :
    Moved w { w with appliance := (w.appliance.answer call).2,
                     applianceCalls := w.applianceCalls.push call } [] [call] [] :=
  ⟨by simp, rfl, by simp, rfl, by simp⟩

namespace Flow

variable {α β : Type}

/-- Every run of `f` calls the appliance only, and sleeps `d` seconds once after each of its
exchanges that `p` marks, and at no other time. -/
def SleepsAfter (p : ApplianceExchange → Bool) (d : Nat) (f : Flow α) : Prop :=
  ∀ w, ∃ ds, Moved w (f.run w).2 [] ds [] ∧
    (f.run w).2.slept = w.slept + (w.appliance.exchanges ds).countP p * d

namespace SleepsAfter

variable {p : ApplianceExchange → Bool} {d : Nat} {f : Flow α}

/-- A step that neither calls a service nor sleeps. -/
theorem still (h : ∀ w, SameCalls w (f.run w).2 ∧ (f.run w).2.slept = w.slept) :
    SleepsAfter p d f :=
  fun w => ⟨[], Moved.of_same (h w).1, by simp [(h w).2]⟩

/-- The calls and sleeps of two runs in turn add up. -/
theorem append {w w₁ w₂ : World} {ds ds' : List ApplianceCall} (hm : Moved w w₁ [] ds [])
    (hs : w₁.slept = w.slept + (w.appliance.exchanges ds).countP p * d)
    (hm' : Moved w₁ w₂ [] ds' [])
    (hs' : w₂.slept = w₁.slept + (w₁.appliance.exchanges ds').countP p * d) :
    Moved w w₂ [] (ds ++ ds') [] ∧
      w₂.slept = w.slept + (w.appliance.exchanges (ds ++ ds')).countP p * d := by
  refine ⟨by simpa using hm.trans hm', ?_⟩
  rw [hs', hs, hm.appliance]
  simp only [ApplianceService.exchanges, ApplianceService.after, Conversation.exchanges_append,
    List.countP_append, Nat.add_mul]
  omega

theorem bind {g : α → Flow β} (hf : SleepsAfter p d f) (hg : ∀ a, SleepsAfter p d (g a)) :
    SleepsAfter p d (f >>= g) := by
  intro w
  obtain ⟨ds, hm, hs⟩ := hf w
  rcases hr : f.run w with ⟨r, w₁⟩
  rw [hr] at hm hs
  cases r with
  | error e => exact ⟨ds, by simpa [hr] using hm, by simpa [hr] using hs⟩
  | ok a =>
    obtain ⟨ds', hm', hs'⟩ := hg a w₁
    obtain ⟨hm'', hs''⟩ := append hm hs hm' hs'
    exact ⟨ds ++ ds', by simpa [hr] using hm'', by simpa [hr] using hs''⟩

theorem tryCatch {h : Failure → Flow α} (hf : SleepsAfter p d f) (hh : ∀ e, SleepsAfter p d (h e)) :
    SleepsAfter p d (tryCatch f h) := by
  intro w
  obtain ⟨ds, hm, hs⟩ := hf w
  rcases hr : f.run w with ⟨r, w₁⟩
  rw [hr] at hm hs
  cases r with
  | ok a => exact ⟨ds, by simpa [hr] using hm, by simpa [hr] using hs⟩
  | error e =>
    obtain ⟨ds', hm', hs'⟩ := hh e w₁
    obtain ⟨hm'', hs''⟩ := append hm hs hm' hs'
    exact ⟨ds ++ ds', by simpa [hr] using hm'', by simpa [hr] using hs''⟩

theorem pure (a : α) : SleepsAfter p d (Pure.pure a : Flow α) :=
  still fun _ => ⟨⟨rfl, rfl, rfl, rfl, rfl⟩, rfl⟩

theorem throw (e : Failure) : SleepsAfter p d (MonadExcept.throw e : Flow α) :=
  still fun _ => ⟨⟨rfl, rfl, rfl, rfl, rfl⟩, rfl⟩

theorem fail (e : UpgradeError) : SleepsAfter p d (Flow.fail e : Flow α) :=
  still fun _ => ⟨⟨rfl, rfl, rfl, rfl, rfl⟩, rfl⟩

theorem emit (level : Level) (source : Source) (text : String) :
    SleepsAfter p d (Flow.emit level source text) :=
  still fun _ => ⟨⟨rfl, rfl, rfl, rfl, rfl⟩, rfl⟩

theorem within (line : String) (hf : SleepsAfter p d f) : SleepsAfter p d (Flow.within line f) :=
  tryCatch hf fun _ => throw _

/-- A call whose exchanges are never marked. -/
theorem askAppliance {call : ApplianceCall} {endpoint : ApplianceService → Script α}
    {advance : ApplianceService → Script α → ApplianceService} (wrap : α → ApplianceReply)
    (h : ∀ s, s.answer call = ((endpoint s).next.1.map wrap, advance s (endpoint s).next.2))
    (hp : ∀ a, p (call, a) = false) : SleepsAfter p d (Flow.askAppliance call endpoint advance) := by
  intro w
  rw [run_askAppliance]
  split
  · exact ⟨[], Moved.refl w, by simp⟩
  · refine ⟨[call], ⟨by simp, rfl, by simp, by simp [h], by simp⟩, ?_⟩
    simp [hp]

/-- The update poll sleeps the budget's delay once after each state it reads that is still
going. -/
theorem awaitInstall (b : Budget) (left : Nat) :
    SleepsAfter readsPendingState b.delay.toNanos (PluginUpdate.awaitInstall b left) := by
  induction left with
  | zero => exact bind (emit _ _ _) fun _ => fail _
  | succ left ih =>
    intro w
    by_cases hlim : overLimit w.appliance.callLimit w.applianceCalls.size
    · -- a refused call ends the poll with no call
      simp only [PluginUpdate.awaitInstall, run_bind, Appliance.updateStatus, run_askAppliance, hlim,
        if_true]
      exact ⟨[], Moved.refl w, by simp⟩
    have hmoved := moved_applianceCall .updateStatus w
    rcases ha : w.appliance.updateStatus.next.1 with e | s <;>
      simp only [PluginUpdate.awaitInstall, run_bind, Appliance.updateStatus, run_askAppliance, hlim,
        Bool.false_eq_true, if_false, ha, mapError_error, mapError_ok]
    · -- a failed call ends the poll
      exact ⟨_, hmoved, by simp [ApplianceService.answer, ha, readsPendingState]⟩
    -- the poll reads the state as the reference does
    cases hs : s.state <;>
      simp only [run_bind, run_emit, run_sleep, run_fail, UpdateState.inProgress,
        if_true, if_false, Bool.false_eq_true]
    case upToDate | installFailed =>
      exact ⟨_, hmoved.same_right (by exact ⟨rfl, rfl, rfl, rfl, rfl⟩), by
        simp [ApplianceService.answer, ha, readsPendingState, PluginUpdate.ending, hs]⟩
    all_goals
      obtain ⟨ds, hds, hslept⟩ := ih _
      refine ⟨_, (hmoved.same_right (by exact ⟨rfl, rfl, rfl, rfl, rfl⟩)).trans hds, ?_⟩
      rw [hslept]
      simp only [List.singleton_append, ApplianceService.exchanges, Conversation.exchanges_cons,
        List.countP_cons, ApplianceService.answer, ha, map_ok, readsPendingState, PluginUpdate.ending, hs,
        Option.isNone_none, if_true, Nat.add_mul, Nat.one_mul]
      omega

/-- The plug-in update sleeps the budget's delay once after each state of the update it reads
that is still going, and at no other time. -/
theorem pluginUpdate (repo : String) (b : Budget) :
    SleepsAfter readsPendingState b.delay.toNanos (PluginUpdate.run repo b) := by
  have hcall {γ : Type} {call : ApplianceCall} {endpoint : ApplianceService → Script γ}
      {advance : ApplianceService → Script γ → ApplianceService} {wrap : γ → ApplianceReply}
      (h : ∀ s, s.answer call = ((endpoint s).next.1.map wrap, advance s (endpoint s).next.2))
      (hc : call ≠ .updateStatus) (line : String) :
      SleepsAfter readsPendingState b.delay.toNanos
        (Flow.within line (Flow.askAppliance call endpoint advance)) :=
    within line (askAppliance wrap h fun a => by
      cases call <;> simp_all [readsPendingState])
  unfold PluginUpdate.run PluginUpdate.pendingUpdates
  refine bind (emit _ _ _) fun _ => bind (hcall (fun _ => rfl) (by simp) _) fun _ =>
    bind (emit _ _ _) fun _ => bind ?_ fun pending => ?_
  · refine tryCatch (askAppliance _ (fun _ => rfl) fun a => by simp [readsPendingState]) fun f => ?_
    split
    · exact pure _
    · exact throw _
  split
  · exact bind (emit _ _ _) fun _ => pure _
  · refine bind (emit _ _ _) fun _ => bind (hcall (fun _ => rfl) (by simp) _) fun _ =>
      bind (emit _ _ _) fun _ => ?_
    split
    · exact bind (emit _ _ _) fun _ => pure _
    · exact bind (emit _ _ _) fun _ => bind (hcall (fun _ => rfl) (by simp) _) fun _ =>
        bind (emit _ _ _) fun _ => bind (awaitInstall _ _) fun _ => pure _

end SleepsAfter

end Flow

/-- **Updating the plug-in.** A run of the plug-in update from `repo` within the budget `b`
calls the appliance only. Its exchanges are those of a complete `PluginUpdate.Talk`, with its
result, or those of one cut short where the appliance refused the next call: the policy set
once to the repository, without automatic staging, with certificate checks and no schedule;
no update when the pending list is missing or empty; the components of the first pending
version listed, and the update not applicable without the plug-in component; otherwise the
plug-in staged and installed once and its state read until the first up-to-date state
(installed), the first failed install (its failure) or, after the budget's checks of other
states, the timeout of `b`; and the first failed call the last, its error that of the update.
It reads the state at most once per check of the budget, and it sleeps the budget's delay once
after each state it reads that is still going, and at no other time. -/
theorem plugin_update_talks (repo : String) (b : Budget) (w : World) :
    ∃ ds, Moved w ((PluginUpdate.run repo b).run w).2 [] ds [] ∧
      Trace.TalkFrom repo b [] ((PluginUpdate.run repo b).run w).1
        (w.traceTo ((PluginUpdate.run repo b).run w).2 [] ds []) ∧
      ds.count .updateStatus ≤ b.retries.toNat ∧
      ((PluginUpdate.run repo b).run w).2.slept =
        w.slept + (w.appliance.exchanges ds).countP readsPendingState * b.delay.toNanos := by
  obtain ⟨cs, ds, ps, hm, htalk⟩ := Flow.Spec.pluginTalk repo b w
  obtain ⟨ds', hm', hslept⟩ := Flow.SleepsAfter.pluginUpdate repo b w
  -- both facts speak of the calls the run made
  obtain ⟨rfl, rfl, rfl⟩ := hm.calls_unique hm'
  refine ⟨ds, hm, htalk, ?_, hslept⟩
  -- the status calls are those of a talk, or of the first part of one
  obtain ⟨-, -, h | ⟨-, x, xs, r', h⟩⟩ := htalk
  · simpa [World.traceTo] using h.count_status
  · have hcount := h.count_status
    simp only [World.traceTo, List.nil_append, List.map_append, Conversation.map_fst_exchanges]
      at hcount
    exact Nat.le_trans ((List.sublist_append_left ds _).count_le _) hcount

end ReducedDowntime
