import ReducedDowntime.Flow.Scenario

/-!
# Running a flow

A flow is run from a world and gives a result and a new world. The equations here say what
each combinator of `Flow` and each of its primitives does to the world, so that later proofs
rewrite with them and never unfold the monad.

The primitives that touch a service first check the service's call limit: a service over its
limit refuses the call and the run stops; otherwise the call is recorded and the endpoint's
script moves on by one answer. A prompt reads the terminal's next answer and records it.
-/

namespace ReducedDowntime.Flow

variable {α β : Type}

/-! ## Combinators -/

@[simp] theorem run_pure (a : α) (w : World) : (pure a : Flow α).run w = (.ok a, w) := rfl

@[simp] theorem run_throw (e : Failure) (w : World) : (throw e : Flow α).run w = (.error e, w) :=
  rfl

@[simp] theorem run_bind (f : Flow α) (g : α → Flow β) (w : World) :
    (f >>= g).run w =
      match f.run w with
      | (.ok a, w') => (g a).run w'
      | (.error e, w') => (.error e, w') := by
  simp only [Flow.run, ExceptT.run_bind]
  rcases h : (ExceptT.run f).run w with ⟨r, w'⟩
  cases r <;> simp_all [StateT.run_bind] <;> rfl

@[simp] theorem run_map (g : α → β) (f : Flow α) (w : World) :
    (g <$> f).run w =
      match f.run w with
      | (.ok a, w') => (.ok (g a), w')
      | (.error e, w') => (.error e, w') := by
  rw [← bind_pure_comp, run_bind]
  rcases f.run w with ⟨r, w'⟩
  cases r <;> rfl

@[simp] theorem run_tryCatch (f : Flow α) (h : Failure → Flow α) (w : World) :
    (tryCatch f h).run w =
      match f.run w with
      | (.ok a, w') => (.ok a, w')
      | (.error e, w') => (h e).run w' := by
  simp only [Flow.run, ExceptT.run_tryCatch]
  rcases hf : (ExceptT.run f).run w with ⟨r, w'⟩
  cases r <;> simp_all [StateT.run_bind] <;> rfl

@[simp] theorem run_modify (g : World → World) (w : World) :
    (modify g : Flow Unit).run w = (.ok (), g w) := rfl

@[simp] theorem run_modifyGet (g : World → α × World) (w : World) :
    (modifyGet g : Flow α).run w = (.ok (g w).1, (g w).2) := rfl

@[simp] theorem run_get (w : World) : (get : Flow World).run w = (.ok w, w) := rfl

@[simp] theorem run_set (w' w : World) : (set w' : Flow PUnit).run w = (.ok ⟨⟩, w') := rfl

/-! ## Failures -/

@[simp] theorem mapError_ok {ε ε' : Type} (f : ε → ε') (a : α) :
    (Except.ok a : Except ε α).mapError f = .ok a := rfl

@[simp] theorem mapError_error {ε ε' : Type} (f : ε → ε') (e : ε) :
    (Except.error e : Except ε α).mapError f = .error (f e) := rfl

@[simp] theorem map_ok {ε : Type} (f : α → β) (a : α) :
    (Except.ok a : Except ε α).map f = .ok (f a) := rfl

@[simp] theorem map_error {ε : Type} (f : α → β) (e : ε) :
    (Except.error e : Except ε α).map f = .error e := rfl

@[simp] theorem error?_ofError (e : UpgradeError) : (Failure.ofError e).error? = some e := rfl

@[simp] theorem run_ofExcept (r : Except UpgradeError α) (w : World) :
    (ofExcept r).run w = (r.mapError Failure.ofError, w) := by
  cases r <;> rfl

@[simp] theorem run_fail (e : UpgradeError) (w : World) :
    (fail e : Flow α).run w = (.error (Failure.ofError e), w) := rfl

@[simp] theorem run_halt (text : String) (w : World) :
    (halt text : Flow α).run w = (.error (Failure.halted text), w) := rfl

@[simp] theorem run_within (line : String) (f : Flow α) (w : World) :
    (within line f).run w =
      match f.run w with
      | (.ok a, w') => (.ok a, w')
      | (.error e, w') => (.error (e.within line), w') := by
  simp only [within, run_tryCatch]
  rcases f.run w with ⟨r, w'⟩
  cases r <;> rfl

/-! ## Log, output, sleep and clock -/

@[simp] theorem run_emit (level : Level) (source : Source) (text : String) (w : World) :
    (emit level source text).run w = (.ok (), { w with log := w.log.push ⟨level, source, text⟩ }) :=
  rfl

@[simp] theorem run_logged (l : Logged α) (w : World) :
    (logged l).run w = (.ok l.value, { w with log := w.log ++ l.lines.toArray }) := rfl

@[simp] theorem run_print (text : String) (w : World) :
    (print text).run w = (.ok (), { w with printed := w.printed ++ text }) := rfl

@[simp] theorem run_sleep (d : Time.Duration) (w : World) :
    (sleep d).run w = (.ok (), { w with slept := w.slept + d.toNanos }) := rfl

/-- The instant a clock reads next: one nanosecond later, or the same at the end of time. -/
def tick (t : Time.Instant) : Time.Instant := (t.addNanos 1).getD t

@[simp] theorem run_readClock (w : World) :
    readClock.run w = (.ok w.clock, { w with clock := tick w.clock }) := rfl

/-! ## The terminal -/

@[simp] theorem run_prompt (w : World) :
    prompt.run w =
      (.ok (w.terminal.headD .noTerminal),
        { w with terminal := w.terminal.tail,
                 prompts := w.prompts.push (w.lifecycleCalls.size, w.terminal.headD .noTerminal) }) :=
  rfl

@[simp] theorem run_liftExcept (r : Except Failure α) (w : World) :
    (MonadExcept.ofExcept r : Flow α).run w = (r, w) := by
  cases r <;> rfl

/-! ## Calls -/

theorem run_askLifecycle (call : LifecycleCall) (endpoint : LifecycleService → Script α)
    (advance : LifecycleService → Script α → LifecycleService) (w : World) :
    (askLifecycle call endpoint advance).run w =
      if overLimit w.lifecycle.callLimit w.lifecycleCalls.size then
        (.error (Failure.halted callLimitText), w)
      else
        ((endpoint w.lifecycle).next.1.mapError Failure.ofError,
          { w with lifecycle := advance w.lifecycle (endpoint w.lifecycle).next.2,
                   lifecycleCalls := w.lifecycleCalls.push call }) := by
  unfold askLifecycle
  simp only [run_bind, run_get]
  split
  · simp [halt]
  · simp only [run_bind, run_set, run_ofExcept]

theorem run_askAppliance (call : ApplianceCall) (endpoint : ApplianceService → Script α)
    (advance : ApplianceService → Script α → ApplianceService) (w : World) :
    (askAppliance call endpoint advance).run w =
      if overLimit w.appliance.callLimit w.applianceCalls.size then
        (.error (Failure.halted callLimitText), w)
      else
        ((endpoint w.appliance).next.1.mapError Failure.ofError,
          { w with appliance := advance w.appliance (endpoint w.appliance).next.2,
                   applianceCalls := w.applianceCalls.push call }) := by
  unfold askAppliance
  simp only [run_bind, run_get]
  split
  · simp [halt]
  · simp only [run_bind, run_set, run_ofExcept]

end ReducedDowntime.Flow
