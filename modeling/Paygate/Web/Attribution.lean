import Paygate.Web.Supersede

/-!
# Where a failure is shown

When the signed request is refused, the failure is shown at the step of the AI provider if this has
failed, and else at the step of the verifier, unless the timer has fired before the response came:
then the step that the timer has set stays.
-/

namespace Paygate.Web

open Text Json Program

namespace UseX402

/-! ### The timer of a run -/

theorem drive_fired (read : (c : ReadCall) → ReadAnswer c) (current : Bool)
    (q : Program FlowCall FlowAnswer Unit) {run : Run} {screen : Screen} :
  (drive read current q run screen).1.fired = run.fired
  := by
  induction q generalizing run screen with
  | done a => rfl
  | call c k ih =>
      rcases c with (patch | _ | _ | _) | c | c
      case hook.update => exact ih ()
      case hook.setTimeout => exact ih ()
      case hook.clearTimeout => exact ih ()
      case hook.isCurrent => exact ih current
      case read => exact ih (read c)
      case await => rfl

/-- The timer of a run has fired. -/
def Hook.Fired (s : Hook) (n : Nat) : Prop :=
  ∃ run, s.runs n = some run ∧ run.fired = true

/-- Only the run that goes on may change whether its timer has fired. -/
theorem fired_put {s : Hook} {m n : Nat} {after : Run × Screen} :
  (s.put m after).Fired n ↔ if n = m then after.1.fired = true else s.Fired n
  := by
  unfold Hook.Fired
  split
  · rename_i hn
    subst hn
    rw [Hook.runs_put]
    simp
  · rename_i hn
    rw [Hook.runs_put_of_ne s hn]

theorem fired_of_runs {s : Hook} {n : Nat} {run : Run} (h : s.runs n = some run) :
  s.Fired n ↔ run.fired = true
  := by
  unfold Hook.Fired
  rw [h]
  simp

/-- The step lemma: a timer has fired if it had, or if it fires. -/
theorem fired_step {s s' : Hook} (h : s.Inv) {a : Label} (hstep : machine.step s a = some s') (n : Nat) :
  s'.Fired n ↔ s.Fired n ∨ a = .timer n
  := by
  cases a with
  | submit text correlationId world =>
      cases hblank : isBlank text with
      | true =>
          rw [step_submit_blank hblank] at hstep
          rw [← Option.some.inj hstep]
          simp
      | false =>
          rw [step_submit hblank] at hstep
          rw [← Option.some.inj hstep, fired_put]
          split
          · rename_i hn
            have hnew : s.runs n = none := h.fresh n (by omega)
            have hunfired : (begin text correlationId world ⟨s.screen.state, []⟩).1.fired = false := by
              rw [begin_eq, drive_fired]
              rfl
            simp [hunfired, Hook.Fired, hnew]
          · simp [Hook.Fired]
  | reset =>
      obtain rfl := Option.some.inj hstep
      simp [Hook.Fired]
  | resume m world =>
      obtain ⟨run, after, hrun, hresume, rfl⟩ := step_resume.mp hstep
      have hsame : after.1.fired = run.fired := by
        unfold resume at hresume
        split at hresume
        · rw [← Option.some.inj hresume, drive_fired]
          rfl
        · cases hresume
      rw [fired_put]
      split
      · rename_i hn
        subst hn
        rw [fired_of_runs hrun, hsame]
        simp
      · simp
  | timer m =>
      obtain ⟨run, after, hrun, hfire, rfl⟩ := step_timer.mp hstep
      rw [fired_put]
      split
      · rename_i hn
        subst hn
        unfold fire at hfire
        split at hfire
        · rw [← Option.some.inj hfire]
          simp
        · cases hfire
      · rename_i hn
        have hother : Label.timer m ≠ .timer n := by
          intro heq
          exact hn (Label.timer.inj heq).symm
        simp [hother]

/-- The run lemma: a timer has fired if one of the steps was that. -/
theorem fired_iff {n : Nat} :
    ∀ {labels : List Label} {s s' : Hook}, s.Inv → machine.run s labels = some s' →
      (s'.Fired n ↔ s.Fired n ∨ Label.timer n ∈ labels)
  | [], s, s', _, hrun => by
      obtain rfl := Option.some.inj hrun
      simp
  | a :: labels, s, s', h, hrun => by
      obtain ⟨s₁, hstep, hrest⟩ := Machine.run_cons_eq_some.mp hrun
      rw [fired_iff (h.step hstep) hrest, fired_step h hstep, List.mem_cons, or_assoc, eq_comm]

/-! ### A refused request -/

/-- A response is always shown as an error. -/
theorem responseError_eq (res : Response) (bodyText : List UInt16) :
  ∃ classified, responseError res bodyText = some classified
    ∧ (isAi res bodyText = true ↔ classified.kind.IsAi)
  := by
  have htyped : ∀ classified, Raised.other (units "null") ≠ .untyped classified := by simp
  obtain ⟨classified, hclassified⟩ := Option.isSome_iff_exists.mp
    (classifyError_isSome htyped (some ⟨some res.status, some bodyText⟩))
  refine ⟨classified, hclassified, ?_⟩
  rw [isAi, responseError, hclassified, Option.any_some, decide_eq_true_iff]

/-- A response is shown as a failure of the AI provider by its status and the error it names. -/
theorem isAi_iff {res : Response} (hstatus : res.status ≠ 0) (bodyText : List UInt16) :
  isAi res bodyText = true
    ↔ res.status = 408 ∨ (500 ≤ res.status
        ∧ (res.status = 504 → includes bodyText "verifier_timeout" = false)
        ∧ (res.status = 502 → includes bodyText "verification_unavailable" = false))
  := by
  rw [isAi, responseError, classifyError_response hstatus, Option.any_some, decide_eq_true_iff, build,
    statusToKind_isAi_iff]

/-- When the signed request of the current run was refused and the run has ended, the step is that
of the AI provider exactly if the error is one of it, and else that of the verifier, if and only if
the timer has not fired or the error is one of the AI provider. -/
theorem failure_attributed_iff {labels : List Label} {s : Hook}
    (hrun : machine.run .start labels = some s) {run : Run} (hcurrent : s.runs s.runId = some run)
    (hdone : run.program = .done ()) {res : Response} (hrefused : Refused run.history res) :
  (∃ x, ⟨.await (.text res), x⟩ ∈ run.history)
    ∧ ∀ x, ⟨.await (.text res), x⟩ ∈ run.history →
      ∃ classified, responseError res (bodyOf x) = some classified
        ∧ (((s.screen.state.step = .ai ↔ classified.kind.IsAi)
              ∧ (¬ classified.kind.IsAi → s.screen.state.step = .verify))
            ↔ Label.timer s.runId ∉ labels ∨ classified.kind.IsAi)
  := by
  have hinv := inv_run hrun
  have hshows := hinv.current run hcurrent
  obtain ⟨submitted, correlationId, hreaches⟩ := hshows.reaches
  rw [hdone] at hreaches
  have hattributed : Attributed run.history := (submit_safe submitted correlationId).reaches hreaches
  obtain ⟨hread, hstep⟩ := hattributed res hrefused
  refine ⟨hread, fun x hx => ?_⟩
  obtain ⟨classified, hclassified, hai⟩ := responseError_eq res (bodyOf x)
  refine ⟨classified, hclassified, ?_⟩
  have hfired : run.fired = true ↔ Label.timer s.runId ∈ labels := by
    have hnone : ¬ Hook.start.Fired s.runId := by simp [Hook.Fired, Hook.start]
    rw [← fired_of_runs hcurrent, fired_iff inv_start hrun, or_iff_right hnone]
  rw [hshows.state, hstep x hx, ← hai, ← hfired]
  cases isAi res (bodyOf x) with
  | true => simp
  | false =>
      cases run.fired with
      | true => simp
      | false => simp

/-! ### A response that comes late -/

/-- The run has ended. -/
def Run.ended (run : Run) : Bool :=
  match run.program with
  | .done _ => true
  | .call _ _ => false

/-- The answer to a signed request, if it is no success. -/
def refusal : Event FlowCall FlowAnswer → Option Response
  | ⟨.await (.postSummarize _ headers), .ok res⟩ =>
      if "X-402-Signature" ∈ headers.map Prod.fst ∧ res.ok = false then some res else none
  | _ => none

/-- A run in which the timer fires before the signed request is answered, by a status. -/
def lateRun (status : Nat) : List Label :=
  .submit (units "a") [] (refusing status) :: List.replicate 7 (.resume 1 (refusing status))
    ++ .timer 1 :: List.replicate 2 (.resume 1 (refusing status))

/-- A run that has ended has nothing left. -/
theorem program_of_ended {run : Run} (h : run.ended = true) : run.program = .done ()
  := by
  unfold Run.ended at h
  split at h
  · rename_i hprogram
    exact hprogram
  · cases h

/-- A refusal that is found is one of the signed request. -/
theorem refused_of_findSome {h : FlowHistory} {res : Response} (hfind : h.findSome? refusal = some res) :
  Refused h res
  := by
  obtain ⟨e, he, hrefusal⟩ := List.exists_of_findSome?_eq_some hfind
  unfold refusal at hrefusal
  split at hrefusal
  · rename_i text headers res'
    rw [Option.ite_none_right_eq_some] at hrefusal
    obtain ⟨⟨hsigned, hbad⟩, hres⟩ := hrefusal
    obtain rfl := Option.some.inj hres
    exact ⟨text, headers, hsigned, he, hbad⟩
  · cases hrefusal

/-- A run that is refused late ends with its failure. -/
theorem exists_lateRun :
  ∃ s run res, machine.run .start (lateRun 403) = some s ∧ s.runs s.runId = some run
    ∧ run.program = .done () ∧ Refused run.history res ∧ s.screen.state.step = .ai
    ∧ s.screen.state.error.map ClassifiedError.kind = some .invalidSignature
  := by
  have hrun : ((machine.run .start (lateRun 403)).bind fun s => (s.runs s.runId).map fun run =>
      (run.ended, (run.history.findSome? refusal).map Response.status, s.screen.state.step,
        s.screen.state.error.map ClassifiedError.kind))
      = some (true, some 403, .ai, some .invalidSignature) := by
    decide +kernel
  obtain ⟨s, hs, hmap⟩ := Option.bind_eq_some_iff.mp hrun
  obtain ⟨run, hcurrent, heq⟩ := Option.map_eq_some_iff.mp hmap
  simp only [Prod.mk.injEq] at heq
  obtain ⟨hended, hstatus, hstep, hkind⟩ := heq
  obtain ⟨res, hfind, -⟩ := Option.map_eq_some_iff.mp hstatus
  exact ⟨s, run, res, hs, hcurrent, program_of_ended hended, refused_of_findSome hfind, hstep, hkind⟩

/-- The failure of a signature that is refused late is shown at the step of the AI provider, though
the AI provider has not failed. -/
theorem late_refusal_at_ai :
  ∃ s run res classified, machine.run .start (lateRun 403) = some s ∧ s.runs s.runId = some run
    ∧ run.program = .done () ∧ Refused run.history res
    ∧ s.screen.state.error = some classified ∧ ¬ classified.kind.IsAi ∧ s.screen.state.step = .ai
  := by
  obtain ⟨s, run, res, hs, hcurrent, hdone, hrefused, hstep, hkind⟩ := exists_lateRun
  obtain ⟨classified, herror, hkind⟩ := Option.map_eq_some_iff.mp hkind
  refine ⟨s, run, res, classified, hs, hcurrent, hdone, hrefused, herror, ?_, hstep⟩
  rw [hkind]
  decide

/-- The body of the refusal was read. -/
theorem failure_attributed_sample :
  ∃ s run res, machine.run .start (lateRun 403) = some s ∧ s.runs s.runId = some run
    ∧ Refused run.history res ∧ ∃ x, ⟨.await (.text res), x⟩ ∈ run.history
  := by
  obtain ⟨s, run, res, hs, hcurrent, hdone, hrefused, -, -⟩ := exists_lateRun
  exact ⟨s, run, res, hs, hcurrent, hrefused, (failure_attributed_iff hs hcurrent hdone hrefused).1⟩

end UseX402

end Paygate.Web
