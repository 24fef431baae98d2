import Paygate.Web.FlowSafe

/-!
# Superseded runs

After each submission and each reset, what the hook shows depends only on how the newest run goes
on.  Earlier runs go on too, but they change nothing that is shown.
-/

namespace Paygate.Web

open Text Json Program

namespace UseX402

/-! ### What is kept by every call -/

/-- A timer that fires while nothing else is shown has fired when it was set. -/
structure Still (h : FlowHistory) : Prop where
  whileWaiting : waiting h = true → shown true h = (shown false h).patch { step := some .ai }
  whileUnarmed : armed h = false → shown true h = shown false h
  consistent : ∀ fired, Consistent (shown fired h)

theorem consistent_ai (s : UseX402State) : Consistent (s.patch { step := some .ai })
  := by
  intro hdone
  cases hdone

theorem still_nil : Still [] where
  whileWaiting h := by cases h
  whileUnarmed _ := rfl
  consistent _ := consistent_of_step (by simp [shown, INITIAL_STATE])

theorem Still.cons {h : FlowHistory} (hh : Still h) {c : FlowCall} (hc : Allowed h c) (x : FlowAnswer c) :
  Still (⟨c, x⟩ :: h)
  := by
  rcases c with (patch | _ | _ | _) | c | c
  case hook.update =>
    refine ⟨fun hwaiting => ?_, fun harmed => ?_, hc.2⟩
    · have hwaiting : waiting h = true := hwaiting
      rw [hc.1] at hwaiting
      cases hwaiting
    · rw [shown, shown, hh.whileUnarmed harmed]
  case hook.setTimeout =>
    have hsame : shown true h = shown false h := hh.whileUnarmed hc
    refine ⟨fun _ => ?_, fun harmed => (by cases harmed), fun fired => ?_⟩
    · rw [shown, shown, if_pos rfl, if_neg (by simp), hsame]
    · cases fired with
      | false => exact hh.consistent false
      | true => exact consistent_ai _
  case hook.clearTimeout => exact ⟨fun hwaiting => (by cases hwaiting), hh.whileUnarmed, hh.consistent⟩
  all_goals exact ⟨hh.whileWaiting, hh.whileUnarmed, hh.consistent⟩

theorem still_of_reaches {text correlationId : List UInt16} {h : FlowHistory}
    {q : Program FlowCall FlowAnswer Unit} (hq : Reaches (submit text correlationId) h q) :
  Still h
  := (submit_safe text correlationId).inv_of_reaches still_nil (fun _ _ x hh hc => hh.cons hc x) hq

theorem armed_of_waiting : ∀ {h : FlowHistory}, waiting h = true → armed h = true
  | [], hh => by cases hh
  | ⟨.hook .setTimeout, _⟩ :: _, _ => rfl
  | ⟨.hook .clearTimeout, _⟩ :: _, hh => by cases hh
  | ⟨.hook (.update _), _⟩ :: h, hh => armed_of_waiting (h := h) hh
  | ⟨.hook .isCurrent, _⟩ :: h, hh => armed_of_waiting (h := h) hh
  | ⟨.read _, _⟩ :: h, hh => armed_of_waiting (h := h) hh
  | ⟨.await _, _⟩ :: h, hh => armed_of_waiting (h := h) hh

/-! ### The current run -/

/-- One more call of a run. -/
theorem reaches_call {p : Program FlowCall FlowAnswer Unit} {h : FlowHistory} (c : FlowCall)
    (x : FlowAnswer c) {k : FlowAnswer c → Program FlowCall FlowAnswer Unit}
    (hq : Reaches p h (.call c k)) :
  Reaches p (⟨c, x⟩ :: h) (k x)
  := hq.step x

/-- What is shown is what the current run has made, of which `q` is left. -/
structure Current (q : Program FlowCall FlowAnswer Unit) (run : Run) (screen : Screen) : Prop where
  reaches : ∃ text correlationId, Reaches (submit text correlationId) run.history q
  state : screen.state = shown run.fired run.history
  timer : run.timer = (waiting run.history && !run.fired)
  fired : run.fired = true → armed run.history = true

variable {run : Run} {screen : Screen}

/-- A call that shows nothing and leaves the timer. -/
theorem Current.record {c : FlowCall} {k : FlowAnswer c → Program FlowCall FlowAnswer Unit}
    (h : Current (.call c k) run screen) (x : FlowAnswer c)
    (hc : (∃ c', c = .read c') ∨ (∃ c', c = .await c') ∨ c = .hook .isCurrent) :
  Current (k x) (run.record c x) screen
  := by
  obtain ⟨text, correlationId, hreaches⟩ := h.reaches
  refine ⟨⟨text, correlationId, hreaches.step x⟩, ?_, ?_, ?_⟩
  all_goals
    rcases hc with ⟨c', rfl⟩ | ⟨c', rfl⟩ | rfl
    · first | exact h.state | exact h.timer | exact h.fired
    · first | exact h.state | exact h.timer | exact h.fired
    · first | exact h.state | exact h.timer | exact h.fired

/-- The current run goes on. -/
theorem Current.drive {read : (c : ReadCall) → ReadAnswer c} {q : Program FlowCall FlowAnswer Unit}
    (h : Current q run screen) :
  Current (drive read true q run screen).1.program (drive read true q run screen).1
    (drive read true q run screen).2
  := by
  induction q generalizing run screen with
  | done a => exact ⟨h.reaches, h.state, h.timer, h.fired⟩
  | call c k ih =>
      obtain ⟨text, correlationId, hreaches⟩ := h.reaches
      rcases c with (patch | _ | _ | _) | c | c
      case hook.update =>
        apply ih ()
        have hnext : Reaches (submit text correlationId) (⟨.hook (.update patch), ()⟩ :: run.history) (k ()) :=
          reaches_call (.hook (.update patch)) () hreaches
        refine ⟨⟨text, correlationId, hnext⟩, ?_, h.timer, h.fired⟩
        exact congrArg (fun s : UseX402State => s.patch patch) h.state
      case hook.setTimeout =>
        apply ih ()
        have hunarmed : armed run.history = false :=
          ((submit_safe text correlationId).reaches hreaches).1
        have hunfired : run.fired = false := by
          rw [Bool.eq_false_iff]
          intro hfired
          rw [h.fired hfired] at hunarmed
          cases hunarmed
        have hnext : Reaches (submit text correlationId) (⟨.hook .setTimeout, ()⟩ :: run.history) (k ()) :=
          reaches_call (.hook .setTimeout) () hreaches
        refine ⟨⟨text, correlationId, hnext⟩, ?_, ?_, fun _ => rfl⟩
        · have hstate := h.state
          rw [hunfired] at hstate
          rw [hstate]
          simp only [Run.record, hunfired]
          rfl
        · simp only [Run.record, hunfired]
          rfl
      case hook.clearTimeout =>
        apply ih ()
        have hnext : Reaches (submit text correlationId) (⟨.hook .clearTimeout, ()⟩ :: run.history) (k ()) :=
          reaches_call (.hook .clearTimeout) () hreaches
        exact ⟨⟨text, correlationId, hnext⟩, h.state, rfl, h.fired⟩
      case hook.isCurrent => exact ih true (h.record true (Or.inr (Or.inr rfl)))
      case read => exact ih (read c) (h.record (read c) (Or.inl ⟨c, rfl⟩))
      case await => exact ⟨h.reaches, h.state, h.timer, h.fired⟩

/-- The timer of the current run fires. -/
theorem Current.fire (h : Current run.program run screen) {after : Run × Screen}
    (hfire : fire true run screen = some after) :
  Current after.1.program after.1 after.2
  := by
  unfold UseX402.fire at hfire
  split at hfire
  · rename_i htimer
    obtain rfl := Option.some.inj hfire
    obtain ⟨text, correlationId, hreaches⟩ := h.reaches
    have hwaiting := h.timer
    rw [htimer, eq_comm, Bool.and_eq_true, Bool.not_eq_true'] at hwaiting
    obtain ⟨hwaiting, hunfired⟩ := hwaiting
    refine ⟨⟨text, correlationId, hreaches⟩, ?_, by simp, fun _ => armed_of_waiting hwaiting⟩
    have hstate := h.state
    rw [hunfired] at hstate
    rw [(still_of_reaches hreaches).whileWaiting hwaiting, ← hstate]
    rfl
  · cases hfire

/-- The current run is resumed. -/
theorem Current.resume (h : Current run.program run screen) {world : World} {after : Run × Screen}
    (hresume : resume world true run screen = some after) :
  Current after.1.program after.1 after.2
  := by
  unfold UseX402.resume at hresume
  split at hresume
  · rename_i c k hprogram
    obtain rfl := Option.some.inj hresume
    rw [hprogram] at h
    exact (h.record (world.await c) (Or.inr (Or.inl ⟨c, rfl⟩))).drive
  · cases hresume

/-- How a run goes on after its first change. -/
theorem begin_eq (text correlationId : List UInt16) (world : World) (screen : Screen) :
  begin text correlationId world screen
    = drive world.read true ((attempt text correlationId).run >>= showFailure)
        ((⟨submit text correlationId, [], false, false⟩ : Run).record (.hook (.update startPatch)) ())
        (screen.update true startPatch)
  := rfl

/-- A run begins with what it shows. -/
theorem current_begin (text correlationId : List UInt16) (world : World) (screen : Screen) :
  Current (begin text correlationId world screen).1.program (begin text correlationId world screen).1
    (begin text correlationId world screen).2
  := by
  have hstart : Reaches (submit text correlationId) [⟨.hook (.update startPatch), ()⟩]
      ((attempt text correlationId).run >>= showFailure) :=
    reaches_call (.hook (.update startPatch)) () Reaches.start
  rw [begin_eq]
  apply Current.drive
  exact ⟨⟨text, correlationId, hstart⟩, rfl, rfl, fun hfired => (by cases hfired)⟩

/-! ### Other runs -/

/-- Another run that goes on shows nothing. -/
theorem drive_stale (read : (c : ReadCall) → ReadAnswer c) (q : Program FlowCall FlowAnswer Unit) :
  (drive read false q run screen).2 = screen
  := by
  induction q generalizing run screen with
  | done a => rfl
  | call c k ih =>
      rcases c with (patch | _ | _ | _) | c | c
      case hook.update => exact ih ()
      case hook.setTimeout => exact ih ()
      case hook.clearTimeout => exact ih ()
      case hook.isCurrent => exact ih false
      case read => exact ih (read c)
      case await => rfl

theorem resume_stale {world : World} {after : Run × Screen}
    (h : resume world false run screen = some after) :
  after.2 = screen
  := by
  unfold resume at h
  split at h
  · rw [← Option.some.inj h, drive_stale]
  · cases h

theorem fire_stale {after : Run × Screen} (h : fire false run screen = some after) :
  after.2 = screen
  := by
  unfold fire at h
  split at h
  · rw [← Option.some.inj h]
    rfl
  · cases h

/-! ### Steps -/

section step

variable {s s' : Hook} {text correlationId : List UInt16} {world : World} {n : Nat}

/-- A text that is blank is not submitted. -/
theorem step_submit_blank (h : isBlank text = true) :
  machine.step s (.submit text correlationId world) = some s
  := if_pos h

/-- Any other text is submitted by the next run. -/
theorem step_submit (h : isBlank text = false) :
  machine.step s (.submit text correlationId world)
    = some (({ s with runId := s.runId + 1 } : Hook).put (s.runId + 1)
        (begin text correlationId world ⟨s.screen.state, []⟩))
  := if_neg (by simp [h])

/-- What is awaited comes for a run that exists. -/
theorem step_resume :
  machine.step s (.resume n world) = some s'
    ↔ ∃ run after, s.runs n = some run ∧ resume world (n = s.runId) run s.screen = some after
        ∧ s' = s.put n after
  := by
  simp only [machine, Option.bind_eq_some_iff, Option.map_eq_some_iff, eq_comm (b := s'),
    exists_and_left]

/-- The timer fires of a run that exists. -/
theorem step_timer :
  machine.step s (.timer n) = some s'
    ↔ ∃ run after, s.runs n = some run ∧ fire (n = s.runId) run s.screen = some after
        ∧ s' = s.put n after
  := by
  simp only [machine, Option.bind_eq_some_iff, Option.map_eq_some_iff, eq_comm (b := s'),
    exists_and_left]

end step

/-! ### Every reachable state -/

/-- What holds in every reachable state: no run has a number yet to be given, and what is shown is
what the current run has made, if there is one. -/
structure Hook.Inv (s : Hook) : Prop where
  fresh : ∀ n, s.runId < n → s.runs n = none
  current : ∀ run, s.runs s.runId = some run → Current run.program run s.screen
  idle : s.runs s.runId = none → s.screen.state = INITIAL_STATE

theorem inv_start : Hook.start.Inv where
  fresh _ _ := rfl
  current _ h := by cases h
  idle _ := rfl

/-- A run that exists has gone on. -/
theorem Hook.Inv.put {s : Hook} (h : s.Inv) {n : Nat} {run : Run} (hrun : s.runs n = some run)
    {after : Run × Screen}
    (hcurrent : n = s.runId → Current after.1.program after.1 after.2)
    (hother : n ≠ s.runId → after.2 = s.screen) :
  (s.put n after).Inv
  := by
  have hle : n ≤ s.runId := by
    by_contra hlt
    rw [h.fresh n (Nat.lt_of_not_le hlt)] at hrun
    cases hrun
  refine ⟨?_, ?_, ?_⟩
  · intro m hm
    have hm : s.runId < m := hm
    have hne : m ≠ n := by omega
    rw [s.runs_put_of_ne hne, h.fresh m hm]
  · intro run' hrun'
    have hrun' : (s.put n after).runs s.runId = some run' := hrun'
    by_cases hn : n = s.runId
    · subst hn
      rw [s.runs_put] at hrun'
      rw [← Option.some.inj hrun']
      exact hcurrent rfl
    · rw [s.runs_put_of_ne (Ne.symm hn)] at hrun'
      have hscreen : (s.put n after).screen = s.screen := hother hn
      rw [hscreen]
      exact h.current run' hrun'
  · intro hnone
    have hnone : (s.put n after).runs s.runId = none := hnone
    by_cases hn : n = s.runId
    · subst hn
      rw [s.runs_put] at hnone
      cases hnone
    · rw [s.runs_put_of_ne (Ne.symm hn)] at hnone
      have hscreen : (s.put n after).screen = s.screen := hother hn
      rw [hscreen]
      exact h.idle hnone

/-- The step lemma. -/
theorem Hook.Inv.step {s s' : Hook} (h : s.Inv) {a : Label} (hstep : machine.step s a = some s') :
  s'.Inv
  := by
  cases a with
  | submit text correlationId world =>
      cases hblank : isBlank text with
      | true =>
          rw [step_submit_blank hblank] at hstep
          rw [← Option.some.inj hstep]
          exact h
      | false =>
          rw [step_submit hblank] at hstep
          rw [← Option.some.inj hstep]
          refine ⟨?_, ?_, ?_⟩
          · intro m hm
            have hm : s.runId + 1 < m := hm
            have hne : m ≠ s.runId + 1 := by omega
            exact (Hook.runs_put_of_ne _ hne _).trans (h.fresh m (by omega))
          · intro run hrun
            obtain rfl := Option.some.inj ((Hook.runs_put _ (s.runId + 1) _).symm.trans hrun)
            exact current_begin text correlationId world ⟨s.screen.state, []⟩
          · intro hnone
            cases (Hook.runs_put _ (s.runId + 1) _).symm.trans hnone
  | reset =>
      obtain rfl := Option.some.inj hstep
      have hnone : s.runs (s.runId + 1) = none := h.fresh _ (Nat.lt_succ_self _)
      refine ⟨fun m hm => h.fresh m (Nat.lt_of_succ_lt hm), ?_, fun _ => rfl⟩
      intro run hrun
      have hrun : s.runs (s.runId + 1) = some run := hrun
      rw [hnone] at hrun
      cases hrun
  | resume n world =>
      obtain ⟨run, after, hrun, hresume, rfl⟩ := step_resume.mp hstep
      apply h.put hrun
      · rintro rfl
        rw [decide_eq_true rfl] at hresume
        exact (h.current run hrun).resume hresume
      · intro hne
        rw [decide_eq_false hne] at hresume
        exact resume_stale hresume
  | timer n =>
      obtain ⟨run, after, hrun, hfire, rfl⟩ := step_timer.mp hstep
      apply h.put hrun
      · rintro rfl
        rw [decide_eq_true rfl] at hfire
        exact (h.current run hrun).fire hfire
      · intro hne
        rw [decide_eq_false hne] at hfire
        exact fire_stale hfire

/-- The run lemma. -/
theorem inv_run {labels : List Label} {s : Hook} (hrun : machine.run .start labels = some s) : s.Inv
  := Machine.run_keeps (fun _ _ _ h hstep => h.step hstep) labels inv_start hrun

/-- A state that is done has a summary and no error, and nothing runs. -/
theorem Hook.Inv.consistent {s : Hook} (h : s.Inv) : Consistent s.screen.state
  := by
  cases hrun : s.runs s.runId with
  | none =>
      rw [h.idle hrun]
      exact still_nil.consistent false
  | some run =>
      have hcurrent := h.current run hrun
      obtain ⟨text, correlationId, hreaches⟩ := hcurrent.reaches
      rw [hcurrent.state]
      exact (still_of_reaches hreaches).consistent run.fired

/-! ### The latest call -/

/-- Whether a step is a call of the user that does something. -/
def Label.isCall : Label → Bool
  | .submit text _ _ => !isBlank text
  | .reset => true
  | _ => false

/-- A step of the run with a number, as a step of the first run. -/
def Label.own (n : Nat) : Label → Option Label
  | .resume m world => if m = n then some (.resume 1 world) else none
  | .timer m => if m = n then some (.timer 1) else none
  | _ => none

/-- The hook `s'` has only the current run of `s`, which has the number `n`. -/
structure Alone (n : Nat) (s s' : Hook) : Prop where
  runId : s.runId = n
  first : s'.runId = 1
  screen : s'.screen = s.screen
  run : s'.runs 1 = s.runs n

/-- A run shows the same from its beginning whatever was shown before. -/
theorem begin_congr (text correlationId : List UInt16) (world : World) (state state' : UseX402State) :
  begin text correlationId world ⟨state, []⟩ = begin text correlationId world ⟨state', []⟩
  := by
  rw [begin_eq, begin_eq]
  rfl

/-- After a call of the user the hook is as after the first. -/
theorem alone_call {s s₁ : Hook} (h : s.Inv) {a : Label} (ha : a.isCall = true)
    (hstep : machine.step s a = some s₁) :
  ∃ s₁', machine.step .start a = some s₁' ∧ Alone s₁.runId s₁ s₁'
  := by
  cases a with
  | submit text correlationId world =>
      have hblank : isBlank text = false := by
        rw [Label.isCall, Bool.not_eq_true'] at ha
        exact ha
      rw [step_submit hblank] at hstep
      obtain rfl := Option.some.inj hstep
      have hbegin := begin_congr text correlationId world INITIAL_STATE s.screen.state
      refine ⟨_, step_submit hblank, rfl, rfl, congrArg Prod.snd hbegin, ?_⟩
      exact (Hook.runs_put _ 1 _).trans
        ((congrArg (fun after : Run × Screen => some after.1) hbegin).trans (Hook.runs_put _ _ _).symm)
  | reset =>
      obtain rfl := Option.some.inj hstep
      exact ⟨_, rfl, rfl, rfl, rfl, (h.fresh _ (Nat.lt_succ_self _)).symm⟩
  | resume n world => cases ha
  | timer n => cases ha

/-- A run that goes on in one hook does in the other. -/
theorem Alone.put {n : Nat} {s s' : Hook} (h : Alone n s s') (after : Run × Screen) :
  Alone n (s.put n after) (s'.put 1 after)
  := by
  refine ⟨h.runId, h.first, rfl, ?_⟩
  rw [Hook.runs_put, Hook.runs_put]

/-- Another run that goes on leaves the current one. -/
theorem Alone.put_other {n m : Nat} {s s' : Hook} (h : Alone n s s') (hne : m ≠ n)
    {after : Run × Screen} (hscreen : after.2 = s.screen) :
  Alone n (s.put m after) s'
  := by
  refine ⟨h.runId, h.first, h.screen.trans hscreen.symm, ?_⟩
  rw [h.run, Hook.runs_put_of_ne s (Ne.symm hne)]

/-- A step of the current run is one of the only run. -/
theorem Alone.own {n : Nat} {s s' s₁ : Hook} (h : Alone n s s') {a b : Label} (hb : a.own n = some b)
    (hstep : machine.step s a = some s₁) :
  ∃ s₁', machine.step s' b = some s₁' ∧ Alone n s₁ s₁'
  := by
  cases a with
  | submit text correlationId world => cases hb
  | reset => cases hb
  | resume m world =>
      rw [Label.own, Option.ite_none_right_eq_some] at hb
      obtain ⟨rfl, hb⟩ := hb
      obtain rfl := Option.some.inj hb
      obtain ⟨run, after, hrun, hresume, rfl⟩ := step_resume.mp hstep
      rw [decide_eq_true h.runId.symm] at hresume
      refine ⟨_, step_resume.mpr ⟨run, after, h.run.trans hrun, ?_, rfl⟩, h.put after⟩
      rw [decide_eq_true h.first.symm, h.screen, hresume]
  | timer m =>
      rw [Label.own, Option.ite_none_right_eq_some] at hb
      obtain ⟨rfl, hb⟩ := hb
      obtain rfl := Option.some.inj hb
      obtain ⟨run, after, hrun, hfire, rfl⟩ := step_timer.mp hstep
      rw [decide_eq_true h.runId.symm] at hfire
      refine ⟨_, step_timer.mpr ⟨run, after, h.run.trans hrun, ?_, rfl⟩, h.put after⟩
      rw [decide_eq_true h.first.symm, h.screen, hfire]

/-- A step of another run, or a call that does nothing, shows nothing. -/
theorem Alone.other {n : Nat} {s s' s₁ : Hook} (h : Alone n s s') {a : Label} (ha : a.isCall = false)
    (hother : a.own n = none) (hstep : machine.step s a = some s₁) :
  Alone n s₁ s'
  := by
  cases a with
  | submit text correlationId world =>
      have hblank : isBlank text = true := by
        rw [Label.isCall, Bool.not_eq_false'] at ha
        exact ha
      rw [step_submit_blank hblank] at hstep
      rw [← Option.some.inj hstep]
      exact h
  | reset => cases ha
  | resume m world =>
      have hne : m ≠ n := by
        rintro rfl
        rw [Label.own, if_pos rfl] at hother
        cases hother
      obtain ⟨run, after, -, hresume, rfl⟩ := step_resume.mp hstep
      rw [h.runId, decide_eq_false hne] at hresume
      exact h.put_other hne (resume_stale hresume)
  | timer m =>
      have hne : m ≠ n := by
        rintro rfl
        rw [Label.own, if_pos rfl] at hother
        cases hother
      obtain ⟨run, after, -, hfire, rfl⟩ := step_timer.mp hstep
      rw [h.runId, decide_eq_false hne] at hfire
      exact h.put_other hne (fire_stale hfire)

/-- Whatever the user calls and however the runs go on, what is shown since the latest call is what
a hook shows where that call is the first and only its own steps are taken; and a state that is
done has a summary and no error, and nothing runs. -/
theorem superseded_invisible {labels : List Label} {s : Hook}
    (hrun : machine.run .start labels = some s) :
  Consistent s.screen.state
    ∧ ∀ before call after, labels = before ++ call :: after → call.isCall = true →
        (∀ a ∈ after, a.isCall = false) →
        ∃ s', machine.run .start (call :: after.filterMap (Label.own s.runId)) = some s'
          ∧ s'.screen = s.screen
  := by
  refine ⟨(inv_run hrun).consistent, ?_⟩
  rintro before call after rfl hcall hafter
  obtain ⟨s₀, hbefore, hrest⟩ := Machine.exists_of_run_append hrun
  obtain ⟨s₁, hstep, hlater⟩ := Machine.run_cons_eq_some.mp hrest
  obtain ⟨s₁', hstep', halone⟩ := alone_call (inv_run hbefore) hcall hstep
  have hkeep : ∀ s a b s₂ s', a.isCall = false → Alone s₁.runId s s' → a.own s₁.runId = some b →
      machine.step s a = some s₂ → ∃ s₂', machine.step s' b = some s₂' ∧ Alone s₁.runId s₂ s₂' :=
    fun s a b s₂ s' _ h hb hs₂ => h.own hb hs₂
  have hdrop : ∀ s a s₂ s', a.isCall = false → Alone s₁.runId s s' → a.own s₁.runId = none →
      machine.step s a = some s₂ → Alone s₁.runId s₂ s' :=
    fun s a s₂ s' ha h hnone hs₂ => h.other ha hnone hs₂
  obtain ⟨s', hrun', halone'⟩ := Machine.run_filterMap hkeep hdrop after hafter halone hlater
  rw [halone'.runId]
  exact ⟨s', Machine.run_cons_eq_some.mpr ⟨s₁', hstep', hrun'⟩, halone'.screen⟩

/-- A browser with a wallet on the chain of the challenge.  The signed request is refused, with a
status. -/
def refusing (status : Nat) : World where
  read
    | .hasWallet => true
    | .getProvider => .ok true
    | .newBrowserProvider | .saveReceipt _ _ => .ok ()
    | .typeError => .other (units "TypeError")
  await
    | .postSummarize _ headers =>
        .ok ⟨if "X-402-Signature" ∈ headers.map Prod.fst then status else 402, fun _ => none⟩
    | .json _ =>
        .ok (.obj [(units "paymentContext", .obj [
          (units "chainId", .num (decimal 84532)),
          (units "timestamp", .num (decimal 1))])])
    | .text _ => .ok []
    | .getCurrentAccount => .ok (some (units "0x11"))
    | .connectWallet => .ok (units "0x11")
    | .getCurrentChainId => .ok (some 84532)
    | .switchOrAddChain _ | .getSigner _ => .ok ()
    | .signPaymentContext _ _ => .ok (units "0xaa")

/-- A run is superseded while it awaits the body of the challenge, and goes on beside the next. -/
theorem superseded_invisible_sample :
  ∃ s, machine.run .start [.submit (units "a") [] (refusing 403), .resume 1 (refusing 403),
      .submit (units "b") [] (refusing 403), .resume 1 (refusing 403), .resume 2 (refusing 403)] = some s
    ∧ Consistent s.screen.state
  := by
  have hsome : (machine.run .start [.submit (units "a") [] (refusing 403), .resume 1 (refusing 403),
      .submit (units "b") [] (refusing 403), .resume 1 (refusing 403),
      .resume 2 (refusing 403)]).isSome = true := by
    decide
  obtain ⟨s, hs⟩ := Option.isSome_iff_exists.mp hsome
  exact ⟨s, hs, (superseded_invisible hs).1⟩

end UseX402

end Paygate.Web
