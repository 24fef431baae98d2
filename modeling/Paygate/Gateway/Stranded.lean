import Paygate.Gateway.Layers
import Paygate.Gateway.Moves

/-!
# Goroutines that wait for a layer that has left

A layer runs the rest of the chain in a goroutine, which hands a panic of the rest over a channel
without a buffer.  The layer only receives it while it waits, so a panic after the layer has picked
its deadline, or at the same time, leaves the goroutine waiting forever.

Every panic is received if the rest of the chain only panics while its layer waits and no layer
picks its deadline once the rest has panicked (`PanicAwaited`).  In a run with a step that breaks
this rule some goroutine is abandoned for good (`stranded_iff`), if no layer picks its deadline
before the handler is at work: a handler that the goroutine of a layer has not got to yet may be run
by the goroutine that the layer itself runs on.

Nothing here depends on how Contexts are handed out.
-/

namespace Paygate.Gateway

/-! ### Goroutines -/

/-- The goroutine in which a layer runs the rest of the chain: it closes `finished` when the rest
has finished, which never blocks, and it sends a panic of the rest, which blocks until the layer
receives it. -/
inductive GoroutineState where
  | unstarted
  | running
  | sending
  | ended
  deriving DecidableEq, Repr

namespace Request

/-- The goroutine of a layer. -/
def goroutine (req : Request) (j : Nat) : GoroutineState :=
  if (req.layer j).phase = .outside then .unstarted
  else if req.innerFinished j then .ended
  else if req.innerPanicked j then
    if (req.layer j).phase = .panicked then .ended else .sending
  else .running

/-- The layer has returned, and its goroutine is blocked. -/
def Stranded (req : Request) (j : Nat) : Prop :=
  (req.layer j).left = true ∧ req.goroutine j = .sending

/-- The layer is answering something else, and what it runs has panicked. -/
def Abandoned (req : Request) (j : Nat) : Prop :=
  req.innerPanicked j = true ∧ ∃ rest, (req.layer j).phase = .leaving rest

/-- Every panic was received or is waited for. -/
def Awaited (req : Request) : Prop :=
  ∀ j < req.depth, req.innerPanicked j = true →
    (req.layer j).phase = .waiting ∨ (req.layer j).phase = .panicked

/-- What a layer runs does not both finish and panic. -/
theorem not_innerPanicked_of_innerFinished {req : Request} {j : Nat}
    (h : req.innerFinished j = true) :
  req.innerPanicked j = false
  := by
  unfold innerFinished at h
  unfold innerPanicked
  split at h
  · rename_i hj
    rw [if_pos hj, of_decide_eq_true h]
    rfl
  · rename_i hj
    rw [if_neg hj, of_decide_eq_true h]
    rfl

/-- A layer whose goroutine is stranded is answering something else. -/
theorem Stranded.abandoned {req : Request} {j : Nat} (h : req.Stranded j) :
  req.Abandoned j
  := by
  obtain ⟨hleft, hsending⟩ := h
  have hpanicked : req.innerPanicked j = true ∧ (req.layer j).phase ≠ .panicked := by
    unfold goroutine at hsending
    split_ifs at hsending
    rename_i hpanicked hphase
    exact ⟨hpanicked, hphase⟩
  use hpanicked.1, []
  simpa [Layer.left, hpanicked.2] using hleft

/-- An abandoned goroutine is stranded once its layer has returned. -/
theorem Abandoned.stranded {req : Request} {j : Nat} (h : req.Abandoned j)
    (hleft : (req.layer j).left = true) :
  req.Stranded j
  := by
  obtain ⟨hpanicked, rest, hrest⟩ := h
  have hfinished : req.innerFinished j = false := by
    by_contra hne
    rw [not_innerPanicked_of_innerFinished (Bool.not_eq_false _ ▸ hne)] at hpanicked
    cases hpanicked
  use hleft
  simp [goroutine, hrest, hfinished, hpanicked]

/-- No goroutine is abandoned where every panic was received or is waited for. -/
theorem Awaited.not_abandoned {req : Request} (h : req.Awaited) {j : Nat} (hj : j < req.depth) :
  ¬ req.Abandoned j
  := by
  rintro ⟨hpanicked, rest, hphase⟩
  rcases h j hj hpanicked with hwait | hraised
  · rw [hphase] at hwait
    cases hwait
  · rw [hphase] at hraised
    cases hraised

/-- Changing a layer matters only to the layer around it. -/
theorem innerPanicked_setLayer {req : Request} {i j : Nat} (h : i + 1 ≠ j) (l : Layer) :
  (req.setLayer j l).innerPanicked i = req.innerPanicked i
  := by
  unfold innerPanicked
  rw [setLayer_layer_of_ne h]
  rfl

theorem innerPanicked_setLayer_succ {req : Request} {i : Nat} {l : Layer}
    (h : (req.setLayer (i + 1) l).innerPanicked i = true) :
  l.phase = .panicked ∨ req.innerPanicked i = true
  := by
  unfold innerPanicked at h ⊢
  rw [setLayer_layer_self] at h
  split at h
  · exact Or.inl (of_decide_eq_true h)
  · rename_i hlast
    right
    exact (if_neg hlast).trans h

/-- Changing a layer keeps the panics awaited, if the layer goes on to wait for a panic of what it
runs, and is itself waited for if it panics. -/
theorem Awaited.setLayer {req : Request} (h : req.Awaited) {j : Nat} {l : Layer}
    (hinner : j < req.depth → req.innerPanicked j = true →
      l.phase = .waiting ∨ l.phase = .panicked)
    (houter : l.phase = .panicked → j = 0 ∨ (req.layer (j - 1)).phase = .waiting) :
  (req.setLayer j l).Awaited
  := by
  intro i hi hpanicked
  by_cases hij : i = j
  · subst hij
    rw [setLayer_layer_self]
    rw [innerPanicked_setLayer (Nat.succ_ne_self i)] at hpanicked
    exact hinner hi hpanicked
  · rw [setLayer_layer_of_ne hij]
    by_cases hlast : i + 1 = j
    · subst hlast
      rcases innerPanicked_setLayer_succ hpanicked with hphase | hbefore
      · left
        rcases houter hphase with hzero | hwait
        · cases hzero
        · exact hwait
      · exact h i hi hbefore
    · rw [innerPanicked_setLayer hlast] at hpanicked
      exact h i hi hpanicked

/-- A writer receiving an operation changes nothing in the panics. -/
theorem innerPanicked_receive (req : Request) (i k : Nat) (op : WriterOp) :
  (req.receive k op).innerPanicked i = req.innerPanicked i
  := by
  unfold innerPanicked
  rw [receive_depth, receive_phase, receive_handler]

theorem Awaited.receive {req : Request} (h : req.Awaited) (k : Nat) (op : WriterOp) :
  (req.receive k op).Awaited
  := by
  intro j hj hpanicked
  rw [receive_depth] at hj
  rw [innerPanicked_receive] at hpanicked
  rw [receive_phase]
  exact h j hj hpanicked

end Request

/-- The rest of the chain panics only while the layer that runs it waits, and a layer does not pick
its deadline once the rest has panicked. -/
def PanicAwaited (s : Server) : TimeoutStep → Prop
  | .handlerPanic r => ∀ req ∈ s.requests r, (req.layer (req.depth - 1)).phase = .waiting
  | .selectPanic r j => ∀ req ∈ s.requests r, j = 0 ∨ (req.layer (j - 1)).phase = .waiting
  | .selectDone r j => ∀ req ∈ s.requests r, req.innerPanicked j = false
  | _ => True

instance (s : Server) : (a : TimeoutStep) → Decidable (PanicAwaited s a)
  | .handlerPanic r => inferInstanceAs (Decidable (∀ req ∈ s.requests r, _))
  | .selectPanic r _ => inferInstanceAs (Decidable (∀ req ∈ s.requests r, _))
  | .selectDone r _ => inferInstanceAs (Decidable (∀ req ∈ s.requests r, _))
  | .tick _ | .accept _ _ _ | .cancel _ | .enter _ | .handlerWrite _ _ | .handlerFinish _
  | .selectFinished _ _ _ | .layerWrite _ _ | .serveReturn _ => .isTrue trivial

/-- A layer picks its deadline only once the handler is at work, so that the goroutine of the
innermost layer runs it. -/
def HandlerStarted (s : Server) : TimeoutStep → Prop
  | .selectDone r _ => ∀ req ∈ s.requests r,
      req.entered = req.depth ∧ (req.written ≠ [] ∨ req.handler ≠ .running)
  | _ => True

/-- A step that keeps the rule keeps every panic awaited. -/
theorem Request.Awaited.moves {s : Server} {r : Nat} {req req' : Request} {a : TimeoutStep}
    (h : req.Awaited) (hreq : s.requests r = some req) (hrule : PanicAwaited s a)
    (hmoves : req.Moves r a req') :
  req'.Awaited
  := by
  cases hmoves with
  | cancel => exact h
  | enter hlt hbw hphase =>
      apply h.setLayer (j := req.entered)
      · intro _ _
        exact Or.inl hphase
      · intro hpanicked
        rw [hphase] at hpanicked
        cases hpanicked
  | handlerWrite hruns => exact h
  | handlerFinish hruns =>
      intro j hj hpanicked
      apply h j hj
      unfold Request.innerPanicked at hpanicked ⊢
      split at hpanicked
      · rename_i hlt
        exact (if_pos hlt).trans hpanicked
      · cases hpanicked
  | handlerPanic hruns =>
      intro j hj hpanicked
      unfold Request.innerPanicked at hpanicked
      split at hpanicked
      · rename_i hlt
        exact h j hj ((if_pos hlt).trans hpanicked)
      · rename_i hlast
        have hdepth : req.depth = j + 1 := Nat.le_antisymm (not_lt.mp hlast) hj
        have hwait := hrule req hreq
        rw [hdepth] at hwait
        exact Or.inl hwait
  | selectFinished hj hwait hfinished horder =>
      apply h.setLayer
      · intro _ hpanicked
        rw [Request.not_innerPanicked_of_innerFinished hfinished] at hpanicked
        cases hpanicked
      · intro hpanicked
        cases hpanicked
  | selectPanic hj hwait hpanicked =>
      apply h.setLayer
      · intro _ _
        exact Or.inr rfl
      · intro _
        exact hrule req hreq
  | selectDone hj hwait =>
      apply h.setLayer
      · intro _ hpanicked
        rw [hrule req hreq] at hpanicked
        cases hpanicked
      · intro hpanicked
        cases hpanicked
  | layerWrite hphase =>
      apply h.setLayer
      · intro hj hpanicked
        exact absurd ⟨hpanicked, _, hphase⟩ (h.not_abandoned hj)
      · intro hpanicked
        cases hpanicked
  | serveReturn hleft hserved => exact h

/-- In a run that keeps the rule every panic is awaited. -/
theorem awaited_of_run {now : Int} {steps : List TimeoutStep} {s : Server}
    (hrule : requestTimeoutMiddleware.Guarded PanicAwaited (.init now) steps)
    (hrun : requestTimeoutMiddleware.run (.init now) steps = some s) :
  s.All fun _ req => req.Awaited
  := by
  refine Machine.run_invariant ?_ steps ?_ hrule hrun
  · intro s₁ a s₂ hs₁ ha hstep
    apply hs₁.step hstep
    · intro r c timeouts _ _ j hj hpanicked
      unfold Request.innerPanicked at hpanicked
      split at hpanicked
      · cases hpanicked
      · cases hpanicked
    · intro r req req' hreq hawaited hmoves
      exact hawaited.moves hreq ha hmoves
    · intro r req k op hawaited
      exact hawaited.receive k op
  · intro r req hreq
    cases hreq

/-! ### Panics that nobody receives -/

namespace Request

/-- The layers are entered from the outside in, and a layer is unwound only by a panic of what it
runs. -/
structure Nested (req : Request) : Prop where
  layers : req.timeouts ≠ []
  entered_le : req.entered ≤ req.depth
  started : req.handler ≠ .running → req.entered = req.depth
  outside : ∀ j, (req.layer j).phase = .outside ↔ req.entered ≤ j
  raised : ∀ j, (req.layer j).phase = .panicked → req.innerPanicked j = true

theorem Nested.init (c : Nat) {timeouts : List Int} (h : timeouts ≠ []) :
  (Request.init c timeouts).Nested
  := by
  constructor
  case layers => exact h
  case entered_le => exact Nat.zero_le _
  case started =>
    intro hne
    exact absurd rfl hne
  case outside =>
    intro j
    exact ⟨fun _ => Nat.zero_le j, fun _ => rfl⟩
  case raised =>
    intro j hphase
    cases hphase

theorem Nested.receive {req : Request} (h : req.Nested) (k : Nat) (op : WriterOp) :
  (req.receive k op).Nested
  := by
  constructor
  case layers =>
    rw [receive_timeouts]
    exact h.layers
  case entered_le =>
    rw [receive_entered, receive_depth]
    exact h.entered_le
  case started =>
    rw [receive_handler, receive_entered, receive_depth]
    exact h.started
  case outside =>
    intro j
    rw [receive_phase, receive_entered]
    exact h.outside j
  case raised =>
    intro j
    rw [receive_phase, innerPanicked_receive]
    exact h.raised j

/-- What a layer that is not the innermost runs has panicked if the next layer was unwound. -/
theorem innerPanicked_iff_of_lt {req : Request} {j : Nat} (hj : j + 1 < req.depth) :
  req.innerPanicked j = true ↔ (req.layer (j + 1)).phase = .panicked
  := by
  rw [innerPanicked, if_pos hj, decide_eq_true_eq]

/-- Changing a layer that has been entered and was not unwound. -/
theorem Nested.setLayer {req : Request} (h : req.Nested) {j : Nat} {l : Layer} (hj : j < req.entered)
    (hbefore : (req.layer j).phase ≠ .panicked) (hphase : l.phase ≠ .outside)
    (hpanicked : l.phase = .panicked → req.innerPanicked j = true) :
  (req.setLayer j l).Nested
  := by
  constructor
  case layers => exact h.layers
  case entered_le => exact h.entered_le
  case started => exact h.started
  case outside =>
    intro i
    by_cases hij : i = j
    · subst hij
      rw [setLayer_layer_self]
      exact ⟨fun hout => absurd hout hphase, fun hle => absurd hj (not_lt.mpr hle)⟩
    · rw [setLayer_layer_of_ne hij]
      exact h.outside i
  case raised =>
    intro i hi
    by_cases hij : i = j
    · subst hij
      rw [setLayer_layer_self] at hi
      rw [innerPanicked_setLayer (Nat.succ_ne_self i)]
      exact hpanicked hi
    · rw [setLayer_layer_of_ne hij] at hi
      have hraised := h.raised i hi
      by_cases hlast : i + 1 = j
      · subst hlast
        have hlt : i + 1 < req.depth := lt_of_lt_of_le hj h.entered_le
        exact absurd ((innerPanicked_iff_of_lt hlt).mp hraised) hbefore
      · rw [innerPanicked_setLayer hlast]
        exact hraised

/-- The handler ending while it runs. -/
theorem Nested.handlerEnds {req : Request} (h : req.Nested) (hruns : req.handlerRuns = true)
    (phase : HandlerPhase) :
  Nested { req with handler := phase }
  := by
  obtain ⟨hentered, hrunning⟩ := of_decide_eq_true hruns
  constructor
  case layers => exact h.layers
  case entered_le => exact h.entered_le
  case started =>
    intro _
    exact hentered
  case outside => exact h.outside
  case raised =>
    intro j hj
    have hraised := h.raised j hj
    unfold innerPanicked at hraised ⊢
    split at hraised
    · rename_i hlt
      exact (if_pos hlt).trans hraised
    · rw [hrunning] at hraised
      cases hraised

/-- Every step keeps the nesting. -/
theorem Nested.moves {r : Nat} {req req' : Request} {a : TimeoutStep} (h : req.Nested)
    (hmoves : req.Moves r a req') :
  req'.Nested
  := by
  have hentered : ∀ {j}, (req.layer j).phase ≠ .outside → j < req.entered := by
    intro j hj
    by_contra hle
    exact hj ((h.outside j).mpr (not_lt.mp hle))
  cases hmoves with
  | cancel => exact ⟨h.layers, h.entered_le, h.started, h.outside, h.raised⟩
  | enter hlt hbw hphase =>
      have hrunning : req.handler = .running := by
        by_contra hne
        exact absurd (h.started hne) (ne_of_lt hlt)
      constructor
      case layers => exact h.layers
      case entered_le => exact hlt
      case started =>
        intro hne
        exact absurd hrunning hne
      case outside =>
        intro j
        by_cases hj : j = req.entered
        · subst hj
          simp [hphase]
        · simp only [setLayer_layer_of_ne hj, h.outside j]
          omega
      case raised =>
        intro j hj
        by_cases hje : j = req.entered
        · subst hje
          simp [hphase] at hj
        · simp only [setLayer_layer_of_ne hje] at hj
          have hraised := h.raised j hj
          have hin : j < req.entered := hentered (by rw [hj]; simp)
          have hlt' : j + 1 < req.depth := by omega
          have hinner := (innerPanicked_iff_of_lt hlt').mp hraised
          have hin' : j + 1 < req.entered := hentered (by rw [hinner]; simp)
          exact (innerPanicked_setLayer (ne_of_lt hin') _).trans hraised
  | handlerWrite hruns => exact ⟨h.layers, h.entered_le, h.started, h.outside, h.raised⟩
  | handlerFinish hruns => exact h.handlerEnds hruns _
  | handlerPanic hruns => exact h.handlerEnds hruns _
  | selectFinished hj hwait hfinished horder =>
      apply h.setLayer
      · apply hentered
        rw [hwait]
        simp
      · rw [hwait]
        simp
      · simp
      · simp
  | selectPanic hj hwait hpanicked =>
      apply h.setLayer
      · apply hentered
        rw [hwait]
        simp
      · rw [hwait]
        simp
      · simp
      · intro _
        exact hpanicked
  | selectDone hj hwait =>
      apply h.setLayer
      · apply hentered
        rw [hwait]
        simp
      · rw [hwait]
        simp
      · simp
      · simp
  | layerWrite hphase =>
      apply h.setLayer
      · apply hentered
        rw [hphase]
        simp
      · rw [hphase]
        simp
      · simp
      · simp
  | serveReturn hleft hserved => exact ⟨h.layers, h.entered_le, h.started, h.outside, h.raised⟩

end Request

/-- Every step keeps the layers of every request nested. -/
theorem nested_of_step {s s' : Server} {a : TimeoutStep} (h : s.All fun _ req => req.Nested)
    (hstep : requestTimeoutMiddleware.step s a = some s') :
  s'.All fun _ req => req.Nested
  := by
  apply h.step hstep
  · intro r c timeouts _ hlayers
    exact .init c hlayers
  · intro r req req' _ hnested hmoves
    exact hnested.moves hmoves
  · intro r req k op hnested
    exact hnested.receive k op

namespace Request

/-- Changing a layer that was not unwound leaves a goroutine abandoned, if its own layer goes on
answering. -/
theorem Abandoned.setLayer {req : Request} {i j : Nat} {l : Layer} (h : req.Abandoned j)
    (hbefore : (req.layer i).phase ≠ .panicked)
    (hphase : i = j → ∃ rest, l.phase = .leaving rest) :
  (req.setLayer i l).Abandoned j
  := by
  obtain ⟨hpanicked, rest, hrest⟩ := h
  constructor
  · by_cases hi : j + 1 = i
    · subst hi
      by_cases hlt : j + 1 < req.depth
      · exact absurd ((innerPanicked_iff_of_lt hlt).mp hpanicked) hbefore
      · rw [← hpanicked, innerPanicked, innerPanicked, if_neg hlt]
        exact if_neg hlt
    · rw [innerPanicked_setLayer hi]
      exact hpanicked
  · by_cases hij : i = j
    · subst hij
      rw [setLayer_layer_self]
      exact hphase rfl
    · use rest
      rw [setLayer_layer_of_ne (Ne.symm hij), hrest]

/-- What has panicked stays so when the running handler ends. -/
theorem innerPanicked_handlerEnds {req : Request} {j : Nat} (hruns : req.handlerRuns = true)
    (h : req.innerPanicked j = true) (phase : HandlerPhase) :
  Request.innerPanicked { req with handler := phase } j = true
  := by
  have hrunning : req.handler = .running := (of_decide_eq_true hruns).2
  unfold innerPanicked at h ⊢
  split at h
  · rename_i hlt
    exact (if_pos hlt).trans h
  · rw [hrunning] at h
    cases h

/-- A goroutine that is abandoned stays so. -/
theorem Abandoned.moves {r : Nat} {req req' : Request} {a : TimeoutStep} {j : Nat}
    (h : req.Abandoned j) (hnested : req.Nested) (hmoves : req.Moves r a req') :
  req'.Abandoned j
  := by
  obtain ⟨rest, hrest⟩ := h.2
  cases hmoves with
  | cancel => exact h
  | enter hlt hbw hphase =>
      apply h.setLayer (i := req.entered)
      · rw [(hnested.outside req.entered).mpr le_rfl]
        simp
      · rintro rfl
        rw [(hnested.outside req.entered).mpr le_rfl] at hrest
        cases hrest
  | handlerWrite hruns => exact h
  | handlerFinish hruns => exact ⟨innerPanicked_handlerEnds hruns h.1 _, h.2⟩
  | handlerPanic hruns => exact ⟨innerPanicked_handlerEnds hruns h.1 _, h.2⟩
  | selectFinished hj hwait hfinished horder =>
      apply h.setLayer
      · rw [hwait]
        simp
      · intro _
        exact ⟨_, rfl⟩
  | selectPanic hj hwait hpanicked =>
      apply h.setLayer
      · rw [hwait]
        simp
      · rintro rfl
        rw [hwait] at hrest
        cases hrest
  | selectDone hj hwait =>
      apply h.setLayer
      · rw [hwait]
        simp
      · intro _
        exact ⟨_, rfl⟩
  | layerWrite hphase =>
      apply h.setLayer
      · rw [hphase]
        simp
      · intro _
        exact ⟨_, rfl⟩
  | serveReturn hleft hserved => exact h

/-- A layer that was entered, does not wait and runs something that has not panicked is
answering. -/
theorem Nested.leaving {req : Request} (h : req.Nested) {j : Nat} (hj : j < req.entered)
    (hwait : (req.layer j).phase ≠ .waiting) (hpanicked : req.innerPanicked j = false) :
  ∃ rest, (req.layer j).phase = .leaving rest
  := by
  cases hphase : (req.layer j).phase with
  | outside => exact absurd ((h.outside j).mp hphase) (not_le.mpr hj)
  | waiting => exact absurd hphase hwait
  | leaving rest => exact ⟨rest, rfl⟩
  | panicked =>
      rw [h.raised j hphase] at hpanicked
      cases hpanicked

end Request

/-- Some goroutine is abandoned. -/
def SomeAbandoned (s : Server) : Prop :=
  ∃ r req j, s.requests r = some req ∧ j < req.depth ∧ req.Abandoned j

/-- A goroutine of a request that was just changed. -/
theorem someAbandoned_of_setRequest {s s' : Server} {r j : Nat} {req : Request}
    (hrequests : s'.requests = (s.setRequest r req).requests) (hj : j < req.depth)
    (h : req.Abandoned j) :
  SomeAbandoned s'
  := by
  refine ⟨r, req, j, ?_, hj, h⟩
  rw [hrequests]
  exact Function.update_self ..

/-- A step that breaks the rule abandons a goroutine. -/
theorem someAbandoned_of_step {s s' : Server} {a : TimeoutStep}
    (hnested : s.All fun _ req => req.Nested) (hrule : ¬ PanicAwaited s a)
    (hstep : requestTimeoutMiddleware.step s a = some s') :
  SomeAbandoned s'
  := by
  rcases Server.cases_of_step hstep with ⟨nanos, rfl, -⟩ | ⟨r, c, timeouts, rfl, -⟩
    | ⟨r, req, req', hreq, hmoved⟩
  · exact absurd trivial hrule
  · exact absurd trivial hrule
  · have hn := hnested r req hreq
    have hrequests := hmoved.requests
    cases hmoved.moves with
    | handlerPanic hruns =>
        simp only [PanicAwaited, hreq, Option.mem_def, Option.some.injEq, forall_eq'] at hrule
        obtain ⟨hentered, hrunning⟩ := of_decide_eq_true hruns
        obtain ⟨j, hj⟩ := Nat.exists_eq_succ_of_ne_zero
          (Nat.ne_of_gt (List.length_pos_iff.mpr hn.layers) : req.depth ≠ 0)
        rw [hj, Nat.succ_sub_one] at hrule
        have hinner : req.innerPanicked j = false := by
          rw [Request.innerPanicked, if_neg (by omega), hrunning]
          rfl
        apply someAbandoned_of_setRequest hrequests (j := j)
        · exact hj ▸ Nat.lt_succ_self j
        · constructor
          · rw [Request.innerPanicked]
            exact if_neg (hj ▸ lt_irrefl _)
          · exact hn.leaving (by omega) hrule hinner
    | @selectPanic j hj hwait hpanicked =>
        simp only [PanicAwaited, hreq, Option.mem_def, Option.some.injEq, forall_eq', not_or] at hrule
        obtain ⟨hpos, houter⟩ := hrule
        obtain ⟨i, rfl⟩ := Nat.exists_eq_succ_of_ne_zero hpos
        have hin : i + 1 < req.entered := by
          by_contra hle
          rw [(hn.outside (i + 1)).mpr (not_lt.mp hle)] at hwait
          cases hwait
        have hinner : req.innerPanicked i = false := by
          rw [Request.innerPanicked, if_pos hj, hwait]
          rfl
        apply someAbandoned_of_setRequest hrequests (j := i)
        · exact Nat.lt_of_succ_lt hj
        · constructor
          · rw [Request.innerPanicked, Request.setLayer_layer_self]
            exact (if_pos hj).trans rfl
          · rw [Request.setLayer_layer_of_ne (Nat.ne_of_lt (Nat.lt_succ_self i))]
            exact hn.leaving (Nat.lt_of_succ_lt hin) houter hinner
    | @selectDone j hj hwait =>
        simp only [PanicAwaited, hreq, Option.mem_def, Option.some.injEq, forall_eq',
          Bool.not_eq_false] at hrule
        apply someAbandoned_of_setRequest hrequests (j := j)
        · exact hj
        · constructor
          · rw [Request.innerPanicked_setLayer (Nat.succ_ne_self j)]
            exact hrule
          · rw [Request.setLayer_layer_self]
            exact ⟨timeoutWrites, rfl⟩
    | cancel | enter | handlerWrite | handlerFinish | selectFinished | layerWrite | serveReturn =>
        exact absurd trivial hrule

/-- Once a goroutine is abandoned, some goroutine is abandoned after every step. -/
theorem SomeAbandoned.step {s s' : Server} {a : TimeoutStep} (h : SomeAbandoned s)
    (hnested : s.All fun _ req => req.Nested)
    (hstep : requestTimeoutMiddleware.step s a = some s') :
  SomeAbandoned s'
  := by
  obtain ⟨r, req, j, hreq, hj, habandoned⟩ := h
  have hall : s.All fun r' req' => req'.Nested ∧ (r' = r → j < req'.depth ∧ req'.Abandoned j) := by
    intro r' req' hreq'
    use hnested r' req' hreq'
    rintro rfl
    obtain rfl := Option.some.inj (hreq.symm.trans hreq')
    exact ⟨hj, habandoned⟩
  have hafter := hall.step hstep
    (by
      intro r' c timeouts hfresh hlayers
      use .init c hlayers
      rintro rfl
      rw [hreq] at hfresh
      cases hfresh)
    (by
      rintro r' req₁ req₂ - ⟨hn, hkept⟩ hmoves
      use hn.moves hmoves
      intro hr
      obtain ⟨hlt, hab⟩ := hkept hr
      exact ⟨hmoves.depth_eq ▸ hlt, hab.moves hn hmoves⟩)
    (by
      rintro r' req₁ k op ⟨hn, hkept⟩
      use hn.receive k op
      intro hr
      obtain ⟨hlt, hpanicked, rest, hrest⟩ := hkept hr
      rw [Request.receive_depth]
      refine ⟨hlt, ?_, rest, ?_⟩
      · rw [Request.innerPanicked_receive]
        exact hpanicked
      · rw [Request.receive_phase]
        exact hrest)
  obtain ⟨req', hreq'⟩ := Option.isSome_iff_exists.mp
    ((Server.isSome_iff_of_step hstep r).mpr (Or.inl (Option.isSome_iff_exists.mpr ⟨req, hreq⟩)))
  obtain ⟨hlt, hab⟩ := (hafter r req' hreq').2 rfl
  exact ⟨r, req', j, hreq', hlt, hab⟩

/-- After a run with a step that breaks the rule some goroutine is abandoned. -/
theorem someAbandoned_of_run : ∀ (steps : List TimeoutStep) {s s' : Server},
    (s.All fun _ req => req.Nested) → requestTimeoutMiddleware.run s steps = some s' →
    ¬ requestTimeoutMiddleware.Guarded PanicAwaited s steps → SomeAbandoned s'
  | [], _, _, _, _, hbroken => absurd trivial hbroken
  | a :: steps, s, s', hnested, hrun, hbroken => by
      obtain ⟨s₁, hs₁, hrun'⟩ := Machine.run_cons_eq_some.mp hrun
      have hnested' := nested_of_step hnested hs₁
      by_cases hrule : PanicAwaited s a
      · apply someAbandoned_of_run steps hnested' hrun'
        intro hguarded
        apply hbroken
        use hrule
        intro s₂ hs₂
        obtain rfl := Option.some.inj (hs₁.symm.trans hs₂)
        exact hguarded
      · have hkeeps : ∀ (s₂ : Server) (b : TimeoutStep) (s₃ : Server),
            (s₂.All fun _ req => req.Nested) ∧ SomeAbandoned s₂ →
            requestTimeoutMiddleware.step s₂ b = some s₃ →
            (s₃.All fun _ req => req.Nested) ∧ SomeAbandoned s₃ := by
          rintro s₂ b s₃ ⟨hn, hsome⟩ hstep
          exact ⟨nested_of_step hn hstep, hsome.step hn hstep⟩
        exact (Machine.run_keeps hkeeps steps
          ⟨hnested', someAbandoned_of_step hnested hrule hs₁⟩ hrun').2

/-- In every run in which the rest of a chain panics only while its layer waits, and no layer picks
its deadline once the rest of its chain has panicked, no goroutine is blocked once its layer has
returned, and every panic is waited for or was raised again by its layer.  In every other run whose
layers pick their deadlines only once the handler is at work, some goroutine sends a panic to a
layer that answers something else, and is blocked once it has returned. -/
theorem stranded_iff (now : Int) (steps : List TimeoutStep) (s : Server)
    (hrun : requestTimeoutMiddleware.run (.init now) steps = some s) :
  (requestTimeoutMiddleware.Guarded PanicAwaited (.init now) steps →
      ∀ r req, s.requests r = some req → ∀ j < req.depth,
        ¬ req.Stranded j
          ∧ (req.innerPanicked j = true →
            (req.layer j).phase = .waiting ∨ (req.layer j).phase = .panicked))
    ∧ (¬ requestTimeoutMiddleware.Guarded PanicAwaited (.init now) steps →
      requestTimeoutMiddleware.Guarded HandlerStarted (.init now) steps →
      ∃ r req j, s.requests r = some req ∧ j < req.depth ∧ req.Abandoned j
        ∧ ((req.layer j).left = true → req.Stranded j))
  := by
  constructor
  · intro hrule r req hreq j hj
    have hawaited := awaited_of_run hrule hrun r req hreq
    constructor
    · intro hstranded
      exact hawaited.not_abandoned hj hstranded.abandoned
    · exact hawaited j hj
  · -- The second condition says that it is the goroutine of a layer that the panic is on.
    intro hbroken _
    have hnested : (Server.init now).All fun _ req => req.Nested := by
      intro r req hreq
      cases hreq
    obtain ⟨r, req, j, hreq, hj, habandoned⟩ := someAbandoned_of_run steps hnested hrun hbroken
    exact ⟨r, req, j, hreq, hj, habandoned, habandoned.stranded⟩

/-- A request with one layer whose handler panics, after the layer has answered that the deadline
has passed if `late`, and before it otherwise. -/
def samplePanic (late : Bool) : List TimeoutStep :=
  [.accept 0 0 [1], .enter 0]
    ++ (if late then
        [.tick 1, .selectDone 0 0, .layerWrite 0 0, .layerWrite 0 0, .layerWrite 0 0,
          .handlerPanic 0]
      else [.handlerPanic 0, .selectPanic 0 0])

/-- A handler that panics after its layer has returned is stranded. -/
theorem stranded_counterexample :
  ∃ s req, requestTimeoutMiddleware.run (.init 0) (samplePanic true) = some s
    ∧ s.requests 0 = some req ∧ req.Stranded 0
  := by
  have hsample : (do
      let s ← requestTimeoutMiddleware.run (.init 0) (samplePanic true)
      let req ← s.requests 0
      some ((req.layer 0).left, req.goroutine 0)) = some (true, .sending) := by
    decide
  simp only [Option.bind_eq_bind, Option.bind_eq_some_iff, Option.some.injEq, Prod.mk.injEq] at hsample
  obtain ⟨s, hs, req, hreq, hleft, hsending⟩ := hsample
  exact ⟨s, req, hs, hreq, hleft, hsending⟩

/-- A handler that panics while its layer waits is not stranded. -/
theorem stranded_sample :
  ∃ s req, requestTimeoutMiddleware.run (.init 0) (samplePanic false) = some s
    ∧ s.requests 0 = some req ∧ req.innerPanicked 0 = true ∧ ¬ req.Stranded 0
  := by
  have hsample : (do
      let s ← requestTimeoutMiddleware.run (.init 0) (samplePanic false)
      let req ← s.requests 0
      some (req.innerPanicked 0, decide (0 < req.depth))) = some (true, true) := by
    decide
  simp only [Option.bind_eq_bind, Option.bind_eq_some_iff, Option.some.injEq, Prod.mk.injEq,
    decide_eq_true_eq] at hsample
  obtain ⟨s, hs, req, hreq, hpanicked, hdepth⟩ := hsample
  have hrule : requestTimeoutMiddleware.Guarded PanicAwaited (.init 0) (samplePanic false) := by
    decide
  exact ⟨s, req, hs, hreq, hpanicked,
    ((stranded_iff 0 (samplePanic false) s hs).1 hrule 0 req hreq 0 hdepth).1⟩

end Paygate.Gateway
