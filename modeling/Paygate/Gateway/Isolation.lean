import Paygate.Gateway.Layers
import Paygate.Gateway.Moves

/-!
# Isolation of requests

The requests of a server that hands out no Context while goroutines of its last holder
still run (`ContextPrivate`).  Every request is then sound and, while it runs, owns its
Context (`Isolated`).
-/

namespace Paygate.Gateway

/-! ### The invariant of the server -/

/-- No Context is handed out while goroutines of the request it was last handed to still
run. -/
def ContextPrivate (s : Server) : TimeoutStep → Prop
  | .accept _ c _ => ∀ ctx ∈ s.contexts c, ∀ req ∈ s.requests ctx.holder, req.Quiet
  | _ => True

instance (s : Server) : (a : TimeoutStep) → Decidable (ContextPrivate s a)
  | .accept _ c _ => inferInstanceAs (Decidable (∀ ctx ∈ s.contexts c, _))
  | .tick _ | .cancel _ | .enter _ | .handlerWrite _ _ | .handlerFinish _ | .handlerPanic _
  | .selectFinished _ _ _ | .selectPanic _ _ | .selectDone _ _ | .layerWrite _ _
  | .serveReturn _ => .isTrue trivial

/-- The request holds its Context, and the Context holds the innermost of its writers unless
its handler has panicked. -/
def Server.Owns (s : Server) (r : Nat) (req : Request) : Prop :=
  ∃ ctx, s.contexts req.context = some ctx ∧ ctx.holder = r
    ∧ (req.handler ≠ .panicked → ctx.writer = ⟨r, req.entered⟩)

/-- The invariant of the server: every request is sound, and one that still runs owns its
Context. -/
structure Server.Isolated (s : Server) : Prop where
  sound : ∀ r req, s.requests r = some req → req.Sound r
  owns : ∀ r req, s.requests r = some req → ¬ req.Quiet → s.Owns r req

namespace Server

/-- The request keeps its Context if neither the Context nor the number of layers entered
changes and a panic is not undone. -/
theorem Owns.congr {s : Server} {r : Nat} {req req' : Request} (h : s.Owns r req)
    (hcontext : req'.context = req.context) (hentered : req'.entered = req.entered)
    (hpanic : req.handler = .panicked → req'.handler = .panicked) :
  s.Owns r req'
  := by
  obtain ⟨ctx, hctx, hholder, hwriter⟩ := h
  use ctx
  rw [hcontext, hentered]
  refine ⟨hctx, hholder, ?_⟩
  intro hne
  apply hwriter
  intro hp
  apply hne (hpanic hp)

/-- Every request is still there, and the buffers that were closed still are. -/
def Keeps (s s' : Server) : Prop :=
  ∀ r req, s.requests r = some req → ∃ req', s'.requests r = some req'
    ∧ ∀ i, (req.layer i).bw.closed = true → (req'.layer i).bw.closed = true

/-- Changing a request without opening one of its buffers. -/
theorem keeps_setRequest {s : Server} {r : Nat} {req req' : Request} (hreq : s.requests r = some req)
    (h : ∀ i, (req.layer i).bw.closed = true → (req'.layer i).bw.closed = true) :
  s.Keeps (s.setRequest r req')
  := by
  intro r₁ req₁ hreq₁
  by_cases hr : r₁ = r
  · subst hr
    obtain rfl := Option.some.inj (hreq.symm.trans hreq₁)
    use req'
    constructor
    · simp only [Server.setRequest, Function.update_self]
    · exact h
  · use req₁
    constructor
    · simp only [Server.setRequest, Function.update_of_ne hr]
      exact hreq₁
    · intro i hi
      exact hi

/-- Changing a request keeps the invariant if it stays sound, opens no buffer and owns its
Context while it runs. -/
theorem Isolated.setRequest {s : Server} (h : s.Isolated) {r : Nat} {req req' : Request}
    (hreq : s.requests r = some req) (hsound : req'.Sound r)
    (hclosed : ∀ i, (req.layer i).bw.closed = true → (req'.layer i).bw.closed = true)
    (howns : ¬ req'.Quiet → s.Owns r req') :
  (s.setRequest r req').Isolated ∧ s.Keeps (s.setRequest r req')
  := by
  refine ⟨⟨?_, ?_⟩, keeps_setRequest hreq hclosed⟩
  · intro r₁ req₁ hreq₁
    by_cases hr : r₁ = r
    · subst hr
      simp only [Server.setRequest, Function.update_self, Option.some.injEq] at hreq₁
      subst hreq₁
      exact hsound
    · simp only [Server.setRequest, Function.update_of_ne hr] at hreq₁
      apply h.sound r₁ req₁ hreq₁
  · intro r₁ req₁ hreq₁ hruns
    by_cases hr : r₁ = r
    · subst hr
      simp only [Server.setRequest, Function.update_self, Option.some.injEq] at hreq₁
      subst hreq₁
      exact howns hruns
    · simp only [Server.setRequest, Function.update_of_ne hr] at hreq₁
      exact h.owns r₁ req₁ hreq₁ hruns

/-- A request that holds its Context may change itself and the writer in the Context. -/
theorem Isolated.setContext {s : Server} (h : s.Isolated) {r : Nat} {req req' : Request}
    {ctx : GinContext} (writer : WriterRef) (hreq : s.requests r = some req)
    (hctx : s.contexts req.context = some ctx) (hholder : ctx.holder = r)
    (hsound : req'.Sound r)
    (hclosed : ∀ i, (req.layer i).bw.closed = true → (req'.layer i).bw.closed = true)
    (hcontext : req'.context = req.context)
    (hwriter : req'.handler ≠ .panicked → writer = ⟨r, req'.entered⟩) :
  ((s.setRequest r req').setContext req.context { ctx with writer := writer }).Isolated
    ∧ s.Keeps ((s.setRequest r req').setContext req.context { ctx with writer := writer })
  := by
  refine ⟨⟨?_, ?_⟩, keeps_setRequest hreq hclosed⟩
  · intro r₁ req₁ hreq₁
    by_cases hr : r₁ = r
    · subst hr
      simp only [Server.setContext, Server.setRequest, Function.update_self, Option.some.injEq] at hreq₁
      subst hreq₁
      exact hsound
    · simp only [Server.setContext, Server.setRequest, Function.update_of_ne hr] at hreq₁
      apply h.sound r₁ req₁ hreq₁
  · intro r₁ req₁ hreq₁ hruns
    by_cases hr : r₁ = r
    · subst hr
      simp only [Server.setContext, Server.setRequest, Function.update_self, Option.some.injEq] at hreq₁
      subst hreq₁
      refine ⟨{ ctx with writer := writer }, ?_, hholder, hwriter⟩
      simp only [Server.setContext, hcontext, Function.update_self]
    · simp only [Server.setContext, Server.setRequest, Function.update_of_ne hr] at hreq₁
      obtain ⟨ctx₁, hctx₁, hholder₁, hwriter₁⟩ := h.owns r₁ req₁ hreq₁ hruns
      have hc : req₁.context ≠ req.context := by
        intro hc
        rw [hc, hctx, Option.some.injEq] at hctx₁
        subst hctx₁
        exact hr (hholder₁.symm.trans hholder)
      refine ⟨ctx₁, ?_, hholder₁, hwriter₁⟩
      simp only [Server.setContext, Function.update_of_ne hc]
      exact hctx₁

/-- A writer of a request that was just changed receives an operation. -/
theorem setRequest_deliver {s : Server} {r j : Nat} {req : Request} {op : WriterOp}
    {ref : WriterRef} (h : ref = ⟨r, j⟩) :
  (s.setRequest r req).deliver ref op = s.setRequest r (req.receive j op)
  := by
  subst h
  simp only [deliver, Server.setRequest, Function.update_self, Function.update_idem]

/-- A request with a layer that has not left is not quiet. -/
theorem not_quiet_of_not_left {req : Request} {j : Nat} (hj : j < req.depth)
    (hleft : (req.layer j).left = false) :
  ¬ req.Quiet
  := by
  intro hquiet
  have := hquiet.2 j hj
  rw [hleft] at this
  cases this

/-- A request whose handler runs is not quiet. -/
theorem not_quiet_of_running {req : Request} (h : req.handler = .running) :
  ¬ req.Quiet
  := by
  intro hquiet
  exact hquiet.1 h

/-- A request arriving keeps the invariant if the last holder of its Context is quiet. -/
theorem Isolated.accept {s : Server} (h : s.Isolated) {r c : Nat} {timeouts : List Int}
    (hfresh : s.requests r = none) (hlayers : timeouts ≠ [])
    (hprivate : ∀ ctx ∈ s.contexts c, ∀ req ∈ s.requests ctx.holder, req.Quiet) :
  ((s.setRequest r (.init c timeouts)).setContext c
      { writer := ⟨r, 0⟩, holder := r, inUse := true }).Isolated
    ∧ s.Keeps ((s.setRequest r (.init c timeouts)).setContext c
      { writer := ⟨r, 0⟩, holder := r, inUse := true })
  := by
  refine ⟨⟨?_, ?_⟩, ?_⟩
  · intro r' req' hreq'
    by_cases hr : r' = r
    · subst hr
      simp only [Server.setContext, Server.setRequest, Function.update_self, Option.some.injEq] at hreq'
      subst hreq'
      apply Request.Sound.init hlayers
    · simp only [Server.setContext, Server.setRequest, Function.update_of_ne hr] at hreq'
      apply h.sound r' req' hreq'
  · intro r' req' hreq' hruns
    by_cases hr : r' = r
    · subst hr
      simp only [Server.setContext, Server.setRequest, Function.update_self, Option.some.injEq] at hreq'
      subst hreq'
      refine ⟨{ writer := ⟨r', 0⟩, holder := r', inUse := true }, ?_, rfl, fun _ => rfl⟩
      simp [Server.setContext, Request.init]
    · simp only [Server.setContext, Server.setRequest, Function.update_of_ne hr] at hreq'
      obtain ⟨ctx', hctx', hholder', hwriter'⟩ := h.owns r' req' hreq' hruns
      have hc : req'.context ≠ c := by
        rintro rfl
        apply hruns
        apply hprivate ctx' hctx'
        rw [hholder']
        exact hreq'
      refine ⟨ctx', ?_, hholder', hwriter'⟩
      simp only [Server.setContext, Function.update_of_ne hc]
      exact hctx'
  · intro r' req' hreq'
    have hr : r' ≠ r := by
      rintro rfl
      rw [hfresh] at hreq'
      cases hreq'
    use req'
    constructor
    · simp only [Server.setContext, Server.setRequest, Function.update_of_ne hr]
      exact hreq'
    · intro i hi
      exact hi

/-- Taking a Context back from a request keeps the invariant. -/
theorem Isolated.release {s : Server} (h : s.Isolated) {c : Nat} {ctx : GinContext}
    (hctx : s.contexts c = some ctx) :
  (s.setContext c { ctx with inUse := false }).Isolated
  := by
  constructor
  · exact h.sound
  · intro r req hreq hruns
    obtain ⟨ctx', hctx', hholder, hwriter⟩ := h.owns r req hreq hruns
    by_cases hc : req.context = c
    · subst hc
      obtain rfl := Option.some.inj (hctx.symm.trans hctx')
      refine ⟨{ ctx with inUse := false }, ?_, hholder, hwriter⟩
      simp only [Server.setContext, Function.update_self]
    · refine ⟨ctx', ?_, hholder, hwriter⟩
      simp only [Server.setContext, Function.update_of_ne hc]
      exact hctx'

/-- A waiting layer has not left. -/
theorem left_of_waiting {l : Layer} (h : l.phase = .waiting) :
  l.left = false
  := by
  simp [Layer.left, h]

/-- Replacing a layer opens no buffer if it does not open the layer's own. -/
theorem setLayer_closed {req : Request} {j : Nat} {l : Layer}
    (h : (req.layer j).bw.closed = true → l.bw.closed = true) (i : Nat)
    (hi : (req.layer i).bw.closed = true) :
  ((req.setLayer j l).layer i).bw.closed = true
  := by
  by_cases hij : i = j
  · subst hij
    rw [Request.setLayer_layer_self]
    apply h hi
  · rw [Request.setLayer_layer_of_ne hij]
    exact hi

/-- Whether the client has gone away and whether the server is done do not matter to the layers. -/
theorem sound_setFlags {r : Nat} {req : Request} (h : req.Sound r) (cancelled served : Bool) :
  Request.Sound r { req with cancelled := cancelled, served := served }
  := ⟨h.layers, h.entered_le, h.started, h.unwritten, h.outside, h.inside, h.closed, h.panicked,
    h.silent, h.leaving, h.handler⟩

/-- A request that still runs may change itself, but neither its Context nor how many layers it has
entered. -/
theorem Isolated.advance {s : Server} (h : s.Isolated) {r : Nat} {req req' : Request}
    (hreq : s.requests r = some req) (hruns : ¬ req.Quiet) (hsound : req'.Sound r)
    (hclosed : ∀ i, (req.layer i).bw.closed = true → (req'.layer i).bw.closed = true)
    (hcontext : req'.context = req.context) (hentered : req'.entered = req.entered)
    (hpanic : req.handler = .panicked → req'.handler = .panicked) :
  (s.setRequest r req').Isolated ∧ s.Keeps (s.setRequest r req')
  := h.setRequest hreq hsound hclosed fun _ =>
    (h.owns r req hreq hruns).congr hcontext hentered hpanic

/-- The invariant and what is kept depend on the requests and the Contexts only. -/
theorem Isolated.congr {s s₁ s' : Server} (h : s₁.Isolated ∧ s.Keeps s₁)
    (hrequests : s'.requests = s₁.requests) (hcontexts : s'.contexts = s₁.contexts) :
  s'.Isolated ∧ s.Keeps s'
  := by
  refine ⟨⟨?_, ?_⟩, ?_⟩
  · rw [hrequests]
    exact h.1.sound
  · intro r req hreq hruns
    rw [hrequests] at hreq
    unfold Owns
    rw [hcontexts]
    exact h.1.owns r req hreq hruns
  · unfold Keeps
    rw [hrequests]
    exact h.2

/-- The innermost writer is the one in the Context of a running handler. -/
theorem Isolated.writer_of_running {s : Server} (h : s.Isolated) {r : Nat} {req : Request}
    (hreq : s.requests r = some req) (hrunning : req.handler = .running) :
  ∃ ctx, s.contexts req.context = some ctx ∧ ctx.holder = r ∧ ctx.writer = ⟨r, req.entered⟩
  := by
  obtain ⟨ctx, hctx, hholder, hwriter⟩ := h.owns r req hreq (not_quiet_of_running hrunning)
  refine ⟨ctx, hctx, hholder, hwriter ?_⟩
  rw [hrunning]
  simp

/-- The writer that is asked for something in a step of a request is one of the request's own. -/
theorem Isolated.deliverSent_eq {s : Server} (h : s.Isolated) {r : Nat} {req req' : Request}
    {a : TimeoutStep} (hreq : s.requests r = some req) (hmoves : req.Moves r a req') :
  (s.setRequest r req').deliverSent (s.sent r req a) = s.setRequest r (req.received r req' a)
  := by
  cases hmoves with
  | handlerWrite hruns =>
      obtain ⟨ctx, hctx, -, hwriter⟩ := h.writer_of_running hreq (of_decide_eq_true hruns).2
      rw [(of_decide_eq_true hruns).1] at hwriter
      rw [sent, hctx, Option.map_some, deliverSent, setRequest_deliver hwriter]
      rfl
  | @layerWrite j op rest hphase =>
      have hin : j < req.entered := by
        apply (h.sound r req hreq).lt_entered
        rw [hphase]
        simp
      simp only [sent, hphase, deliverSent, Request.received]
      rw [setRequest_deliver ((h.sound r req hreq).inside j hin).2]
  | _ => rfl

/-- A request that moves on a server that hands out no Context too early keeps the invariant. -/
theorem Isolated.moved {s s' : Server} {r : Nat} {req req' : Request} {a : TimeoutStep}
    (h : s.Isolated) (hreq : s.requests r = some req) (hmoved : s.Moved s' r req req' a) :
  s'.Isolated ∧ s.Keeps s'
  := by
  have hsound := h.sound r req hreq
  have hrequests := hmoved.requests
  rw [h.deliverSent_eq hreq hmoved.moves] at hrequests
  have hsame : (∀ ctx, req.contextAfter ctx a = ctx) → s'.contexts = s.contexts := by
    intro hctx
    rw [hmoved.contexts, funext hctx, ← contexts_eq_update]
  cases hmoved.moves with
  | cancel =>
      apply Isolated.congr _ hrequests (hsame fun _ => rfl)
      apply h.setRequest hreq
      · exact sound_setFlags hsound true req.served
      · exact fun _ hi => hi
      · intro hruns
        exact h.owns r req hreq hruns
  | @enter l hlt hbw hphase =>
      have hrunning := hsound.running_of_lt hlt
      obtain ⟨ctx, hctx, hholder, hwriter⟩ := h.writer_of_running hreq hrunning
      have horig : l.orig = ⟨r, req.entered⟩ := by
        have horig' := hmoved.orig rfl ctx hctx
        rw [Request.setLayer_layer_self] at horig'
        exact horig'.trans hwriter
      refine Isolated.congr (h.setContext ⟨r, req.entered + 1⟩ hreq hctx hholder ?_ ?_ ?_ ?_)
        hrequests ?_
      · exact hsound.enter hlt horig hbw hphase
      · apply setLayer_closed
        rw [hsound.outside _ le_rfl]
        intro hclosed
        cases hclosed
      · rfl
      · intro _
        rfl
      · rw [hmoved.contexts, hctx]
        rfl
  | handlerWrite hruns =>
      have hrunning : req.handler = .running := (of_decide_eq_true hruns).2
      simp only [Request.received] at hrequests
      apply Isolated.congr _ hrequests (hsame fun _ => rfl)
      apply h.advance hreq (not_quiet_of_running hrunning)
      · apply hsound.handlerWrite hruns
      · intro i hi
        rw [Request.receive_closed]
        exact hi
      · rw [Request.receive_context]
      · rw [Request.receive_entered]
      · rw [Request.receive_handler]
        exact id
  | handlerFinish hruns =>
      have hrunning : req.handler = .running := (of_decide_eq_true hruns).2
      apply Isolated.congr _ hrequests (hsame fun _ => rfl)
      apply h.advance hreq (not_quiet_of_running hrunning)
      · apply hsound.handlerEnds hruns
      · exact fun _ hi => hi
      · rfl
      · rfl
      · rw [hrunning]
        intro hp
        cases hp
  | handlerPanic hruns =>
      have hrunning : req.handler = .running := (of_decide_eq_true hruns).2
      apply Isolated.congr _ hrequests (hsame fun _ => rfl)
      apply h.advance hreq (not_quiet_of_running hrunning)
      · apply hsound.handlerEnds hruns
      · exact fun _ hi => hi
      · rfl
      · rfl
      · intro _
        rfl
  | selectFinished hj hwait hfinished horder =>
      apply Isolated.congr _ hrequests (hsame fun _ => rfl)
      apply h.advance hreq (not_quiet_of_not_left hj (left_of_waiting hwait))
      · apply hsound.selectFinished hj hwait hfinished horder
      · apply setLayer_closed
        exact id
      · rfl
      · rfl
      · exact id
  | @selectPanic j hj hwait hpanicked =>
      have hsound' := hsound.selectPanic hj hwait hpanicked
      obtain ⟨ctx, hctx, hholder, -⟩ :=
        h.owns r req hreq (not_quiet_of_not_left hj (left_of_waiting hwait))
      refine Isolated.congr (h.setContext (req.layer j).orig hreq hctx hholder hsound' ?_ ?_ ?_)
        hrequests ?_
      · apply setLayer_closed
        exact id
      · rfl
      · intro hne
        have hp := hsound'.panicked j (by rw [Request.setLayer_layer_self])
        exact absurd hp.1 hne
      · rw [hmoved.contexts, hctx]
        rfl
  | selectDone hj hwait =>
      apply Isolated.congr _ hrequests (hsame fun _ => rfl)
      apply h.advance hreq (not_quiet_of_not_left hj (left_of_waiting hwait))
      · apply hsound.selectDone hj hwait
      · apply setLayer_closed
        intro _
        rfl
      · rfl
      · rfl
      · exact id
  | @layerWrite j op rest hphase =>
      have hin : j < req.entered := by
        apply hsound.lt_entered
        rw [hphase]
        simp
      have hleft : (req.layer j).left = false := by
        simp [Layer.left, hphase]
      have hj := lt_of_lt_of_le hin hsound.entered_le
      simp only [Request.received, hphase] at hrequests
      apply Isolated.congr _ hrequests (hsame fun _ => rfl)
      apply h.advance hreq (not_quiet_of_not_left hj hleft)
      · apply hsound.layerWrite hphase
      · intro i hi
        rw [Request.receive_closed]
        apply setLayer_closed _ i hi
        exact id
      · rw [Request.receive_context]
        rfl
      · rw [Request.receive_entered]
        rfl
      · rw [Request.receive_handler]
        exact id
  | serveReturn hleft hserved =>
      have hset : (s.setRequest r { req with served := true }).Isolated
          ∧ s.Keeps (s.setRequest r { req with served := true }) := by
        apply h.setRequest hreq
        · exact sound_setFlags hsound req.cancelled true
        · exact fun _ hi => hi
        · intro hruns
          exact h.owns r req hreq hruns
      cases hctx : s.contexts req.context with
      | none =>
          apply Isolated.congr hset hrequests
          rw [hmoved.contexts, hctx]
          exact (congrArg _ hctx.symm).trans (Function.update_eq_self ..)
      | some ctx =>
          refine Isolated.congr ⟨hset.1.release hctx, hset.2⟩ hrequests ?_
          rw [hmoved.contexts, hctx]
          rfl

/-- A step that hands out no Context too early keeps the invariant and opens no buffer. -/
theorem Isolated.step {s : Server} {a : TimeoutStep} {s' : Server} (h : s.Isolated)
    (hprivate : ContextPrivate s a) (hstep : requestTimeoutMiddleware.step s a = some s') :
  s'.Isolated ∧ s.Keeps s'
  := by
  rcases cases_of_step hstep with ⟨nanos, -, rfl⟩ | ⟨r, c, timeouts, rfl, hfresh, hlayers, -, rfl⟩
    | ⟨r, req, req', hreq, hmoved⟩
  · use ⟨h.sound, h.owns⟩
    intro r req hreq
    exact ⟨req, hreq, fun _ hi => hi⟩
  · exact h.accept hfresh hlayers hprivate
  · exact h.moved hreq hmoved

/-- The server before the first request. -/
theorem isolated_init (now : Int) :
  (Server.init now).Isolated
  := by
  constructor
  · intro r req hreq
    cases hreq
  · intro r req hreq
    cases hreq

/-- The invariant holds after every run that hands out no Context too early. -/
theorem isolated_of_run {now : Int} {steps : List TimeoutStep} {s : Server}
    (hprivate : requestTimeoutMiddleware.Guarded ContextPrivate (.init now) steps)
    (hrun : requestTimeoutMiddleware.run (.init now) steps = some s) :
  s.Isolated
  := by
  apply Machine.run_invariant _ steps (isolated_init now) hprivate hrun
  intro s a s' hs hprivate hstep
  exact (hs.step hprivate hstep).1

end Server

/-! ### Isolation -/

/-- In every run that hands out no Context while goroutines of its last holder still run,
everything a client receives was written by the handler of its own request or by the
gateway. -/
theorem response_isolated (now : Int) (steps : List TimeoutStep) (s : Server)
    (hprivate : requestTimeoutMiddleware.Guarded ContextPrivate (.init now) steps)
    (hrun : requestTimeoutMiddleware.run (.init now) steps = some s) :
  ∀ r req, s.requests r = some req → ∀ op ∈ req.out, ∀ a ∈ op.authors,
    a = .gateway ∨ a = .handler r
  := by
  intro r req hreq
  apply ((Server.isolated_of_run hprivate hrun).sound r req hreq).authors

/-- The first request times out and its Context goes to the second; the handler of the
first goes on to write if `late`, and otherwise finishes before the second arrives. -/
def sampleSteps (late : Bool) : List TimeoutStep :=
  [.accept 0 0 [1], .enter 0, .tick 1, .selectDone 0 0, .layerWrite 0 0, .layerWrite 0 0,
    .layerWrite 0 0, .serveReturn 0]
  ++ (if late then [] else [.handlerWrite 0 (.write [65]), .handlerFinish 0])
  ++ [.accept 1 0 [1000], .enter 1]
  ++ (if late then [.handlerWrite 0 (.write [65])] else [])
  ++ [.handlerWrite 1 (.write [66]), .handlerFinish 1, .selectFinished 1 0 [], .layerWrite 1 0,
    .layerWrite 1 0]

/-- What the client of the second request receives. -/
def sampleOut (steps : List TimeoutStep) : Option (List WriterOp) := do
  let s ← requestTimeoutMiddleware.run (.init 0) steps
  let req ← s.requests 1
  some req.out

/-- When the first handler has finished before the second request arrives, the second
client receives what its own handler wrote. -/
theorem response_isolated_sample :
  ∃ s req, requestTimeoutMiddleware.run (.init 0) (sampleSteps false) = some s
    ∧ s.requests 1 = some req
    ∧ req.out = [.writeHeader ⟨.gateway, 200⟩, .write [⟨.handler 1, 66⟩]]
    ∧ ∀ op ∈ req.out, ∀ a ∈ op.authors, a = .gateway ∨ a = .handler 1
  := by
  have hout : sampleOut (sampleSteps false)
      = some [.writeHeader ⟨.gateway, 200⟩, .write [⟨.handler 1, 66⟩]] := by
    decide
  simp only [sampleOut, Option.bind_eq_bind, Option.bind_eq_some_iff, Option.some.injEq] at hout
  obtain ⟨s, hs, req, hreq, hout⟩ := hout
  use s, req, hs, hreq, hout
  apply response_isolated 0 (sampleSteps false) s _ hs 1 req hreq
  decide

/-- When the first handler writes after its Context was handed on, its bytes reach the
client of the second request. -/
theorem late_write_reaches_other_client :
  sampleOut (sampleSteps true)
    = some [.writeHeader ⟨.gateway, 200⟩, .write [⟨.handler 0, 65⟩, ⟨.handler 1, 66⟩]]
  := by
  decide

/-! ### Outside a layer that has timed out -/

namespace Request

/-- The two requests have sent the same to the client, and the layers outside layer `i` hold the
same and are where they are; layer `i` is where it is. -/
structure SameOutside (i : Nat) (req₁ req₂ : Request) : Prop where
  out : req₁.out = req₂.out
  outer : ∀ k < i, (req₁.layer k).bw = (req₂.layer k).bw
    ∧ (req₁.layer k).phase = (req₂.layer k).phase
  phase : (req₁.layer i).phase = (req₂.layer i).phase

section SameOutside

variable {i j : Nat} {req req₁ req₂ req₃ : Request}

theorem SameOutside.symm (h : req₁.SameOutside i req₂) : req₂.SameOutside i req₁
  := ⟨h.out.symm, fun k hk => ⟨(h.outer k hk).1.symm, (h.outer k hk).2.symm⟩, h.phase.symm⟩

theorem SameOutside.trans (h : req₁.SameOutside i req₂) (h' : req₂.SameOutside i req₃) :
  req₁.SameOutside i req₃
  := by
  refine ⟨h.out.trans h'.out, ?_, h.phase.trans h'.phase⟩
  intro k hk
  exact ⟨(h.outer k hk).1.trans (h'.outer k hk).1, (h.outer k hk).2.trans (h'.outer k hk).2⟩

/-- What a layer further in does is not seen. -/
theorem sameOutside_setLayer (hj : i < j) (l : Layer) : req.SameOutside i (req.setLayer j l)
  := by
  refine ⟨rfl, ?_, ?_⟩
  · intro k hk
    rw [setLayer_layer_of_ne (by omega)]
    exact ⟨rfl, rfl⟩
  · rw [setLayer_layer_of_ne (by omega)]

/-- What the buffer of layer `i` or one further in receives is not seen. -/
theorem sameOutside_receive (hj : i < j) (op : WriterOp) : req.SameOutside i (req.receive j op)
  := by
  obtain ⟨j, rfl⟩ := Nat.exists_eq_add_of_lt (Nat.zero_lt_of_lt hj)
  refine ⟨rfl, ?_, ?_⟩
  · intro k hk
    rw [receive_phase, Nat.zero_add, receive, setLayer_layer_of_ne (by omega)]
    exact ⟨rfl, rfl⟩
  · rw [receive_phase]

/-- Both requests change a layer in the same way. -/
theorem SameOutside.setLayer (h : req₁.SameOutside i req₂) {l₁ l₂ : Layer}
    (hphase : l₁.phase = l₂.phase) (hbw : j < i → l₁.bw = l₂.bw) :
  (req₁.setLayer j l₁).SameOutside i (req₂.setLayer j l₂)
  := by
  refine ⟨h.out, ?_, ?_⟩
  · intro k hk
    by_cases hkj : k = j
    · subst hkj
      rw [setLayer_layer_self, setLayer_layer_self]
      exact ⟨hbw hk, hphase⟩
    · rw [setLayer_layer_of_ne hkj, setLayer_layer_of_ne hkj]
      exact h.outer k hk
  · by_cases hij : i = j
    · subst hij
      rw [setLayer_layer_self, setLayer_layer_self]
      exact hphase
    · rw [setLayer_layer_of_ne hij, setLayer_layer_of_ne hij]
      exact h.phase

/-- A writer of both requests receives the same. -/
theorem SameOutside.receive (h : req₁.SameOutside i req₂) (op : WriterOp) :
  (req₁.receive j op).SameOutside i (req₂.receive j op)
  := by
  cases j with
  | zero =>
      refine ⟨?_, h.outer, h.phase⟩
      rw [Request.receive, Request.receive, h.out]
  | succ j =>
      rcases lt_trichotomy j i with hj | rfl | hj
      · refine SameOutside.setLayer h ?_ ?_
        · exact (h.outer j hj).2
        · intro _
          dsimp only
          rw [(h.outer j hj).1]
      · refine SameOutside.setLayer h ?_ ?_
        · exact h.phase
        · intro hlt
          exact absurd hlt (lt_irrefl j)
      · apply (sameOutside_setLayer hj _).symm.trans
        exact h.trans (sameOutside_setLayer hj _)

end SameOutside

end Request

/-- The step is no write of the handler of request `r`, and passes on nothing from inside layer `i`
of it. -/
def TimeoutStep.outside (r i : Nat) : TimeoutStep → Bool
  | .handlerWrite r' _ => r' ≠ r
  | .selectFinished r' j _ | .layerWrite r' j => r' ≠ r ∨ j ≤ i
  | _ => true

namespace Request

section Moves

variable {r i : Nat} {req req₁ req₂ req₁' req₂' : Request} {a : TimeoutStep}

/-- A layer that has timed out has been entered. -/
theorem Sound.lt_entered_of_closed (h : Sound r req) (hclosed : (req.layer i).bw.closed = true) :
  i < req.entered
  := by
  obtain ⟨rest, hphase⟩ := h.closed i hclosed
  apply h.lt_entered
  rw [hphase]
  simp

/-- What the handler writes, and what is passed on further in, is not seen outside a layer that
has timed out. -/
theorem Moves.sameOutside (hmoves : req.Moves r a req₁) (hsound : Sound r req)
    (hclosed : (req.layer i).bw.closed = true) (ha : a.outside r i = false) :
  req.SameOutside i (req.received r req₁ a)
  := by
  cases hmoves with
  | @handlerWrite w hruns =>
      have hentered : req.entered = req.depth := (of_decide_eq_true hruns).1
      have hi : i < req.depth := hentered ▸ hsound.lt_entered_of_closed hclosed
      have hwritten : req.SameOutside i { req with written := req.written ++ [w] } :=
        ⟨rfl, fun _ _ => ⟨rfl, rfl⟩, rfl⟩
      exact hwritten.trans (sameOutside_receive hi _)
  | @selectFinished j order hj hwait hfinished horder =>
      have hi : i < j := by
        simpa [TimeoutStep.outside] using ha
      exact sameOutside_setLayer hi _
  | @layerWrite j op rest hphase =>
      have hi : i < j := by
        simpa [TimeoutStep.outside] using ha
      simp only [received, hphase]
      exact (sameOutside_setLayer hi _).trans (sameOutside_receive hi _)
  | _ => cases ha

/-- Two requests take the same step. -/
theorem SameOutside.moves (h : req₁.SameOutside i req₂) (hmoves₁ : req₁.Moves r a req₁')
    (hmoves₂ : req₂.Moves r a req₂') (hsound₁ : Sound r req₁) (hsound₂ : Sound r req₂)
    (hclosed₁ : (req₁.layer i).bw.closed = true) (hclosed₂ : (req₂.layer i).bw.closed = true)
    (ha : a.outside r i = true) :
  (req₁.received r req₁' a).SameOutside i (req₂.received r req₂' a)
  := by
  obtain ⟨rest, hleaving⟩ := hsound₁.closed i hclosed₁
  cases hmoves₁ with
  | @enter l₁ =>
      cases hmoves₂ with
      | @enter l₂ =>
          have hi₁ := hsound₁.lt_entered_of_closed hclosed₁
          have hi₂ := hsound₂.lt_entered_of_closed hclosed₂
          have hinner := (sameOutside_setLayer hi₁ l₁).symm.trans
            (h.trans (sameOutside_setLayer hi₂ l₂))
          exact ⟨hinner.out, hinner.outer, hinner.phase⟩
  | handlerWrite => simp [TimeoutStep.outside] at ha
  | @selectFinished j order hj hwait hfinished horder =>
      have hj' : j < i := by
        have hle : j ≤ i := by
          simpa [TimeoutStep.outside] using ha
        apply lt_of_le_of_ne hle
        rintro rfl
        rw [hwait] at hleaving
        cases hleaving
      cases hmoves₂ with
      | selectFinished =>
          refine SameOutside.setLayer h ?_ ?_
          · dsimp only
            rw [(h.outer j hj').1]
          · intro _
            exact (h.outer j hj').1
  | @selectPanic j hj hwait hpanicked =>
      cases hmoves₂ with
      | selectPanic =>
          refine SameOutside.setLayer h ?_ ?_
          · rfl
          · intro hlt
            exact (h.outer j hlt).1
  | @selectDone j hj hwait =>
      cases hmoves₂ with
      | selectDone =>
          refine SameOutside.setLayer h ?_ ?_
          · rfl
          · intro hlt
            dsimp only
            rw [(h.outer j hlt).1]
  | @layerWrite j op rest hphase =>
      cases hmoves₂ with
      | @layerWrite _ op' rest' hphase' =>
          have hle : j ≤ i := by
            simpa [TimeoutStep.outside] using ha
          have hsame : (req₁.layer j).phase = (req₂.layer j).phase := by
            rcases hle.lt_or_eq with hlt | rfl
            · exact (h.outer j hlt).2
            · exact h.phase
          rw [hphase, hphase'] at hsame
          obtain ⟨rfl, rfl⟩ := List.cons.inj (Phase.leaving.inj hsame)
          simp only [received, hphase, hphase']
          apply SameOutside.receive
          refine SameOutside.setLayer h ?_ ?_
          · rfl
          · intro hlt
            exact (h.outer j hlt).1
  | cancel => cases hmoves₂ with | cancel => exact ⟨h.out, h.outer, h.phase⟩
  | handlerFinish => cases hmoves₂ with | handlerFinish => exact ⟨h.out, h.outer, h.phase⟩
  | handlerPanic => cases hmoves₂ with | handlerPanic => exact ⟨h.out, h.outer, h.phase⟩
  | serveReturn => cases hmoves₂ with | serveReturn => exact ⟨h.out, h.outer, h.phase⟩

end Moves

end Request

namespace Server

/-- A step leaves a request as it is, or is one of the request's own. -/
theorem Isolated.request_of_step {s s' : Server} {a : TimeoutStep} {r : Nat} {req : Request}
    (h : s.Isolated) (hreq : s.requests r = some req)
    (hstep : requestTimeoutMiddleware.step s a = some s') :
  (a.request ≠ some r ∧ s'.requests r = some req)
    ∨ ∃ req', req.Moves r a req' ∧ s'.requests r = some (req.received r req' a)
  := by
  rcases cases_of_step hstep with ⟨nanos, rfl, rfl⟩ | ⟨r', c, timeouts, rfl, hfresh, -, -, rfl⟩
    | ⟨r', req₁, req', hreq₁, hmoved⟩
  · exact Or.inl ⟨by simp [TimeoutStep.request], hreq⟩
  · have hne : r ≠ r' := by
      rintro rfl
      rw [hreq] at hfresh
      cases hfresh
    refine Or.inl ⟨by simp [TimeoutStep.request], ?_⟩
    exact (Function.update_of_ne hne _ _).trans hreq
  · rw [hmoved.requests, h.deliverSent_eq hreq₁ hmoved.moves]
    by_cases hr : r = r'
    · subst hr
      obtain rfl := Option.some.inj (hreq.symm.trans hreq₁)
      exact Or.inr ⟨req', hmoved.moves, Function.update_self ..⟩
    · left
      rw [hmoved.moves.request_eq]
      exact ⟨fun heq => hr (Option.some.inj heq).symm, (Function.update_of_ne hr _ _).trans hreq⟩

/-- Layer `i` of request `r` has timed out. -/
def TimedOut (r i : Nat) (s : Server) (req : Request) : Prop :=
  s.Isolated ∧ s.requests r = some req ∧ (req.layer i).bw.closed = true

/-- Layer `i` of request `r` has timed out on both servers, and the request is the same outside of
the layer. -/
def SameOutside (r i : Nat) (s₁ s₂ : Server) : Prop :=
  ∃ req₁ req₂, s₁.TimedOut r i req₁ ∧ s₂.TimedOut r i req₂ ∧ req₁.SameOutside i req₂

/-- A layer that has timed out stays so. -/
theorem TimedOut.step {s s' : Server} {a : TimeoutStep} {r i : Nat} {req : Request}
    (h : TimedOut r i s req) (hprivate : ContextPrivate s a)
    (hstep : requestTimeoutMiddleware.step s a = some s') :
  ∃ req', s'.TimedOut r i req'
    ∧ ((a.request ≠ some r ∧ req' = req)
      ∨ ∃ req₁, req.Moves r a req₁ ∧ req' = req.received r req₁ a)
  := by
  obtain ⟨hisolated, hreq, hclosed⟩ := h
  obtain ⟨hisolated', hkeeps⟩ := hisolated.step hprivate hstep
  obtain ⟨req', hreq', hclosed'⟩ := hkeeps r req hreq
  refine ⟨req', ⟨hisolated', hreq', hclosed' i hclosed⟩, ?_⟩
  rcases hisolated.request_of_step hreq hstep with ⟨hother, hsame⟩ | ⟨req₁, hmoves, hsame⟩
  · exact Or.inl ⟨hother, Option.some.inj (hreq'.symm.trans hsame)⟩
  · exact Or.inr ⟨req₁, hmoves, Option.some.inj (hreq'.symm.trans hsame)⟩

/-- After runs that are the same but for what the handler writes, and for what layers further in
pass on, a request is the same outside of a layer that had timed out before. -/
theorem TimedOut.sameOutside {s s₁ s₂ : Server} {r i : Nat} {req : Request}
    (h : TimedOut r i s req) {steps₁ steps₂ : List TimeoutStep}
    (hprivate₁ : requestTimeoutMiddleware.Guarded ContextPrivate s steps₁)
    (hprivate₂ : requestTimeoutMiddleware.Guarded ContextPrivate s steps₂)
    (hrun₁ : requestTimeoutMiddleware.run s steps₁ = some s₁)
    (hrun₂ : requestTimeoutMiddleware.run s steps₂ = some s₂)
    (hsame : steps₁.filter (TimeoutStep.outside r i) = steps₂.filter (TimeoutStep.outside r i)) :
  SameOutside r i s₁ s₂
  := by
  refine Machine.run_agree ?_ ?_ ?_ steps₁ steps₂ hprivate₁ hprivate₂ hsame ?_ hrun₁ hrun₂
  · rintro s₁ s₂ ⟨req₁, req₂, h₁, h₂, hagree⟩
    exact ⟨req₂, req₁, h₂, h₁, hagree.symm⟩
  · rintro s₁ s₂ a s₁' s₂' hprivate₁ hprivate₂ ⟨req₁, req₂, h₁, h₂, hagree⟩ ha hstep₁ hstep₂
    obtain ⟨req₁', h₁', hmove₁⟩ := h₁.step hprivate₁ hstep₁
    obtain ⟨req₂', h₂', hmove₂⟩ := h₂.step hprivate₂ hstep₂
    refine ⟨req₁', req₂', h₁', h₂', ?_⟩
    rcases hmove₁ with ⟨hother, rfl⟩ | ⟨m₁, hmoves₁, rfl⟩
    · rcases hmove₂ with ⟨-, rfl⟩ | ⟨m₂, hmoves₂, -⟩
      · exact hagree
      · exact absurd hmoves₂.request_eq hother
    · rcases hmove₂ with ⟨hother, -⟩ | ⟨m₂, hmoves₂, rfl⟩
      · exact absurd hmoves₁.request_eq hother
      · exact hagree.moves hmoves₁ hmoves₂ (h₁.1.sound r req₁ h₁.2.1) (h₂.1.sound r req₂ h₂.2.1)
          h₁.2.2 h₂.2.2 ha
  · rintro s₁ s₂ a s₁' hprivate ⟨req₁, req₂, h₁, h₂, hagree⟩ ha hstep
    obtain ⟨req₁', h₁', hmove⟩ := h₁.step hprivate hstep
    refine ⟨req₁', req₂, h₁', h₂, ?_⟩
    rcases hmove with ⟨-, rfl⟩ | ⟨m, hmoves, rfl⟩
    · exact hagree
    · exact (hmoves.sameOutside (h₁.1.sound r req₁ h₁.2.1) h₁.2.2 ha).symm.trans hagree
  · exact ⟨req, req, h, h, rfl, fun _ _ => ⟨rfl, rfl⟩, rfl⟩

end Server

/-! ### One response -/

/-- In every run that hands out no Context while goroutines of its last holder still run,
every client receives exactly one of the complete response of its handler, the timeout
response, and nothing if the handler panics; and once a layer of a request has timed out,
no later write of its handler changes what its client receives: it receives the same in runs
that go on in the same way but for what the handler writes, and for what the layers further in
pass on of it. -/
theorem response_untorn (now : Int) (steps : List TimeoutStep) (s : Server)
    (hprivate : requestTimeoutMiddleware.Guarded ContextPrivate (.init now) steps)
    (hrun : requestTimeoutMiddleware.run (.init now) steps = some s) :
  ∀ r req, s.requests r = some req →
    req.Untorn r
      ∧ ∀ i, (req.layer i).bw.closed = true →
          ∀ steps₁ steps₂ s₁ s₂, requestTimeoutMiddleware.Guarded ContextPrivate s steps₁ →
            requestTimeoutMiddleware.Guarded ContextPrivate s steps₂ →
            requestTimeoutMiddleware.run s steps₁ = some s₁ →
            requestTimeoutMiddleware.run s steps₂ = some s₂ →
            steps₁.filter (TimeoutStep.outside r i) = steps₂.filter (TimeoutStep.outside r i) →
            (s₁.requests r).map Request.out = (s₂.requests r).map Request.out
  := by
  have hisolated := Server.isolated_of_run hprivate hrun
  intro r req hreq
  use (hisolated.sound r req hreq).untorn
  intro i hclosed steps₁ steps₂ s₁ s₂ hprivate₁ hprivate₂ hrun₁ hrun₂ hsame
  have htimedOut : s.TimedOut r i req := ⟨hisolated, hreq, hclosed⟩
  obtain ⟨req₁, req₂, h₁, h₂, hagree⟩ :=
    htimedOut.sameOutside hprivate₁ hprivate₂ hrun₁ hrun₂ hsame
  rw [h₁.2.1, h₂.2.1, Option.map_some, Option.map_some, hagree.out]

/-- Two layers with one deadline: the inner one times out first. -/
def sampleNested : List TimeoutStep :=
  [.accept 0 0 [5, 5], .enter 0, .enter 0, .handlerWrite 0 (.setHeader "X-A" "1"), .tick 5,
    .selectDone 0 1]

/-- The outer layer flushes the answer of the inner one, while the handler writes on if `late`. -/
def sampleFlush (late : Bool) : List TimeoutStep :=
  [.layerWrite 0 1] ++ (if late then [.handlerWrite 0 (.write [65])] else [])
  ++ [.layerWrite 0 1, .layerWrite 0 1, .selectFinished 0 0 [timeoutHeader], .layerWrite 0 0]
  ++ (if late then [.handlerWrite 0 (.writeHeader 200)] else [])
  ++ [.layerWrite 0 0, .layerWrite 0 0]

/-- The client of the nested request receives the timeout response, whether the handler writes on
or not. -/
theorem response_untorn_sample :
  ∃ s req s₁ s₂, requestTimeoutMiddleware.run (.init 0) sampleNested = some s
    ∧ s.requests 0 = some req ∧ req.Untorn 0
    ∧ requestTimeoutMiddleware.run s (sampleFlush true) = some s₁
    ∧ requestTimeoutMiddleware.run s (sampleFlush false) = some s₂
    ∧ (s₂.requests 0).map Request.out = some (timeoutBuffer.flushTo [timeoutHeader])
    ∧ (s₁.requests 0).map Request.out = (s₂.requests 0).map Request.out
  := by
  have hruns : (do
      let s ← requestTimeoutMiddleware.run (.init 0) sampleNested
      let req ← s.requests 0
      let s₁ ← requestTimeoutMiddleware.run s (sampleFlush true)
      let s₂ ← requestTimeoutMiddleware.run s (sampleFlush false)
      some ((req.layer 1).bw.closed, (s₂.requests 0).map Request.out,
        decide (requestTimeoutMiddleware.Guarded ContextPrivate s (sampleFlush true)
          ∧ requestTimeoutMiddleware.Guarded ContextPrivate s (sampleFlush false))))
      = some (true, some (timeoutBuffer.flushTo [timeoutHeader]), true) := by
    decide +kernel
  simp only [Option.bind_eq_bind, Option.bind_eq_some_iff, Option.some.injEq, Prod.mk.injEq,
    decide_eq_true_eq] at hruns
  obtain ⟨s, hs, req, hreq, s₁, hs₁, s₂, hs₂, hclosed, hout, hprivate₁, hprivate₂⟩ := hruns
  obtain ⟨huntorn, hsame⟩ := response_untorn 0 sampleNested s (by decide) hs 0 req hreq
  use s, req, s₁, s₂, hs, hreq, huntorn, hs₁, hs₂, hout
  exact hsame 1 hclosed _ _ s₁ s₂ hprivate₁ hprivate₂ hs₁ hs₂ (by decide)

end Paygate.Gateway
