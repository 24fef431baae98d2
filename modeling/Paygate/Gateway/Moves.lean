import Paygate.Gateway.Timeout

/-!
# What a step does

A step of the server lets time pass, or a request arrives, or a request moves: it changes itself and
the Context it was given, and may ask one writer to do something (`Server.cases_of_step`).  What holds
of every request is kept by a step if it holds of a request that arrives and is kept by a request that
moves and by what a writer receives (`Server.All.step`).
-/

namespace Paygate.Gateway

/-! ### What a step does to a request -/

/-- What a step of a request does to the request, apart from what its writers receive. -/
inductive Request.Moves (r : Nat) (req : Request) : TimeoutStep → Request → Prop where
  | cancel : Moves r req (.cancel r) { req with cancelled := true }
  | enter {l : Layer} (hlt : req.entered < req.depth) (hbw : l.bw = newBufferedWriter)
      (hphase : l.phase = .waiting) :
      Moves r req (.enter r) { req.setLayer req.entered l with entered := req.entered + 1 }
  | handlerWrite {w : HandlerWrite} (hruns : req.handlerRuns = true) :
      Moves r req (.handlerWrite r w) { req with written := req.written ++ [w] }
  | handlerFinish (hruns : req.handlerRuns = true) :
      Moves r req (.handlerFinish r) { req with handler := .finished }
  | handlerPanic (hruns : req.handlerRuns = true) :
      Moves r req (.handlerPanic r) { req with handler := .panicked }
  | selectFinished {j : Nat} {order : Header} (hj : j < req.depth)
      (hwait : (req.layer j).phase = .waiting) (hfinished : req.innerFinished j = true)
      (horder : SameHeader order (req.layer j).bw.head) :
      Moves r req (.selectFinished r j order) (req.setLayer j
        { req.layer j with phase := .leaving ((req.layer j).bw.flushTo order) })
  | selectPanic {j : Nat} (hj : j < req.depth) (hwait : (req.layer j).phase = .waiting)
      (hpanicked : req.innerPanicked j = true) :
      Moves r req (.selectPanic r j) (req.setLayer j { req.layer j with phase := .panicked })
  | selectDone {j : Nat} (hj : j < req.depth) (hwait : (req.layer j).phase = .waiting) :
      Moves r req (.selectDone r j) (req.setLayer j {
        req.layer j with
        bw := { (req.layer j).bw with status := timeoutStatus, closed := true }
        phase := .leaving timeoutWrites })
  | layerWrite {j : Nat} {op : WriterOp} {rest : List WriterOp}
      (hphase : (req.layer j).phase = .leaving (op :: rest)) :
      Moves r req (.layerWrite r j) (req.setLayer j { req.layer j with phase := .leaving rest })
  | serveReturn (hleft : (req.layer 0).left = true) (hserved : req.served = false) :
      Moves r req (.serveReturn r) { req with served := true }

/-- The request that takes a step. -/
def TimeoutStep.request : TimeoutStep → Option Nat
  | .tick _ | .accept _ _ _ => none
  | .cancel r | .enter r | .handlerWrite r _ | .handlerFinish r | .handlerPanic r
  | .selectFinished r _ _ | .selectPanic r _ | .selectDone r _ | .layerWrite r _ | .serveReturn r =>
      some r

/-- A request moves in its own steps. -/
theorem Request.Moves.request_eq {r : Nat} {req req' : Request} {a : TimeoutStep}
    (h : req.Moves r a req') :
  a.request = some r
  := by
  cases h with
  | _ => rfl

/-- The number of layers stays. -/
theorem Request.Moves.depth_eq {r : Nat} {req req' : Request} {a : TimeoutStep}
    (h : req.Moves r a req') :
  req'.depth = req.depth
  := by
  cases h with
  | _ => rfl

/-- The request after a step, with what its writers receive in it. -/
def Request.received (r : Nat) (req : Request) (req' : Request) : TimeoutStep → Request
  | .handlerWrite _ w => req'.receive req.depth (w.tag r)
  | .layerWrite _ j =>
      match (req.layer j).phase with
      | .leaving (op :: _) => req'.receive j op
      | _ => req'
  | _ => req'

/-- The Context of a request after a step of the request. -/
def Request.contextAfter (req : Request) (ctx : GinContext) : TimeoutStep → GinContext
  | .enter r => { ctx with writer := ⟨r, req.entered + 1⟩ }
  | .selectPanic _ j => { ctx with writer := (req.layer j).orig }
  | .serveReturn _ => { ctx with inUse := false }
  | _ => ctx

namespace Server

/-- The operation a step of a request asks for, and the writer that is asked. -/
def sent (s : Server) (r : Nat) (req : Request) : TimeoutStep → Option (WriterRef × WriterOp)
  | .handlerWrite _ w => (s.contexts req.context).map fun ctx => (ctx.writer, w.tag r)
  | .layerWrite _ j =>
      match (req.layer j).phase with
      | .leaving (op :: _) => some ((req.layer j).orig, op)
      | _ => none
  | _ => none

/-- A writer receives the operation that was asked for, if any. -/
def deliverSent (s : Server) : Option (WriterRef × WriterOp) → Server
  | some (ref, op) => s.deliver ref op
  | none => s

/-- The requests and the Contexts after a request has moved. -/
structure Moved (s s' : Server) (r : Nat) (req req' : Request) (a : TimeoutStep) : Prop where
  moves : req.Moves r a req'
  orig : a = .enter r → ∀ ctx, s.contexts req.context = some ctx →
    (req'.layer req.entered).orig = ctx.writer
  requests : s'.requests = ((s.setRequest r req').deliverSent (s.sent r req a)).requests
  contexts : s'.contexts = Function.update s.contexts req.context
    ((s.contexts req.context).map fun ctx => req.contextAfter ctx a)

/-- What a writer receives changes no Context. -/
theorem deliver_contexts (s : Server) (ref : WriterRef) (op : WriterOp) :
  (s.deliver ref op).contexts = s.contexts
  := by
  unfold deliver
  split
  · rfl
  · rfl

/-- A step that leaves the Contexts as they are. -/
theorem contexts_eq_update {contexts : Nat → Option GinContext} (c : Nat) :
  contexts = Function.update contexts c ((contexts c).map fun ctx => ctx)
  := by
  rw [Option.map_id', Function.update_eq_self]

/-- A step lets time pass, or a request arrives with a Context that is not in use, or a request
moves. -/
theorem cases_of_step {s s' : Server} {a : TimeoutStep}
    (hstep : requestTimeoutMiddleware.step s a = some s') :
  (∃ nanos, a = .tick nanos ∧ s' = { s with now := s.now + nanos })
    ∨ (∃ r c timeouts, a = .accept r c timeouts ∧ s.requests r = none ∧ timeouts ≠ []
      ∧ (∀ ctx, s.contexts c = some ctx → ctx.inUse = false)
      ∧ s' = (s.setRequest r (.init c timeouts)).setContext c
        { writer := ⟨r, 0⟩, holder := r, inUse := true })
    ∨ ∃ r req req', s.requests r = some req ∧ s.Moved s' r req req' a
  := by
  cases a with
  | tick nanos =>
      obtain rfl := Option.some.inj hstep
      exact Or.inl ⟨nanos, rfl, rfl⟩
  | accept r c timeouts =>
      simp only [requestTimeoutMiddleware, Option.ite_none_right_eq_some, Option.some.injEq] at hstep
      obtain ⟨⟨hfresh, hlayers, hfree⟩, rfl⟩ := hstep
      refine Or.inr (Or.inl ⟨r, c, timeouts, rfl, Option.isNone_iff_eq_none.mp hfresh, hlayers, ?_,
        rfl⟩)
      intro ctx hctx
      rw [hctx, Option.all_some, Bool.not_eq_true'] at hfree
      exact hfree
  | cancel r =>
      simp only [requestTimeoutMiddleware, Option.bind_eq_bind, Option.bind_eq_some_iff,
        Option.some.injEq] at hstep
      obtain ⟨req, hreq, rfl⟩ := hstep
      exact Or.inr (Or.inr ⟨r, req, _, hreq, .cancel, by simp, rfl, contexts_eq_update _⟩)
  | enter r =>
      simp only [requestTimeoutMiddleware, Option.bind_eq_bind, Option.bind_eq_some_iff,
        Option.some.injEq] at hstep
      obtain ⟨req, hreq, timeout, htimeout, ctx, hctx, rfl⟩ := hstep
      have hlt : req.entered < req.depth := (List.getElem?_eq_some_iff.mp htimeout).1
      refine Or.inr (Or.inr ⟨r, req, _, hreq, .enter hlt rfl rfl, ?_, rfl, ?_⟩)
      · intro _ ctx' hctx'
        obtain rfl := Option.some.inj (hctx.symm.trans hctx')
        simp [Request.setLayer]
      · rw [hctx]
        rfl
  | handlerWrite r w =>
      simp only [requestTimeoutMiddleware, Option.bind_eq_bind, Option.bind_eq_some_iff,
        Option.ite_none_right_eq_some, Option.some.injEq] at hstep
      obtain ⟨req, hreq, ctx, hctx, hruns, rfl⟩ := hstep
      refine Or.inr (Or.inr ⟨r, req, _, hreq, .handlerWrite hruns, by simp, ?_, ?_⟩)
      · rw [sent, hctx]
        rfl
      · rw [deliver_contexts]
        exact contexts_eq_update _
  | handlerFinish r =>
      simp only [requestTimeoutMiddleware, Option.bind_eq_bind, Option.bind_eq_some_iff,
        Option.ite_none_right_eq_some, Option.some.injEq] at hstep
      obtain ⟨req, hreq, hruns, rfl⟩ := hstep
      exact Or.inr (Or.inr ⟨r, req, _, hreq, .handlerFinish hruns, by simp, rfl,
        contexts_eq_update _⟩)
  | handlerPanic r =>
      simp only [requestTimeoutMiddleware, Option.bind_eq_bind, Option.bind_eq_some_iff,
        Option.ite_none_right_eq_some, Option.some.injEq] at hstep
      obtain ⟨req, hreq, hruns, rfl⟩ := hstep
      exact Or.inr (Or.inr ⟨r, req, _, hreq, .handlerPanic hruns, by simp, rfl,
        contexts_eq_update _⟩)
  | selectFinished r j order =>
      simp only [requestTimeoutMiddleware, Option.bind_eq_bind, Option.bind_eq_some_iff,
        Option.ite_none_right_eq_some, Option.some.injEq] at hstep
      obtain ⟨req, hreq, ⟨hj, hwait, hfinished, horder⟩, rfl⟩ := hstep
      exact Or.inr (Or.inr ⟨r, req, _, hreq, .selectFinished hj hwait hfinished horder, by simp, rfl,
        contexts_eq_update _⟩)
  | selectPanic r j =>
      simp only [requestTimeoutMiddleware, Option.bind_eq_bind, Option.bind_eq_some_iff,
        Option.ite_none_right_eq_some, Option.some.injEq] at hstep
      obtain ⟨req, hreq, ctx, hctx, ⟨hj, hwait, hpanicked⟩, rfl⟩ := hstep
      refine Or.inr (Or.inr ⟨r, req, _, hreq, .selectPanic hj hwait hpanicked, by simp, rfl, ?_⟩)
      rw [hctx]
      rfl
  | selectDone r j =>
      simp only [requestTimeoutMiddleware, Option.bind_eq_bind, Option.bind_eq_some_iff,
        Option.ite_none_right_eq_some, Option.some.injEq] at hstep
      obtain ⟨req, hreq, ⟨hj, hwait, -⟩, rfl⟩ := hstep
      exact Or.inr (Or.inr ⟨r, req, _, hreq, .selectDone hj hwait, by simp, rfl,
        contexts_eq_update _⟩)
  | layerWrite r j =>
      simp only [requestTimeoutMiddleware, Option.bind_eq_bind, Option.bind_eq_some_iff] at hstep
      obtain ⟨req, hreq, hstep⟩ := hstep
      split at hstep
      · rename_i op rest hphase
        obtain rfl := Option.some.inj hstep
        refine Or.inr (Or.inr ⟨r, req, _, hreq, .layerWrite hphase, by simp, ?_, ?_⟩)
        · simp only [sent, hphase]
          rfl
        · rw [deliver_contexts]
          exact contexts_eq_update _
      · cases hstep
  | serveReturn r =>
      simp only [requestTimeoutMiddleware, Option.bind_eq_bind, Option.bind_eq_some_iff,
        Option.ite_none_right_eq_some, Option.some.injEq] at hstep
      obtain ⟨req, hreq, ctx, hctx, ⟨hleft, hserved⟩, rfl⟩ := hstep
      refine Or.inr (Or.inr ⟨r, req, _, hreq, .serveReturn hleft hserved, by simp, rfl, ?_⟩)
      rw [hctx]
      rfl

/-! ### What holds of all requests -/

/-- A property of all requests. -/
def All (P : Nat → Request → Prop) (s : Server) : Prop :=
  ∀ r req, s.requests r = some req → P r req

/-- Changing one request keeps what holds of all if it holds of the changed one. -/
theorem All.setRequest {P : Nat → Request → Prop} {s : Server} (h : s.All P) {r : Nat}
    {req : Request} (hreq : P r req) :
  (s.setRequest r req).All P
  := by
  intro r' req' hreq'
  by_cases hr : r' = r
  · subst hr
    simp only [Server.setRequest, Function.update_self, Option.some.injEq] at hreq'
    subst hreq'
    exact hreq
  · simp only [Server.setRequest, Function.update_of_ne hr] at hreq'
    exact h r' req' hreq'

/-- A writer receiving an operation keeps what does not depend on what writers hold. -/
theorem All.deliver {P : Nat → Request → Prop} {s : Server} (h : s.All P)
    (hreceive : ∀ r req k op, P r req → P r (req.receive k op)) (ref : WriterRef)
    (op : WriterOp) :
  (s.deliver ref op).All P
  := by
  unfold Server.deliver
  split
  · rename_i req hreq
    apply h.setRequest
    exact hreceive ref.request req ref.level op (h ref.request req hreq)
  · exact h

/-- A step that asks a writer to do something keeps what does not depend on what writers hold. -/
theorem All.deliverSent {P : Nat → Request → Prop} {s : Server} (h : s.All P)
    (hreceive : ∀ r req k op, P r req → P r (req.receive k op))
    (sent : Option (WriterRef × WriterOp)) :
  (s.deliverSent sent).All P
  := by
  cases sent with
  | none => exact h
  | some sent => exact h.deliver hreceive sent.1 sent.2

/-- A step keeps what holds of all requests if it holds of new ones, and is kept by what a request
does and by what a writer receives. -/
theorem All.step {P : Nat → Request → Prop} {s s' : Server} {a : TimeoutStep} (h : s.All P)
    (hstep : requestTimeoutMiddleware.step s a = some s')
    (haccept : ∀ r c timeouts, s.requests r = none → timeouts ≠ [] → P r (.init c timeouts))
    (hmove : ∀ r req req', s.requests r = some req → P r req → req.Moves r a req' → P r req')
    (hreceive : ∀ r req k op, P r req → P r (req.receive k op)) :
  s'.All P
  := by
  unfold All
  rcases cases_of_step hstep with ⟨nanos, -, rfl⟩ | ⟨r, c, timeouts, -, hfresh, hlayers, -, rfl⟩
    | ⟨r, req, req', hreq, hmoved⟩
  · exact h
  · exact h.setRequest (haccept r c timeouts hfresh hlayers)
  · rw [hmoved.requests]
    exact (h.setRequest (hmove r req req' hreq (h r req hreq) hmoved.moves)).deliverSent hreceive _

/-- A request that was there before is there after a request is changed. -/
theorem isSome_setRequest {s : Server} {r' : Nat} (h : (s.requests r').isSome = true) (req : Request)
    (r : Nat) :
  ((s.setRequest r' req).requests r).isSome = (s.requests r).isSome
  := by
  by_cases hr : r = r'
  · subst hr
    rw [h]
    simp [Server.setRequest]
  · simp only [Server.setRequest, Function.update_of_ne hr]

/-- No request arrives by what a writer receives. -/
theorem isSome_deliverSent (s : Server) (sent : Option (WriterRef × WriterOp)) (r : Nat) :
  ((s.deliverSent sent).requests r).isSome = (s.requests r).isSome
  := by
  cases sent with
  | none => rfl
  | some sent =>
      rw [deliverSent, deliver]
      split
      · rename_i req hreq
        exact isSome_setRequest (Option.isSome_of_eq_some hreq) _ r
      · rfl

/-- The requests that are there after a step were there before or have just arrived. -/
theorem isSome_iff_of_step {s s' : Server} {a : TimeoutStep}
    (hstep : requestTimeoutMiddleware.step s a = some s') (r : Nat) :
  (s'.requests r).isSome = true
    ↔ (s.requests r).isSome = true ∨ ∃ c timeouts, a = .accept r c timeouts
  := by
  rcases cases_of_step hstep with ⟨nanos, rfl, rfl⟩ | ⟨r', c, timeouts, rfl, -, -, -, rfl⟩
    | ⟨r', req, req', hreq, hmoved⟩
  · simp
  · by_cases hr : r = r'
    · subst hr
      simp [Server.setContext, Server.setRequest]
    · simp [Server.setContext, Server.setRequest, Function.update_of_ne hr, Ne.symm hr]
  · rw [hmoved.requests, isSome_deliverSent, isSome_setRequest (Option.isSome_of_eq_some hreq)]
    constructor
    · exact Or.inl
    · rintro (h | ⟨c, timeouts, rfl⟩)
      · exact h
      · cases hmoved.moves

end Server

end Paygate.Gateway
