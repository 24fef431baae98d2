import Paygate.Gateway.Isolation
import Paygate.Gateway.Stranded

/-!
# The writer a Context is left with

What the Context of a request holds when its outermost layer has left, on a server that hands out
no Context too early.  The layers never put the writer back, except when they are unwound, so the
Context holds the buffer of the innermost layer that was entered and not unwound (`Tracked`).

If no layer has timed out the client receives the response of the handler (`Told`), and a layer
that has timed out has stamped its own buffer only (`Stamped`).  Once the outermost layer has left,
what the client received stays as it is (`settled_of_step`).
-/

namespace Paygate.Gateway

/-! ### What a step does on its own request -/

/-- What holds of a request, and stays so when its writers receive something, holds with what they
receive in a step. -/
theorem Request.received_of {r : Nat} {req req' : Request} {P : Request → Prop} (h : P req')
    (hreceive : ∀ k op, P (req'.receive k op)) (a : TimeoutStep) :
  P (req.received r req' a)
  := by
  unfold Request.received
  split
  · exact hreceive _ _
  · split
    · exact hreceive _ _
    · exact h
  · exact h

@[simp]
theorem Request.received_phase (r : Nat) (req req' : Request) (a : TimeoutStep) (i : Nat) :
  ((req.received r req' a).layer i).phase = (req'.layer i).phase
  := Request.received_of (P := fun q => (q.layer i).phase = (req'.layer i).phase) rfl
    (fun k op => Request.receive_phase req' k i op) a

@[simp]
theorem Request.received_context (r : Nat) (req req' : Request) (a : TimeoutStep) :
  (req.received r req' a).context = req'.context
  := Request.received_of (P := fun q => q.context = req'.context) rfl
    (fun k op => Request.receive_context req' k op) a

@[simp]
theorem Request.received_entered (r : Nat) (req req' : Request) (a : TimeoutStep) :
  (req.received r req' a).entered = req'.entered
  := Request.received_of (P := fun q => q.entered = req'.entered) rfl
    (fun k op => Request.receive_entered req' k op) a

@[simp]
theorem Request.received_served (r : Nat) (req req' : Request) (a : TimeoutStep) :
  (req.received r req' a).served = req'.served
  := Request.received_of (P := fun q => q.served = req'.served) rfl
    (fun k op => Request.receive_served req' k op) a

/-- A step lets time pass, or a request arrives with a Context that is not in use, or a request
moves, and what it writes is received by its own writers. -/
theorem Server.Isolated.cases_of_step {s s' : Server} {a : TimeoutStep} (h : s.Isolated)
    (hstep : requestTimeoutMiddleware.step s a = some s') :
  (s'.requests = s.requests ∧ s'.contexts = s.contexts)
    ∨ (∃ r c timeouts, a = .accept r c timeouts ∧ s.requests r = none ∧ timeouts ≠ []
      ∧ (∀ ctx, s.contexts c = some ctx → ctx.inUse = false)
      ∧ s'.requests = Function.update s.requests r (some (.init c timeouts))
      ∧ s'.contexts = Function.update s.contexts c
        (some { writer := ⟨r, 0⟩, holder := r, inUse := true }))
    ∨ ∃ r req req', s.requests r = some req ∧ req.Moves r a req'
      ∧ s'.requests = Function.update s.requests r (some (req.received r req' a))
      ∧ s'.contexts = Function.update s.contexts req.context
        ((s.contexts req.context).map fun ctx => req.contextAfter ctx a)
  := by
  rcases Server.cases_of_step hstep with ⟨nanos, -, rfl⟩
    | ⟨r, c, timeouts, rfl, hfresh, hlayers, hfree, rfl⟩ | ⟨r, req, req', hreq, hmoved⟩
  · exact Or.inl ⟨rfl, rfl⟩
  · exact Or.inr (Or.inl ⟨r, c, timeouts, rfl, hfresh, hlayers, hfree, rfl, rfl⟩)
  · refine Or.inr (Or.inr ⟨r, req, req', hreq, hmoved.moves, ?_, hmoved.contexts⟩)
    rw [hmoved.requests, h.deliverSent_eq hreq hmoved.moves]
    rfl

/-! ### Layers that have timed out -/

namespace Request

/-- The buffers that were closed hold the status of the timeout response. -/
def Stamped (req : Request) : Prop :=
  ∀ j, (req.layer j).bw.closed = true → (req.layer j).bw.status = timeoutStatus

/-- A closed buffer that holds the status of the timeout response still does when it receives
something. -/
theorem apply_status {b : BufferedWriter} (hclosed : b.closed = true)
    (hstatus : b.status = timeoutStatus) (op : WriterOp) :
  (b.apply op).status = timeoutStatus
  := by
  cases op with
  | addHeader | setHeader | delHeader => exact hstatus
  | writeHeader st => rw [BufferedWriter.apply, if_pos hclosed, hstatus]
  | write data => rw [BufferedWriter.apply, if_pos hclosed, hstatus]
  | writeHeaderNow =>
      simp only [BufferedWriter.apply, hstatus]
      rfl

theorem Stamped.receive {req : Request} (h : req.Stamped) (k : Nat) (op : WriterOp) :
  (req.receive k op).Stamped
  := by
  intro j hclosed
  rw [receive_closed] at hclosed
  cases k with
  | zero => exact h j hclosed
  | succ k =>
      by_cases hjk : j = k
      · subst hjk
        rw [Request.receive, setLayer_layer_self]
        exact apply_status hclosed (h j hclosed) op
      · rw [Request.receive, setLayer_layer_of_ne hjk]
        exact h j hclosed

theorem Stamped.setLayer {req : Request} (h : req.Stamped) {j : Nat} {l : Layer}
    (hl : l.bw.closed = true → l.bw.status = timeoutStatus) :
  (req.setLayer j l).Stamped
  := by
  intro i hclosed
  by_cases hij : i = j
  · subst hij
    rw [setLayer_layer_self] at hclosed ⊢
    exact hl hclosed
  · rw [setLayer_layer_of_ne hij] at hclosed ⊢
    exact h i hclosed

/-- Every step keeps the closed buffers stamped. -/
theorem Stamped.moves {r : Nat} {req req' : Request} {a : TimeoutStep} (h : req.Stamped)
    (hmoves : req.Moves r a req') :
  req'.Stamped
  := by
  cases hmoves with
  | cancel => exact h
  | enter hlt hbw hphase =>
      apply h.setLayer (j := req.entered)
      rw [hbw]
      intro hclosed
      cases hclosed
  | handlerWrite hruns => exact h
  | handlerFinish hruns => exact h
  | handlerPanic hruns => exact h
  | selectFinished hj hwait hfinished horder => exact h.setLayer (h _)
  | selectPanic hj hwait hpanicked => exact h.setLayer (h _)
  | selectDone hj hwait => exact h.setLayer fun _ => rfl
  | layerWrite hphase => exact h.setLayer (h _)
  | serveReturn hleft hserved => exact h

/-- If no buffer is closed, every layer that answers sends the response of the handler. -/
def Told (r : Nat) (req : Request) : Prop :=
  (∀ i, (req.layer i).bw.closed = false) → ∀ j rest, (req.layer j).phase = .leaving rest →
    ∃ sent, req.Holds j sent ∧ req.IsComplete r (sent ++ rest)

/-- While the handler has not finished, no layer answers unless one has timed out. -/
theorem Told.not_leaving {r : Nat} {req : Request} (h : req.Told r)
    (hopen : ∀ i, (req.layer i).bw.closed = false) (hhandler : req.handler ≠ .finished) (j : Nat)
    (rest : List WriterOp) :
  (req.layer j).phase ≠ .leaving rest
  := by
  intro hphase
  obtain ⟨sent, -, hfinished, -⟩ := h hopen j rest hphase
  exact hhandler hfinished

/-- What a waiting layer flushes is the response of the handler if no layer has timed out. -/
theorem Told.isComplete_flushTo {r : Nat} {req : Request} (h : req.Told r) (hsound : req.Sound r)
    (hopen : ∀ i, (req.layer i).bw.closed = false) {j : Nat} (hj : j < req.depth)
    (hwait : (req.layer j).phase = .waiting) (hfinished : req.innerFinished j = true)
    {order : Header} (horder : SameHeader order (req.layer j).bw.head) :
  req.IsComplete r ((req.layer j).bw.flushTo order)
  := by
  have hflush : ∃ b : List HandlerWrite,
      (req.layer j).bw.flushTo order = (composed (b.map (HandlerWrite.tag r))).flushTo order := by
    use req.written
    unfold innerFinished at hfinished
    split at hfinished
    · obtain ⟨sent, hsent, -, order', -, heq⟩ := h hopen (j + 1) [] (of_decide_eq_true hfinished)
      rw [List.append_nil] at heq
      rw [hsent (hopen j), heq, flushTo_composed_flushTo]
      rfl
    · rename_i hinner
      have hdepth : req.depth = j + 1 := Nat.le_antisymm (not_lt.mp hinner) hj
      have hhandler := hsound.handler
      rw [hdepth] at hhandler
      rw [hhandler (hopen j)]
  obtain htimeout | ⟨hcomplete, -⟩ := hsound.outcome_flushTo hj hwait hfinished horder
  · obtain ⟨b, heq⟩ := hflush
    rw [heq] at htimeout
    exact absurd htimeout not_isTimeout_handlerWrites
  · exact hcomplete

/-- Changing a layer but not its buffer keeps what the others send. -/
theorem Told.setLayer {r : Nat} {req : Request} (h : req.Told r) {j : Nat} {l : Layer}
    (hbw : l.bw = (req.layer j).bw)
    (hl : (∀ i, (req.layer i).bw.closed = false) → ∀ rest, l.phase = .leaving rest →
      ∃ sent, req.Holds j sent ∧ req.IsComplete r (sent ++ rest)) :
  (req.setLayer j l).Told r
  := by
  intro hopen i rest hphase
  have hopen' : ∀ i, (req.layer i).bw.closed = false := by
    intro k
    have hk := hopen k
    by_cases hkj : k = j
    · subst hkj
      rw [setLayer_layer_self, hbw] at hk
      exact hk
    · rw [setLayer_layer_of_ne hkj] at hk
      exact hk
  by_cases hij : i = j
  · subst hij
    rw [setLayer_layer_self] at hphase
    obtain ⟨sent, hsent, hcomplete⟩ := hl hopen' rest hphase
    exact ⟨sent, hsent.setLayer (Or.inl hbw), hcomplete⟩
  · rw [setLayer_layer_of_ne hij] at hphase
    obtain ⟨sent, hsent, hcomplete⟩ := h hopen' i rest hphase
    exact ⟨sent, hsent.setLayer (Or.inl hbw), hcomplete⟩

/-- A layer that answers writes the next part of the response. -/
theorem Told.layerWrite {r : Nat} {req : Request} (h : req.Told r) {j : Nat} {op : WriterOp}
    {rest : List WriterOp} (hphase : (req.layer j).phase = .leaving (op :: rest)) :
  Told r ((req.setLayer j { req.layer j with phase := .leaving rest }).receive j op)
  := by
  have hclosed : ∀ i, ((req.setLayer j { req.layer j with phase := .leaving rest }).layer i).bw
      = (req.layer i).bw := by
    intro i
    by_cases hij : i = j
    · subst hij
      rw [setLayer_layer_self]
    · rw [setLayer_layer_of_ne hij]
  have hcomplete : ∀ {ops : List WriterOp}, req.IsComplete r ops →
      IsComplete r ((req.setLayer j { req.layer j with phase := .leaving rest }).receive j op) ops := by
    intro ops hops
    unfold IsComplete final at hops ⊢
    rw [receive_handler, receive_written]
    exact hops
  intro hopen i rest' hi
  simp only [receive_closed, hclosed] at hopen
  rw [receive_phase] at hi
  by_cases hij : i = j
  · subst hij
    rw [setLayer_layer_self, Phase.leaving.injEq] at hi
    subst hi
    obtain ⟨sent, hsent, hops⟩ := h hopen i (op :: rest) hphase
    refine ⟨sent ++ [op], ?_, ?_⟩
    · apply Holds.receive
      apply hsent.setLayer
      exact Or.inl rfl
    · rw [List.append_assoc]
      exact hcomplete hops
  · rw [setLayer_layer_of_ne hij] at hi
    obtain ⟨sent, hsent, hops⟩ := h hopen i rest' hi
    refine ⟨sent, ?_, hcomplete hops⟩
    apply Holds.receive_of_ne _ hij
    apply hsent.setLayer
    exact Or.inl rfl

/-- Every step keeps what the layers send. -/
theorem Told.moves {r : Nat} {req req' : Request} {a : TimeoutStep} (h : req.Told r)
    (hsound : req.Sound r) (hmoves : req.Moves r a req') :
  (req.received r req' a).Told r
  := by
  have hrunning : req.handlerRuns = true → req.handler ≠ .finished := by
    intro hruns
    rw [(of_decide_eq_true hruns).2]
    simp
  cases hmoves with
  | cancel => exact h
  | enter hlt hbw hphase =>
      apply h.setLayer (j := req.entered)
      · rw [hbw, hsound.outside req.entered le_rfl]
        rfl
      · intro _ rest hrest
        rw [hphase] at hrest
        cases hrest
  | handlerWrite hruns =>
      intro hopen j rest hphase
      simp only [received, receive_closed, receive_phase] at hopen hphase
      exact absurd hphase (h.not_leaving hopen (hrunning hruns) j rest)
  | handlerFinish hruns =>
      intro hopen j rest hphase
      exact absurd hphase (h.not_leaving hopen (hrunning hruns) j rest)
  | handlerPanic hruns =>
      intro hopen j rest hphase
      exact absurd hphase (h.not_leaving hopen (hrunning hruns) j rest)
  | @selectFinished j order hj hwait hfinished horder =>
      apply Told.setLayer h
      · rfl
      · rintro hopen rest ⟨rfl⟩
        refine ⟨[], hsound.silent j hj ?_, ?_⟩
        · intro rest hrest
          rw [hwait] at hrest
          cases hrest
        · exact h.isComplete_flushTo hsound hopen hj hwait hfinished horder
  | selectPanic hj hwait hpanicked =>
      apply Told.setLayer h
      · rfl
      · intro _ rest hrest
        cases hrest
  | @selectDone j hj hwait =>
      intro hopen
      have hclosed := hopen j
      simp only [received, setLayer_layer_self] at hclosed
      cases hclosed
  | layerWrite hphase =>
      simp only [received, hphase]
      exact h.layerWrite hphase
  | serveReturn hleft hserved => exact h

/-- The outermost layer is not changed by a step of its request once it has left. -/
theorem Sound.settled {r : Nat} {req req' : Request} {a : TimeoutStep} (h : req.Sound r)
    (hleft : (req.layer 0).left = true) (hmoves : req.Moves r a req') :
  (req.received r req' a).out = req.out
    ∧ ((req.received r req' a).layer 0).phase = (req.layer 0).phase
  := by
  have hset : ∀ {j : Nat}, (req.layer j).left = false → ∀ l : Layer,
      (req.setLayer j l).layer 0 = req.layer 0 := by
    intro j hj l
    apply setLayer_layer_of_ne
    rintro rfl
    rw [hleft] at hj
    cases hj
  rw [received_phase]
  cases hmoves with
  | cancel => exact ⟨rfl, rfl⟩
  | @enter l hlt hbw hphase =>
      use rfl
      have hout : (req.layer req.entered).left = false := by
        rw [h.outside req.entered le_rfl]
        rfl
      exact congrArg Layer.phase (hset hout l)
  | handlerWrite hruns =>
      refine ⟨?_, rfl⟩
      obtain ⟨k, hk⟩ := Nat.exists_eq_succ_of_ne_zero
        (Nat.ne_of_gt (List.length_pos_iff.mpr h.layers) : req.depth ≠ 0)
      simp only [received, hk]
      rfl
  | handlerFinish hruns => exact ⟨rfl, rfl⟩
  | handlerPanic hruns => exact ⟨rfl, rfl⟩
  | selectFinished hj hwait hfinished horder =>
      use rfl
      rw [hset (Server.left_of_waiting hwait)]
  | selectPanic hj hwait hpanicked =>
      use rfl
      rw [hset (Server.left_of_waiting hwait)]
  | selectDone hj hwait =>
      use rfl
      rw [hset (Server.left_of_waiting hwait)]
  | @layerWrite j op rest hphase =>
      have hnot : (req.layer j).left = false := by
        simp [Layer.left, hphase]
      rw [hset hnot]
      refine ⟨?_, rfl⟩
      cases j with
      | zero =>
          rw [hleft] at hnot
          cases hnot
      | succ k =>
          simp only [received, hphase]
          rfl
  | serveReturn hleft' hserved => exact ⟨rfl, rfl⟩

end Request

/-! ### The current writer -/

namespace Server

/-- The request holds its Context, and the Context holds the writer at the level of the outermost
layer that was unwound, or the innermost writer. -/
def Tracked (s : Server) (r : Nat) (req : Request) : Prop :=
  ∃ ctx level, s.contexts req.context = some ctx ∧ ctx.holder = r ∧ ctx.inUse = true
    ∧ ctx.writer = ⟨r, level⟩ ∧ level ≤ req.entered
    ∧ ∀ j < req.entered, ((req.layer j).phase = .panicked ↔ level ≤ j)

/-- Another request's Context is not that of a request that holds its own. -/
theorem Tracked.context_ne {s : Server} {r r' : Nat} {req : Request} (h : s.Tracked r req)
    {c : Nat} {ctx : GinContext} (hctx : s.contexts c = some ctx) (hholder : ctx.holder = r')
    (hne : r ≠ r') :
  req.context ≠ c
  := by
  rintro rfl
  obtain ⟨ctx', level, hctx', hholder', -⟩ := h
  obtain rfl := Option.some.inj (hctx.symm.trans hctx')
  exact hne (hholder'.symm.trans hholder)

/-- What the server has served aside, every request holds its Context. -/
def AllTracked (s : Server) : Prop :=
  ∀ r req, s.requests r = some req → req.served = false → s.Tracked r req

/-- A request holds its Context as before if neither the Contexts nor its layers that were unwound
change. -/
theorem Tracked.congr {s s' : Server} {r : Nat} {req req' : Request} (h : s.Tracked r req)
    (hcontexts : s'.contexts = s.contexts) (hcontext : req'.context = req.context)
    (hentered : req'.entered = req.entered)
    (hphase : ∀ j, (req'.layer j).phase = .panicked ↔ (req.layer j).phase = .panicked) :
  s'.Tracked r req'
  := by
  obtain ⟨ctx, level, hctx, hholder, huse, hwriter, hle, hphases⟩ := h
  refine ⟨ctx, level, ?_, hholder, huse, hwriter, ?_, ?_⟩
  · rw [hcontexts, hcontext, hctx]
  · rw [hentered]
    exact hle
  · intro j hj
    rw [hentered] at hj
    rw [hphase, hphases j hj]

/-- Changing a layer that is not unwound, before or after. -/
theorem panicked_setLayer {req : Request} {j : Nat} {l : Layer}
    (hbefore : (req.layer j).phase ≠ .panicked) (hafter : l.phase ≠ .panicked) (i : Nat) :
  ((req.setLayer j l).layer i).phase = .panicked ↔ (req.layer i).phase = .panicked
  := by
  by_cases hij : i = j
  · subst hij
    rw [Request.setLayer_layer_self]
    exact ⟨fun h => absurd h hafter, fun h => absurd h hbefore⟩
  · rw [Request.setLayer_layer_of_ne hij]

/-- A request holds its Context after a step of its own, until the server is done with it. -/
theorem Tracked.moves {s s' : Server} {r : Nat} {req req' : Request} {a : TimeoutStep}
    (h : s.Tracked r req) (hsound : req.Sound r) (hmoves : req.Moves r a req')
    (hserved : req'.served = false)
    (hcontexts : s'.contexts = Function.update s.contexts req.context
      ((s.contexts req.context).map fun ctx => req.contextAfter ctx a)) :
  s'.Tracked r (req.received r req' a)
  := by
  have hsame : (∀ ctx, req.contextAfter ctx a = ctx) → s'.contexts = s.contexts := by
    intro hctx
    rw [hcontexts, funext hctx, Option.map_id', Function.update_eq_self]
  cases hmoves with
  | cancel => exact h.congr (hsame fun _ => rfl) rfl rfl fun _ => Iff.rfl
  | enter hlt hbw hphase =>
      obtain ⟨ctx, level, hctx, hholder, huse, hwriter, hle, hphases⟩ := h
      have hrunning := hsound.running_of_lt hlt
      refine ⟨req.contextAfter ctx (.enter r), req.entered + 1, ?_, hholder, huse, rfl, le_rfl, ?_⟩
      · rw [hcontexts, Request.received_context]
        exact (Function.update_self ..).trans (by rw [hctx, Option.map_some])
      · intro j hj
        rw [Request.received_phase]
        constructor
        · intro hpanicked
          exfalso
          by_cases hje : j = req.entered
          · subst hje
            simp [hphase] at hpanicked
          · simp only [Request.setLayer_layer_of_ne hje] at hpanicked
            rw [(hsound.panicked j hpanicked).1] at hrunning
            cases hrunning
        · intro hle'
          exact absurd hj (not_lt.mpr hle')
  | handlerWrite hruns =>
      apply h.congr (hsame fun _ => rfl)
      · rw [Request.received_context]
      · rw [Request.received_entered]
      · intro j
        rw [Request.received_phase]
  | handlerFinish hruns => exact h.congr (hsame fun _ => rfl) rfl rfl fun _ => Iff.rfl
  | handlerPanic hruns => exact h.congr (hsame fun _ => rfl) rfl rfl fun _ => Iff.rfl
  | selectFinished hj hwait hfinished horder =>
      apply h.congr (hsame fun _ => rfl)
      · rfl
      · rfl
      · apply panicked_setLayer
        · rw [hwait]
          simp
        · simp
  | @selectPanic j hj hwait hpanicked =>
      obtain ⟨ctx, level, hctx, hholder, huse, hwriter, hle, hphases⟩ := h
      have hin : j < req.entered := by
        apply hsound.lt_entered
        rw [hwait]
        simp
      have hall := (hsound.selectPanic hj hwait hpanicked).panicked j (by
        rw [Request.setLayer_layer_self])
      refine ⟨req.contextAfter ctx (.selectPanic r j), j, ?_, hholder, huse,
        (hsound.inside j hin).2, le_of_lt hin, ?_⟩
      · rw [hcontexts, Request.received_context]
        exact (Function.update_self ..).trans (by rw [hctx, Option.map_some])
      · intro i hi
        rw [Request.received_phase]
        constructor
        · intro hphase
          by_contra hlt
          have hij : i < j := not_le.mp hlt
          rw [Request.setLayer_layer_of_ne (ne_of_lt hij)] at hphase
          rw [(hsound.panicked i hphase).2 j (le_of_lt hij) hj] at hwait
          cases hwait
        · intro hle'
          exact hall.2 i hle' (lt_of_lt_of_le hi hsound.entered_le)
  | selectDone hj hwait =>
      apply h.congr (hsame fun _ => rfl)
      · rfl
      · rfl
      · apply panicked_setLayer
        · rw [hwait]
          simp
        · simp
  | layerWrite hphase =>
      apply h.congr (hsame fun _ => rfl)
      · rw [Request.received_context]
        rfl
      · rw [Request.received_entered]
        rfl
      · intro i
        rw [Request.received_phase]
        apply panicked_setLayer
        · rw [hphase]
          simp
        · simp
  | serveReturn hleft hnot => cases hserved

/-- A request that changes the Context it was given holds it. -/
theorem AllTracked.holder_of_moves {s : Server} (h : s.AllTracked) (hisolated : s.Isolated) {r : Nat}
    {req req' : Request} {a : TimeoutStep} (hreq : s.requests r = some req)
    (hmoves : req.Moves r a req') :
  (∃ ctx, s.contexts req.context = some ctx ∧ ctx.holder = r)
    ∨ ∀ ctx, req.contextAfter ctx a = ctx
  := by
  cases hmoves with
  | enter hlt hbw hphase =>
      left
      have hrunning := (hisolated.sound r req hreq).running_of_lt hlt
      obtain ⟨ctx, hctx, hholder, -⟩ := hisolated.writer_of_running hreq hrunning
      exact ⟨ctx, hctx, hholder⟩
  | selectPanic hj hwait hpanicked =>
      left
      obtain ⟨ctx, hctx, hholder, -⟩ :=
        hisolated.owns r req hreq (not_quiet_of_not_left hj (left_of_waiting hwait))
      exact ⟨ctx, hctx, hholder⟩
  | serveReturn hleft hnot =>
      left
      obtain ⟨ctx, level, hctx, hholder, -⟩ := h r req hreq hnot
      exact ⟨ctx, hctx, hholder⟩
  | _ =>
      right
      intro ctx
      rfl

/-- Every step keeps the Contexts of the requests that are not served. -/
theorem AllTracked.step {s s' : Server} {a : TimeoutStep} (h : s.AllTracked) (hisolated : s.Isolated)
    (hstep : requestTimeoutMiddleware.step s a = some s') :
  s'.AllTracked
  := by
  intro r₁ req₁ hreq₁ hserved
  rcases hisolated.cases_of_step hstep with ⟨hrequests, hcontexts⟩
    | ⟨r, c, timeouts, -, hfresh, -, hfree, hrequests, hcontexts⟩
    | ⟨r, req, req', hreq, hmoves, hrequests, hcontexts⟩
  · rw [hrequests] at hreq₁
    exact (h r₁ req₁ hreq₁ hserved).congr hcontexts rfl rfl fun _ => Iff.rfl
  · by_cases hr : r₁ = r
    · subst hr
      rw [hrequests, Function.update_self, Option.some.injEq] at hreq₁
      subst hreq₁
      refine ⟨_, 0, by rw [hcontexts]; exact Function.update_self .., rfl, rfl, rfl, le_rfl, ?_⟩
      intro j hj
      cases hj
    · rw [hrequests, Function.update_of_ne hr] at hreq₁
      obtain ⟨ctx, level, hctx, hholder, huse, hrest⟩ := h r₁ req₁ hreq₁ hserved
      refine ⟨ctx, level, ?_, hholder, huse, hrest⟩
      have hne : req₁.context ≠ c := by
        rintro rfl
        rw [hfree ctx hctx] at huse
        cases huse
      rw [hcontexts, Function.update_of_ne hne, hctx]
  · by_cases hr : r₁ = r
    · subst hr
      rw [hrequests, Function.update_self, Option.some.injEq] at hreq₁
      subst hreq₁
      rw [Request.received_served] at hserved
      have hbefore : req.served = false := by
        cases hmoves with
        | serveReturn hleft hnot => exact hnot
        | _ => exact hserved
      exact (h r₁ req hreq hbefore).moves (hisolated.sound r₁ req hreq) hmoves hserved hcontexts
    · rw [hrequests, Function.update_of_ne hr] at hreq₁
      have htracked := h r₁ req₁ hreq₁ hserved
      have howner := h.holder_of_moves hisolated hreq hmoves
      have hcontext : s'.contexts req₁.context = s.contexts req₁.context := by
        rcases howner with ⟨ctx, hctx, hholder⟩ | hsame
        · rw [hcontexts, Function.update_of_ne (htracked.context_ne hctx hholder hr)]
        · rw [hcontexts, funext hsame, Option.map_id', Function.update_eq_self]
      obtain ⟨ctx, level, hctx, hrest⟩ := htracked
      exact ⟨ctx, level, hcontext.trans hctx, hrest⟩

/-- A step keeps what holds of all requests if it holds of new ones, and of a request that moves with
what its writers receive. -/
theorem Isolated.all_of_step {P : Nat → Request → Prop} {s s' : Server} {a : TimeoutStep}
    (h : s.Isolated) (hall : s.All P) (hstep : requestTimeoutMiddleware.step s a = some s')
    (haccept : ∀ r c timeouts, s.requests r = none → P r (.init c timeouts))
    (hmove : ∀ r req req', s.requests r = some req → req.Moves r a req' →
      P r (req.received r req' a)) :
  s'.All P
  := by
  unfold All
  rcases h.cases_of_step hstep with ⟨hrequests, -⟩
    | ⟨r, c, timeouts, -, hfresh, -, -, hrequests, -⟩ | ⟨r, req, req', hreq, hmoves, hrequests, -⟩
  · rw [hrequests]
    exact hall
  · rw [hrequests]
    exact hall.setRequest (haccept r c timeouts hfresh)
  · rw [hrequests]
    exact hall.setRequest (hmove r req req' hreq hmoves)

/-- Every step keeps what the layers of every request send. -/
theorem Isolated.told_of_step {s s' : Server} {a : TimeoutStep} (h : s.Isolated)
    (htold : s.All fun r req => req.Told r)
    (hstep : requestTimeoutMiddleware.step s a = some s') :
  s'.All fun r req => req.Told r
  := by
  apply h.all_of_step htold hstep
  · intro r c timeouts _ _ j rest hphase
    cases hphase
  · intro r req req' hreq hmoves
    exact (htold r req hreq).moves (h.sound r req hreq) hmoves

/-- Every step keeps the closed buffers of every request stamped. -/
theorem stamped_of_step {s s' : Server} {a : TimeoutStep} (h : s.All fun _ req => req.Stamped)
    (hstep : requestTimeoutMiddleware.step s a = some s') :
  s'.All fun _ req => req.Stamped
  := by
  apply h.step hstep
  · intro r c timeouts _ _ j hclosed
    cases hclosed
  · intro r req req' _ hstamped hmoves
    exact hstamped.moves hmoves
  · intro r req k op hstamped
    exact hstamped.receive k op

/-- Once the outermost layer has left, it stays so, and the client receives nothing more. -/
theorem Isolated.settled_of_step {s s' : Server} {a : TimeoutStep} (h : s.Isolated)
    (hstep : requestTimeoutMiddleware.step s a = some s') {r : Nat} {req : Request}
    (hreq : s.requests r = some req) (hleft : (req.layer 0).left = true) :
  ∃ req', s'.requests r = some req' ∧ req'.out = req.out
    ∧ (req'.layer 0).phase = (req.layer 0).phase
  := by
  have hbefore : s.All fun r' req' =>
      r' = r → req'.out = req.out ∧ (req'.layer 0).phase = (req.layer 0).phase := by
    rintro r' req' hreq' rfl
    obtain rfl := Option.some.inj (hreq.symm.trans hreq')
    exact ⟨rfl, rfl⟩
  have hafter := h.all_of_step hbefore hstep
    (by
      rintro r' c timeouts hfresh rfl
      rw [hreq] at hfresh
      cases hfresh)
    (by
      rintro r' req₁ req' hreq₁ hmoves rfl
      obtain rfl := Option.some.inj (hreq.symm.trans hreq₁)
      exact (h.sound r' req hreq).settled hleft hmoves)
  obtain ⟨req', hreq'⟩ := Option.isSome_iff_exists.mp
    ((isSome_iff_of_step hstep r).mpr (Or.inl (Option.isSome_of_eq_some hreq)))
  exact ⟨req', hreq', hafter r req' hreq' rfl⟩

end Server

end Paygate.Gateway
