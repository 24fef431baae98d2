import Mathlib.Data.Finset.Card
import Paygate.Base.Json
import Paygate.Gateway.CurrentWriter

/-!
# The metrics of a request

`MetricsMiddleware` around the layers of the request timeout.  It counts a request as active when
the request arrives.  Once the outermost layer has left, its deferred function records the status
of the writer the Context then holds, and the request is no longer active.

Every request that was served was recorded once, and the gauge holds the number of requests that
are not recorded yet.  The status recorded is the one the client receives, except that a layer that
times out answers in the writer it found but marks its own buffer only: the Context still holds the
buffer of the innermost layer (`StatusSeen`, `recorded_status_iff`).
-/

namespace Paygate.Gateway

/-! ### The writer of the client -/

/-- The operation changes the headers only. -/
def WriterOp.isHeader : WriterOp → Bool
  | .addHeader _ _ | .setHeader _ _ | .delHeader _ => true
  | .writeHeader _ | .writeHeaderNow | .write _ => false

/-- The operation sends the status. -/
def WriterOp.sends : WriterOp → Bool
  | .writeHeaderNow | .write _ => true
  | .addHeader _ _ | .setHeader _ _ | .delHeader _ | .writeHeader _ => false

/-- What the gateway relies on in the writer of a client, whose status after a list of operations is
given: it starts with 200, and the status that was set before the first operation that sends it
stays. -/
structure RealWriter (status : List WriterOp → Nat) : Prop where
  new : status [] = 200
  sent : ∀ (headers : List WriterOp) (st : Tagged Nat) (op : WriterOp),
    (∀ h ∈ headers, h.isHeader = true) → op.sends = true → 0 < st.val →
    status (headers ++ [.writeHeader st, op]) = st.val

/-- The operations by which the recovery answers when a panic reaches it. -/
def recoveryWrites : List WriterOp :=
  [.writeHeader ⟨.gateway, 500⟩, .writeHeaderNow]

/-- A response never has the status zero. -/
theorem BufferedWriter.Status_pos (b : BufferedWriter) :
  0 < b.Status.val
  := by
  unfold BufferedWriter.Status
  split
  · exact Nat.succ_pos _
  · rename_i hstatus
    exact Nat.pos_of_ne_zero hstatus

/-- The client that receives the flush of a buffer receives its status. -/
theorem RealWriter.flushTo {status : List WriterOp → Nat} (h : RealWriter status)
    (b : BufferedWriter) (order : Header) :
  status (b.flushTo order) = b.Status.val
  := by
  apply h.sent
  · intro op hop
    obtain ⟨e, -, rfl⟩ := List.mem_map.mp hop
    rfl
  · rfl
  · exact b.Status_pos

/-- The client that receives the timeout response receives its status. -/
theorem RealWriter.timeout {status : List WriterOp → Nat} (h : RealWriter status)
    {ops : List WriterOp} (hops : IsTimeout ops) :
  status ops = 504
  := by
  obtain rfl | rfl := hops
  · apply h.sent [.setHeader timeoutHeader.1 timeoutHeader.2] timeoutStatus
    · intro op hop
      obtain rfl := List.mem_singleton.mp hop
      rfl
    · rfl
    · exact Nat.succ_pos _
  · rw [h.flushTo]
    rfl

namespace Request

/-- The status the client of a request receives once its outermost layer has left. -/
def deliveredStatus (status : List WriterOp → Nat) (req : Request) : Nat :=
  status (if (req.layer 0).phase = .panicked then req.out ++ recoveryWrites else req.out)

/-- The status of the writer at a level of a request. -/
def writerStatus (status : List WriterOp → Nat) (req : Request) : Nat → Nat
  | 0 => status req.out
  | j + 1 => (req.layer j).bw.Status.val

end Request

/-! ### The middleware -/

/-- The server with the gauge of active requests and the counter of requests, given by the samples
it received: each is a status label, kept with the request it is for. -/
structure MetricsServer where
  server : Server
  activeRequests : Int
  requestsTotal : List (Nat × List Char)

namespace MetricsServer

/-- The server before the first request. -/
def init (now : Int) : MetricsServer where
  server := .init now
  activeRequests := 0
  requestsTotal := []

/-- The requests that were recorded. -/
def recorded (s : MetricsServer) : List Nat :=
  s.requestsTotal.map Prod.fst

/-- Count a request with its status. -/
def recordRequestMetrics (s : MetricsServer) (r statusCode : Nat) : MetricsServer :=
  { s with requestsTotal := s.requestsTotal ++ [(r, Json.decimal statusCode)] }

/-- What the middleware does in a step of the server: a request that arrives is counted as active,
and the server is done with a request only after its deferred function has run. -/
def serve (s : MetricsServer) (server : Server) : TimeoutStep → Option MetricsServer
  | .accept _ _ _ => some { s with server := server, activeRequests := s.activeRequests + 1 }
  | .serveReturn r => if r ∈ s.recorded then some { s with server := server } else none
  | _ => some { s with server := server }

/-- The deferred function: the status of the writer in the Context, and at least 500 if a panic is
passed on. -/
def deferred (s : MetricsServer) (r : Nat) (panicked : Bool) (statusCode : Nat) : MetricsServer :=
  let statusCode := if panicked ∧ statusCode < 500 then 500 else statusCode
  let s := s.recordRequestMetrics r statusCode
  { s with activeRequests := s.activeRequests - 1 }

end MetricsServer

/-- The steps: a step of the server, or the deferred function of a request runs. -/
inductive MetricsStep where
  | serve (a : TimeoutStep)
  | deferred (r : Nat)
  deriving DecidableEq, Repr

/-- The steps of the server with its metrics, for the status the writers of clients have. -/
def metricsMiddleware (status : List WriterOp → Nat) : Machine MetricsServer MetricsStep where
  step s
    | .serve a => do
        let server ← requestTimeoutMiddleware.step s.server a
        s.serve server a
    | .deferred r => do
        let req ← s.server.requests r
        let ctx ← s.server.contexts req.context
        let owner ← s.server.requests ctx.writer.request
        if (req.layer 0).left ∧ r ∉ s.recorded then
          some (s.deferred r ((req.layer 0).phase = .panicked)
            (owner.writerStatus status ctx.writer.level))
        else none

/-- What a step of the server does to the metrics. -/
theorem serve_cases {status : List WriterOp → Nat} {s s' : MetricsServer} {a : TimeoutStep}
    (hstep : (metricsMiddleware status).step s (.serve a) = some s') :
  requestTimeoutMiddleware.step s.server a = some s'.server
    ∧ s'.requestsTotal = s.requestsTotal
    ∧ (∀ r, a = .serveReturn r → r ∈ s.recorded)
    ∧ ((∃ r c timeouts, a = .accept r c timeouts ∧ s'.activeRequests = s.activeRequests + 1)
      ∨ (∀ r c timeouts, a ≠ .accept r c timeouts) ∧ s'.activeRequests = s.activeRequests)
  := by
  simp only [metricsMiddleware, Option.bind_eq_bind, Option.bind_eq_some_iff] at hstep
  obtain ⟨server, hserver, hserve⟩ := hstep
  unfold MetricsServer.serve at hserve
  split at hserve
  · obtain rfl := Option.some.inj hserve
    refine ⟨hserver, rfl, ?_, Or.inl ⟨_, _, _, rfl, rfl⟩⟩
    intro r hr
    cases hr
  · rename_i r
    simp only [Option.ite_none_right_eq_some, Option.some.injEq] at hserve
    obtain ⟨hrecorded, rfl⟩ := hserve
    refine ⟨hserver, rfl, ?_, Or.inr ⟨?_, rfl⟩⟩
    · rintro r' ⟨rfl⟩
      exact hrecorded
    · intro r' c timeouts hr
      cases hr
  · rename_i haccept hreturn
    obtain rfl := Option.some.inj hserve
    exact ⟨hserver, rfl, fun r hr => absurd hr (hreturn r), Or.inr ⟨haccept, rfl⟩⟩

/-- When the deferred function of a request runs, and what it reads. -/
theorem deferred_cases {status : List WriterOp → Nat} {s s' : MetricsServer} {r : Nat}
    (hstep : (metricsMiddleware status).step s (.deferred r) = some s') :
  ∃ req ctx owner, s.server.requests r = some req ∧ s.server.contexts req.context = some ctx
    ∧ s.server.requests ctx.writer.request = some owner
    ∧ (req.layer 0).left = true ∧ r ∉ s.recorded
    ∧ s' = s.deferred r ((req.layer 0).phase = .panicked)
      (owner.writerStatus status ctx.writer.level)
  := by
  simp only [metricsMiddleware, Option.bind_eq_bind, Option.bind_eq_some_iff,
    Option.ite_none_right_eq_some, Option.some.injEq] at hstep
  obtain ⟨req, hreq, ctx, hctx, owner, howner, ⟨hleft, hfresh⟩, rfl⟩ := hstep
  exact ⟨req, ctx, owner, hreq, hctx, howner, hleft, hfresh, rfl⟩

/-- The deferred function records its request. -/
theorem MetricsServer.recorded_deferred (s : MetricsServer) (r : Nat) (panicked : Bool)
    (statusCode : Nat) :
  (s.deferred r panicked statusCode).recorded = s.recorded ++ [r]
  := List.map_append

/-! ### One sample for each request -/

/-- The accounts of the middleware: a request is recorded once, after it has arrived and before the
server is done with it, and the active requests are those that are not recorded yet. -/
structure MetricsServer.Accounted (s : MetricsServer) : Prop where
  arrived : ∀ r ∈ s.recorded, (s.server.requests r).isSome = true
  once : s.recorded.Nodup
  served : s.server.All fun r req => req.served = true → r ∈ s.recorded
  active : ∃ inFlight : Finset Nat,
    (∀ r, r ∈ inFlight ↔ (s.server.requests r).isSome = true ∧ r ∉ s.recorded)
      ∧ s.activeRequests = inFlight.card

namespace MetricsServer

/-- Before the first request nothing is recorded and no request is active. -/
theorem accounted_init (now : Int) :
  (MetricsServer.init now).Accounted
  := by
  constructor
  case arrived =>
    intro r hr
    cases hr
  case once => exact List.nodup_nil
  case served =>
    intro r req hreq
    cases hreq
  case active =>
    refine ⟨∅, ?_, rfl⟩
    intro r
    simp [MetricsServer.init, Server.init]

/-- A step of the server keeps the accounts. -/
theorem Accounted.serve {status : List WriterOp → Nat} {s s' : MetricsServer} {a : TimeoutStep}
    (h : s.Accounted) (hstep : (metricsMiddleware status).step s (.serve a) = some s') :
  s'.Accounted
  := by
  obtain ⟨hserver, htotal, hreturn, hactive⟩ := serve_cases hstep
  have hrecorded : s'.recorded = s.recorded := congrArg (List.map Prod.fst) htotal
  constructor
  case arrived =>
    intro r hr
    rw [hrecorded] at hr
    exact (Server.isSome_iff_of_step hserver r).mpr (Or.inl (h.arrived r hr))
  case once =>
    rw [hrecorded]
    exact h.once
  case served =>
    rw [hrecorded]
    apply h.served.step hserver
    · intro r c timeouts _ _ hserved
      cases hserved
    · intro r req req' _ hserved hmoves
      cases hmoves with
      | serveReturn hleft hnot =>
          intro _
          exact hreturn r rfl
      | _ => exact hserved
    · intro r req k op hserved
      rw [Request.receive_served]
      exact hserved
  case active =>
    obtain ⟨inFlight, hmem, hcard⟩ := h.active
    rw [hrecorded]
    rcases hactive with ⟨r, c, timeouts, rfl, hinc⟩ | ⟨haccept, hsame⟩
    · have hfresh : s.server.requests r = none := by
        simp only [requestTimeoutMiddleware, Option.ite_none_right_eq_some] at hserver
        exact Option.isNone_iff_eq_none.mp hserver.1.1
      have hnot : r ∉ s.recorded := by
        intro hr
        have := h.arrived r hr
        rw [hfresh] at this
        cases this
      refine ⟨insert r inFlight, ?_, ?_⟩
      · intro r'
        rw [Finset.mem_insert, hmem, Server.isSome_iff_of_step hserver r']
        constructor
        · rintro (rfl | ⟨hsome, hr'⟩)
          · exact ⟨Or.inr ⟨c, timeouts, rfl⟩, hnot⟩
          · exact ⟨Or.inl hsome, hr'⟩
        · rintro ⟨hsome | ⟨c', timeouts', heq⟩, hr'⟩
          · exact Or.inr ⟨hsome, hr'⟩
          · cases heq
            exact Or.inl rfl
      · have hout : r ∉ inFlight := by
          rw [hmem, hfresh]
          simp
        rw [hinc, hcard, Finset.card_insert_of_notMem hout]
        rfl
    · refine ⟨inFlight, ?_, hsame.trans hcard⟩
      intro r
      rw [hmem, Server.isSome_iff_of_step hserver r]
      constructor
      · rintro ⟨hsome, hr⟩
        exact ⟨Or.inl hsome, hr⟩
      · rintro ⟨hsome | ⟨c, timeouts, rfl⟩, hr⟩
        · exact ⟨hsome, hr⟩
        · exact absurd rfl (haccept r c timeouts)

/-- The deferred function keeps the accounts. -/
theorem Accounted.deferred {status : List WriterOp → Nat} {s s' : MetricsServer} {r : Nat}
    (h : s.Accounted) (hstep : (metricsMiddleware status).step s (.deferred r) = some s') :
  s'.Accounted
  := by
  obtain ⟨req, ctx, owner, hreq, -, -, -, hfresh, rfl⟩ := deferred_cases hstep
  have hsome : (s.server.requests r).isSome = true := Option.isSome_of_eq_some hreq
  constructor
  case arrived =>
    intro r' hr'
    rw [recorded_deferred] at hr'
    rcases List.mem_append.mp hr' with hr' | hr'
    · exact h.arrived r' hr'
    · obtain rfl := List.mem_singleton.mp hr'
      exact hsome
  case once =>
    rw [recorded_deferred]
    rw [← List.concat_eq_append]
    exact h.once.concat hfresh
  case served =>
    intro r' req' hreq' hserved
    rw [recorded_deferred]
    exact List.mem_append_left _ (h.served r' req' hreq' hserved)
  case active =>
    obtain ⟨inFlight, hmem, hcard⟩ := h.active
    have hin : r ∈ inFlight := (hmem r).mpr ⟨hsome, hfresh⟩
    refine ⟨inFlight.erase r, ?_, ?_⟩
    · intro r'
      rw [Finset.mem_erase, hmem, recorded_deferred, List.mem_append, List.mem_singleton]
      constructor
      · rintro ⟨hne, hsome', hr'⟩
        exact ⟨hsome', not_or.mpr ⟨hr', hne⟩⟩
      · rintro ⟨hsome', hr'⟩
        exact ⟨fun hr => hr' (Or.inr hr), hsome', fun hr => hr' (Or.inl hr)⟩
    · have hpos : 0 < inFlight.card := Finset.card_pos.mpr ⟨r, hin⟩
      have hdec : (s.deferred r ((req.layer 0).phase = .panicked)
          (owner.writerStatus status ctx.writer.level)).activeRequests = s.activeRequests - 1 := rfl
      rw [Finset.card_erase_of_mem hin, hdec, hcard]
      omega

/-- Every step keeps the accounts. -/
theorem Accounted.step {status : List WriterOp → Nat} {s s' : MetricsServer} {a : MetricsStep}
    (h : s.Accounted) (hstep : (metricsMiddleware status).step s a = some s') :
  s'.Accounted
  := by
  cases a with
  | serve a => exact h.serve hstep
  | deferred r => exact h.deferred hstep

end MetricsServer

/-! ### The status that is recorded -/

namespace Request

/-- The writer at the level is one that shows what the client receives: no layer has timed out, or
the writer is that of the client, or its own layer has timed out, or the handler writes to it and
has itself set the status of the timeout response. -/
def StatusSeen (r : Nat) (req : Request) (level : Nat) : Prop :=
  (∀ j < req.depth, (req.layer j).bw.closed = false)
    ∨ match level with
      | 0 => True
      | k + 1 => (req.layer k).bw.closed = true ∨ k + 1 = req.depth ∧ (req.final r).Status.val = 504

instance (r : Nat) (req : Request) : (level : Nat) → Decidable (req.StatusSeen r level)
  | 0 => inferInstanceAs (Decidable (_ ∨ True))
  | _ + 1 => inferInstanceAs (Decidable (_ ∨ _ ∨ _ ∧ _))

/-- When the buffer of a layer shows what the client receives. -/
theorem statusSeen_succ {r k : Nat} {req : Request} :
  req.StatusSeen r (k + 1) ↔ (∀ j < req.depth, (req.layer j).bw.closed = false)
    ∨ (req.layer k).bw.closed = true ∨ k + 1 = req.depth ∧ (req.final r).Status.val = 504
  := Iff.rfl

/-- A request whose outermost layer has left has entered a layer. -/
theorem Sound.entered_pos {r : Nat} {req : Request} (h : req.Sound r)
    (hleft : (req.layer 0).left = true) :
  0 < req.entered
  := by
  apply h.lt_entered
  intro hphase
  rw [Layer.left, hphase] at hleft
  cases hleft

/-- If no layer in the chain is closed, none is. -/
theorem Sound.all_open {r : Nat} {req : Request} (h : req.Sound r)
    (hopen : ∀ j < req.depth, (req.layer j).bw.closed = false) (j : Nat) :
  (req.layer j).bw.closed = false
  := by
  by_cases hj : j < req.depth
  · exact hopen j hj
  · rw [h.outside j (le_trans h.entered_le (not_lt.mp hj))]
    rfl

/-- The innermost buffer holds what the handler wrote as long as its layer is open. -/
theorem Sound.innermost {r : Nat} {req : Request} (h : req.Sound r) {k : Nat}
    (hk : k + 1 = req.depth) (hopen : (req.layer k).bw.closed = false) :
  (req.layer k).bw = req.final r
  := by
  have hhandler := h.handler
  rw [← hk] at hhandler
  exact hhandler hopen

section Recorded

variable {status : List WriterOp → Nat} (hwriter : RealWriter status) {r level : Nat} {req : Request}
  (hsound : req.Sound r)

include hwriter hsound

/-- If the outermost layer is unwound, the client receives 500. -/
theorem delivered_of_panicked (hphase : (req.layer 0).phase = .panicked) :
  req.out = [] ∧ req.deliveredStatus status = 500
  := by
  have hout : req.out = [] := by
    have huntorn := hsound.untorn
    unfold Untorn at huntorn
    rw [hphase] at huntorn
    exact huntorn.1
  use hout
  rw [deliveredStatus, if_pos hphase, hout, List.nil_append]
  apply hwriter.sent []
  · intro op hop
    cases hop
  · rfl
  · exact Nat.succ_pos _

/-- If no layer has timed out, the client receives the status of the handler. -/
theorem delivered_of_open (htold : req.Told r) (hphase : (req.layer 0).phase = .leaving [])
    (hopen : ∀ j < req.depth, (req.layer j).bw.closed = false) :
  req.handler = .finished ∧ req.deliveredStatus status = (req.final r).Status.val
  := by
  obtain ⟨sent, hsent, hfinished, order, -, heq⟩ := htold (hsound.all_open hopen) 0 [] hphase
  rw [List.append_nil] at heq
  have hout : req.out = sent := hsent
  use hfinished
  rw [deliveredStatus, hphase, if_neg (by simp), hout, heq, hwriter.flushTo]

/-- If some layer has timed out, the client receives 504. -/
theorem delivered_of_closed (hphase : (req.layer 0).phase = .leaving []) {i : Nat}
    (hclosed : (req.layer i).bw.closed = true) :
  req.deliveredStatus status = 504
  := by
  obtain ⟨rest, htimeout, hrest⟩ := hsound.timedOut hclosed
  rw [hrest (by simp [Layer.left, hphase]), List.append_nil] at htimeout
  rw [deliveredStatus, hphase, if_neg (by simp), hwriter.timeout htimeout]

end Recorded

/-- What the Context's buffer shows when its layer is open: what the handler wrote, if it is the
innermost, and nothing otherwise. -/
theorem Sound.current {r k : Nat} {req : Request} (h : req.Sound r)
    (hlevel : k + 1 ≤ req.entered)
    (hpanicked : ∀ j < req.entered, ((req.layer j).phase = .panicked ↔ k + 1 ≤ j))
    (hopen : (req.layer k).bw.closed = false) :
  (req.layer k).bw = if k + 1 = req.depth then req.final r else newBufferedWriter
  := by
  split
  · rename_i hk
    exact h.innermost hk hopen
  · rename_i hk
    have hlt : k + 1 < req.depth := Nat.lt_of_le_of_ne (le_trans hlevel h.entered_le) hk
    apply h.silent (k + 1) hlt _ hopen
    intro rest hrest
    by_cases hin : k + 1 < req.entered
    · rw [(hpanicked (k + 1) hin).mpr le_rfl] at hrest
      cases hrest
    · rw [h.outside (k + 1) (not_lt.mp hin)] at hrest
      cases hrest

/-- The status read from the Context once the outermost layer has left is the one the client
receives exactly when the writer shows it. -/
theorem recorded_iff {status : List WriterOp → Nat} (hwriter : RealWriter status) {r level : Nat}
    {req : Request} (hsound : req.Sound r) (htold : req.Told r) (hstamped : req.Stamped)
    (hleft : (req.layer 0).left = true) (hlevel : level ≤ req.entered)
    (hpanicked : ∀ j < req.entered, ((req.layer j).phase = .panicked ↔ level ≤ j)) :
  (if (req.layer 0).phase = .panicked ∧ req.writerStatus status level < 500 then 500
    else req.writerStatus status level) = req.deliveredStatus status ↔ req.StatusSeen r level
  := by
  have hzero := hpanicked 0 (hsound.entered_pos hleft)
  cases level with
  | zero =>
      have hphase := hzero.mpr le_rfl
      obtain ⟨hout, hdelivered⟩ := delivered_of_panicked hwriter hsound hphase
      have hstatus : req.writerStatus status 0 = 200 := by
        rw [writerStatus, hout, hwriter.new]
      rw [hstatus, hdelivered, if_pos ⟨hphase, by decide⟩]
      exact iff_of_true rfl (Or.inr trivial)
  | succ k =>
      have hnot : (req.layer 0).phase ≠ .panicked := by
        intro hphase
        cases hzero.mp hphase
      have hphase : (req.layer 0).phase = .leaving [] := by
        simpa [Layer.left, hnot] using hleft
      rw [if_neg (fun h => hnot h.1)]
      by_cases hopen : ∀ j < req.depth, (req.layer j).bw.closed = false
      · obtain ⟨hfinished, hdelivered⟩ := delivered_of_open hwriter hsound htold hphase hopen
        have hentered : req.entered = req.depth := hsound.started (by rw [hfinished]; simp)
        have hk : k + 1 = req.depth := by
          by_contra hne
          have hlt : k + 1 < req.entered := by omega
          have hraised := (hpanicked (k + 1) hlt).mpr le_rfl
          rw [(hsound.panicked (k + 1) hraised).1] at hfinished
          cases hfinished
        rw [hdelivered, writerStatus, hsound.innermost hk (hopen k (by omega))]
        exact iff_of_true rfl (Or.inl hopen)
      · have hex : ∃ i, (req.layer i).bw.closed = true := by
          by_contra hnone
          apply hopen
          intro j _
          exact Bool.eq_false_of_not_eq_true fun hj => hnone ⟨j, hj⟩
        obtain ⟨i, hclosed⟩ := hex
        rw [delivered_of_closed hwriter hsound hphase hclosed, writerStatus]
        rw [statusSeen_succ, or_iff_right hopen]
        by_cases hk : (req.layer k).bw.closed = true
        · rw [BufferedWriter.Status, hstamped k hk]
          exact iff_of_true rfl (Or.inl hk)
        · rw [or_iff_right hk, hsound.current hlevel hpanicked (Bool.eq_false_of_not_eq_true hk)]
          split
          · rename_i hdepth
            rw [and_iff_right hdepth]
          · rename_i hdepth
            rw [iff_false_right (fun h => hdepth h.1)]
            decide

end Request

/-- No Context is handed out while goroutines of the request it was last handed to still run. -/
def MetricsServer.ContextPrivate (s : MetricsServer) : MetricsStep → Prop
  | .serve a => Gateway.ContextPrivate s.server a
  | .deferred _ => True

/-- When a deferred function runs, the writer in the Context shows what the client receives. -/
def MetricsServer.StatusSeen (s : MetricsServer) : MetricsStep → Prop
  | .serve _ => True
  | .deferred r => ∀ req ∈ s.server.requests r, ∀ ctx ∈ s.server.contexts req.context,
      req.StatusSeen r ctx.writer.level

instance (s : MetricsServer) : (a : MetricsStep) → Decidable (s.ContextPrivate a)
  | .serve a => inferInstanceAs (Decidable (Gateway.ContextPrivate s.server a))
  | .deferred _ => .isTrue trivial

instance (s : MetricsServer) : (a : MetricsStep) → Decidable (s.StatusSeen a)
  | .serve _ => .isTrue trivial
  | .deferred r => inferInstanceAs (Decidable (∀ req ∈ s.server.requests r, _))

namespace MetricsServer

/-- The invariant of a server that hands out no Context too early. -/
structure Sound (s : MetricsServer) : Prop where
  accounted : s.Accounted
  isolated : s.server.Isolated
  tracked : s.server.AllTracked
  told : s.server.All fun r req => req.Told r
  stamped : s.server.All fun _ req => req.Stamped
  left : ∀ r ∈ s.recorded, ∃ req, s.server.requests r = some req ∧ (req.layer 0).left = true

/-- Before the first request. -/
theorem sound_init (now : Int) :
  (MetricsServer.init now).Sound
  := by
  constructor
  case accounted => exact accounted_init now
  case isolated => exact Server.isolated_init now
  case left =>
    intro r hr
    cases hr
  all_goals
    intro r req hreq
    cases hreq

/-- Whether a layer has left depends on its phase only. -/
theorem left_congr {l l' : Layer} (h : l'.phase = l.phase) :
  l'.left = l.left
  := by
  rw [Layer.left, Layer.left, h]

/-- A step that hands out no Context too early keeps the invariant. -/
theorem Sound.step {status : List WriterOp → Nat} {s s' : MetricsServer} {a : MetricsStep}
    (h : s.Sound) (hprivate : s.ContextPrivate a)
    (hstep : (metricsMiddleware status).step s a = some s') :
  s'.Sound
  := by
  have haccounted := h.accounted.step hstep
  cases a with
  | serve a =>
      obtain ⟨hserver, htotal, -, -⟩ := serve_cases hstep
      have hrecorded : s'.recorded = s.recorded := congrArg (List.map Prod.fst) htotal
      constructor
      case accounted => exact haccounted
      case isolated => exact (h.isolated.step hprivate hserver).1
      case tracked => exact h.tracked.step h.isolated hserver
      case told => exact h.isolated.told_of_step h.told hserver
      case stamped => exact Server.stamped_of_step h.stamped hserver
      case left =>
        intro r hr
        rw [hrecorded] at hr
        obtain ⟨req, hreq, hleft⟩ := h.left r hr
        obtain ⟨req', hreq', -, hphase⟩ := h.isolated.settled_of_step hserver hreq hleft
        exact ⟨req', hreq', (left_congr hphase).trans hleft⟩
  | deferred r =>
      obtain ⟨req, ctx, owner, hreq, -, -, hleft, -, rfl⟩ := deferred_cases hstep
      constructor
      case accounted => exact haccounted
      case isolated => exact h.isolated
      case tracked => exact h.tracked
      case told => exact h.told
      case stamped => exact h.stamped
      case left =>
        intro r' hr'
        rw [recorded_deferred] at hr'
        rcases List.mem_append.mp hr' with hr' | hr'
        · exact h.left r' hr'
        · obtain rfl := List.mem_singleton.mp hr'
          exact ⟨req, hreq, hleft⟩

/-- A request that is not recorded holds its Context. -/
theorem Sound.tracked_of_fresh {s : MetricsServer} (h : s.Sound) {r : Nat} {req : Request}
    (hreq : s.server.requests r = some req) (hfresh : r ∉ s.recorded) :
  s.server.Tracked r req
  := by
  apply h.tracked r req hreq
  by_contra hne
  exact hfresh (h.accounted.served r req hreq (Bool.not_eq_false _ ▸ hne))

/-- Every sample bears the status the client of its request receives. -/
def Truthful (status : List WriterOp → Nat) (s : MetricsServer) : Prop :=
  ∀ sample ∈ s.requestsTotal, ∀ req ∈ s.server.requests sample.1,
    sample.2 = Json.decimal (req.deliveredStatus status)

/-- A step of the server changes nothing in what the clients of recorded requests receive. -/
theorem Sound.truthful_serve {status : List WriterOp → Nat} {s s' : MetricsServer} {a : TimeoutStep}
    (h : s.Sound) (hstep : (metricsMiddleware status).step s (.serve a) = some s') :
  s'.Truthful status ↔ s.Truthful status
  := by
  obtain ⟨hserver, htotal, -, -⟩ := serve_cases hstep
  unfold Truthful
  rw [htotal]
  apply forall₂_congr
  intro sample hsample
  obtain ⟨req, hreq, hleft⟩ := h.left sample.1 (List.mem_map_of_mem hsample)
  obtain ⟨req', hreq', hout, hphase⟩ := h.isolated.settled_of_step hserver hreq hleft
  rw [hreq, hreq']
  simp only [Option.mem_def, Option.some.injEq, forall_eq']
  rw [Request.deliveredStatus, Request.deliveredStatus, hout, hphase]

/-- The deferred function records what the client receives exactly when the writer in the Context
shows it. -/
theorem Sound.truthful_deferred {status : List WriterOp → Nat} (hwriter : RealWriter status)
    {s s' : MetricsServer} {r : Nat} (h : s.Sound)
    (hstep : (metricsMiddleware status).step s (.deferred r) = some s') :
  s'.Truthful status ↔ s.StatusSeen (.deferred r) ∧ s.Truthful status
  := by
  obtain ⟨req, ctx, owner, hreq, hctx, howner, hleft, hfresh, rfl⟩ := deferred_cases hstep
  obtain ⟨ctx', level, hctx', -, -, hcurrent, hlevel, hpanicked⟩ := h.tracked_of_fresh hreq hfresh
  obtain rfl := Option.some.inj (hctx.symm.trans hctx')
  have howner' : owner = req := by
    rw [hcurrent, hreq] at howner
    exact (Option.some.inj howner).symm
  subst howner'
  have hseen := Request.recorded_iff hwriter (h.isolated.sound r owner hreq) (h.told r owner hreq)
    (h.stamped r owner hreq) hleft hlevel hpanicked
  have hguard : s.StatusSeen (.deferred r) ↔ owner.StatusSeen r level := by
    simp only [StatusSeen, hreq, hctx, hcurrent, Option.mem_def, Option.some.injEq, forall_eq']
  rw [hguard, ← hseen, ← Json.decimal_injective.eq_iff]
  unfold Truthful
  simp only [deferred, recordRequestMetrics, List.forall_mem_append, List.forall_mem_singleton, hreq,
    Option.mem_def, Option.some.injEq, forall_eq', hcurrent, decide_eq_true_eq]
  exact And.comm

/-- Nothing keeps the deferred function of a request from running once the outermost layer has
left. -/
theorem Sound.deferred_isSome {s : MetricsServer} (h : s.Sound) (status : List WriterOp → Nat)
    {r : Nat} {req : Request} (hreq : s.server.requests r = some req)
    (hleft : (req.layer 0).left = true) (hfresh : r ∉ s.recorded) :
  ((metricsMiddleware status).step s (.deferred r)).isSome = true
  := by
  obtain ⟨ctx, level, hctx, -, -, hcurrent, -⟩ := h.tracked_of_fresh hreq hfresh
  have howner : s.server.requests ctx.writer.request = some req := by
    rw [hcurrent]
    exact hreq
  simp only [metricsMiddleware, Option.bind_eq_bind, hreq, hctx, howner, Option.bind_some]
  rw [if_pos ⟨hleft, hfresh⟩]
  rfl

end MetricsServer

/-- In every run a request is recorded once, after it has arrived and before the server is done with
it, and the gauge holds the number of requests that are not recorded yet.  If the run hands out no
Context while goroutines of its last holder still run, every request can be recorded once its
outermost layer has left, and every sample bears the status the client receives exactly when each
deferred function finds a writer that shows it. -/
theorem recorded_status_iff (status : List WriterOp → Nat) (hwriter : RealWriter status) (now : Int)
    (steps : List MetricsStep) (s : MetricsServer)
    (hrun : (metricsMiddleware status).run (.init now) steps = some s) :
  s.Accounted
    ∧ ((metricsMiddleware status).Guarded MetricsServer.ContextPrivate (.init now) steps →
      ((metricsMiddleware status).Guarded MetricsServer.StatusSeen (.init now) steps
        ↔ s.Truthful status)
      ∧ ∀ r req, s.server.requests r = some req → (req.layer 0).left = true → r ∉ s.recorded →
        ((metricsMiddleware status).step s (.deferred r)).isSome = true)
  := by
  constructor
  · exact Machine.run_keeps (fun _ _ _ => MetricsServer.Accounted.step) steps
      (MetricsServer.accounted_init now) hrun
  · intro hprivate
    have hkeeps : ∀ s a s', s.Sound → s.ContextPrivate a →
        (metricsMiddleware status).step s a = some s' → s'.Sound := by
      intro s a s' hs ha hstep
      exact hs.step ha hstep
    have hsurvives : ∀ s a s', s.Sound → s.ContextPrivate a →
        (metricsMiddleware status).step s a = some s' →
        (s'.Truthful status ↔ s.StatusSeen a ∧ s.Truthful status) := by
      intro s a s' hs _ hstep
      cases a with
      | serve a => exact (hs.truthful_serve hstep).trans (and_iff_right trivial).symm
      | deferred r => exact hs.truthful_deferred hwriter hstep
    have hinit : (MetricsServer.init now).Truthful status := by
      intro sample hsample
      cases hsample
    constructor
    · rw [Machine.run_iff_guarded hkeeps hsurvives steps (MetricsServer.sound_init now) hprivate hrun]
      exact (and_iff_left hinit).symm
    · intro r req hreq hleft hfresh
      have hsound := Machine.run_invariant hkeeps steps (MetricsServer.sound_init now) hprivate hrun
      exact hsound.deferred_isSome status hreq hleft hfresh

/-! ### Two layers with one deadline -/

/-- The writer of gin: its status and whether the status was sent. -/
def ginWriter : Nat × Bool → WriterOp → Nat × Bool
  | (status, written), .writeHeader st =>
      if 0 < st.val ∧ written = false then (st.val, written) else (status, written)
  | (status, _), .writeHeaderNow | (status, _), .write _ => (status, true)
  | w, .addHeader _ _ | w, .setHeader _ _ | w, .delHeader _ => w

/-- The status of the writer of gin after a list of operations. -/
def ginStatus (ops : List WriterOp) : Nat :=
  (ops.foldl ginWriter (200, false)).1

/-- Headers do not change the status of the writer of gin. -/
theorem foldl_ginWriter_of_isHeader :
    ∀ (headers : List WriterOp) (w : Nat × Bool), (∀ h ∈ headers, h.isHeader = true) →
      headers.foldl ginWriter w = w
  | [], _, _ => rfl
  | op :: headers, w, h => by
      obtain ⟨hop, hheaders⟩ := List.forall_mem_cons.mp h
      have hstep : ginWriter w op = w := by
        cases op with
        | addHeader | setHeader | delHeader => rfl
        | writeHeader | writeHeaderNow | write => cases hop
      rw [List.foldl_cons, hstep]
      exact foldl_ginWriter_of_isHeader headers w hheaders

/-- The writer of gin is one the gateway can rely on. -/
theorem realWriter_ginStatus :
  RealWriter ginStatus
  := by
  constructor
  case new => rfl
  case sent =>
    intro headers st op hheaders hop hpos
    rw [ginStatus, List.foldl_append, foldl_ginWriter_of_isHeader headers _ hheaders]
    have hset : ginWriter (200, false) (.writeHeader st) = (st.val, false) := by
      rw [ginWriter, if_pos ⟨hpos, rfl⟩]
    rw [List.foldl_cons, hset]
    cases op with
    | writeHeaderNow | write => rfl
    | addHeader | setHeader | delHeader | writeHeader => cases hop

/-- A request with a global timeout of 5 and a longer one for its route, whose handler does not
finish: the outer layer picks the deadline first if `outerFirst`, and the inner one otherwise. -/
def sampleTimeouts (outerFirst : Bool) : List TimeoutStep :=
  [.accept 0 0 [5, 30], .enter 0, .enter 0, .tick 5]
    ++ (if outerFirst then [.selectDone 0 0]
      else [.selectDone 0 1, .layerWrite 0 1, .layerWrite 0 1, .layerWrite 0 1,
        .selectFinished 0 0 [timeoutHeader]])
    ++ [.layerWrite 0 0, .layerWrite 0 0, .layerWrite 0 0]

/-- The request, recorded and served. -/
def sampleMetrics (outerFirst : Bool) : List MetricsStep :=
  (sampleTimeouts outerFirst).map .serve ++ [.deferred 0, .serve (.serveReturn 0)]

/-- When the outer layer picks the deadline first, the client receives 504 and 200 is recorded. -/
theorem recorded_status_counterexample :
  ∃ s req, (metricsMiddleware ginStatus).run (.init 0) (sampleMetrics true) = some s
    ∧ (metricsMiddleware ginStatus).Guarded MetricsServer.ContextPrivate (.init 0)
      (sampleMetrics true)
    ∧ s.server.requests 0 = some req ∧ req.deliveredStatus ginStatus = 504
    ∧ s.requestsTotal = [(0, ['2', '0', '0'])]
  := by
  have hsample : (do
      let s ← (metricsMiddleware ginStatus).run (.init 0) (sampleMetrics true)
      let req ← s.server.requests 0
      some (req.deliveredStatus ginStatus, s.requestsTotal)) = some (504, [(0, ['2', '0', '0'])]) := by
    decide
  simp only [Option.bind_eq_bind, Option.bind_eq_some_iff, Option.some.injEq, Prod.mk.injEq] at hsample
  obtain ⟨s, hs, req, hreq, hdelivered, htotal⟩ := hsample
  refine ⟨s, req, hs, ?_, hreq, hdelivered, htotal⟩
  decide

/-- When the inner layer picks the deadline first, 504 is recorded, as the client receives, and no
request is active any more. -/
theorem recorded_status_sample :
  ∃ s, (metricsMiddleware ginStatus).run (.init 0) (sampleMetrics false) = some s
    ∧ s.requestsTotal = [(0, ['5', '0', '4'])] ∧ s.activeRequests = 0
    ∧ s.Accounted ∧ s.Truthful ginStatus
  := by
  have hsample : (do
      let s ← (metricsMiddleware ginStatus).run (.init 0) (sampleMetrics false)
      some (s.requestsTotal, s.activeRequests)) = some ([(0, ['5', '0', '4'])], 0) := by
    decide
  simp only [Option.bind_eq_bind, Option.bind_eq_some_iff, Option.some.injEq, Prod.mk.injEq] at hsample
  obtain ⟨s, hs, htotal, hactive⟩ := hsample
  have hprivate : (metricsMiddleware ginStatus).Guarded MetricsServer.ContextPrivate (.init 0)
      (sampleMetrics false) := by
    decide
  have hseen : (metricsMiddleware ginStatus).Guarded MetricsServer.StatusSeen (.init 0)
      (sampleMetrics false) := by
    decide
  obtain ⟨haccounted, hrest⟩ :=
    recorded_status_iff ginStatus realWriter_ginStatus 0 (sampleMetrics false) s hs
  exact ⟨s, hs, htotal, hactive, haccounted, (hrest hprivate).1.mp hseen⟩

end Paygate.Gateway
