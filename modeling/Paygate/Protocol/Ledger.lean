import Paygate.Protocol.PaymentGate

/-!
# One result for each payment

The gateway serves any number of requests at once, and one verifier, which keeps the accepted nonces
in memory, answers all of them at a clock that does not go back.  Whatever the order of their
steps, no two requests with the same nonce and the same timestamp are served, and between two that
are served with the same nonce the whole retention time passes.
-/

namespace Paygate.Verifier

/-- What the in-memory store answers to the claim of a request. -/
def memoryClaim (eth : Ethers) (state : AppState) (store : MemoryNonceStore) (q : Arrival) :
    Except String Bool :=
  match q.payload with
  | .ok req => .ok (claimMemoryNonce store (nonceKey eth req.context.nonce) q.clock
      (nonceRetentionTtl state)).1
  | .error _ => .ok false

/-- The request whose nonce is claimed when a request is handled with the in-memory store. -/
def acceptedRequest (eth : Ethers) (state : AppState) (store : MemoryNonceStore) (q : Arrival) :
    Option VerifyRequest :=
  (verifySignatureWith eth state (unixSeconds q.clock) (correlationId q.correlationHeader) q.payload
    (memoryClaim eth state store q)).2

/-- The verifier answers as it does to what its in-memory store answers. -/
theorem verifySignature_eq_memoryClaim (eth : Ethers) (state : AppState) (store : MemoryNonceStore)
    (q : Arrival) :
  (verifySignature eth state store q).1
    = (verifySignatureWith eth state (unixSeconds q.clock) (correlationId q.correlationHeader)
        q.payload (memoryClaim eth state store q)).1
  := by
  unfold verifySignature verifySignatureWith
  dsimp only
  cases hbefore : beforeClaim eth state (unixSeconds q.clock) (correlationId q.correlationHeader)
      q.payload with
  | error r => rfl
  | ok x =>
      have hpayload := (beforeClaim_ok_iff.mp hbefore).1
      simp only [memoryClaim, hpayload]

/-- A nonce that is claimed is fresh, was not remembered, and is remembered from then on. -/
theorem claim_of_acceptedRequest {eth : Ethers} {state : AppState} {store : MemoryNonceStore}
    {q : Arrival} {req : VerifyRequest} (h : acceptedRequest eth state store q = some req) :
  validateTimestampInternal req.context.timestamp state.signatureExpirySeconds state.clockSkewSeconds
      (unixSeconds q.clock) = .ok ()
    ∧ (∀ t, Remembered (nonceRetentionTtl state) store q.clock (nonceKey eth req.context.nonce) t →
      t + nonceRetentionTtl state < q.clock)
    ∧ Remembered (nonceRetentionTtl state) (verifySignature eth state store q).2 q.clock
        (nonceKey eth req.context.nonce) q.clock
  := by
  have hvalid : (verifySignature eth state store q).1.body.isValid = true
      ∧ q.payload = .ok req := by
    rw [verifySignature_eq_memoryClaim]
    unfold acceptedRequest at h
    unfold verifySignatureWith at h ⊢
    cases hbefore : beforeClaim eth state (unixSeconds q.clock) (correlationId q.correlationHeader)
        q.payload with
    | error r =>
        rw [hbefore] at h
        cases h
    | ok x =>
        rw [hbefore] at h
        dsimp only at h ⊢
        split at h
        · rename_i hclaim
          obtain rfl := Option.some.inj h
          rw [hclaim]
          exact ⟨afterClaim_isValid.mpr rfl, (beforeClaim_ok_iff.mp hbefore).1⟩
        · cases h
  obtain ⟨req', hreq', ⟨-, hfresh, -⟩, hclaim, hremembered⟩ := verifySignature_valid hvalid.1
  obtain rfl := Except.ok.inj (hvalid.2.symm.trans hreq')
  exact ⟨hfresh, fun t ht => ht.lt_of_claim hclaim, hremembered⟩

end Paygate.Verifier

namespace Paygate

open Text Program Gateway

/-! ### The services -/

/-- A nonce that was claimed: the request of the gateway it was claimed for, what the verifier
read, and when. -/
structure Payment where
  caller : Nat
  request : Verifier.VerifyRequest
  clock : Nat

/-- The gateway, the verifier with its store and clock, and the payments made, the latest
first. -/
structure Services where
  world : World
  store : Verifier.MemoryNonceStore
  clock : Nat
  payments : List Payment

/-- The start: no request, and an empty store. -/
def Services.init (start : Nat) : Services where
  world := .init
  store := Verifier.memoryNonceStore start
  clock := start
  payments := []

/-- The steps: a request arrives; a call other than to the verifier is answered; the verifier
handles a call at its clock; or it cannot be reached. -/
inductive ServiceStep where
  | arrive (r : HttpRequest)
  | answer (i : Nat) (world : (c : Call) → Answer c)
  | verify (i clock : Nat) (delivery : Delivery)
  | unreachable (i : Nat) (deadline : Bool)

/-- The call to the verifier that a request waits for. -/
def World.waiting (w : World) (i : Nat) : Option (Option (List UInt8) × List UInt8) :=
  match w.threads[i]? with
  | some ⟨_, .call (.verify cid body) _⟩ => some (cid, body)
  | _ => none

/-- A call to the verifier, when it arrives there. -/
def arrivalAt (state : Verifier.AppState) (display : List UInt8 → String) (clock : Nat)
    (call : Option (List UInt8) × List UInt8) : Verifier.Arrival where
  clock := clock
  correlationHeader := call.1
  payload := Verifier.readBody state display call.2

section Services

variable (s : Settings) (eth : Verifier.Ethers) (state : Verifier.AppState)
  (display : List UInt8 → String)

/-- The verifier handles a call. -/
def Services.verify (w : Services) (i : Nat) (q : Verifier.Arrival) (delivery : Delivery) :
    Option Services :=
  ((gateway s eth state display).step w.world (.verify i (Verifier.unixSeconds q.clock)
    (Verifier.memoryClaim eth state w.store q) delivery)).map fun world => {
      world := world
      store := (Verifier.verifySignature eth state w.store q).2
      clock := q.clock
      payments := ((Verifier.acceptedRequest eth state w.store q).map fun request =>
        { caller := i, request := request, clock := q.clock }).toList ++ w.payments }

/-- The gateway and one verifier. -/
def services : Machine Services ServiceStep where
  step w
    | .arrive r =>
        ((gateway s eth state display).step w.world (.arrive r)).map ({ w with world := · })
    | .answer i world =>
        ((gateway s eth state display).step w.world (.answer i world)).map ({ w with world := · })
    | .unreachable i deadline =>
        ((gateway s eth state display).step w.world (.unreachable i deadline)).map
          ({ w with world := · })
    | .verify i clock delivery =>
        if w.clock ≤ clock ∧ clock < 2 ^ 63 * Verifier.nanosPerSecond then
          (w.world.waiting i).bind fun call =>
            w.verify s eth state display i (arrivalAt state display clock call) delivery
        else none

end Services

variable {s : Settings} {eth : Verifier.Ethers} {state : Verifier.AppState}
  {display : List UInt8 → String}

/-! ### What a step does -/

/-- When the verifier handles a call, the claim it accepts is recorded. -/
theorem claims_of_verify {w w' : World} {i : Nat} (clock : Nat) {store : Verifier.MemoryNonceStore}
    {delivery : Delivery} {call : Option (List UInt8) × List UInt8}
    (hwaiting : w.waiting i = some call)
    (h : (gateway s eth state display).step w (.verify i (Verifier.unixSeconds clock)
      (Verifier.memoryClaim eth state store (arrivalAt state display clock call)) delivery)
        = some w') :
  w'.claims = ((Verifier.acceptedRequest eth state store (arrivalAt state display clock call)).map
      fun request => {
        caller := i
        request := request
        reply := (Verifier.verifySignature eth state store
          (arrivalAt state display clock call)).1 }).toList ++ w.claims
  := by
  rw [Verifier.verifySignature_eq_memoryClaim]
  unfold World.waiting at hwaiting
  split at hwaiting
  · rename_i r cid body k hthread
    obtain rfl := Option.some.inj hwaiting
    simp only [gateway, hthread] at h
    obtain rfl := Option.some.inj h
    rfl
  · cases hwaiting

/-- A step is one of the gateway that makes no claim, or the verifier handles a call and makes the
claim that its store grants. -/
theorem services_step_cases {w w' : Services} {a : ServiceStep}
    (h : (services s eth state display).step w a = some w') :
  (∃ b, (gateway s eth state display).step w.world b = some w'.world
    ∧ w'.world.claims = w.world.claims ∧ w' = { w with world := w'.world })
    ∨ ∃ i q b, w.clock ≤ q.clock ∧ q.clock < 2 ^ 63 * Verifier.nanosPerSecond
      ∧ (gateway s eth state display).step w.world b = some w'.world
      ∧ w'.store = (Verifier.verifySignature eth state w.store q).2 ∧ w'.clock = q.clock
      ∧ ((Verifier.acceptedRequest eth state w.store q = none ∧ w'.payments = w.payments
          ∧ w'.world.claims = w.world.claims)
        ∨ ∃ request, Verifier.acceptedRequest eth state w.store q = some request
          ∧ w'.payments = { caller := i, request := request, clock := q.clock } :: w.payments
          ∧ w'.world.claims = {
              caller := i
              request := request
              reply := (Verifier.verifySignature eth state w.store q).1 } :: w.world.claims)
  := by
  cases a with
  | arrive r =>
      dsimp only [services] at h
      obtain ⟨world, hstep, rfl⟩ := Option.map_eq_some_iff.mp h
      refine .inl ⟨_, hstep, ?_, rfl⟩
      obtain rfl := Option.some.inj hstep
      rfl
  | answer i world =>
      dsimp only [services] at h
      obtain ⟨world', hstep, rfl⟩ := Option.map_eq_some_iff.mp h
      refine .inl ⟨_, hstep, ?_, rfl⟩
      simp only [gateway] at hstep
      split at hstep
      · split at hstep
        · cases hstep
        · obtain rfl := Option.some.inj hstep
          rfl
      · cases hstep
  | unreachable i deadline =>
      dsimp only [services] at h
      obtain ⟨world, hstep, rfl⟩ := Option.map_eq_some_iff.mp h
      refine .inl ⟨_, hstep, ?_, rfl⟩
      simp only [gateway] at hstep
      split at hstep
      · obtain rfl := Option.some.inj hstep
        rfl
      · cases hstep
  | verify i clock delivery =>
      dsimp only [services] at h
      split at h
      · rename_i hclock
        obtain ⟨call, hwaiting, hverify⟩ := Option.bind_eq_some_iff.mp h
        obtain ⟨world, hstep, rfl⟩ := Option.map_eq_some_iff.mp hverify
        have hclaims := claims_of_verify clock hwaiting hstep
        refine .inr ⟨i, arrivalAt state display clock call, _, hclock.1, hclock.2, hstep, rfl, rfl, ?_⟩
        cases hcase : Verifier.acceptedRequest eth state w.store
            (arrivalAt state display clock call) with
        | none =>
            rw [hcase] at hclaims
            exact .inl ⟨rfl, rfl, hclaims⟩
        | some request =>
            rw [hcase] at hclaims
            exact .inr ⟨request, rfl, rfl, hclaims⟩
      · cases h

/-! ### What holds in every run -/

/-- The payments are the claims of the gateway; each was fresh when it was made, and is remembered;
and two with one nonce are more than the retention time apart. -/
structure Services.Settled (eth : Verifier.Ethers) (state : Verifier.AppState) (w : Services) : Prop
    where
  claims : w.world.claims.map (fun c => (c.caller, c.request))
    = w.payments.map fun p => (p.caller, p.request)
  made : ∀ p ∈ w.payments, p.clock ≤ w.clock ∧ p.clock < 2 ^ 63 * Verifier.nanosPerSecond
  fresh : ∀ p ∈ w.payments, Verifier.validateTimestampInternal p.request.context.timestamp
    state.signatureExpirySeconds state.clockSkewSeconds (Verifier.unixSeconds p.clock) = .ok ()
  remembered : ∀ p ∈ w.payments, Verifier.Remembered (Verifier.nonceRetentionTtl state) w.store
    w.clock (Verifier.nonceKey eth p.request.context.nonce) p.clock
  apart : w.payments.Pairwise fun later earlier =>
    Verifier.nonceKey eth later.request.context.nonce
        = Verifier.nonceKey eth earlier.request.context.nonce →
      earlier.clock + Verifier.nonceRetentionTtl state < later.clock

/-- A step keeps the payments settled. -/
theorem Services.Settled.step {w w' : Services} {a : ServiceStep} (hw : w.Settled eth state)
    (h : (services s eth state display).step w a = some w') :
  w'.Settled eth state
  := by
  obtain ⟨b, -, hclaims, hw'⟩ | ⟨i, q, b, hclock, hend, -, hstore, hnow, hcases⟩ :=
    services_step_cases h
  · rw [hw']
    exact ⟨(congrArg _ hclaims).trans hw.claims, hw.made, hw.fresh, hw.remembered, hw.apart⟩
  have hmade : ∀ p ∈ w.payments, p.clock ≤ q.clock ∧ p.clock < 2 ^ 63 * Verifier.nanosPerSecond :=
    fun p hp => ⟨(hw.made p hp).1.trans hclock, (hw.made p hp).2⟩
  have hlater : ∀ p ∈ w.payments, Verifier.Remembered (Verifier.nonceRetentionTtl state) w.store
      q.clock (Verifier.nonceKey eth p.request.context.nonce) p.clock :=
    fun p hp => (hw.remembered p hp).later hclock
  have hremembered : ∀ p ∈ w.payments, Verifier.Remembered (Verifier.nonceRetentionTtl state) w'.store
      w'.clock (Verifier.nonceKey eth p.request.context.nonce) p.clock := by
    intro p hp
    rw [hstore, hnow]
    exact (hlater p hp).verifySignature (hmade p hp).1
  obtain ⟨-, hpayments, hclaims⟩ | ⟨request, haccepted, hpayments, hclaims⟩ := hcases
  · constructor
    · rw [hclaims, hpayments, hw.claims]
    · rw [hpayments, hnow]
      exact hmade
    · rw [hpayments]
      exact hw.fresh
    · rw [hpayments]
      exact hremembered
    · rw [hpayments]
      exact hw.apart
  · obtain ⟨hfresh, hfar, hkept⟩ := Verifier.claim_of_acceptedRequest haccepted
    constructor
    · rw [hclaims, hpayments, List.map_cons, List.map_cons, hw.claims]
    · rw [hpayments, hnow]
      exact List.forall_mem_cons.mpr ⟨⟨le_rfl, hend⟩, hmade⟩
    · rw [hpayments]
      exact List.forall_mem_cons.mpr ⟨hfresh, hw.fresh⟩
    · rw [hpayments]
      apply List.forall_mem_cons.mpr ⟨_, hremembered⟩
      rw [hstore, hnow]
      exact hkept
    · rw [hpayments]
      apply List.Pairwise.cons _ hw.apart
      intro p hp hkey
      apply hfar
      rw [hkey]
      exact hlater p hp

/-- The payments are settled, and the gateway is sound. -/
def Services.Sound (s : Settings) (eth : Verifier.Ethers) (state : Verifier.AppState)
    (display : List UInt8 → String) (w : Services) : Prop :=
  w.Settled eth state ∧ w.world.Sound s state display

/-- A step keeps the services sound. -/
theorem Services.Sound.step {w w' : Services} {a : ServiceStep} (hw : w.Sound s eth state display)
    (h : (services s eth state display).step w a = some w') :
  w'.Sound s eth state display
  := by
  obtain ⟨hsettled, hsound⟩ := hw
  refine ⟨hsettled.step h, ?_⟩
  obtain ⟨b, hworld, -⟩ | ⟨i, q, b, -, -, hworld, -⟩ := services_step_cases h
  · exact hsound.step hworld
  · exact hsound.step hworld

/-- Every run leads to sound services. -/
theorem Services.sound_of_run {steps : List ServiceStep} {start : Nat} {w : Services}
    (hrun : (services s eth state display).run (.init start) steps = some w) :
  w.Sound s eth state display
  := by
  apply Machine.run_keeps (fun w a w' hw hstep => hw.step hstep) steps _ hrun
  constructor
  · exact ⟨rfl, List.forall_mem_nil _, List.forall_mem_nil _, List.forall_mem_nil _, .nil⟩
  · have hstart : (gateway s eth state display).run .init [] = some .init := rfl
    exact Paygate.sound_of_run hstart

/-! ### Results and payments -/

/-- The nonce and the timestamp of a payment. -/
def Payment.token (p : Payment) : String × Option UInt64 :=
  (p.request.context.nonce, p.request.context.timestamp)

/-- No two payments are for the same nonce and the same timestamp: both were fresh. -/
theorem Services.Settled.nodup_token {w : Services} (hw : w.Settled eth state) :
  (w.payments.map Payment.token).Nodup
  := by
  apply List.pairwise_map.mpr
  apply hw.apart.imp_of_mem
  intro p p' hp hp' hapart htoken
  obtain ⟨hnonce, htimestamp⟩ := Prod.mk.inj htoken
  have hfar := hapart (congrArg _ hnonce)
  have hnear := Verifier.lt_add_nonceRetentionTtl_of_fresh (hw.made p' hp').2 (hw.made p hp).2
    (hw.fresh p' hp') (htimestamp ▸ hw.fresh p hp)
  omega

/-- A request that asked the provider or was answered with status 200 made a payment, for the nonce
and the timestamp it carries. -/
theorem exists_payment {w : Services} (hw : w.Settled eth state)
    (hsound : w.world.Sound s state display) {i : Nat} {t : Thread}
    (ht : w.world.threads[i]? = some t) {e : Event Call Answer} (he : e ∈ w.world.history i)
    (hserves : Serves e) :
  ∃ p ∈ w.payments, p.caller = i
    ∧ headerToken t.request = some p.token
  := by
  obtain ⟨later, earlier, hh⟩ := List.append_of_mem he
  obtain ⟨timestamp, resp, hpaid⟩ := paid_of_serves (hsound.reaches i t ht) hh hserves
  obtain ⟨c, hc, hcaller, hfor, -⟩ := hsound.exists_claim (i := i) (by
    rw [hh]
    intro e' he'
    exact List.mem_append_right _ (List.mem_cons_of_mem _ he')) hpaid
  have hmem : (c.caller, c.request) ∈ w.payments.map fun p => (p.caller, p.request) := by
    rw [← hw.claims]
    exact List.mem_map_of_mem hc
  obtain ⟨p, hp, hpair⟩ := List.mem_map.mp hmem
  obtain ⟨hcaller', hrequest⟩ := Prod.mk.inj hpair
  refine ⟨p, hp, hcaller'.trans hcaller, ?_⟩
  rw [hfor.headerToken_eq, Claim.token, Payment.token, hrequest]

/-- A run in which two requests carry one payment, in turns, and the second is told that the nonce
was used. -/
def ledgerSteps : List ServiceStep :=
  let delivery : Delivery := { received := some 4096, deadline := false }
  [.arrive paidRequest, .arrive paidRequest]
    ++ [.answer 0 cachedWorld, .answer 1 cachedWorld, .answer 0 cachedWorld, .answer 1 cachedWorld]
    ++ [.verify 0 (1700000000 * Verifier.nanosPerSecond) delivery,
      .verify 1 (1700000001 * Verifier.nanosPerSecond) delivery]
    ++ List.replicate 7 (.answer 0 cachedWorld) ++ [.answer 1 cachedWorld]

/-- Whether the first request was answered with status 200 in the run, and what the requests
carry. -/
def ledgerOutcome : Option (Bool × List (Option (String × Option UInt64))) :=
  ((services cachedSettings Verifier.sampleEthers Verifier.sampleState fun _ => "").run (.init 0)
    ledgerSteps).map fun w =>
      ((w.world.history 0).any fun e => is200 e.call, w.world.threads.map fun t => headerToken t.request)

end Paygate
