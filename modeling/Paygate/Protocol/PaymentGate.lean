import Paygate.Base.Machine
import Paygate.Gateway.Integrity
import Paygate.Protocol.VerifyCodec
import Paygate.Verifier.Memory

/-!
# The payment gate

Any number of requests to `POST /api/ai/summarize` that are served concurrently, against a
verifier that answers as `verify_signature` does, over a network that may lose an answer or
cut it short.  Redis, the provider and everything else the handlers ask may answer
anything.

Whatever the order of their steps, each request that is answered with status 200 has a
nonce claim of its own that the verifier accepted.
-/

namespace Paygate.Verifier

/-- What `verify_signature` answers if the nonce store answers a claim with `claim`, and the
request whose claim was accepted. -/
def verifySignatureWith (eth : Ethers) (state : AppState) (now : UInt64) (cid : String)
    (payload : Except JsonRejection VerifyRequest) (claim : Except String Bool) :
    Reply × Option VerifyRequest :=
  match beforeClaim eth state now cid payload with
  | .error reply => (reply, none)
  | .ok (req, addr) =>
      (afterClaim cid addr claim,
        match claim with
        | .ok true => some req
        | _ => none)

/-- The in-memory store is one of the stores. -/
theorem verifySignature_eq_with (eth : Ethers) (state : AppState) (store : MemoryNonceStore)
    (q : Arrival) :
  ∃ claim, (verifySignature eth state store q).1
    = (verifySignatureWith eth state (unixSeconds q.clock) (correlationId q.correlationHeader)
        q.payload claim).1
  := by
  unfold verifySignature verifySignatureWith
  dsimp only
  cases beforeClaim eth state (unixSeconds q.clock) (correlationId q.correlationHeader) q.payload with
  | error r => exact ⟨.ok true, rfl⟩
  | ok x => exact ⟨.ok _, rfl⟩

/-- A positive answer is that to an accepted claim, and names the recovered address. -/
theorem verifySignatureWith_valid {eth : Ethers} {state : AppState} {now : UInt64} {cid : String}
    {payload : Except JsonRejection VerifyRequest} {claim : Except String Bool}
    (h : (verifySignatureWith eth state now cid payload claim).1.body.isValid = true) :
  ∃ req addr, payload = .ok req
    ∧ (verifySignatureWith eth state now cid payload claim).2 = some req
    ∧ (verifySignatureWith eth state now cid payload claim).1.body.recoveredAddress
        = some (debugAddress addr)
  := by
  unfold verifySignatureWith at h ⊢
  cases hbefore : beforeClaim eth state now cid payload with
  | error r =>
      rw [hbefore] at h
      rw [beforeClaim_error_isValid hbefore] at h
      cases h
  | ok x =>
      rw [hbefore] at h
      obtain rfl := afterClaim_isValid.mp h
      exact ⟨x.1, x.2, (beforeClaim_ok_iff.mp hbefore).1, rfl, rfl⟩

end Paygate.Verifier

namespace Paygate

open Text Program Gateway

/-! ### The world -/

/-- A request that is being served. -/
structure Thread where
  request : HttpRequest
  program : Prog Context

/-- A nonce claim the verifier accepted: the request of the gateway it was made for, what the
verifier read, and its answer. -/
structure Claim where
  caller : Nat
  request : Verifier.VerifyRequest
  reply : Verifier.Reply

/-- The requests, the calls of all of them with their answers, the latest first, and the
accepted claims. -/
structure World where
  threads : List Thread
  log : List (Nat × Event Call Answer)
  claims : List Claim

namespace World

/-- The start: no request. -/
def init : World where
  threads := []
  log := []
  claims := []

/-- The calls of one request. -/
def history (w : World) (i : Nat) : History :=
  (w.log.filter fun x => x.1 = i).map Prod.snd

/-- The world after a call of a request is answered. -/
def proceed (w : World) (i : Nat) (r : HttpRequest) (e : Event Call Answer) (p : Prog Context) :
    World where
  threads := w.threads.set i { request := r, program := p }
  log := (i, e) :: w.log
  claims := w.claims

end World

/-- What the gateway gets of an answer: its first bytes, or nothing. -/
structure Delivery where
  received : Option Nat
  deadline : Bool

/-- The answer that is delivered. -/
def Delivery.deliver (d : Delivery) (reply : Verifier.Reply) : VerifierAnswer :=
  match d.received with
  | some n => .answered reply.status ((SerdeJson.toVec reply.body.json).take n) d.deadline
  | none => .failed d.deadline

/-- The steps: a request arrives; a call other than to the verifier is answered; the verifier
handles a call and its answer is delivered; or the verifier cannot be reached. -/
inductive GatewayStep where
  | arrive (r : HttpRequest)
  | answer (i : Nat) (world : (c : Call) → Answer c)
  | verify (i : Nat) (now : UInt64) (claim : Except String Bool) (delivery : Delivery)
  | unreachable (i : Nat) (deadline : Bool)

/-- Whether the call is one to the verifier. -/
def isVerify : Call → Bool
  | .verify _ _ => true
  | _ => false

/-- The gateway and the verifier. -/
def gateway (s : Settings) (eth : Verifier.Ethers) (state : Verifier.AppState)
    (display : List UInt8 → String) : Machine World GatewayStep where
  step w
    | .arrive r =>
        some { w with threads := w.threads ++ [{ request := r, program := summarize s r }] }
    | .answer i world =>
        match w.threads[i]? with
        | some ⟨r, .call c k⟩ =>
            if isVerify c then none else some (w.proceed i r ⟨c, world c⟩ (k (world c)))
        | _ => none
    | .verify i now claim delivery =>
        match w.threads[i]? with
        | some ⟨r, .call (.verify cid body) k⟩ =>
            let out := Verifier.verifySignatureWith eth state now (Verifier.correlationId cid)
              (Verifier.readBody state display body) claim
            let answer := delivery.deliver out.1
            let w' := w.proceed i r ⟨.verify cid body, answer⟩ (k answer)
            let accepted := out.2.map fun req => { caller := i, request := req, reply := out.1 }
            some { w' with claims := accepted.toList ++ w.claims }
        | _ => none
    | .unreachable i deadline =>
        match w.threads[i]? with
        | some ⟨r, .call (.verify cid body) k⟩ =>
            some (w.proceed i r ⟨.verify cid body, .failed deadline⟩ (k (.failed deadline)))
        | _ => none

/-! ### What a step does -/

/-- Whatever the gateway reads as a positive answer is one to an accepted claim. -/
def AnswersAccepted (state : Verifier.AppState) (display : List UInt8 → String) (i : Nat)
    (e : Event Call Answer) (claims : List Claim) : Prop :=
  ∀ cid body answer resp, e = ⟨.verify cid body, answer⟩ → readAnswer answer = .ok resp →
    resp.isValid = true →
    ∃ c ∈ claims, c.caller = i ∧ Verifier.readBody state display body = .ok c.request
      ∧ c.reply.body.isValid = true ∧ resp = receivedResponse c.reply.body

/-- An answer of the verifier that is read as positive is one to an accepted claim. -/
theorem answersAccepted_deliver {eth : Verifier.Ethers} {state : Verifier.AppState}
    {display : List UInt8 → String} {i : Nat} {now : UInt64} {cid : Option (List UInt8)}
    {body : List UInt8} {claim : Except String Bool} {delivery : Delivery} :
  let out := Verifier.verifySignatureWith eth state now (Verifier.correlationId cid)
    (Verifier.readBody state display body) claim
  AnswersAccepted state display i ⟨.verify cid body, delivery.deliver out.1⟩
    (out.2.map fun req => ({ caller := i, request := req, reply := out.1 } : Claim)).toList
  := by
  intro out cid' body' answer resp heq hread hvalid
  injection heq with hcall hanswer
  injection hcall with _ hbody
  subst hbody
  subst hanswer
  unfold Delivery.deliver at hread
  split at hread
  · obtain rfl := readAnswer_take hread
    obtain ⟨req, addr, hpayload, haccepted, -⟩ := Verifier.verifySignatureWith_valid hvalid
    refine ⟨{ caller := i, request := req, reply := out.1 }, ?_, rfl, hpayload, hvalid, rfl⟩
    simp only [out, haccepted, Option.map_some, Option.toList_some, List.mem_singleton]
  · cases hread

/-- A step starts a request, or answers a call of one. -/
theorem gateway_step_cases {s : Settings} {eth : Verifier.Ethers} {state : Verifier.AppState}
    {display : List UInt8 → String} {w w' : World} {a : GatewayStep}
    (h : (gateway s eth state display).step w a = some w') :
  (∃ r, w' = { w with threads := w.threads ++ [{ request := r, program := summarize s r }] })
    ∨ ∃ i r c k x claims, w.threads[i]? = some ⟨r, .call c k⟩
      ∧ w' = { w.proceed i r ⟨c, x⟩ (k x) with claims := claims ++ w.claims }
      ∧ AnswersAccepted state display i ⟨c, x⟩ claims
  := by
  cases a with
  | arrive r =>
      obtain rfl := Option.some.inj h
      exact Or.inl ⟨r, rfl⟩
  | answer i world =>
      simp only [gateway] at h
      split at h
      · rename_i r c k hthread
        split at h
        · cases h
        · rename_i hnot
          obtain rfl := Option.some.inj h
          refine Or.inr ⟨i, r, c, k, world c, [], hthread, rfl, ?_⟩
          intro cid body answer resp heq
          injection heq with hcall
          subst hcall
          exact absurd rfl hnot
      · cases h
  | verify i now claim delivery =>
      simp only [gateway] at h
      split at h
      · rename_i r cid body k hthread
        obtain rfl := Option.some.inj h
        exact Or.inr ⟨i, r, .verify cid body, k, _, _, hthread, rfl, answersAccepted_deliver⟩
      · cases h
  | unreachable i deadline =>
      simp only [gateway] at h
      split at h
      · rename_i r cid body k hthread
        obtain rfl := Option.some.inj h
        refine Or.inr ⟨i, r, .verify cid body, k, .failed deadline, [], hthread, rfl, ?_⟩
        intro cid' body' answer resp heq hread
        injection heq with hcall hanswer
        injection hcall with _ hbody
        subst hbody
        subst hanswer
        cases hread
      · cases h

/-! ### What holds in every run -/

theorem World.history_proceed_self (w : World) (i : Nat) (r : HttpRequest) (e : Event Call Answer)
    (p : Prog Context) :
  (w.proceed i r e p).history i = e :: w.history i
  := by
  simp [World.history, World.proceed]

theorem World.history_proceed_of_ne (w : World) {i j : Nat} (hne : i ≠ j) (r : HttpRequest)
    (e : Event Call Answer) (p : Prog Context) :
  (w.proceed i r e p).history j = w.history j
  := by
  simp [World.history, World.proceed, hne]

/-- Each request has run its handlers up to where it is, and each positive answer of the
verifier was one to an accepted claim. -/
structure World.Sound (s : Settings) (state : Verifier.AppState) (display : List UInt8 → String)
    (w : World) : Prop where
  reaches : ∀ i t, w.threads[i]? = some t →
    (summarize s t.request).Reaches (w.history i) t.program
  known : ∀ x ∈ w.log, x.1 < w.threads.length
  accepted : ∀ x ∈ w.log, AnswersAccepted state display x.1 x.2 w.claims

theorem AnswersAccepted.append {state : Verifier.AppState} {display : List UInt8 → String} {i : Nat}
    {e : Event Call Answer} {claims claims' : List Claim}
    (h : AnswersAccepted state display i e claims) (hsub : claims ⊆ claims') :
  AnswersAccepted state display i e claims'
  := by
  intro cid body answer resp heq hread hvalid
  obtain ⟨c, hc, hrest⟩ := h cid body answer resp heq hread hvalid
  exact ⟨c, hsub hc, hrest⟩

/-- A step keeps a world sound. -/
theorem World.Sound.step {s : Settings} {eth : Verifier.Ethers} {state : Verifier.AppState}
    {display : List UInt8 → String} {w w' : World} {a : GatewayStep}
    (hw : w.Sound s state display) (h : (gateway s eth state display).step w a = some w') :
  w'.Sound s state display
  := by
  obtain ⟨r, rfl⟩ | ⟨i, r, c, k, x, claims, hthread, rfl, haccepted⟩ := gateway_step_cases h
  · constructor
    · intro i t ht
      by_cases hi : i < w.threads.length
      · rw [List.getElem?_append_left hi] at ht
        exact hw.reaches i t ht
      · have hlast : t = ⟨r, summarize s r⟩ := by
          rw [List.getElem?_append_right (by omega)] at ht
          exact List.mem_singleton.mp (List.mem_of_getElem? ht)
        have hnil : w.history i = [] := by
          rw [World.history, List.map_eq_nil_iff, List.filter_eq_nil_iff]
          intro x hx
          have hlt := hw.known x hx
          simp only [decide_eq_true_eq]
          omega
        change (summarize s t.request).Reaches (w.history i) t.program
        rw [hnil, hlast]
        exact .start
    · intro x hx
      have hlt := hw.known x hx
      simp only [List.length_append, List.length_singleton]
      omega
    · exact hw.accepted
  · have hlt : i < w.threads.length := (List.getElem?_eq_some_iff.mp hthread).1
    constructor
    · intro j t ht
      change (summarize s t.request).Reaches ((w.proceed i r ⟨c, x⟩ (k x)).history j) t.program
      change (w.threads.set i _)[j]? = some t at ht
      by_cases hij : i = j
      · subst hij
        rw [List.getElem?_set_self hlt] at ht
        obtain rfl := Option.some.inj ht
        rw [World.history_proceed_self]
        exact (hw.reaches i _ hthread).step x
      · rw [List.getElem?_set_ne hij] at ht
        rw [World.history_proceed_of_ne w hij]
        exact hw.reaches j t ht
    · intro y hy
      change y.1 < (w.threads.set i _).length
      rw [List.length_set]
      obtain rfl | hy := List.mem_cons.mp hy
      · exact hlt
      · exact hw.known y hy
    · intro y hy
      obtain rfl | hy := List.mem_cons.mp hy
      · exact haccepted.append (List.subset_append_left _ _)
      · exact (hw.accepted y hy).append (List.subset_append_right _ _)

/-- Every run leads to a sound world. -/
theorem sound_of_run {s : Settings} {eth : Verifier.Ethers} {state : Verifier.AppState}
    {display : List UInt8 → String} {steps : List GatewayStep} {w : World}
    (hrun : (gateway s eth state display).run .init steps = some w) :
  w.Sound s state display
  := by
  apply Machine.run_keeps (fun w a w' hw hstep => hw.step hstep) steps _ hrun
  constructor
  · intro i t ht
    cases ht
  · intro x hx
    cases hx
  · intro x hx
    cases hx

/-! ### Responses and claims -/

/-- The nonce and the timestamp in the headers of a request. -/
def headerToken (r : HttpRequest) : Option (String × Option UInt64) :=
  (readTimestamp r.timestamp).map fun timestamp => (receivedText r.nonce, some timestamp)

/-- The nonce and the timestamp of a claim. -/
def Claim.token (c : Claim) : String × Option UInt64 :=
  (c.request.context.nonce, c.request.context.timestamp)

/-- Whether the call writes a response of status 200. -/
def is200 : Call → Bool
  | .json status _ => status = 200
  | _ => false

/-- The responses of status 200 to requests with a nonce and a timestamp. -/
def World.served (w : World) (token : String × Option UInt64) : List (Nat × Event Call Answer) :=
  w.log.filter fun x => is200 x.2.call
    && (w.threads[x.1]?.bind fun t => headerToken t.request) = some token

/-- The accepted claims for a nonce and a timestamp. -/
def World.granted (w : World) (token : String × Option UInt64) : List Claim :=
  w.claims.filter fun c => c.token = token

/-- The claim is one for the headers of the request, and its answer is positive and names an
address. -/
structure Claim.For (s : Settings) (c : Claim) (r : HttpRequest) : Prop where
  request_eq : ∃ timestamp chainId, readTimestamp r.timestamp = some timestamp
    ∧ c.request = receivedRequest (verifyRequest s.env r.signature r.nonce timestamp) chainId
  isValid : c.reply.body.isValid = true
  recoveredAddress : ∃ address, c.reply.body.recoveredAddress = some address ∧ address ≠ ""

theorem Claim.For.headerToken_eq {s : Settings} {c : Claim} {r : HttpRequest} (h : c.For s r) :
  headerToken r = some c.token
  := by
  obtain ⟨timestamp, chainId, hts, hrequest⟩ := h.request_eq
  rw [headerToken, hts, Claim.token, hrequest]
  rfl

/-- The event asks the provider or answers with status 200. -/
def Serves (e : Event Call Answer) : Prop :=
  (∃ text, e.call = .generate text) ∨ is200 e.call = true

/-- Who is served has paid. -/
theorem paid_of_serves {s : Settings} {r : HttpRequest} {h later earlier : History}
    {p : Prog Context} {e : Event Call Answer} (hrun : (summarize s r).Reaches h p)
    (hh : h = later ++ e :: earlier) (he : Serves e) :
  ∃ timestamp resp, Paid s r timestamp resp earlier
  := by
  have hallowed := allowed_of_reaches hrun hh
  obtain ⟨text, htext⟩ | h200 := he
  · rw [htext] at hallowed
    exact hallowed
  · cases hc : e.call with
    | json status body =>
        rw [hc] at hallowed h200
        obtain ⟨signed, value, hissued, -⟩ := hallowed.2 (by simpa [is200] using h200)
        obtain ⟨timestamp, resp, hpaid, -⟩ := hissued.receipt
        exact ⟨timestamp, resp, hpaid⟩
    | _ =>
        rw [hc] at h200
        cases h200

/-- A payment was an accepted claim. -/
theorem World.Sound.exists_claim {s : Settings} {state : Verifier.AppState}
    {display : List UInt8 → String} {w : World} (hw : w.Sound s state display) {i : Nat}
    {r : HttpRequest} {timestamp : UInt64} {resp : VerifyResponse} {h : History}
    (hsub : h ⊆ w.history i) (hpaid : Paid s r timestamp resp h) :
  ∃ c ∈ w.claims, c.caller = i ∧ c.For s r ∧ resp = receivedResponse c.reply.body
  := by
  obtain ⟨cid, answer, hmem, hread⟩ := hpaid.verified
  obtain ⟨x, hx, hevent⟩ := List.mem_map.mp (hsub hmem)
  obtain ⟨hlog, hi⟩ := List.mem_filter.mp hx
  obtain ⟨c, hc, hcaller, hrequest, hvalid, hresp⟩ :=
    hw.accepted x hlog cid _ answer resp hevent hread hpaid.isValid
  obtain ⟨-, chainId, -, hreceived⟩ := readBody_eq_ok.mp hrequest
  refine ⟨c, hc, hcaller.trans (by simpa using hi), ⟨?_, hvalid, ?_⟩, hresp⟩
  · exact ⟨timestamp, chainId, hpaid.timestamp_eq, hreceived⟩
  · have haddress := hpaid.recoveredAddress
    rw [hresp] at haddress
    cases hsome : c.reply.body.recoveredAddress with
    | none =>
        rw [receivedResponse, hsome] at haddress
        exact absurd rfl haddress
    | some address =>
        refine ⟨address, rfl, ?_⟩
        rintro rfl
        rw [receivedResponse, hsome] at haddress
        exact haddress rfl

/-- The calls of a request around one of its calls. -/
theorem World.history_eq {w : World} {later earlier : List (Nat × Event Call Answer)} {i : Nat}
    {e : Event Call Answer} (hlog : w.log = later ++ (i, e) :: earlier) :
  w.history i = (later.filter fun x => x.1 = i).map Prod.snd
    ++ e :: (earlier.filter fun x => x.1 = i).map Prod.snd
  := by
  simp [World.history, hlog]

/-- A response of status 200 has an accepted claim of its request. -/
theorem World.Sound.claim_of_is200 {s : Settings} {state : Verifier.AppState}
    {display : List UInt8 → String} {w : World} (hw : w.Sound s state display)
    {x : Nat × Event Call Answer} (hx : x ∈ w.log) (h200 : is200 x.2.call = true) :
  ∃ t, w.threads[x.1]? = some t ∧ ∃ c ∈ w.claims, c.caller = x.1 ∧ c.For s t.request
  := by
  obtain ⟨i, e⟩ := x
  have hlt := hw.known _ hx
  obtain ⟨later, earlier, hlog⟩ := List.append_of_mem hx
  have hthread : w.threads[i]? = some w.threads[i] := List.getElem?_eq_getElem hlt
  have hh := World.history_eq hlog
  obtain ⟨timestamp, resp, hpaid⟩ := paid_of_serves (hw.reaches i _ hthread) hh (Or.inr h200)
  obtain ⟨c, hc, hcaller, hfor, -⟩ := hw.exists_claim (i := i) (by
    rw [hh]
    intro e' he'
    exact List.mem_append_right _ (List.mem_cons_of_mem _ he')) hpaid
  exact ⟨w.threads[i], hthread, c, hc, hcaller, hfor⟩

theorem isJson_of_is200 {c : Call} (h : is200 c = true) : c.isJson = true
  := by
  cases c with
  | json status body => rfl
  | _ => cases h

/-- No request has two responses of status 200. -/
theorem World.Sound.ne_of_is200 {s : Settings} {state : Verifier.AppState}
    {display : List UInt8 → String} {w : World} (hw : w.Sound s state display)
    {later earlier : List (Nat × Event Call Answer)} {x : Nat × Event Call Answer}
    (hlog : w.log = later ++ x :: earlier) (h200 : is200 x.2.call = true) :
  ∀ y ∈ earlier, is200 y.2.call = true → y.1 ≠ x.1
  := by
  rintro y hy hy200 heq
  obtain ⟨i, e⟩ := x
  have hmem : (i, e) ∈ w.log := by
    rw [hlog]
    exact List.mem_append_right _ List.mem_cons_self
  have hlt : i < w.threads.length := hw.known _ hmem
  have hthread : w.threads[i]? = some w.threads[i] := List.getElem?_eq_getElem hlt
  have hnot := isJson_eq_false (hw.reaches i _ hthread) (World.history_eq hlog)
    (isJson_of_is200 h200) y.2 (List.mem_append_right _ (List.mem_map.mpr
      ⟨y, List.mem_filter.mpr ⟨hy, by simpa using heq⟩, rfl⟩))
  rw [isJson_of_is200 hy200] at hnot
  cases hnot

/-- Entries that never share a key with a later one have different keys. -/
theorem nodup_map_filter {α β : Type} {p : α → Bool} {f : α → β} :
    ∀ {l : List α}, (∀ later x earlier, l = later ++ x :: earlier → p x = true →
      ∀ y ∈ earlier, p y = true → f y ≠ f x) → ((l.filter p).map f).Nodup
  | [], _ => List.nodup_nil
  | a :: l, h => by
      have hl : ((l.filter p).map f).Nodup :=
        nodup_map_filter fun later x earlier hx => h (a :: later) x earlier (congrArg (a :: ·) hx)
      cases hp : p a with
      | false => rwa [List.filter_cons_of_neg (by simp [hp])]
      | true =>
          rw [List.filter_cons_of_pos hp, List.map_cons, List.nodup_cons]
          refine ⟨?_, hl⟩
          intro hmem
          obtain ⟨y, hy, heq⟩ := List.mem_map.mp hmem
          obtain ⟨hy, hpy⟩ := List.mem_filter.mp hy
          exact h [] a l rfl hp y hy hpy heq

/-- A response of status 200, by its place in the log. -/
abbrev World.Response (w : World) : Type :=
  { k : Fin w.log.length // is200 (w.log.get k).2.call = true }

/-- Two responses of status 200 are to different requests. -/
theorem World.Sound.response_injective {s : Settings} {state : Verifier.AppState}
    {display : List UInt8 → String} {w : World} (hw : w.Sound s state display) (j k : w.Response)
    (h : (w.log.get j.1).1 = (w.log.get k.1).1) :
  j = k
  := by
  have hne : ∀ j k : w.Response, j.1 < k.1 → (w.log.get k.1).1 ≠ (w.log.get j.1).1 := by
    rintro ⟨j, hj⟩ ⟨k, hk⟩ hlt
    have hsplit : w.log = w.log.take j ++ w.log.get j :: w.log.drop (j + 1) := by
      rw [List.get_eq_getElem, List.getElem_cons_drop, List.take_append_drop]
    apply hw.ne_of_is200 hsplit hj _ _ hk
    rw [List.get_eq_getElem]
    have hlt' : (j : Nat) + 1 ≤ k := hlt
    exact List.mem_drop_iff_getElem.mpr ⟨k - (j + 1), by omega, by congr 1; omega⟩
  apply Subtype.ext
  obtain hlt | heq | hlt := lt_trichotomy j.1 k.1
  · exact absurd h.symm (hne j k hlt)
  · exact heq
  · exact absurd h (hne k j hlt)

/-- For every run, every call to the provider and every response of status 200 comes after a
positive answer of the verifier, with an address, for the headers of the same request; each
response of status 200 has an accepted claim of its own; and there are at most as many of
them for a nonce and a timestamp as there are accepted claims. -/
theorem payment_gate {s : Settings} {eth : Verifier.Ethers} {state : Verifier.AppState}
    {display : List UInt8 → String} {steps : List GatewayStep} {w : World}
    (hrun : (gateway s eth state display).run .init steps = some w) :
  (∀ i t, w.threads[i]? = some t → ∀ later e earlier, w.history i = later ++ e :: earlier →
      Serves e → ∃ timestamp resp, Paid s t.request timestamp resp earlier
        ∧ ∃ c ∈ w.claims, c.caller = i ∧ c.For s t.request ∧ resp = receivedResponse c.reply.body)
    ∧ (∃ f : w.Response → Fin w.claims.length, Function.Injective f
      ∧ ∀ k, (w.claims.get (f k)).caller = (w.log.get k.1).1
        ∧ ∃ t, w.threads[(w.log.get k.1).1]? = some t ∧ (w.claims.get (f k)).For s t.request)
    ∧ ∀ token, (w.served token).length ≤ (w.granted token).length
  := by
  have hw := sound_of_run hrun
  refine ⟨?_, ?_, ?_⟩
  · intro i t ht later e earlier hh he
    obtain ⟨timestamp, resp, hpaid⟩ := paid_of_serves (hw.reaches i t ht) hh he
    refine ⟨timestamp, resp, hpaid, hw.exists_claim ?_ hpaid⟩
    rw [hh]
    intro e' he'
    exact List.mem_append_right _ (List.mem_cons_of_mem _ he')
  · have hclaim : ∀ k : w.Response, ∃ m : Fin w.claims.length,
        (w.claims.get m).caller = (w.log.get k.1).1
          ∧ ∃ t, w.threads[(w.log.get k.1).1]? = some t ∧ (w.claims.get m).For s t.request := by
      rintro ⟨k, hk⟩
      obtain ⟨t, ht, c, hc, hcaller, hfor⟩ := hw.claim_of_is200 (List.get_mem w.log k) hk
      obtain ⟨m, rfl⟩ := List.get_of_mem hc
      exact ⟨m, hcaller, t, ht, hfor⟩
    choose f hf using hclaim
    refine ⟨f, ?_, hf⟩
    intro j k hjk
    apply hw.response_injective
    rw [← (hf j).1, ← (hf k).1, hjk]
  · intro token
    have hnodup : ((w.served token).map Prod.fst).Nodup := by
      apply nodup_map_filter
      intro later x earlier hlog hx y hy hpy
      simp only [Bool.and_eq_true] at hx hpy
      exact hw.ne_of_is200 hlog hx.1 y hy hpy.1
    have hsub : (w.served token).map Prod.fst ⊆ (w.granted token).map Claim.caller := by
      intro i hi
      obtain ⟨x, hx, rfl⟩ := List.mem_map.mp hi
      obtain ⟨hx, hserved⟩ := List.mem_filter.mp hx
      simp only [Bool.and_eq_true, decide_eq_true_eq] at hserved
      obtain ⟨t, ht, c, hc, hcaller, hfor⟩ := hw.claim_of_is200 hx hserved.1
      rw [ht, Option.bind_some, hfor.headerToken_eq] at hserved
      exact List.mem_map.mpr ⟨c, List.mem_filter.mpr
        ⟨hc, by simpa using Option.some.inj hserved.2⟩, hcaller⟩
    simpa using (List.subperm_of_subset hnodup hsub).length_le

/-- A run in which two requests with one payment are served in turns and the second is told
that the nonce was used. -/
def gateSteps : List GatewayStep :=
  let delivery : Delivery := { received := some 4096, deadline := false }
  [.arrive paidRequest, .arrive paidRequest]
    ++ [.answer 0 cachedWorld, .answer 1 cachedWorld, .answer 0 cachedWorld, .answer 1 cachedWorld]
    ++ [.verify 0 1700000000 (.ok true) delivery, .verify 1 1700000000 (.ok false) delivery]
    ++ List.replicate 7 (.answer 0 cachedWorld) ++ [.answer 1 cachedWorld]

/-- The number of responses of status 200 and of accepted claims after the run, for the nonce
and the timestamp of the payment. -/
def gateCounts : Option (Nat × Nat) :=
  ((gateway cachedSettings Verifier.sampleEthers Verifier.sampleState fun _ => "").run .init
    gateSteps).map fun w =>
      ((w.served ("n-1", some 1700000000)).length, (w.granted ("n-1", some 1700000000)).length)

theorem payment_gate_sample :
  gateCounts = some (1, 1) ∧ ∃ w : World, ∃ f : w.Response → Fin w.claims.length,
    Function.Injective f ∧ (w.served ("n-1", some 1700000000)).length = 1
  := by
  have hcounts : gateCounts = some (1, 1) := by decide +kernel
  obtain ⟨w, hrun, hw⟩ := Option.map_eq_some_iff.mp hcounts
  obtain ⟨f, hf, -⟩ := (payment_gate hrun).2.1
  exact ⟨hcounts, w, f, hf, (Prod.mk.inj hw).1⟩

end Paygate
