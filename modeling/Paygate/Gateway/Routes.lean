import Paygate.Gateway.FailClosed

/-!
# The two routes to a summary

With `CACHE_ENABLED` the handler of `POST /api/ai/summarize` comes after `CacheMiddleware`, which
reads the body before the payment is verified.  Without, the handler verifies the payment before
it reads what the body says, so that a malformed body costs the payer a nonce.
-/

namespace Paygate.Gateway

open Text Json Program

/-! ### Requests -/

/-- The request has a payment. -/
def HttpRequest.Signed (r : HttpRequest) : Prop :=
  r.signature ≠ [] ∧ r.nonce ≠ []

/-- The whole body was received, and it is no `SummarizeRequest` or has an empty text. -/
def HttpRequest.Malformed (r : HttpRequest) : Prop :=
  r.body.broken = false
    ∧ (readSummarizeRequest r.body.received = none ∨ readSummarizeRequest r.body.received = some [])

theorem HttpRequest.Signed.not_unsigned {r : HttpRequest} (h : r.Signed) :
  ¬ (r.signature = [] ∨ r.nonce = [])
  := by
  rintro (hsig | hnonce)
  · exact h.1 hsig
  · exact h.2 hnonce

/-- Without a timestamp there is none to read. -/
theorem ne_nil_of_readTimestamp {header : List UInt8} {timestamp : UInt64}
    (h : readTimestamp header = some timestamp) :
  header ≠ []
  := by
  rintro rfl
  cases h

/-! ### Malformed bodies -/

/-- The status is one for an error of the client. -/
def IsClientError (status : Nat) : Prop :=
  400 ≤ status ∧ status < 500

instance (status : Nat) : Decidable (IsClientError status) :=
  inferInstanceAs (Decidable (_ ∧ _))

/-- The calls that may be made for a request whose nonce is spared. -/
def Sparing (_ : History) : Call → Prop
  | .verify _ _ => False
  | .json status _ => IsClientError status
  | _ => True

/-- However it is handled, the request is answered with an error of the client, and the verifier
is not asked. -/
def Spared (s : Settings) (r : HttpRequest) : Prop :=
  ∀ h p, (summarize s r).Reaches h p →
    Unasked h
      ∧ (∀ status body x, ⟨.json status body, x⟩ ∈ h → IsClientError status)
      ∧ ∀ c, p = .done c → Answered h

section Spared

variable {s : Settings} {r : HttpRequest} {h : History}

/-- A program that spares the nonce. -/
abbrev Spares (h : History) (p : Prog Context) : Prop :=
  Safe Sparing (fun _ c => c.finished = true) h p

theorem sparing_json {c : Context} {code : Nat} {v : Json (List UInt8)} (hcode : IsClientError code) :
  Safe Sparing (fun _ _ => True) h (c.json code v)
  := by
  apply safe_bind
  apply safe_perform (show Sparing h (.json code _) from hcode)
  intro x
  exact safe_pure trivial

theorem sparing_respondError {c : Context} {code : Nat} {msg : String} (hcode : IsClientError code) :
  Safe Sparing (fun _ _ => True) h (respondError c code msg)
  := by
  apply safe_bind
  apply (safe_responseCorrelationID (fun _ => trivial) (p := fun _ => True) trivial
    (fun _ => trivial) c).mono
  intro h id _
  exact sparing_json hcode

theorem spares_abort {p : Prog Context} (hp : Safe Sparing (fun _ _ => True) h p) :
  Spares h (p >>= fun c => pure c.abort)
  := safe_abort (fun _ _ _ hc => hc) hp

theorem spares_correlationIDMiddleware {c : Context} {next : Context → Prog Context}
    (hnext : ∀ h id, Spares h (next { c with correlationID := some id })) :
  Spares h (correlationIDMiddleware next c)
  := by
  apply safe_correlationIDMiddleware (q := fun _ => True) (fun _ => trivial)
  · intro _ _
    trivial
  · intro _ _ _
    trivial
  · intro _ _ _ _
    trivial
  · intro h id _
    exact hnext h id
  · trivial

/-- The handler refuses a request without a timestamp or with too long a body before it asks the
verifier. -/
theorem spares_handleSummarize {c : Context} (hsigned : c.request.Signed)
    (hearly : readTimestamp c.request.timestamp = none ∨ requestBodyOf c = .error .tooLarge) :
  Spares h (runHandlers [handleSummarize s] c)
  := by
  have hhandler : Safe Sparing (fun _ _ => True) h
      (handleSummarize s (runHandlers []) c) := by
    unfold handleSummarize
    dsimp only
    rw [if_neg hsigned.not_unsigned]
    split
    · exact sparing_respondError (by decide)
    · split
      · exact sparing_respondError (by decide)
      · rename_i timestamp hts
        rcases hearly with hnone | hlarge
        · rw [hnone] at hts
          cases hts
        · rw [hlarge]
          exact sparing_json (by decide)
  exact safe_lastHandler (fun _ _ _ hc => hc) hhandler

/-- The cache refuses a malformed body. -/
theorem spares_cacheMiddleware {c : Context} {next : Context → Prog Context}
    (hredis : s.redisClient = true) (hsigned : c.request.Signed) (hmalformed : c.request.Malformed)
    (hbody : c.body = c.request.body) :
  Spares h (cacheMiddleware s next c)
  := by
  obtain ⟨hwhole, hinvalid⟩ := hmalformed
  have hlarge : Spares h (do
      perform (.header "Connection" (bytes "close"))
      let c ← respondTooLarge c
      pure c.abort) := by
    apply safe_bind
    apply safe_perform (show Sparing h (.header _ _) from trivial)
    intro x
    exact spares_abort (sparing_json (by decide))
  unfold cacheMiddleware
  rw [hredis, if_neg Bool.true_eq_false.mp, if_neg hsigned.not_unsigned]
  split
  · exact hlarge
  · split
    · exact hlarge
    · rename_i hread
      rw [hbody, RequestBody.readAll, hwhole] at hread
      split at hread
      · cases hread
      · cases hread
    · rename_i body hread
      rw [hbody] at hread
      obtain rfl := received_of_readAll hread
      rcases hinvalid with hnone | hempty
      · simp only [hnone]
        exact spares_abort (sparing_json (by decide))
      · simp only [hempty, if_true]
        exact spares_abort (sparing_json (by decide))

/-- The calls of a program that spares the nonce. -/
theorem sparing_of_reaches {p q : Prog Context} (hp : Spares [] p) (hrun : p.Reaches h q) :
  ∀ e ∈ h, Sparing h e.call
  := by
  intro e he
  obtain ⟨later, earlier, hh⟩ := List.append_of_mem he
  have hallowed := hp.allowed_of_reaches hrun hh
  exact hallowed

/-- A program that spares the nonce does not ask the verifier. -/
theorem unasked_of_spares {p q : Prog Context} (hp : Spares [] p) (hrun : p.Reaches h q) : Unasked h
  := by
  intro e he
  have he' := sparing_of_reaches hp hrun e he
  cases hc : e.call with
  | verify cid body =>
      rw [hc] at he'
      exact he'.elim
  | _ => rfl

/-- A program that spares the nonce does so in all its histories. -/
theorem spared_of_spares (hp : Spares [] (summarize s r)) : Spared s r
  := by
  intro h p hrun
  refine ⟨unasked_of_spares hp hrun, ?_, ?_⟩
  · intro status body x he
    exact sparing_of_reaches hp hrun _ he
  · intro c hc
    have hdone := (settles_summarize s r).reaches hrun
    rw [hc] at hdone
    exact hdone.1

end Spared

/-- What the first of several handlers asks is asked. -/
theorem asked_runHandlers {world : (c : Call) → Answer c} {handler : Handler}
    {handlers : List Handler} {c : Context} {h : History}
    (hasked : ∃ e ∈ (trace world (handler (runHandlers handlers) c) h).1, e.call.isVerify = true) :
  ∃ e ∈ (trace world (runHandlers (handler :: handlers) c) h).1, e.call.isVerify = true
  := by
  obtain ⟨e, he, hverify⟩ := hasked
  rw [runHandlers, trace_bind]
  exact ⟨e, subset_trace _ _ _ he, hverify⟩

/-- The handler asks the verifier about a payment with a timestamp once it has the body. -/
theorem asked_handleSummarize {s : Settings} {world : (c : Call) → Answer c}
    {handlers : List Handler} {c : Context} (hsigned : c.request.Signed) {timestamp : UInt64}
    (hts : readTimestamp c.request.timestamp = some timestamp) {body : List UInt8}
    (hbody : requestBodyOf c = .ok body) (h : History) :
  ∃ e ∈ (trace world (runHandlers (handleSummarize s :: handlers) c) h).1, e.call.isVerify = true
  := by
  apply asked_runHandlers
  unfold handleSummarize
  simp only [if_neg hsigned.not_unsigned, if_neg (ne_nil_of_readTimestamp hts), hts, hbody,
    verifyPayment, perform, trace_bind, trace_perform]
  exact ⟨_, subset_trace _ _ _ List.mem_cons_self, rfl⟩

/-- Without a cache in use, a payment with a timestamp is verified whatever the body says. -/
theorem asked_summarize {s : Settings} {r : HttpRequest} (hsigned : r.Signed)
    (hcache : ¬ (getCacheEnabled s.env = true ∧ s.redisClient = true)) {timestamp : UInt64}
    (hts : readTimestamp r.timestamp = some timestamp) {body : List UInt8}
    (hbody : r.body.readAll = .ok body) (world : (c : Call) → Answer c) :
  ∃ e ∈ (trace world (summarize s r) []).1, e.call.isVerify = true
  := by
  unfold summarize summarizeHandlers
  split
  · rename_i henabled
    have hredis : s.redisClient = false := by
      cases hr : s.redisClient with
      | false => rfl
      | true => exact absurd ⟨henabled, hr⟩ hcache
    apply asked_runHandlers
    apply trace_correlationIDMiddleware (P := fun h => ∃ e ∈ h, e.call.isVerify = true)
    intro h id
    apply asked_runHandlers
    simp only [cacheMiddleware, hredis, if_true]
    apply asked_handleSummarize
    · exact hsigned
    · exact hts
    · exact hbody
  · apply asked_runHandlers
    apply trace_correlationIDMiddleware (P := fun h => ∃ e ∈ h, e.call.isVerify = true)
    intro h id
    apply asked_handleSummarize
    · exact hsigned
    · exact hts
    · exact hbody

/-- Whether a request with a payment and a malformed body keeps its nonce: exactly if the cache
is in use, or the timestamp is missing or invalid, or the body is too long. -/
theorem spared_iff {s : Settings} {r : HttpRequest} (hsigned : r.Signed) (hmalformed : r.Malformed) :
  Spared s r
    ↔ (getCacheEnabled s.env = true ∧ s.redisClient = true)
      ∨ readTimestamp r.timestamp = none ∨ maxBodySize < r.body.received.length
  := by
  constructor
  · intro hspared
    by_contra hcond
    obtain ⟨hcache, hrest⟩ := not_or.mp hcond
    obtain ⟨hts, hlength⟩ := not_or.mp hrest
    obtain ⟨timestamp, hts⟩ := Option.ne_none_iff_exists'.mp hts
    have hbody : r.body.readAll = .ok r.body.received := by
      rw [RequestBody.readAll, if_neg hlength, hmalformed.1]
      rfl
    obtain ⟨e, he, hverify⟩ := asked_summarize hsigned hcache hts hbody cachedWorld
    have hrun := reaches_trace cachedWorld (.start (p := summarize s r))
    have hnot := (hspared _ _ hrun).1 e he
    rw [hverify] at hnot
    cases hnot
  · intro hcond
    have hearly : ∀ h id, ¬ (getCacheEnabled s.env = true ∧ s.redisClient = true) →
        Spares h (runHandlers [handleSummarize s]
          { Context.init r with correlationID := some id }) := by
      intro h id hcache
      apply spares_handleSummarize
      · exact hsigned
      · rcases hcond with hc | hts | hlength
        · exact absurd hc hcache
        · exact Or.inl hts
        · right
          exact if_pos hlength
    apply spared_of_spares
    unfold summarize summarizeHandlers
    split
    · rename_i henabled
      apply safe_runHandlers fun _ _ hc => hc
      apply spares_correlationIDMiddleware
      intro h id
      apply safe_runHandlers fun _ _ hc => hc
      cases hredis : s.redisClient with
      | true => exact spares_cacheMiddleware hredis hsigned hmalformed rfl
      | false =>
          rw [cacheMiddleware, if_pos hredis]
          apply hearly
          rintro ⟨-, hr⟩
          rw [hredis] at hr
          cases hr
    · rename_i hdisabled
      apply safe_runHandlers fun _ _ hc => hc
      apply spares_correlationIDMiddleware
      intro h id
      apply hearly
      rintro ⟨henabled, -⟩
      exact hdisabled henabled

/-- A request with a payment whose body is an opening brace. -/
def truncatedRequest : HttpRequest :=
  { paidRequest with body := { received := bytes "\x7b", broken := false } }

/-- Settings with a private key and no cache. -/
def plainSettings : Settings :=
  { cachedSettings with
    env := fun key => if key = "SERVER_WALLET_PRIVATE_KEY" then List.replicate 64 0x31 else [] }

theorem truncatedRequest_malformed : truncatedRequest.Signed ∧ truncatedRequest.Malformed
  := by
  refine ⟨⟨by decide, by decide⟩, rfl, Or.inl ?_⟩
  decide

/-- With the cache in use, the request keeps its nonce. -/
theorem spared_sample : Spared cachedSettings truncatedRequest
  := by
  obtain ⟨hsigned, hmalformed⟩ := truncatedRequest_malformed
  apply (spared_iff hsigned hmalformed).mpr
  left
  exact ⟨by decide, rfl⟩

/-- Without a cache the verifier is asked about the payment of the request. -/
theorem malformed_body_asks_verifier :
  truncatedRequest.Signed ∧ truncatedRequest.Malformed ∧ ¬ Spared plainSettings truncatedRequest
  := by
  obtain ⟨hsigned, hmalformed⟩ := truncatedRequest_malformed
  refine ⟨hsigned, hmalformed, ?_⟩
  intro hspared
  have hasked : ∃ e ∈ (trace cachedWorld (summarize plainSettings truncatedRequest) []).1,
      e.call.isVerify = true := by
    decide +kernel
  obtain ⟨e, he, hverify⟩ := hasked
  have hrun := reaches_trace cachedWorld (.start (p := summarize plainSettings truncatedRequest))
  have hnot := (hspared _ _ hrun).1 e he
  rw [hverify] at hnot
  cases hnot

/-! ### Hits of the cache -/

/-- The handlers of the route with the cache. -/
def cachedRoute (s : Settings) (r : HttpRequest) : Prog Context :=
  runHandlers [correlationIDMiddleware, cacheMiddleware s, handleSummarize s] (.init r)

/-- The handlers of the route without the cache. -/
def plainRoute (s : Settings) (r : HttpRequest) : Prog Context :=
  runHandlers [correlationIDMiddleware, handleSummarize s] (.init r)

/-- What the cache and the provider answer. -/
def knownAnswers (val result : List UInt8) : (c : Call) → Option (Answer c)
  | .cacheGet _ => some (some val)
  | .generate _ => some (.ok result)
  | _ => none

/-- The calls of a request that has been handled, with their answers, where the cache and the
provider answer as they do; the calls to these are left out. -/
def outcomes (val result : List UInt8) (p : Prog Context) : Set History :=
  { l | ∃ h c, p.Reaches h (.done c) ∧ Agrees (knownAnswers val result) h
      ∧ l = h.filter fun e => (knownAnswers val result e.call).isNone }

theorem outcomes_eq (val result : List UInt8) (p : Prog Context) :
  outcomes val result p = histories (answering (knownAnswers val result) p)
  := by
  ext l
  rw [mem_histories_answering]
  constructor
  · rintro ⟨h, c, hrun, hagrees, hl⟩
    exact ⟨h, ⟨c, hrun⟩, hagrees, hl⟩
  · rintro ⟨h, ⟨c, hrun⟩, hagrees, hl⟩
    exact ⟨h, c, hrun, hagrees, hl⟩

section Hits

variable {s : Settings} {val result : List UInt8}

/-- The context after the cache has read the body. -/
def Context.withBody (c : Context) (body : List UInt8) : Context :=
  { c with requestBody := some body, body := { received := body, broken := false } }

theorem sameCalls_json (c : Context) (body : List UInt8) (code : Nat) (v : Json (List UInt8)) :
  SameCalls (knownAnswers val result) ((c.withBody body).json code v) (c.json code v)
  := rfl

theorem sameCalls_respondError (c : Context) (body : List UInt8) (code : Nat) (msg : String) :
  SameCalls (knownAnswers val result) (respondError (c.withBody body) code msg)
    (respondError c code msg)
  := by
  have hid : responseCorrelationID (c.withBody body) = responseCorrelationID c := rfl
  unfold respondError
  rw [hid]
  apply SameCalls.bind
  intro id
  apply sameCalls_json

theorem sameCalls_respondVerifierError (c : Context) (body : List UInt8) (e : VerifyFailure) :
  SameCalls (knownAnswers val result) (respondVerifierError (c.withBody body) e)
    (respondVerifierError c e)
  := by
  unfold respondVerifierError
  split
  · apply sameCalls_respondError
  · apply sameCalls_respondError

theorem sameCalls_generateAndSendReceipt (c : Context) (body : List UInt8) (payment : PaymentContext)
    (payer requestBody aiResult : List UInt8) :
  SameCalls (knownAnswers val result)
    (generateAndSendReceipt s (c.withBody body) payment payer requestBody aiResult)
    (generateAndSendReceipt s c payment payer requestBody aiResult)
  := by
  apply SameCalls.bind
  intro made
  cases made with
  | error e => apply sameCalls_respondError
  | ok receipt =>
      apply SameCalls.bind
      intro stored
      cases stored with
      | error e => apply sameCalls_respondError
      | ok u =>
          dsimp only
          split
          · apply sameCalls_respondError
          · apply SameCalls.bind
            intro x
            apply sameCalls_json

/-- A cached result is served as the handler serves the same result of the provider. -/
theorem sameCalls_serveCached {c : Context} {next : Context → Prog Context} {body text : List UInt8}
    (hsigned : c.request.Signed) (hbody : requestBodyOf c = .ok body)
    (htext : readSummarizeRequest body = some text) (hne : text ≠ []) (cached : CachedResponse) :
  SameCalls (knownAnswers val cached.result) (serveCached s (c.withBody body) body cached)
    (handleSummarize s next c)
  := by
  have hrequest : (c.withBody body).request = c.request := rfl
  unfold serveCached handleSummarize
  dsimp only
  rw [if_neg hsigned.not_unsigned, hrequest]
  split
  · apply sameCalls_respondError
  · split
    · apply sameCalls_respondError
    · rw [hbody]
      apply SameCalls.bind
      intro verified
      rcases verified with e | ⟨resp, payment⟩
      · apply sameCalls_respondVerifierError
      · dsimp only
        split
        · apply sameCalls_respondError
        · split
          · apply sameCalls_respondError
          · rw [htext]
            dsimp only
            rw [if_neg hne]
            have hknown : knownAnswers val cached.result (.generate text)
                = some (.ok cached.result) := rfl
            apply SameCalls.symm
            rw [perform]
            apply (SameCalls.of_known hknown _).trans
            apply SameCalls.symm
            apply sameCalls_generateAndSendReceipt

/-- The handler that comes last does what it does, whether it has aborted or not. -/
theorem sameCalls_runHandlers (handler : Handler) (c : Context) :
  SameCalls (knownAnswers val result) (runHandlers [handler] c) (handler (runHandlers []) c)
  := by
  have hlast : (fun c : Context => if c.finished then pure c else runHandlers [] c)
      = fun c => (pure (if c.finished then c else c.abort) : Prog Context) := by
    funext c
    split
    · rfl
    · rfl
  rw [runHandlers, hlast]
  apply SameCalls.bind_pure

/-- A hit of the cache is served as the handler serves the same result of the provider. -/
theorem sameCalls_cacheMiddleware {c : Context} {text : List UInt8} {cached : CachedResponse}
    (hredis : s.redisClient = true) (hsigned : c.request.Signed)
    (hnone : c.requestBody = none) (hbody : c.body = c.request.body)
    (hread : c.request.body.readAll = .ok c.request.body.received)
    (hlength : ¬ (maxBodySize : Int) < c.request.contentLength)
    (htext : readSummarizeRequest c.request.body.received = some text) (hne : text ≠ [])
    (hval : readCachedResponse val = some cached) (next : Context → Prog Context) :
  SameCalls (knownAnswers val cached.result) (cacheMiddleware s next c)
    (runHandlers [handleSummarize s] c)
  := by
  have hhit : SameCalls (knownAnswers val cached.result) (cacheMiddleware s next c)
      (serveCached s (c.withBody c.request.body.received) c.request.body.received cached) := by
    unfold cacheMiddleware
    rw [hredis, if_neg Bool.true_eq_false.mp, if_neg hsigned.not_unsigned, if_neg hlength, hbody,
      hread]
    have hknown : knownAnswers val cached.result (.cacheGet (getCacheKey text (getModel s.env)))
        = some (some val) := rfl
    simp only [htext, if_neg hne, getFromCache, bind_assoc, pure_bind, perform]
    apply (SameCalls.of_known hknown _).trans
    simp only [Option.bind_some, hval]
    apply SameCalls.bind_pure
  apply hhit.trans
  apply SameCalls.trans _ (sameCalls_runHandlers _ _).symm
  apply sameCalls_serveCached hsigned _ htext hne
  rw [requestBodyOf, hnone, hbody]
  exact hread

/-- The handlers of the route with the cache leave no handler to run. -/
theorem settles_cachedRoute (s : Settings) (c : Context) {h : History} (hh : Unasked h) :
  Settles h (cacheMiddleware s (runHandlers [handleSummarize s]) c)
  := settles_cacheMiddleware (fun _ _ hh => settles_handleSummarize hh) hh

theorem runHandlers_eq {handler : Handler} {handlers : List Handler} {c : Context} {h : History}
    (hp : Settles h (handler (runHandlers handlers) c)) :
  runHandlers (handler :: handlers) c = handler (runHandlers handlers) c
  := by
  rw [runHandlers]
  apply hp.bind_eq_self
  intro h c hc
  exact if_pos hc.2

theorem unasked_nil : Unasked []
  := by
  intro e he
  cases he

theorem cachedRoute_eq (s : Settings) (r : HttpRequest) :
  cachedRoute s r
    = correlationIDMiddleware (runHandlers [cacheMiddleware s, handleSummarize s]) (.init r)
  := by
  apply runHandlers_eq
  apply settles_correlationIDMiddleware _ unasked_nil
  intro h c hh
  exact settles_runHandlers (settles_cachedRoute s c hh)

theorem plainRoute_eq (s : Settings) (r : HttpRequest) :
  plainRoute s r = correlationIDMiddleware (runHandlers [handleSummarize s]) (.init r)
  := by
  apply runHandlers_eq
  apply settles_correlationIDMiddleware _ unasked_nil
  intro h c hh
  exact settles_handleSummarize hh

/-- The two routes make the same calls where the cache has the result of the provider. -/
theorem sameCalls_routes {r : HttpRequest} {text : List UInt8} {cached : CachedResponse}
    (hredis : s.redisClient = true) (hsigned : r.Signed)
    (hread : r.body.readAll = .ok r.body.received) (hlength : ¬ (maxBodySize : Int) < r.contentLength)
    (htext : readSummarizeRequest r.body.received = some text) (hne : text ≠ [])
    (hval : readCachedResponse val = some cached) :
  SameCalls (knownAnswers val cached.result) (cachedRoute s r) (plainRoute s r)
  := by
  rw [cachedRoute_eq, plainRoute_eq]
  apply SameCalls.bind
  intro id
  apply SameCalls.bind
  intro x
  rw [runHandlers_eq (settles_cachedRoute s _ unasked_nil)]
  exact sameCalls_cacheMiddleware (c := { Context.init r with correlationID := some id }) hredis
    hsigned rfl rfl hread hlength htext hne hval _

end Hits

/-- A hit of the cache is served as the handler alone serves the same result of the provider.
For every request with a payment whose body is a `SummarizeRequest` of at most 10 MB with a text,
whatever the verifier, the receipt store, the clock and the random source answer, the two routes
make the same calls: they ask the verifier the same, at most once, store the same receipt, and
send the same receipt and the same response, or the same error. -/
theorem hit_agrees_with_handler {s : Settings} {r : HttpRequest} {text val : List UInt8}
    {cached : CachedResponse} (hredis : s.redisClient = true) (hsigned : r.Signed)
    (hwhole : r.body.broken = false)
    (hlength : r.contentLength = -1 ∨ r.contentLength = r.body.received.length)
    (hsize : r.body.received.length ≤ maxBodySize)
    (htext : readSummarizeRequest r.body.received = some text) (hne : text ≠ [])
    (hval : readCachedResponse val = some cached) :
  outcomes val cached.result (cachedRoute s r) = outcomes val cached.result (plainRoute s r)
    ∧ ∀ l ∈ outcomes val cached.result (cachedRoute s r),
        (l.filter fun e => e.call.isVerify).length ≤ 1
  := by
  have hread : r.body.readAll = .ok r.body.received := by
    rw [RequestBody.readAll, if_neg (not_lt.mpr hsize), hwhole]
    rfl
  have hlength' : ¬ (maxBodySize : Int) < r.contentLength := by
    rcases hlength with hunknown | hknown
    · rw [hunknown]
      decide
    · rw [hknown]
      exact_mod_cast not_lt.mpr hsize
  constructor
  · rw [outcomes_eq, outcomes_eq]
    exact (sameCalls_routes hredis hsigned hread hlength' htext hne hval).histories_eq
  · rintro l ⟨h, c, hrun, -, rfl⟩
    have hsettles : Settles [] (cachedRoute s r) := by
      rw [cachedRoute_eq]
      apply settles_correlationIDMiddleware _ unasked_nil
      intro h c hh
      exact settles_runHandlers (settles_cachedRoute s c hh)
    apply le_trans _ (asked_once hsettles hrun)
    exact (List.filter_sublist.filter _).length_le

/-- The cache and the provider of the sample world answer as they are known to. -/
theorem knownAnswers_cachedWorld {c : Call} {x : Answer c}
    (h : knownAnswers (GoJson.marshal (textObject [("result", bytes "short")])) (bytes "short") c
      = some x) :
  cachedWorld c = x
  := by
  cases c with
  | cacheGet key => exact Option.some.inj h
  | generate text => exact Option.some.inj h
  | _ => cases h

/-- A result that was stored is read. -/
theorem readCachedResponse_short :
  readCachedResponse (GoJson.marshal (textObject [("result", bytes "short")]))
    = some ⟨bytes "short", 0⟩
  := by
  decide +kernel

/-- The sample request, with a result in the cache and with the same result of the provider, is
answered with status 200 on both routes. -/
theorem hit_agrees_sample :
  outcomes (GoJson.marshal (textObject [("result", bytes "short")])) (bytes "short")
      (cachedRoute cachedSettings paidRequest)
    = outcomes (GoJson.marshal (textObject [("result", bytes "short")])) (bytes "short")
      (plainRoute cachedSettings paidRequest)
    ∧ ∃ l ∈ outcomes (GoJson.marshal (textObject [("result", bytes "short")])) (bytes "short")
        (plainRoute cachedSettings paidRequest), ∃ e ∈ l, ∃ body, e.call = .json 200 body
  := by
  have htext : readSummarizeRequest paidRequest.body.received = some (bytes "long") := by
    decide +kernel
  refine ⟨(hit_agrees_with_handler rfl ⟨by decide, by decide⟩ rfl (Or.inl rfl) (by decide)
    htext (by decide) readCachedResponse_short).1, ?_⟩
  have hrun := reaches_trace cachedWorld (.start (p := plainRoute cachedSettings paidRequest))
  have hhead : ∃ e ∈ (trace cachedWorld (plainRoute cachedSettings paidRequest) []).1,
      e.call = .json 200 (GoJson.marshal (textObject [("result", bytes "short")])) := by
    decide +kernel
  obtain ⟨e, he, hjson⟩ := hhead
  refine ⟨_, ⟨_, _, hrun, ?_, rfl⟩, e, ?_, _, hjson⟩
  · intro e he x hx
    have hanswer := answer_of_mem_trace (h := []) (by intro e he; cases he) e he
    rw [hanswer]
    apply knownAnswers_cachedWorld hx
  · apply List.mem_filter.mpr
    refine ⟨he, ?_⟩
    rw [hjson]
    rfl

/-! ### Bodies that are nested too deep -/

/-- Arrays nested in one another, with an empty one inside. -/
def nestedArrays : Nat → Json (List UInt8)
  | 0 => .arr []
  | n + 1 => .arr [nestedArrays n]

theorem valid_nestedArrays (n : Nat) : (nestedArrays n).Valid
  := by
  induction n with
  | zero => trivial
  | succ n ih => exact ⟨ih, trivial⟩

theorem depth_nestedArrays (n : Nat) : (nestedArrays n).depth = n + 1
  := by
  induction n with
  | zero => rfl
  | succ n ih => rw [nestedArrays, depth, depthItems, depthItems, ih, Nat.max_zero]

theorem map_nestedArrays (f : List UInt8 → List UInt8) (n : Nat) :
  (nestedArrays n).map f = nestedArrays n
  := by
  induction n with
  | zero => rfl
  | succ n ih => rw [nestedArrays, Json.map, mapItems, mapItems, ih]

theorem length_print_nestedArrays (n : Nat) :
  (utf8 ((nestedArrays n).print GoJson.quote)).length = 2 * (n + 1)
  := by
  induction n with
  | zero => rfl
  | succ n ih =>
      have hopen : (String.utf8EncodeChar '[').length = 1 := rfl
      have hclose : (utf8 [']']).length = 1 := rfl
      rw [nestedArrays, print, printItems, utf8_cons, utf8_append, List.length_append,
        List.length_append, ih, hopen, hclose]
      omega

/-- A text beside nested arrays. -/
def deepObject (n : Nat) : Json (List UInt8) :=
  .obj [(bytes "x", nestedArrays n), (bytes "text", .str (bytes "z"))]

/-- A request with a payment whose body has nested arrays beside a text. -/
def deepRequest (n : Nat) : HttpRequest :=
  { paidRequest with body := { received := GoJson.marshal (deepObject n), broken := false } }

theorem signed_deepRequest (n : Nat) : (deepRequest n).Signed
  := by
  have hpaid : paidRequest.Signed := ⟨by decide, by decide⟩
  exact hpaid

theorem value_deepObject (n : Nat) : GoJson.value (GoJson.marshal (deepObject n)) = some (deepObject n)
  := by
  have hvalid : (deepObject n).Valid := by
    simp only [deepObject, Valid, ValidMembers, valid_nestedArrays, and_self]
  have htext : ∀ t, utf8 (GoJson.unquote (GoJson.pieces (bytes t))) = bytes t := by
    intro t
    rw [bytes, GoJson.unquote_pieces_utf8]
  rw [GoJson.value_marshal hvalid]
  simp only [deepObject, Json.map, mapMembers, map_nestedArrays, htext]

/-- The text in the body is not empty. -/
theorem readTextField_deepObject (n : Nat) : readTextField "text" (deepObject n) = some (bytes "z")
  := by
  have hskip : GoJson.fieldOf ["text"] (bytes "x") = none := by
    decide
  rw [deepObject, readTextField, GoJson.readStruct, GoJson.readMembers]
  simp only [hskip]
  rw [GoJson.readMembers_cons (by decide)]
  rfl

theorem length_deepObject (n : Nat) : (GoJson.marshal (deepObject n)).length = 2 * (n + 1) + 17
  := by
  have hopen : (utf8 ('\x7b' :: (GoJson.quote (bytes "x") ++ [':']))).length = 5 := by
    decide
  have hrest : (utf8 (',' :: printMembers GoJson.quote [(bytes "text", .str (bytes "z"))])).length
      = 12 := by
    decide
  have hprint : (deepObject n).print GoJson.quote
      = ('\x7b' :: (GoJson.quote (bytes "x") ++ [':'])) ++ ((nestedArrays n).print GoJson.quote
        ++ ',' :: printMembers GoJson.quote [(bytes "text", .str (bytes "z"))]) := by
    simp [deepObject, print, printMembers]
  rw [GoJson.marshal, hprint, utf8_append, utf8_append, List.length_append, List.length_append,
    hopen, hrest, length_print_nestedArrays]
  omega

/-- As many arrays as may be read are one too many in an object. -/
theorem readSummarizeRequest_deepObject {n : Nat} (hn : GoJson.maxNestingDepth ≤ n + 1) :
  readSummarizeRequest (GoJson.marshal (deepObject n)) = none
  := by
  have hdepth : ¬ (deepObject n).depth ≤ GoJson.maxNestingDepth := by
    simp only [deepObject, depth, depthMembers, depth_nestedArrays]
    omega
  rw [readSummarizeRequest, GoJson.unmarshal_eq_filter, value_deepObject, Option.filter_some,
    if_neg (by simpa using hdepth), Option.bind_none]

/-- The cache refuses the request without the verifier. -/
theorem unasked_deepRequest {val result : List UInt8} {n : Nat} {l : History}
    (hn : GoJson.maxNestingDepth ≤ n + 1)
    (hl : l ∈ outcomes val result (cachedRoute cachedSettings (deepRequest n))) :
  Unasked l
  := by
  obtain ⟨h, c, hrun, -, rfl⟩ := hl
  have hmalformed : (deepRequest n).Malformed := ⟨rfl, Or.inl (readSummarizeRequest_deepObject hn)⟩
  have hspares : Spares [] (cachedRoute cachedSettings (deepRequest n)) := by
    apply safe_runHandlers fun _ _ hc => hc
    apply spares_correlationIDMiddleware
    intro h id
    apply safe_runHandlers fun _ _ hc => hc
    exact spares_cacheMiddleware rfl (signed_deepRequest n) hmalformed rfl
  intro e he
  exact unasked_of_spares hspares hrun e (List.mem_of_mem_filter he)

/-- The handler alone asks the verifier before it reads the body. -/
theorem asked_deepRequest {n : Nat} (hsize : (deepRequest n).body.received.length ≤ maxBodySize)
    (world : (c : Call) → Answer c) :
  ∃ e ∈ (trace world (plainRoute cachedSettings (deepRequest n)) []).1, e.call.isVerify = true
  := by
  apply asked_runHandlers
  apply trace_correlationIDMiddleware (P := fun h => ∃ e ∈ h, e.call.isVerify = true)
  intro h id
  have hts : readTimestamp paidRequest.timestamp = some 1700000000 := by
    decide
  have hread : (deepRequest n).body.readAll = .ok (deepRequest n).body.received :=
    if_neg (not_lt.mpr hsize)
  apply asked_handleSummarize (signed_deepRequest n)
  · exact hts
  · exact hread

/-- The two routes serve a body of at most 10 MB differently if it is nested too deep: only the
handler asks the verifier. -/
theorem outcomes_deepRequest_ne {n : Nat} (hn : GoJson.maxNestingDepth ≤ n + 1)
    (hsize : (deepRequest n).body.received.length ≤ maxBodySize) :
  outcomes (GoJson.marshal (textObject [("result", bytes "short")])) (bytes "short")
      (cachedRoute cachedSettings (deepRequest n))
    ≠ outcomes (GoJson.marshal (textObject [("result", bytes "short")])) (bytes "short")
      (plainRoute cachedSettings (deepRequest n))
  := by
  intro heq
  obtain ⟨e, he, hverify⟩ := asked_deepRequest hsize cachedWorld
  have hrun := reaches_trace cachedWorld (.start (p := plainRoute cachedSettings (deepRequest n)))
  have hmem : (trace cachedWorld (plainRoute cachedSettings (deepRequest n)) []).1.filter
        (fun e => (knownAnswers (GoJson.marshal (textObject [("result", bytes "short")]))
          (bytes "short") e.call).isNone)
      ∈ outcomes (GoJson.marshal (textObject [("result", bytes "short")])) (bytes "short")
        (plainRoute cachedSettings (deepRequest n)) := by
    refine ⟨_, _, hrun, ?_, rfl⟩
    intro e he x hx
    have hanswer := answer_of_mem_trace (h := []) (by intro e he; cases he) e he
    rw [hanswer]
    apply knownAnswers_cachedWorld hx
  have hkept : (knownAnswers (GoJson.marshal (textObject [("result", bytes "short")]))
      (bytes "short") e.call).isNone = true := by
    cases hc : e.call with
    | verify cid body => rfl
    | _ =>
        rw [hc] at hverify
        cases hverify
  rw [← heq] at hmem
  have hnot := unasked_deepRequest hn hmem e (List.mem_filter.mpr ⟨he, hkept⟩)
  rw [hverify] at hnot
  cases hnot

/-- The body is a JSON text of at most 10 MB with a text, but a hit of the cache is not served as
the handler alone serves the request. -/
theorem deep_body_disagrees :
  (deepRequest 9999).Signed ∧ (deepRequest 9999).body.received.length ≤ maxBodySize
    ∧ (GoJson.value (deepRequest 9999).body.received).bind (readTextField "text") = some (bytes "z")
    ∧ readCachedResponse (GoJson.marshal (textObject [("result", bytes "short")]))
        = some ⟨bytes "short", 0⟩
    ∧ outcomes (GoJson.marshal (textObject [("result", bytes "short")])) (bytes "short")
        (cachedRoute cachedSettings (deepRequest 9999))
      ≠ outcomes (GoJson.marshal (textObject [("result", bytes "short")])) (bytes "short")
        (plainRoute cachedSettings (deepRequest 9999))
  := by
  have hsize : (deepRequest 9999).body.received.length ≤ maxBodySize := by
    apply (length_deepObject 9999).trans_le
    decide
  have htext : (GoJson.value (deepRequest 9999).body.received).bind (readTextField "text")
      = some (bytes "z") := by
    rw [show (deepRequest 9999).body.received = GoJson.marshal (deepObject 9999) from rfl,
      value_deepObject, Option.bind_some, readTextField_deepObject]
  refine ⟨signed_deepRequest 9999, hsize, htext, readCachedResponse_short, ?_⟩
  · apply outcomes_deepRequest_ne _ hsize
    decide

end Paygate.Gateway
