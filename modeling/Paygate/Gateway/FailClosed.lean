import Paygate.Gateway.Integrity

/-!
# Answers of the verifier

What the handlers of `POST /api/ai/summarize` do with each answer of the verifier.  They ask it
at most once.  Unless the answer is accepted, they neither ask the provider nor issue a receipt,
and answer with an error.

An answer of status 200 is accepted if it says that the payment is valid and names an address.
So is an answer of another status that names a rejection of the payment and at the same time
says that it is valid.
-/

namespace Paygate.Gateway

open Text Json Program

/-! ### Accepted answers -/

/-- The answer says that the payment is valid and names an address. -/
def Accepted (a : VerifierAnswer) : Prop :=
  ∃ resp, readAnswer a = .ok resp ∧ resp.isValid = true ∧ resp.recoveredAddress ≠ []

/-- The answer has status 200, says that the payment is valid and names an address. -/
def Positive (a : VerifierAnswer) : Prop :=
  ∃ body deadline resp, a = .answered 200 body deadline
    ∧ (GoJson.decode body).bind readVerifyResponse = some resp
    ∧ resp.isValid = true ∧ resp.recoveredAddress ≠ []

/-- The answer has another status than 200 and names a rejection of the payment, and still says
that the payment is valid and names an address. -/
def Contradictory (a : VerifierAnswer) : Prop :=
  ∃ status body deadline resp, a = .answered status body deadline ∧ status ≠ 200
    ∧ (GoJson.unmarshal (body.take 4096)).bind readVerifyResponse = some resp
    ∧ isVerifierBusinessRejection resp = true
    ∧ resp.isValid = true ∧ resp.recoveredAddress ≠ []

/-- The handlers accept the positive answers and the contradictory ones. -/
theorem accepted_iff {a : VerifierAnswer} : Accepted a ↔ Positive a ∨ Contradictory a
  := by
  constructor
  · rintro ⟨resp, hread, hvalid, haddress⟩
    cases a with
    | failed deadline => cases hread
    | answered status body deadline =>
        simp only [readAnswer] at hread
        split at hread
        · rename_i hstatus
          right
          split at hread
          · rename_i r hr
            obtain rfl := Except.ok.inj hread
            obtain ⟨hdecode, hrejection⟩ := Option.filter_eq_some_iff.mp hr
            exact ⟨status, body, deadline, r, rfl, hstatus, hdecode, hrejection, hvalid, haddress⟩
          · cases hread
        · rename_i hstatus
          left
          split at hread
          · rename_i r hr
            obtain rfl := Except.ok.inj hread
            obtain rfl := not_not.mp hstatus
            exact ⟨body, deadline, r, rfl, hr, hvalid, haddress⟩
          · cases hread
  · rintro (⟨body, deadline, resp, rfl, hdecode, hvalid, haddress⟩
      | ⟨status, body, deadline, resp, rfl, hstatus, hdecode, hrejection, hvalid, haddress⟩)
    · refine ⟨resp, ?_, hvalid, haddress⟩
      simp only [readAnswer, ne_eq, not_true_eq_false, if_false, hdecode]
    · refine ⟨resp, ?_, hvalid, haddress⟩
      simp only [readAnswer, ne_eq, hstatus, not_false_eq_true, if_true, hdecode, Option.filter_some,
        hrejection]

/-! ### What may be done -/

/-- The call asks the verifier. -/
def Call.isVerify : Call → Bool
  | .verify _ _ => true
  | _ => false

/-- The call serves content: it asks the provider, or stores or sends a receipt. -/
def Call.serves : Call → Bool
  | .generate _ | .putReceipt _ _ _ | .setReceipt _ _ _ => true
  | c => c.isReceiptHeader

/-- The status is that of an error. -/
def IsErrorStatus (status : Nat) : Prop :=
  400 ≤ status ∧ status < 600

instance (status : Nat) : Decidable (IsErrorStatus status) :=
  inferInstanceAs (Decidable (_ ∧ _))

/-- The verifier was not asked. -/
def Unasked (h : History) : Prop :=
  ∀ e ∈ h, e.call.isVerify = false

/-- The verifier gave an accepted answer. -/
def Admitted (h : History) : Prop :=
  ∃ cid body a, ⟨.verify cid body, a⟩ ∈ h ∧ Accepted a

/-- A response was written. -/
def Answered (h : History) : Prop :=
  ∃ e ∈ h, e.call.isJson = true

/-- The calls that may be made after a history. -/
def Gate (h : History) : Call → Prop
  | .verify _ _ => Unasked h
  | .json status _ => IsErrorStatus status ∨ Admitted h
  | c => c.serves = true → Admitted h

section Rules

variable {s : Settings} {h : History} {α : Type}

theorem Admitted.cons (hh : Admitted h) (e : Event Call Answer) : Admitted (e :: h)
  := by
  obtain ⟨cid, body, a, hmem, ha⟩ := hh
  exact ⟨cid, body, a, List.mem_cons_of_mem e hmem, ha⟩

theorem Unasked.cons (hh : Unasked h) {e : Event Call Answer} (he : e.call.isVerify = false) :
  Unasked (e :: h)
  := List.forall_mem_cons.mpr ⟨he, hh⟩

/-- A call followed by the rest. -/
theorem gate_call {c : Call} {f : Answer c → Prog α} {post : History → α → Prop}
    (hc : Gate h c) (hf : ∀ x, Safe Gate post (⟨c, x⟩ :: h) (f x)) :
  Safe Gate post h (perform c >>= f)
  := safe_bind (safe_perform hc hf)

/-- A program that makes only calls it may and answers. -/
abbrev Answers (h : History) (p : Prog α) : Prop :=
  Safe Gate (fun h _ => Answered h) h p

/-- A response is written if it is an error or the payment was accepted. -/
theorem answers_json {c : Context} {code : Nat} {v : Json (List UInt8)}
    (hh : IsErrorStatus code ∨ Admitted h) :
  Answers h (c.json code v)
  := by
  apply gate_call (show Gate h (.json code _) from hh)
  intro x
  exact safe_pure ⟨_, List.mem_cons_self, rfl⟩

theorem gate_newUUID (h : History) : Gate h .newUUID
  := by
  intro hserves
  cases hserves

theorem answers_respondError {c : Context} {code : Nat} {msg : String} (hcode : IsErrorStatus code) :
  Answers h (respondError c code msg)
  := by
  apply safe_bind
  apply (safe_responseCorrelationID gate_newUUID (p := fun _ => True) trivial (fun _ => trivial) c).mono
  intro h id _
  exact answers_json (Or.inl hcode)

/-- The status for a rejected payment is one of an error. -/
theorem isErrorStatus_verifierFailureResponse (resp : VerifyResponse) :
  IsErrorStatus (verifierFailureResponse resp).1
  := by
  unfold verifierFailureResponse
  repeat' split
  all_goals decide

theorem answers_respondVerifierError {c : Context} {e : VerifyFailure} :
  Answers h (respondVerifierError c e)
  := by
  unfold respondVerifierError
  split
  · exact answers_respondError (by decide)
  · exact answers_respondError (by decide)

/-! ### Responses with a receipt -/

/-- Receipts are made and stored for an accepted payment, which stays accepted. -/
theorem gate_books {post : α → Prop} {p : Prog α} (hp : Books post h p) (hh : Admitted h) :
  Safe Gate (fun h _ => Admitted h) h p
  := by
  have hcarry : Safe Gate (fun h a => Admitted h ∧ post a) h p := by
    apply hp.carry hh
    · intro h c x hh _
      exact hh.cons _
    · intro h c hh hc
      cases c with
      | readRandom | now | contextErr | putReceipt | setReceipt => exact fun _ => hh
      | _ => cases hc
  exact hcarry.mono fun _ _ hx => hx.1

/-- A receipt is made only for an accepted payment, and then is nothing but to answer. -/
theorem answers_generateAndSendReceipt {c : Context} {payment : PaymentContext}
    {payer requestBody aiResult : List UInt8} (hh : Admitted h) :
  Answers h (generateAndSendReceipt s c payment payer requestBody aiResult)
  := by
  apply safe_bind
  apply (gate_books books_makeReceipt hh).mono
  intro h₁ made hh₁
  cases made with
  | error e => exact answers_respondError (by decide)
  | ok receipt =>
      apply safe_bind
      apply (gate_books books_storeReceiptWithContext hh₁).mono
      intro h₂ stored hh₂
      cases stored with
      | error e => exact answers_respondError (by decide)
      | ok u =>
          dsimp only
          split
          · exact answers_respondError (by decide)
          · apply gate_call (show Gate h₂ (.header _ _) from fun _ => hh₂)
            intro x
            exact answers_json (Or.inr (hh₂.cons _))

/-! ### The handlers -/

/-- The answer of the verifier, if it is accepted, admits the request. -/
theorem gate_verifyPayment {c : Context} {signature nonce : List UInt8} {timestamp : UInt64}
    (hh : Unasked h) :
  Safe Gate (fun h' x => ∀ resp payment, x = .ok (resp, payment) → resp.isValid = true →
      resp.recoveredAddress ≠ [] → Admitted h') h
    (verifyPayment s c signature nonce timestamp)
  := by
  apply gate_call (show Gate h (.verify _ _) from hh)
  intro a
  apply safe_pure
  intro resp payment hx hvalid haddress
  cases hread : readAnswer a with
  | error e =>
      rw [hread] at hx
      cases hx
  | ok resp' =>
      rw [hread] at hx
      obtain ⟨rfl, -⟩ := Prod.mk.inj (Except.ok.inj hx)
      exact ⟨_, _, a, List.mem_cons_self, resp', hread, hvalid, haddress⟩

theorem answers_serveCached {c : Context} {requestBody : List UInt8} {cached : CachedResponse}
    (hh : Unasked h) :
  Answers h (serveCached s c requestBody cached)
  := by
  unfold serveCached
  split
  · exact answers_respondError (by decide)
  · split
    · exact answers_respondError (by decide)
    · apply safe_bind
      apply (gate_verifyPayment hh).mono
      intro h' x hverified
      split
      · exact answers_respondVerifierError
      · rename_i resp payment
        split
        · exact answers_respondError (isErrorStatus_verifierFailureResponse resp)
        · rename_i hvalid
          split
          · exact answers_respondError (by decide)
          · rename_i haddress
            apply answers_generateAndSendReceipt
            exact hverified resp payment rfl (Bool.not_eq_false _ ▸ hvalid) haddress

theorem answers_handleSummarize {c : Context} {next : Context → Prog Context} (hh : Unasked h) :
  Answers h (handleSummarize s next c)
  := by
  unfold handleSummarize
  dsimp only
  split
  · apply gate_call (show Gate h .newUUID from fun hserves => by cases hserves)
    intro random
    apply gate_call (show Gate _ .now from fun hserves => by cases hserves)
    intro now
    exact answers_json (Or.inl (by decide))
  · split
    · exact answers_respondError (by decide)
    · split
      · exact answers_respondError (by decide)
      · split
        · exact answers_json (Or.inl (by decide))
        · exact answers_respondError (by decide)
        · apply safe_bind
          apply (gate_verifyPayment hh).mono
          intro h' x hverified
          split
          · exact answers_respondVerifierError
          · rename_i resp payment
            split
            · exact answers_respondError (isErrorStatus_verifierFailureResponse resp)
            · rename_i hvalid
              split
              · exact answers_respondError (by decide)
              · rename_i haddress
                have hadmitted := hverified resp payment rfl (Bool.not_eq_false _ ▸ hvalid) haddress
                split
                · exact answers_json (Or.inl (by decide))
                · split
                  · exact answers_json (Or.inl (by decide))
                  · apply gate_call (show Gate h' (.generate _) from fun _ => hadmitted)
                    intro x
                    split
                    · split
                      · exact answers_respondError (by decide)
                      · exact answers_respondError (by decide)
                    · exact answers_generateAndSendReceipt (hadmitted.cons _)

/-- A program that makes only calls it may, answers, and leaves no handler to run. -/
abbrev Settles (h : History) (p : Prog Context) : Prop :=
  Safe Gate (fun h c => Answered h ∧ c.finished = true) h p

/-- A handler that answers and aborts. -/
theorem settles_abort {p : Prog Context} (hp : Answers h p) :
  Settles h (p >>= fun c => pure c.abort)
  := safe_abort (fun _ _ => And.intro) hp

/-- After a handler that leaves none to run, none is run. -/
theorem settles_runHandlers {handler : Handler} {handlers : List Handler} {c : Context}
    (hp : Settles h (handler (runHandlers handlers) c)) :
  Settles h (runHandlers (handler :: handlers) c)
  := safe_runHandlers (fun _ _ hc => hc.2) hp

theorem settles_handleSummarize {c : Context} (hh : Unasked h) :
  Settles h (runHandlers [handleSummarize s] c)
  := safe_lastHandler (fun _ _ => And.intro) (answers_handleSummarize hh)

theorem settles_storeResult {c : Context} {key : List UInt8} (hh : Answered h)
    (hc : c.finished = true) :
  Settles h (storeResult c key)
  := by
  unfold storeResult
  split
  · apply gate_call (show Gate h (.goStoreInCache _ _) from fun hserves => by cases hserves)
    intro x
    obtain ⟨e, he, hjson⟩ := hh
    exact safe_pure ⟨⟨e, List.mem_cons_of_mem _ he, hjson⟩, hc⟩
  · exact safe_pure ⟨hh, hc⟩

theorem settles_cacheMiddleware {c : Context} {next : Context → Prog Context}
    (hnext : ∀ h c, Unasked h → Settles h (next c)) (hh : Unasked h) :
  Settles h (cacheMiddleware s next c)
  := by
  have hlarge : Settles h (do
      perform (.header "Connection" (bytes "close"))
      let c ← respondTooLarge c
      pure c.abort) := by
    apply gate_call (show Gate h (.header _ _) from fun hserves => absurd hserves (by decide))
    intro x
    exact settles_abort (answers_json (Or.inl (by decide)))
  unfold cacheMiddleware
  split
  · exact hnext h c hh
  · split
    · exact hnext h c hh
    · split
      · exact hlarge
      · split
        · exact hlarge
        · exact settles_abort (answers_respondError (by decide))
        · dsimp only
          split
          · exact settles_abort (answers_json (Or.inl (by decide)))
          · split
            · exact settles_abort (answers_json (Or.inl (by decide)))
            · apply safe_bind
              apply gate_call (show Gate h (.cacheGet _) from fun hserves => by cases hserves)
              intro val
              apply safe_pure
              split
              · exact settles_abort (answers_serveCached (hh.cons rfl))
              · apply safe_bind
                apply (hnext _ _ (hh.cons rfl)).mono
                rintro h' c' ⟨hh', hc'⟩
                exact settles_storeResult hh' hc'

theorem settles_correlationIDMiddleware {c : Context} {next : Context → Prog Context}
    (hnext : ∀ h c, Unasked h → Settles h (next c)) (hh : Unasked h) :
  Settles h (correlationIDMiddleware next c)
  := by
  apply safe_correlationIDMiddleware gate_newUUID _ _ _ (fun h id => hnext h _) hh
  · intro h id hserves
    exact absurd hserves (by simp [Call.serves, Call.isReceiptHeader])
  · intro h x hh
    exact hh.cons rfl
  · intro h id x hh
    exact hh.cons rfl

/-- The handlers of the route make only calls they may, and answer. -/
theorem settles_summarize (s : Settings) (r : HttpRequest) : Settles [] (summarize s r)
  := by
  have hnil : Unasked [] := by
    intro e he
    cases he
  unfold summarize summarizeHandlers
  split
  · apply settles_runHandlers
    apply settles_correlationIDMiddleware _ hnil
    intro h c hh
    apply settles_runHandlers
    exact settles_cacheMiddleware (fun h c hh => settles_handleSummarize hh) hh
  · apply settles_runHandlers
    apply settles_correlationIDMiddleware _ hnil
    intro h c hh
    exact settles_handleSummarize hh

end Rules

/-! ### Runs of the handlers -/

section Runs

variable {s : Settings} {r : HttpRequest} {h : History} {p : Prog Context}

/-- No program that settles a request asks the verifier twice. -/
theorem asked_once {p q : Prog Context} (hp : Settles [] p) (hrun : p.Reaches h q) :
  (h.filter fun e => e.call.isVerify).length ≤ 1
  := by
  induction hrun with
  | start => exact Nat.zero_le 1
  | @step h c k x hrun ih =>
      cases hc : c.isVerify with
      | false =>
          rw [List.filter_cons_of_neg (by simp [hc])]
          exact ih
      | true =>
          have hunasked : Unasked h := by
            have hgate := (hp.reaches hrun).1
            cases c with
            | verify cid body => exact hgate
            | _ => cases hc
          have hnone : (h.filter fun e => e.call.isVerify) = [] := by
            apply List.filter_eq_nil_iff.mpr
            intro e he
            rw [hunasked e he]
            exact Bool.false_ne_true
          rw [List.filter_cons_of_pos (by simpa using hc), hnone]
          exact le_rfl

/-- The verifier is asked at most once. -/
theorem eq_of_isVerify (hrun : (summarize s r).Reaches h p) {e e' : Event Call Answer} (he : e ∈ h)
    (he' : e' ∈ h) (hverify : e.call.isVerify = true) (hverify' : e'.call.isVerify = true) :
  e = e'
  := by
  have honce := asked_once (settles_summarize s r) hrun
  have hmem : e ∈ h.filter fun e => e.call.isVerify := List.mem_filter.mpr ⟨he, hverify⟩
  have hmem' : e' ∈ h.filter fun e => e.call.isVerify := List.mem_filter.mpr ⟨he', hverify'⟩
  generalize (h.filter fun e => e.call.isVerify) = asked at honce hmem hmem'
  rcases asked with _ | ⟨x, _ | ⟨y, asked⟩⟩
  · cases hmem
  · rw [List.mem_singleton.mp hmem, List.mem_singleton.mp hmem']
  · simp at honce

/-- What follows an answer of the verifier that is not accepted. -/
theorem not_admitted_of_answer (hrun : (summarize s r).Reaches h p) {cid : Option (List UInt8)}
    {body : List UInt8} {a : VerifierAnswer} (hmem : ⟨.verify cid body, a⟩ ∈ h)
    (ha : ¬ Accepted a) {later earlier : History} (hh : h = later ++ earlier) :
  ¬ Admitted earlier
  := by
  rintro ⟨cid', body', a', hmem', ha'⟩
  have hmem'' : ⟨.verify cid' body', a'⟩ ∈ h := by
    rw [hh]
    exact List.mem_append_right later hmem'
  cases eq_of_isVerify hrun hmem hmem'' rfl rfl
  exact ha ha'

end Runs

/-- Every answer of the verifier but a positive one makes the handlers answer with an error,
without asking the provider or issuing a receipt. -/
def FailsClosed (s : Settings) (a : VerifierAnswer) : Prop :=
  ¬ Positive a → ∀ r h p cid body, (summarize s r).Reaches h p → ⟨.verify cid body, a⟩ ∈ h →
    (∀ e ∈ h, e.call.serves = false)
      ∧ (∀ status respBody x, ⟨.json status respBody, x⟩ ∈ h → IsErrorStatus status)
      ∧ ∀ c, p = .done c → Answered h

/-- The handlers fail closed on an answer they do not accept. -/
theorem failsClosed_of_not_accepted {s : Settings} {a : VerifierAnswer} (ha : ¬ Accepted a) :
  FailsClosed s a
  := by
  intro _ r h p cid body hrun hmem
  have hgate : ∀ e ∈ h, ∃ later earlier, h = later ++ e :: earlier ∧ Gate earlier e.call
      ∧ ¬ Admitted earlier := by
    intro e he
    obtain ⟨later, earlier, hh⟩ := List.append_of_mem he
    refine ⟨later, earlier, hh, (settles_summarize s r).allowed_of_reaches hrun hh, ?_⟩
    have hh' : h = (later ++ [e]) ++ earlier := by
      rw [hh, List.append_assoc]
      rfl
    exact not_admitted_of_answer hrun hmem ha hh'
  refine ⟨?_, ?_, ?_⟩
  · intro e he
    obtain ⟨later, earlier, -, hgate, hnot⟩ := hgate e he
    cases hserves : e.call.serves with
    | false => rfl
    | true =>
        exfalso
        apply hnot
        cases hc : e.call with
        | verify cid body =>
            rw [hc] at hserves
            cases hserves
        | json status body =>
            rw [hc] at hserves
            cases hserves
        | _ =>
            rw [hc] at hgate hserves
            exact hgate hserves
  · intro status respBody x he
    obtain ⟨later, earlier, -, hgate, hnot⟩ := hgate _ he
    rcases hgate with herror | hadmitted
    · exact herror
    · exact absurd hadmitted hnot
  · intro c hp
    have hdone := (settles_summarize s r).reaches hrun
    rw [hp] at hdone
    exact hdone.1

/-! ### Contradictory answers -/

/-- A world in which the verifier gives the answer, nothing is cached, and the provider fails. -/
def answeringWorld (a : VerifierAnswer) : (c : Call) → Answer c
  | .verify _ _ => a
  | .cacheGet _ => none
  | .generate _ => .error { deadline := false }
  | c => cachedWorld c

/-- The verifier gave the answer, and the provider was asked. -/
def AskedBoth (a : VerifierAnswer) (h : History) : Prop :=
  (∃ cid body, ⟨.verify cid body, a⟩ ∈ h) ∧ ∃ e ∈ h, e.call.serves = true

theorem AskedBoth.mono {a : VerifierAnswer} {h h' : History} (hh : AskedBoth a h) (hsub : h ⊆ h') :
  AskedBoth a h'
  := by
  obtain ⟨⟨cid, body, hmem⟩, e, he, hserves⟩ := hh
  exact ⟨⟨cid, body, hsub hmem⟩, e, hsub he, hserves⟩

/-- After an accepted answer the handler asks the provider. -/
theorem askedBoth_handleSummarize {s : Settings} {a : VerifierAnswer} (ha : Accepted a)
    {next : Context → Prog Context} {c : Context} (hc : c.request = paidRequest)
    (hbody : requestBodyOf c = .ok paidRequest.body.received) (h : History) :
  AskedBoth a (trace (answeringWorld a) (handleSummarize s next c) h).1
  := by
  obtain ⟨resp, hread, hvalid, haddress⟩ := ha
  have hsigned : ¬ (paidRequest.signature = [] ∨ paidRequest.nonce = []) := by decide
  have htimestamp : paidRequest.timestamp ≠ [] := by decide
  have hts : readTimestamp paidRequest.timestamp = some 1700000000 := by decide
  have htext : readSummarizeRequest paidRequest.body.received = some (bytes "long") := by
    decide +kernel
  have hlong : bytes "long" ≠ [] := by decide
  have hhistory : (trace (answeringWorld a) (handleSummarize s next c) h).1
      = (trace (answeringWorld a) (respondError c 502 "upstream_unavailable")
          (⟨.generate (bytes "long"), .error { deadline := false }⟩
            :: ⟨.verify c.correlationID
              (verifyRequest s.env c.request.signature c.request.nonce 1700000000).body, a⟩
            :: h)).1 := by
    rw [← hc] at hsigned htimestamp hts
    simp only [handleSummarize, if_neg hsigned, if_neg htimestamp, hts, hbody, verifyPayment,
      perform, trace_bind, trace_perform, trace_pure, answeringWorld, hread, Except.map, hvalid,
      Bool.true_eq_false, if_false, haddress, htext, hlong, Bool.false_eq_true]
  rw [hhistory]
  apply AskedBoth.mono _ (subset_trace _ _ _)
  refine ⟨⟨_, _, List.mem_cons_of_mem _ List.mem_cons_self⟩, _, List.mem_cons_self, rfl⟩

/-- What the next handler does is done after a correlation id was given. -/
theorem trace_correlationIDMiddleware {world : (c : Call) → Answer c} {next : Context → Prog Context}
    {c : Context} {P : History → Prop}
    (hnext : ∀ h id, P (trace world (next { c with correlationID := some id }) h).1) (h : History) :
  P (trace world (correlationIDMiddleware next c) h).1
  := by
  simp only [correlationIDMiddleware, perform, trace_bind]
  apply hnext

/-- After an accepted answer to the sample request the provider is asked, on every route. -/
theorem askedBoth_summarize (s : Settings) {a : VerifierAnswer} (ha : Accepted a) :
  AskedBoth a (trace (answeringWorld a) (summarize s paidRequest) []).1
  := by
  have hrun : ∀ {handler : Handler} {handlers : List Handler} {c : Context} {h : History},
      AskedBoth a (trace (answeringWorld a) (handler (runHandlers handlers) c) h).1 →
      AskedBoth a (trace (answeringWorld a) (runHandlers (handler :: handlers) c) h).1 := by
    intro handler handlers c h hh
    rw [runHandlers, trace_bind]
    exact hh.mono (subset_trace _ _ _)
  have hread : paidRequest.body.readAll = .ok paidRequest.body.received := by decide
  have hsigned : ¬ (paidRequest.signature = [] ∨ paidRequest.nonce = []) := by decide
  have hlength : ¬ (maxBodySize : Int) < paidRequest.contentLength := by decide
  have htext : readSummarizeRequest paidRequest.body.received = some (bytes "long") := by
    decide +kernel
  have hlong : bytes "long" ≠ [] := by decide
  unfold summarize summarizeHandlers
  split
  · apply hrun
    apply trace_correlationIDMiddleware
    intro h id
    apply hrun
    cases hredis : s.redisClient with
    | false =>
        simp only [cacheMiddleware, hredis, if_true]
        apply hrun
        apply askedBoth_handleSummarize ha
        · rfl
        · exact hread
    | true =>
        simp only [cacheMiddleware, hredis, Bool.true_eq_false, if_false, Context.init,
          if_neg hsigned, if_neg hlength, hread, htext, if_neg hlong, getFromCache, perform,
          trace_bind, trace_perform, trace_pure, answeringWorld, Option.bind_none]
        apply AskedBoth.mono _ (subset_trace _ _ _)
        apply hrun
        exact askedBoth_handleSummarize ha rfl rfl _
  · apply hrun
    apply trace_correlationIDMiddleware
    intro h id
    apply hrun
    apply askedBoth_handleSummarize ha
    · rfl
    · exact hread

theorem Contradictory.not_positive {a : VerifierAnswer} (h : Contradictory a) : ¬ Positive a
  := by
  rintro ⟨body, deadline, resp, rfl, -⟩
  obtain ⟨status, body', deadline', resp', heq, hstatus, -⟩ := h
  injection heq with hstatus'
  exact hstatus hstatus'.symm

/-- On a contradictory answer the handlers do not fail closed. -/
theorem Contradictory.not_failsClosed (s : Settings) {a : VerifierAnswer} (h : Contradictory a) :
  ¬ FailsClosed s a
  := by
  intro hclosed
  obtain ⟨⟨cid, body, hmem⟩, e, he, hserves⟩ :=
    askedBoth_summarize s (accepted_iff.mpr (Or.inr h))
  have hrun := reaches_trace (answeringWorld a) (.start (p := summarize s paidRequest))
  have hfalse := (hclosed h.not_positive _ _ _ _ _ hrun hmem).1 e he
  rw [hserves] at hfalse
  cases hfalse

/-- The handlers fail closed on exactly the answers that are not contradictory: an answer of a
status other than 200 that names a rejection of the payment, says that the payment is valid and
names an address is served. -/
theorem failsClosed_iff (s : Settings) (a : VerifierAnswer) :
  FailsClosed s a ↔ ¬ Contradictory a
  := by
  constructor
  · intro hclosed hcontradictory
    exact hcontradictory.not_failsClosed s hclosed
  · intro hnot
    by_cases hpositive : Positive a
    · intro h
      exact absurd hpositive h
    · apply failsClosed_of_not_accepted
      rw [accepted_iff]
      rintro (hp | hc)
      · exact hpositive hp
      · exact hnot hc

/-- An answer of status 409 that names a replayed nonce and says that the payment is valid. -/
def contradictoryAnswer : VerifierAnswer :=
  .answered 409 (GoJson.marshal (.obj [(bytes "is_valid", .bool true),
    (bytes "recovered_address", .str (bytes "0x12")),
    (bytes "error_code", .str (bytes "nonce_already_used"))])) false

/-- The answer is not positive, and content is served after it. -/
theorem contradictory_answer_served :
  ¬ Positive contradictoryAnswer ∧ ¬ FailsClosed cachedSettings contradictoryAnswer
  := by
  have hcontradictory : Contradictory contradictoryAnswer := by
    refine ⟨409, _, false, ⟨true, bytes "0x12", [], bytes "nonce_already_used"⟩, rfl, by decide,
      by decide +kernel, by decide, rfl, by decide⟩
  exact ⟨hcontradictory.not_positive, hcontradictory.not_failsClosed cachedSettings⟩

end Paygate.Gateway
