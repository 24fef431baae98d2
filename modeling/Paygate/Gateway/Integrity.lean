import Paygate.Gateway.Summarize

/-!
# Receipts of summaries

What the handlers of `POST /api/ai/summarize` may do after what they have done: they ask
the provider and answer with status 200 only after an accepted payment, and they send a
receipt only after it was made for this request and stored.
-/

namespace Paygate.Gateway

open Text Json Program

/-! ### What may be done -/

/-- The verifier accepted the payment the headers of the request name. -/
structure Paid (s : Settings) (r : HttpRequest) (timestamp : UInt64) (resp : VerifyResponse)
    (h : History) : Prop where
  timestamp_eq : readTimestamp r.timestamp = some timestamp
  verified : ∃ cid answer,
    ⟨.verify cid (verifyRequest s.env r.signature r.nonce timestamp).body, answer⟩ ∈ h
      ∧ readAnswer answer = .ok resp
  isValid : resp.isValid = true
  recoveredAddress : resp.recoveredAddress ≠ []

/-- The signature is that of the key of the server, over the hash of the JSON of the
receipt. -/
def SignedByServer (s : Settings) (signed : SignedReceipt) : Prop :=
  ∃ key v sig, getServerPrivateKey s.crypto s.env = .ok key ∧ signed.receipt.json = some v
    ∧ s.crypto.sign (s.crypto.keccak256 (GoJson.marshal v)) key = .ok sig
    ∧ signed.signature = bytes "0x" ++ utf8 (hexEncode sig.toList)
    ∧ signed.serverPublicKey
        = bytes "0x" ++ utf8 (hexEncode (s.crypto.publicKeyBytes key).toList)

/-- The receipt is one for the request, its payment and the body of the response. -/
structure IsReceipt (s : Settings) (r : HttpRequest) (payment : PaymentContext)
    (payer body : List UInt8) (signed : SignedReceipt) : Prop where
  requestHash : signed.receipt.service.requestHash = hashData r.body.received
  responseHash : signed.receipt.service.responseHash = hashData body
  endpoint : signed.receipt.service.endpoint = r.path
  nonce : signed.receipt.payment.nonce = r.nonce
  recipient : signed.receipt.payment.recipient = payment.recipient
  amount : signed.receipt.payment.amount = payment.amount
  token : signed.receipt.payment.token = payment.token
  chainId : signed.receipt.payment.chainId = payment.chainId
  payer : signed.receipt.payment.payer = payer
  id : isValidReceiptID signed.receipt.id = true
  signature : SignedByServer s signed

/-- The receipt was put into the active store. -/
def Stored (s : Settings) (signed : SignedReceipt) (h : History) : Prop :=
  match s.receiptStore with
  | .memory => ∃ expiresAt, ⟨.putReceipt signed.receipt.id signed expiresAt, ()⟩ ∈ h
  | .redis => ∃ v ttl, signed.json = some v
      ∧ ⟨.setReceipt (redisReceiptKey signed.receipt.id) (GoJson.marshal v) ttl, .ok ()⟩ ∈ h

/-- The event shows that a receipt could not be made or stored. -/
def Failure : Event Call Answer → Prop
  | ⟨.readRandom, x⟩ => x = none
  | ⟨.contextErr, x⟩ => x.isSome = true
  | ⟨.setReceipt _ _ _, x⟩ => x ≠ .ok ()
  | _ => False

/-- The receipt was made of the request and the body, and stored, and nothing failed. -/
structure Issued (s : Settings) (r : HttpRequest) (body : List UInt8) (signed : SignedReceipt)
    (h : History) : Prop where
  receipt : ∃ timestamp resp, Paid s r timestamp resp h
    ∧ IsReceipt s r (verifyRequest s.env r.signature r.nonce timestamp).context
        resp.recoveredAddress body signed
    ∧ ∃ random now, ⟨.readRandom, some random⟩ ∈ h ∧ ⟨.now, now⟩ ∈ h
      ∧ generateReceipt s.crypto s.env (some random) now
          (verifyRequest s.env r.signature r.nonce timestamp).context resp.recoveredAddress r.path
          r.body.received body = .ok signed
  stored : Stored s signed h
  noFailure : ∀ e ∈ h, ¬ Failure e

/-- The call writes the response. -/
def Call.isJson : Call → Bool
  | .json _ _ => true
  | _ => false

/-- The call sends a receipt. -/
def Call.isReceiptHeader : Call → Bool
  | .header name _ => name = "X-402-Receipt"
  | _ => false

/-- No response has been written. -/
def Unanswered (h : History) : Prop :=
  ∀ e ∈ h, e.call.isJson = false

/-- Neither a response nor a receipt has been sent. -/
def Unsent (h : History) : Prop :=
  Unanswered h ∧ ∀ e ∈ h, e.call.isReceiptHeader = false

/-- The calls that come before those for the receipt and the response. -/
def Call.early : Call → Bool
  | .cacheGet _ | .verify _ _ | .generate _ | .newUUID | .now => true
  | .header name _ => name ≠ "X-402-Receipt"
  | _ => false

/-- Neither a receipt nor a response has been tried. -/
def Early (h : History) : Prop :=
  ∀ e ∈ h, e.call.early = true

/-- The calls that may be made for a request after a history. -/
def Allowed (s : Settings) (r : HttpRequest) (h : History) : Call → Prop
  | .json status body =>
      Unanswered h ∧ (status = 200 → ∃ signed value, Issued s r body signed h
        ∧ receiptHeader signed = some value ∧ ⟨.header "X-402-Receipt" (utf8 value), ()⟩ ∈ h)
  | .header name value =>
      name = "X-402-Receipt" → Unsent h ∧ ∃ signed body value', Issued s r body signed h
        ∧ receiptHeader signed = some value' ∧ value = utf8 value'
  | .generate _ => ∃ timestamp resp, Paid s r timestamp resp h
  | .readRandom => Early h
  | .contextErr | .setReceipt _ _ _ => Unsent h
  | _ => True

/-! ### Early histories -/

theorem early_cons {h : History} (hh : Early h) {e : Event Call Answer}
    (he : e.call.early = true) :
  Early (e :: h)
  := List.forall_mem_cons.mpr ⟨he, hh⟩

theorem Early.unsent {h : History} (hh : Early h) : Unsent h
  := by
  constructor
  · intro e he
    have hearly := hh e he
    cases hc : e.call with
    | json status body =>
        rw [hc] at hearly
        cases hearly
    | _ => rfl
  · intro e he
    have hearly := hh e he
    cases hc : e.call with
    | header name value =>
        rw [hc] at hearly
        simpa [Call.early, Call.isReceiptHeader] using hearly
    | _ => rfl

theorem Early.noFailure {h : History} (hh : Early h) : ∀ e ∈ h, ¬ Failure e
  := by
  intro e he hfail
  have hearly := hh e he
  obtain ⟨c, x⟩ := e
  cases c with
  | readRandom => cases hearly
  | contextErr => cases hearly
  | setReceipt key data ttl => cases hearly
  | _ => exact hfail

/-! ### Correlation ids -/

section CorrelationIDs

variable {allowed : History → Call → Prop} {h : History} {p : History → Prop}

/-- A correlation id is made with at most a fresh one. -/
theorem safe_safeCorrelationID (huuid : ∀ h, allowed h .newUUID) (hh : p h)
    (hp : ∀ x, p (⟨.newUUID, x⟩ :: h)) (id : List UInt8) :
  Safe allowed (fun h _ => p h) h (safeCorrelationID id)
  := by
  unfold safeCorrelationID
  split
  · exact safe_pure hh
  · apply safe_bind
    apply safe_perform (huuid h)
    intro x
    exact safe_pure (hp x)

/-- So is the one of a response. -/
theorem safe_responseCorrelationID (huuid : ∀ h, allowed h .newUUID) (hh : p h)
    (hp : ∀ x, p (⟨.newUUID, x⟩ :: h)) (c : Context) :
  Safe allowed (fun h _ => p h) h (responseCorrelationID c)
  := by
  unfold responseCorrelationID
  split
  · exact safe_safeCorrelationID huuid hh hp _
  · split
    · exact safe_safeCorrelationID huuid hh hp _
    · exact safe_pure hh

end CorrelationIDs

/-! ### Chains of handlers -/

section Chains

variable {allowed : History → Call → Prop} {h : History} {post : History → Context → Prop}

/-- After a handler that leaves none to run, none is run. -/
theorem safe_runHandlers (hpost : ∀ h c, post h c → c.finished = true) {handler : Handler}
    {handlers : List Handler} {c : Context}
    (hp : Safe allowed post h (handler (runHandlers handlers) c)) :
  Safe allowed post h (runHandlers (handler :: handlers) c)
  := by
  apply safe_bind
  apply hp.mono
  intro h' c' hc'
  rw [if_pos (hpost h' c' hc')]
  exact safe_pure hc'

/-- After the last handler there is none to run. -/
theorem safe_lastHandler {q : History → Prop} (hpost : ∀ h c, q h → c.finished = true → post h c)
    {handler : Handler} {c : Context}
    (hp : Safe allowed (fun h _ => q h) h (handler (runHandlers []) c)) :
  Safe allowed post h (runHandlers [handler] c)
  := by
  apply safe_bind
  apply hp.mono
  intro h' c' hq
  split
  · rename_i hfinished
    exact safe_pure (hpost h' c' hq hfinished)
  · exact safe_pure (hpost h' c'.abort hq rfl)

/-- Nor is there after a handler that aborts. -/
theorem safe_abort {q : History → Prop} (hpost : ∀ h c, q h → c.finished = true → post h c)
    {p : Prog Context} (hp : Safe allowed (fun h _ => q h) h p) :
  Safe allowed post h (p >>= fun c => pure c.abort)
  := by
  apply safe_bind
  apply hp.mono
  intro h' c' hq
  exact safe_pure (hpost h' c'.abort hq rfl)

/-- The correlation id is made and sent before the next handlers are run. -/
theorem safe_correlationIDMiddleware {q : History → Prop} (huuid : ∀ h, allowed h .newUUID)
    (hheader : ∀ h id, allowed h (.header "X-Correlation-ID" id))
    (hfresh : ∀ h x, q h → q (⟨.newUUID, x⟩ :: h))
    (hsent : ∀ h id x, q h → q (⟨.header "X-Correlation-ID" id, x⟩ :: h))
    {c : Context} {next : Context → Prog Context}
    (hnext : ∀ h id, q h → Safe allowed post h (next { c with correlationID := some id }))
    (hh : q h) :
  Safe allowed post h (correlationIDMiddleware next c)
  := by
  apply safe_bind
  apply (safe_safeCorrelationID huuid hh (fun x => hfresh h x hh) _).mono
  intro h' id hh'
  apply safe_bind
  apply safe_perform (hheader h' id)
  intro x
  exact hnext _ id (hsent h' id x hh')

end Chains

/-! ### Making and storing receipts -/

section Bookkeeping

variable {s : Settings} {h : History}

/-- The calls that make and store a receipt. -/
def Call.books : Call → Bool
  | .readRandom | .now | .contextErr | .putReceipt _ _ _ | .setReceipt _ _ _ => true
  | _ => false

/-- The program makes no other calls, and its result is right. -/
abbrev Books {α : Type} (post : α → Prop) (h : History) (p : Prog α) : Prop :=
  Safe (fun _ c => c.books = true) (fun _ => post) h p

theorem books_call {α : Type} {post : α → Prop} {c : Call} {f : Answer c → Prog α}
    (hc : c.books = true) (hf : ∀ x, Books post (⟨c, x⟩ :: h) (f x)) :
  Books post h (perform c >>= f)
  := safe_bind (safe_perform hc hf)

/-- A receipt is made with random bytes and the clock only, and was generated. -/
theorem books_makeReceipt {payment : PaymentContext} {payer endpoint reqBody respBody : List UInt8} :
  Books (fun x => ∀ signed, x = .ok signed → ∃ random now,
      generateReceipt s.crypto s.env (some random) now payment payer endpoint reqBody respBody
        = .ok signed) h
    (makeReceipt s payment payer endpoint reqBody respBody)
  := by
  apply books_call rfl
  intro random
  cases random with
  | none => exact safe_pure fun signed hok => by cases hok
  | some b =>
      apply books_call rfl
      intro now
      exact safe_pure fun signed hok => ⟨b, now, hok⟩

theorem validateReceipt_of_checkStore {signed : SignedReceipt} {ttl : Int}
    (h : checkStore signed ttl = .ok ()) :
  validateReceipt signed = .ok ()
  := by
  cases hvalid : validateReceipt signed with
  | error e =>
      rw [checkStore, hvalid] at h
      cases h
  | ok u => rfl

/-- A receipt is stored with calls of the store only, and only if it is valid. -/
theorem books_storeReceiptWithContext {signed : SignedReceipt} {ttl : Int} :
  Books (fun x => x = .ok () → validateReceipt signed = .ok ()) h
    (storeReceiptWithContext s signed ttl)
  := by
  unfold storeReceiptWithContext
  split
  · apply books_call rfl
    intro err
    cases err with
    | some e => exact safe_pure fun hok => by cases hok
    | none =>
        dsimp only
        split
        · exact safe_pure fun hok => by cases hok
        · rename_i hcheck
          apply books_call rfl
          intro now
          apply books_call rfl
          intro x
          exact safe_pure fun _ => validateReceipt_of_checkStore hcheck
  · unfold storeInRedis
    split
    · exact safe_pure fun hok => by cases hok
    · rename_i hcheck
      split
      · exact safe_pure fun hok => by cases hok
      · exact ⟨rfl, fun _ _ => validateReceipt_of_checkStore hcheck⟩

end Bookkeeping

/-! ### Responses without a receipt -/

section Rules

variable {s : Settings} {r : HttpRequest} {h : History} {α β : Type}

/-- A handler makes allowed calls only. -/
abbrev Obeys (s : Settings) (r : HttpRequest) (h : History) (p : Prog α) : Prop :=
  Safe (Allowed s r) (fun _ _ => True) h p

/-- A call followed by the rest. -/
theorem safe_call {c : Call} {f : Answer c → Prog α} {post : History → α → Prop}
    (hc : Allowed s r h c) (hf : ∀ x, Safe (Allowed s r) post (⟨c, x⟩ :: h) (f x)) :
  Safe (Allowed s r) post h (perform c >>= f)
  := safe_bind (safe_perform hc hf)

/-- A handler that obeys whose result does not matter. -/
theorem Obeys.bind {p : Prog α} {f : α → Prog β} {post : History → β → Prop}
    (hp : Obeys s r h p) (hf : ∀ h a, Safe (Allowed s r) post h (f a)) :
  Safe (Allowed s r) post h (p >>= f)
  := safe_bind (hp.mono fun h a _ => hf h a)

/-- A response with another status than 200 may be written once. -/
theorem obeys_json {c : Context} {code : Nat} {v : Json (List UInt8)} (hh : Unanswered h)
    (hcode : code ≠ 200) :
  Obeys s r h (c.json code v)
  := by
  apply safe_call
  · exact ⟨hh, fun h200 => absurd h200 hcode⟩
  · intro x
    exact safe_pure trivial

theorem unanswered_cons (hh : Unanswered h) {e : Event Call Answer} (he : e.call.isJson = false) :
  Unanswered (e :: h)
  := List.forall_mem_cons.mpr ⟨he, hh⟩

theorem unsent_cons (hh : Unsent h) {e : Event Call Answer} (hjson : e.call.isJson = false)
    (hheader : e.call.isReceiptHeader = false) :
  Unsent (e :: h)
  := ⟨unanswered_cons hh.1 hjson, List.forall_mem_cons.mpr ⟨hheader, hh.2⟩⟩

theorem obeys_respondError {c : Context} {code : Nat} {msg : String} (hh : Unanswered h)
    (hcode : code ≠ 200) :
  Obeys s r h (respondError c code msg)
  := by
  apply safe_bind
  apply (safe_responseCorrelationID (fun _ => trivial) hh (fun _ => unanswered_cons hh rfl) c).mono
  intro h id hh
  exact obeys_json hh hcode

theorem obeys_respondVerificationFailure {c : Context} {resp : VerifyResponse} (hh : Unanswered h) :
  Obeys s r h (respondVerificationFailure c resp)
  := obeys_respondError hh (verifierFailureResponse_ne resp)

theorem obeys_respondVerifierError {c : Context} {e : VerifyFailure} (hh : Unanswered h) :
  Obeys s r h (respondVerifierError c e)
  := by
  unfold respondVerifierError
  split
  · exact obeys_respondError hh (by decide)
  · exact obeys_respondError hh (by decide)

theorem obeys_respondTooLarge {c : Context} (hh : Unanswered h) : Obeys s r h (respondTooLarge c)
  := obeys_json hh (by decide)

/-! ### Responses with a receipt -/

theorem Paid.mono {timestamp : UInt64} {resp : VerifyResponse} {h' : History}
    (hpaid : Paid s r timestamp resp h) (hsub : h ⊆ h') :
  Paid s r timestamp resp h'
  := by
  obtain ⟨cid, answer, hmem, hread⟩ := hpaid.verified
  exact ⟨hpaid.timestamp_eq, ⟨cid, answer, hsub hmem, hread⟩, hpaid.isValid,
    hpaid.recoveredAddress⟩

/-- A receipt that was generated is one for the request. -/
theorem isReceipt_of_generateReceipt {random : Option (Vector UInt8 6)} {now : Time}
    {signature : List UInt8} {timestamp : UInt64} {payer body : List UInt8} {signed : SignedReceipt}
    (hgen : generateReceipt s.crypto s.env random now
      (verifyRequest s.env signature r.nonce timestamp).context payer r.path r.body.received body
        = .ok signed) :
  IsReceipt s r (verifyRequest s.env signature r.nonce timestamp).context payer body signed
  := by
  obtain ⟨b, -, hsign⟩ := generateReceipt_eq_ok hgen
  obtain ⟨key, v, sig, hkey, hv, hsig, rfl⟩ := signReceipt_eq_ok hsign
  constructor
  case id => exact isValidReceiptID_generated b
  case signature => exact ⟨key, v, sig, hkey, hv, hsig, rfl, rfl⟩
  all_goals rfl

/-- What is known of a receipt once it is made. -/
theorem safe_makeReceipt {payment : PaymentContext} {payer endpoint reqBody respBody : List UInt8}
    (hh : Early h) :
  Safe (Allowed s r) (fun h' x => Unsent h' ∧ ∀ signed, x = .ok signed →
      h ⊆ h' ∧ (∀ e ∈ h', ¬ Failure e)
        ∧ ∃ random now, ⟨.readRandom, some random⟩ ∈ h' ∧ ⟨.now, now⟩ ∈ h'
          ∧ generateReceipt s.crypto s.env (some random) now payment payer endpoint reqBody respBody
            = .ok signed) h
    (makeReceipt s payment payer endpoint reqBody respBody)
  := by
  have hsent := hh.unsent
  apply safe_call (show Allowed s r h .readRandom from hh)
  intro random
  cases random with
  | none =>
      apply safe_pure
      refine ⟨unsent_cons hsent rfl rfl, ?_⟩
      intro signed hsigned
      cases hsigned
  | some random =>
      apply safe_call (show Allowed s r _ .now from trivial)
      intro now
      apply safe_pure
      refine ⟨unsent_cons (unsent_cons hsent rfl rfl) rfl rfl, ?_⟩
      intro signed hsigned
      refine ⟨fun e he => List.mem_cons_of_mem _ (List.mem_cons_of_mem _ he), ?_, random, now,
        List.mem_cons_of_mem _ List.mem_cons_self, List.mem_cons_self, hsigned⟩
      refine List.forall_mem_cons.mpr ⟨id, List.forall_mem_cons.mpr ⟨?_, hh.noFailure⟩⟩
      intro hfail
      cases hfail

/-- What is known once a receipt was to be stored. -/
def AfterStore (s : Settings) (signed : SignedReceipt) (h h' : History) (x : Except String Unit) :
    Prop :=
  Unanswered h' ∧ (x = .ok () →
    h ⊆ h' ∧ Unsent h' ∧ (∀ e ∈ h', ¬ Failure e) ∧ Stored s signed h')

theorem safe_storeInMemory (hmode : s.receiptStore = .memory) {signed : SignedReceipt} {ttl : Int}
    (hh : Unsent h) (hfail : ∀ e ∈ h, ¬ Failure e) :
  Safe (Allowed s r) (AfterStore s signed h) h (storeInMemory signed ttl)
  := by
  apply safe_call (show Allowed s r h .contextErr from hh)
  intro err
  have hh' := unsent_cons hh (e := ⟨.contextErr, err⟩) rfl rfl
  cases err with
  | some e => exact safe_pure ⟨hh'.1, fun hok => by cases hok⟩
  | none =>
      dsimp only
      split
      · exact safe_pure ⟨hh'.1, fun hok => by cases hok⟩
      · apply safe_call (show Allowed s r _ .now from trivial)
        intro now
        apply safe_call (show Allowed s r _ (.putReceipt _ _ _) from trivial)
        intro x
        apply safe_pure
        have hsent := unsent_cons (unsent_cons hh' (e := ⟨.now, now⟩) rfl rfl)
          (e := ⟨.putReceipt signed.receipt.id signed (now.unixNano + ttl), x⟩) rfl rfl
        refine ⟨hsent.1, fun _ => ⟨?_, hsent, ?_, ?_⟩⟩
        · intro e he
          exact List.mem_cons_of_mem _ (List.mem_cons_of_mem _ (List.mem_cons_of_mem _ he))
        · refine List.forall_mem_cons.mpr ⟨id, List.forall_mem_cons.mpr ⟨id,
            List.forall_mem_cons.mpr ⟨?_, hfail⟩⟩⟩
          intro hsome
          cases hsome
        · rw [Stored, hmode]
          exact ⟨_, List.mem_cons_self⟩

theorem safe_storeInRedis (hmode : s.receiptStore = .redis) {signed : SignedReceipt} {ttl : Int}
    (hh : Unsent h) (hfail : ∀ e ∈ h, ¬ Failure e) :
  Safe (Allowed s r) (AfterStore s signed h) h (storeInRedis signed ttl)
  := by
  unfold storeInRedis
  split
  · exact safe_pure ⟨hh.1, fun hok => by cases hok⟩
  · split
    · exact safe_pure ⟨hh.1, fun hok => by cases hok⟩
    · rename_i v hv
      apply safe_perform (show Allowed s r h (.setReceipt _ _ _) from hh)
      intro x
      have hsent := unsent_cons hh (e := ⟨.setReceipt (redisReceiptKey signed.receipt.id)
        (GoJson.marshal v) ttl, x⟩) rfl rfl
      refine ⟨hsent.1, ?_⟩
      rintro rfl
      refine ⟨fun e he => List.mem_cons_of_mem _ he, hsent, ?_, ?_⟩
      · exact List.forall_mem_cons.mpr ⟨fun hne => hne rfl, hfail⟩
      · rw [Stored, hmode]
        exact ⟨v, ttl, hv, List.mem_cons_self⟩

/-- What is known of a receipt once it is stored. -/
theorem safe_storeReceiptWithContext {signed : SignedReceipt} {ttl : Int} (hh : Unsent h)
    (hfail : ∀ e ∈ h, ¬ Failure e) :
  Safe (Allowed s r) (AfterStore s signed h) h (storeReceiptWithContext s signed ttl)
  := by
  unfold storeReceiptWithContext
  split
  · rename_i hmode
    exact safe_storeInMemory hmode hh hfail
  · rename_i hmode
    exact safe_storeInRedis hmode hh hfail

theorem Stored.mono {signed : SignedReceipt} {h' : History} (hstored : Stored s signed h)
    (hsub : h ⊆ h') :
  Stored s signed h'
  := by
  unfold Stored at hstored ⊢
  split
  · rename_i hmode
    rw [hmode] at hstored
    obtain ⟨expiresAt, hmem⟩ := hstored
    exact ⟨expiresAt, hsub hmem⟩
  · rename_i hmode
    rw [hmode] at hstored
    obtain ⟨v, ttl, hv, hmem⟩ := hstored
    exact ⟨v, ttl, hv, hsub hmem⟩

/-- A receipt stays issued while nothing fails. -/
theorem Issued.mono {body : List UInt8} {signed : SignedReceipt} {h' : History}
    (hissued : Issued s r body signed h) (hsub : h ⊆ h') (hfail : ∀ e ∈ h', ¬ Failure e) :
  Issued s r body signed h'
  := by
  obtain ⟨timestamp, resp, hpaid, hreceipt, random, now, hrandom, hnow, hgen⟩ := hissued.receipt
  exact ⟨⟨timestamp, resp, hpaid.mono hsub, hreceipt, random, now, hsub hrandom, hsub hnow, hgen⟩,
    hissued.stored.mono hsub, hfail⟩

/-- A result is sent with a receipt once the payment was accepted. -/
theorem obeys_generateAndSendReceipt {c : Context} (hc : c.request = r) {timestamp : UInt64}
    {resp : VerifyResponse} (hpaid : Paid s r timestamp resp h) (hh : Early h)
    (aiResult : List UInt8) :
  Obeys s r h (generateAndSendReceipt s c
    (verifyRequest s.env r.signature r.nonce timestamp).context resp.recoveredAddress
    r.body.received aiResult)
  := by
  subst hc
  apply safe_bind
  apply (safe_makeReceipt hh).mono
  rintro h₁ x ⟨hsent, hmade⟩
  cases x with
  | error e => exact obeys_respondError hsent.1 (by decide)
  | ok signed =>
      obtain ⟨hsub, hfail, random, now, hrandom, hnow, hgen⟩ := hmade signed rfl
      apply safe_bind
      apply (safe_storeReceiptWithContext hsent hfail).mono
      rintro h₂ x ⟨hun, hstored⟩
      cases x with
      | error e => exact obeys_respondError hun (by decide)
      | ok u =>
          obtain ⟨hsub', hsent', hfail', hstored⟩ := hstored rfl
          dsimp only
          have hissued : Issued s c.request (GoJson.marshal (textObject [("result", aiResult)]))
              signed h₂ :=
            ⟨⟨timestamp, resp, hpaid.mono fun e he => hsub' (hsub he),
              isReceipt_of_generateReceipt hgen, random, now, hsub' hrandom, hsub' hnow, hgen⟩,
              hstored, hfail'⟩
          split
          · exact obeys_respondError hun (by decide)
          · rename_i value hvalue
            apply safe_call (show Allowed s c.request h₂ (.header _ _) from
              fun _ => ⟨hsent', signed, _, value, hissued, hvalue, rfl⟩)
            intro x
            apply safe_call
            · refine ⟨unanswered_cons hsent'.1 rfl, fun _ => ⟨signed, value, ?_, hvalue, ?_⟩⟩
              · apply hissued.mono (fun e he => List.mem_cons_of_mem _ he)
                exact List.forall_mem_cons.mpr ⟨id, hfail'⟩
              · exact List.mem_cons_self
            · intro y
              exact safe_pure trivial

/-! ### The handlers -/

/-- What is known once the verifier was asked. -/
theorem safe_verifyPayment {c : Context} {timestamp : UInt64}
    (hts : readTimestamp r.timestamp = some timestamp) (hh : Early h) :
  Safe (Allowed s r) (fun h' x => Early h' ∧ ∀ resp payment, x = .ok (resp, payment) →
      payment = (verifyRequest s.env r.signature r.nonce timestamp).context
        ∧ (resp.isValid = true → resp.recoveredAddress ≠ [] → Paid s r timestamp resp h')) h
    (verifyPayment s c r.signature r.nonce timestamp)
  := by
  apply safe_call (show Allowed s r h (.verify _ _) from trivial)
  intro answer
  apply safe_pure
  refine ⟨early_cons hh rfl, ?_⟩
  intro resp payment hx
  cases hread : readAnswer answer with
  | error e =>
      rw [hread] at hx
      cases hx
  | ok resp' =>
      rw [hread] at hx
      obtain ⟨rfl, rfl⟩ := Prod.mk.inj (Except.ok.inj hx)
      exact ⟨rfl, fun hvalid haddress =>
        ⟨hts, ⟨_, answer, List.mem_cons_self, hread⟩, hvalid, haddress⟩⟩

/-- A cached result is served to those who paid. -/
theorem obeys_serveCached {c : Context} (hc : c.request = r) (hh : Early h)
    (cached : CachedResponse) :
  Obeys s r h (serveCached s c r.body.received cached)
  := by
  subst hc
  unfold serveCached
  split
  · exact obeys_respondError hh.unsent.1 (by decide)
  · split
    · exact obeys_respondError hh.unsent.1 (by decide)
    · rename_i timestamp hts
      apply safe_bind
      apply (safe_verifyPayment hts hh).mono
      rintro h' x ⟨hh', hverified⟩
      split
      · exact obeys_respondVerifierError hh'.unsent.1
      · rename_i resp payment
        obtain ⟨rfl, hpaid⟩ := hverified resp payment rfl
        split
        · exact obeys_respondVerificationFailure hh'.unsent.1
        · rename_i hvalid
          split
          · exact obeys_respondError hh'.unsent.1 (by decide)
          · rename_i haddress
            exact obeys_generateAndSendReceipt rfl
              (hpaid (Bool.not_eq_false _ ▸ hvalid) haddress) hh' _

/-- The context has the body of the request. -/
def HasBody (r : HttpRequest) (c : Context) : Prop :=
  c.request = r ∧ ∀ body, requestBodyOf c = .ok body → body = r.body.received

theorem received_of_readAll {b : RequestBody} {body : List UInt8} (hread : b.readAll = .ok body) :
  body = b.received
  := by
  unfold RequestBody.readAll at hread
  split at hread
  · cases hread
  · split at hread
    · cases hread
    · exact (Except.ok.inj hread).symm

/-- The handler asks the provider and answers for those who paid. -/
theorem obeys_handleSummarize {c : Context} {next : Context → Prog Context} (hc : HasBody r c)
    (hh : Early h) :
  Obeys s r h (handleSummarize s next c)
  := by
  obtain ⟨rfl, hbody⟩ := hc
  unfold handleSummarize
  dsimp only
  split
  · apply safe_call (show Allowed s c.request h .newUUID from trivial)
    intro random
    apply safe_call (show Allowed s c.request _ .now from trivial)
    intro now
    exact obeys_json (early_cons (early_cons hh rfl) rfl).unsent.1 (by decide)
  · split
    · exact obeys_respondError hh.unsent.1 (by decide)
    · split
      · exact obeys_respondError hh.unsent.1 (by decide)
      · rename_i timestamp hts
        split
        · exact obeys_respondTooLarge hh.unsent.1
        · exact obeys_respondError hh.unsent.1 (by decide)
        · rename_i requestBody hread
          obtain rfl := hbody requestBody hread
          apply safe_bind
          apply (safe_verifyPayment hts hh).mono
          rintro h' x ⟨hh', hverified⟩
          split
          · exact obeys_respondVerifierError hh'.unsent.1
          · rename_i resp payment
            obtain ⟨rfl, hpaid⟩ := hverified resp payment rfl
            split
            · exact obeys_respondVerificationFailure hh'.unsent.1
            · rename_i hvalid
              split
              · exact obeys_respondError hh'.unsent.1 (by decide)
              · rename_i haddress
                have hpaid := hpaid (Bool.not_eq_false _ ▸ hvalid) haddress
                split
                · exact obeys_json hh'.unsent.1 (by decide)
                · rename_i text htext
                  split
                  · exact obeys_json hh'.unsent.1 (by decide)
                  · apply safe_call (show Allowed s c.request h' (.generate _) from
                      ⟨timestamp, resp, hpaid⟩)
                    intro x
                    have hh'' := early_cons hh' (e := ⟨.generate text, x⟩) rfl
                    split
                    · split
                      · exact obeys_respondError hh''.unsent.1 (by decide)
                      · exact obeys_respondError hh''.unsent.1 (by decide)
                    · exact obeys_generateAndSendReceipt rfl
                        (hpaid.mono fun e he => List.mem_cons_of_mem _ he) hh'' _

/-- A handler makes allowed calls only and leaves no handler to run. -/
abbrev Finishes (s : Settings) (r : HttpRequest) (h : History) (p : Prog Context) : Prop :=
  Safe (Allowed s r) (fun _ c => c.finished = true) h p

/-- A handler that answers and aborts. -/
theorem finishes_abort {p : Prog Context} (hp : Obeys s r h p) :
  Finishes s r h (p >>= fun c => pure c.abort)
  := safe_abort (fun _ _ _ hc => hc) hp

theorem finishes_handleSummarize {c : Context} (hc : HasBody r c) (hh : Early h) :
  Finishes s r h (runHandlers [handleSummarize s] c)
  := safe_lastHandler (fun _ _ _ hc => hc) (obeys_handleSummarize hc hh)

theorem finishes_storeResult {c : Context} {key : List UInt8} (hc : c.finished = true) :
  Finishes s r h (storeResult c key)
  := by
  unfold storeResult
  split
  · apply safe_call (show Allowed s r h (.goStoreInCache _ _) from trivial)
    intro x
    exact safe_pure hc
  · exact safe_pure hc

/-- The cache answers those who paid, or leaves the answer to the handler. -/
theorem finishes_cacheMiddleware {c : Context} {next : Context → Prog Context}
    (hnext : ∀ h c, HasBody r c → Early h → Finishes s r h (next c)) (hc : c.request = r)
    (hnone : c.requestBody = none) (hbody : c.body = r.body) (hh : Early h) :
  Finishes s r h (cacheMiddleware s next c)
  := by
  have hhas : HasBody r c := by
    refine ⟨hc, fun body hread => ?_⟩
    rw [requestBodyOf, hnone, hbody] at hread
    exact received_of_readAll hread
  have hlarge : Finishes s r h (do
      perform (.header "Connection" (bytes "close"))
      let c ← respondTooLarge c
      pure c.abort) := by
    apply safe_call (show Allowed s r h (.header _ _) from fun hname => absurd hname (by decide))
    intro x
    exact finishes_abort (obeys_respondTooLarge (unanswered_cons hh.unsent.1 rfl))
  unfold cacheMiddleware
  split
  · exact hnext h c hhas hh
  · split
    · exact hnext h c hhas hh
    · split
      · exact hlarge
      · split
        · exact hlarge
        · exact finishes_abort (obeys_respondError hh.unsent.1 (by decide))
        · rename_i requestBody hread
          rw [hbody] at hread
          obtain rfl := received_of_readAll hread
          dsimp only
          split
          · exact finishes_abort (obeys_json hh.unsent.1 (by decide))
          · split
            · exact finishes_abort (obeys_json hh.unsent.1 (by decide))
            · apply safe_bind
              apply safe_call (show Allowed s r h (.cacheGet _) from trivial)
              intro val
              apply safe_pure
              have hh' := early_cons hh (e := ⟨.cacheGet _, val⟩) rfl
              split
              · apply finishes_abort
                apply obeys_serveCached _ hh'
                exact hc
              · apply safe_bind
                apply (hnext _ _ _ hh').mono
                · intro h' c' hc'
                  exact finishes_storeResult hc'
                · exact ⟨hc, fun body hread => (Except.ok.inj hread).symm⟩

theorem finishes_correlationIDMiddleware {c : Context} {next : Context → Prog Context}
    (hnext : ∀ h id, Early h → Finishes s r h (next { c with correlationID := some id }))
    (hh : Early h) :
  Finishes s r h (correlationIDMiddleware next c)
  := by
  apply safe_correlationIDMiddleware (fun _ => trivial) _ _ _ hnext hh
  · intro h id hname
    exact absurd hname (by decide)
  · intro h x hh
    exact early_cons hh rfl
  · intro h id x hh
    exact early_cons hh rfl

/-- The handlers of the route make allowed calls only. -/
theorem finishes_summarize (s : Settings) (r : HttpRequest) : Finishes s r [] (summarize s r)
  := by
  unfold summarize summarizeHandlers
  split
  · apply safe_runHandlers fun _ _ hc => hc
    apply finishes_correlationIDMiddleware
    · intro h id hh
      apply safe_runHandlers fun _ _ hc => hc
      exact finishes_cacheMiddleware (fun h c hc hh => finishes_handleSummarize hc hh) rfl rfl rfl hh
    · intro e he
      cases he
  · apply safe_runHandlers fun _ _ hc => hc
    apply finishes_correlationIDMiddleware
    · intro h id hh
      exact finishes_handleSummarize ⟨rfl, fun body hread => received_of_readAll hread⟩ hh
    · intro e he
      cases he

end Rules

/-! ### Runs of the handlers -/

section Runs

variable {s : Settings} {r : HttpRequest} {h : History} {p : Prog Context}

/-- Every call that was made was allowed. -/
theorem allowed_of_reaches (hrun : (summarize s r).Reaches h p) {later earlier : History}
    {e : Event Call Answer} (hh : h = later ++ e :: earlier) :
  Allowed s r earlier e.call
  := (finishes_summarize s r).allowed_of_reaches hrun hh

/-- The event sends a receipt or a response of status 200. -/
def Sends (e : Event Call Answer) : Prop :=
  e.call.isReceiptHeader = true ∨ ∃ body, e.call = .json 200 body

/-- What is sent was issued before. -/
theorem issued_of_sends (hrun : (summarize s r).Reaches h p) {later earlier : History}
    {e : Event Call Answer} (hh : h = later ++ e :: earlier) (he : Sends e) :
  ∃ signed body, Issued s r body signed earlier
  := by
  have hallowed := allowed_of_reaches hrun hh
  obtain hheader | ⟨body, hjson⟩ := he
  · cases hc : e.call with
    | header name value =>
        rw [hc] at hallowed hheader
        obtain ⟨-, signed, body, value', hissued, -⟩ := hallowed (by simpa [Call.isReceiptHeader] using hheader)
        exact ⟨signed, body, hissued⟩
    | _ =>
        rw [hc] at hheader
        cases hheader
  · rw [hjson] at hallowed
    obtain ⟨signed, value, hissued, -⟩ := hallowed.2 rfl
    exact ⟨signed, body, hissued⟩

theorem Unsent.not_sends (hh : Unsent h) {e : Event Call Answer} (he : e ∈ h) : ¬ Sends e
  := by
  rintro (hheader | ⟨body, hjson⟩)
  · rw [hh.2 e he] at hheader
    cases hheader
  · have hnot := hh.1 e he
    rw [hjson] at hnot
    cases hnot

/-- What fails, fails before anything is sent. -/
theorem unsent_of_failure {e : Event Call Answer} (hfail : Failure e)
    (hallowed : Allowed s r h e.call) :
  Unsent h ∧ ¬ Sends e
  := by
  obtain ⟨c, x⟩ := e
  cases c with
  | readRandom => exact ⟨Early.unsent hallowed, by rintro (hheader | ⟨body, hjson⟩) <;> contradiction⟩
  | contextErr => exact ⟨hallowed, by rintro (hheader | ⟨body, hjson⟩) <;> contradiction⟩
  | setReceipt key data ttl =>
      exact ⟨hallowed, by rintro (hheader | ⟨body, hjson⟩) <;> contradiction⟩
  | _ => exact hfail.elim

/-- Nothing fails where something is sent. -/
theorem not_failure_of_sends (hrun : (summarize s r).Reaches h p) {e e' : Event Call Answer}
    (he : e ∈ h) (hsends : Sends e) (he' : e' ∈ h) :
  ¬ Failure e'
  := by
  intro hfail
  obtain rfl | ⟨later, earlier, hh, hmem⟩ | ⟨later, earlier, hh, hmem⟩ := eq_or_before he he'
  · obtain ⟨later, earlier, hh⟩ := List.append_of_mem he
    exact (unsent_of_failure hfail (allowed_of_reaches hrun hh)).2 hsends
  · obtain ⟨signed, body, hissued⟩ := issued_of_sends hrun hh hsends
    exact hissued.noFailure e' hmem hfail
  · exact (unsent_of_failure hfail (allowed_of_reaches hrun hh)).1.not_sends hmem hsends

/-- At most one response is written. -/
theorem isJson_eq_false (hrun : (summarize s r).Reaches h p) {later earlier : History}
    {e : Event Call Answer} (hh : h = later ++ e :: earlier) (he : e.call.isJson = true) :
  ∀ e' ∈ later ++ earlier, e'.call.isJson = false
  := by
  have hun : ∀ {later earlier : History} {e : Event Call Answer}, h = later ++ e :: earlier →
      e.call.isJson = true → Unanswered earlier := by
    intro later earlier e hh he
    have hallowed := allowed_of_reaches hrun hh
    cases hc : e.call with
    | json status body =>
        rw [hc] at hallowed
        exact hallowed.1
    | _ =>
        rw [hc] at he
        cases he
  intro e' he'
  obtain hlater | hearlier := List.mem_append.mp he'
  · obtain ⟨l, l', rfl⟩ := List.append_of_mem hlater
    cases hjson : e'.call.isJson with
    | false => rfl
    | true =>
        have hh' : h = l ++ e' :: (l' ++ e :: earlier) := by
          rw [hh, List.append_assoc, List.cons_append]
        have hnot := hun hh' hjson e (List.mem_append_right l' List.mem_cons_self)
        rw [he] at hnot
        cases hnot
  · exact hun hh he e' hearlier

/-- At most one receipt is sent. -/
theorem eq_of_isReceiptHeader (hrun : (summarize s r).Reaches h p) {e e' : Event Call Answer}
    (he : e ∈ h) (he' : e' ∈ h) (hheader : e.call.isReceiptHeader = true)
    (hheader' : e'.call.isReceiptHeader = true) :
  e = e'
  := by
  have hunsent : ∀ {later earlier : History} {e : Event Call Answer}, h = later ++ e :: earlier →
      e.call.isReceiptHeader = true → Unsent earlier := by
    intro later earlier e hh hheader
    have hallowed := allowed_of_reaches hrun hh
    cases hc : e.call with
    | header name value =>
        rw [hc] at hallowed hheader
        exact (hallowed (by simpa [Call.isReceiptHeader] using hheader)).1
    | _ =>
        rw [hc] at hheader
        cases hheader
  obtain heq | ⟨later, earlier, hh, hmem⟩ | ⟨later, earlier, hh, hmem⟩ := eq_or_before he he'
  · exact heq
  · exact absurd (Or.inl hheader') ((hunsent hh hheader).not_sends hmem)
  · exact absurd (Or.inl hheader) ((hunsent hh hheader').not_sends hmem)

/-- At most one receipt is made. -/
theorem eq_of_readRandom (hrun : (summarize s r).Reaches h p) {x x' : Answer .readRandom}
    (he : (⟨.readRandom, x⟩ : Event Call Answer) ∈ h)
    (he' : (⟨.readRandom, x'⟩ : Event Call Answer) ∈ h) :
  x = x'
  := by
  obtain heq | ⟨later, earlier, hh, hmem⟩ | ⟨later, earlier, hh, hmem⟩ := eq_or_before he he'
  · cases heq
    rfl
  · have hearly : Early earlier := allowed_of_reaches hrun hh
    exact absurd (hearly _ hmem) Bool.false_ne_true
  · have hearly : Early earlier := allowed_of_reaches hrun hh
    exact absurd (hearly _ hmem) Bool.false_ne_true

/-- For every request that is answered with status 200 exactly one response is written, and
exactly one receipt is sent with it: one for the bytes of the body that were received, the
bytes of the body that are written, the path, and the payment the verifier accepted for the
headers of the request, signed by the server, and stored before.  Where a receipt could not
be made or stored, neither a receipt nor a response of status 200 is sent. -/
theorem receipt_integrity (hrun : (summarize s r).Reaches h p) :
  (∀ later body x earlier, h = later ++ ⟨.json 200 body, x⟩ :: earlier →
    (∀ e ∈ later ++ earlier, e.call.isJson = false)
      ∧ ∃ timestamp resp signed value, Paid s r timestamp resp earlier
        ∧ IsReceipt s r (verifyRequest s.env r.signature r.nonce timestamp).context
            resp.recoveredAddress body signed
        ∧ Stored s signed earlier
        ∧ receiptHeader signed = some value
        ∧ ⟨.header "X-402-Receipt" (utf8 value), ()⟩ ∈ earlier
        ∧ ∀ v x, ⟨.header "X-402-Receipt" v, x⟩ ∈ h → v = utf8 value)
    ∧ (∀ e ∈ h, Sends e →
      (∀ e' ∈ h, ¬ Failure e') ∧ ∃ signed body, Issued s r body signed h)
    ∧ ∀ x x', ⟨.readRandom, x⟩ ∈ h → ⟨.readRandom, x'⟩ ∈ h → x = x'
  := by
  refine ⟨?_, ?_, fun x x' he he' => eq_of_readRandom hrun he he'⟩
  · intro later body x earlier hh
    refine ⟨isJson_eq_false hrun hh rfl, ?_⟩
    obtain ⟨-, hallowed⟩ := allowed_of_reaches hrun hh
    obtain ⟨signed, value, hissued, hvalue, hheader⟩ := hallowed rfl
    obtain ⟨timestamp, resp, hpaid, hreceipt, -⟩ := hissued.receipt
    refine ⟨timestamp, resp, signed, value, hpaid, hreceipt, hissued.stored, hvalue, hheader, ?_⟩
    intro v x hv
    have hmem : ⟨.header "X-402-Receipt" (utf8 value), ()⟩ ∈ h := by
      rw [hh]
      exact List.mem_append_right _ (List.mem_cons_of_mem _ hheader)
    have heq := eq_of_isReceiptHeader hrun hv hmem rfl rfl
    injection heq with hcall
    injection hcall
  · intro e he hsends
    have hfail : ∀ e' ∈ h, ¬ Failure e' := fun e' he' => not_failure_of_sends hrun he hsends he'
    obtain ⟨later, earlier, hh⟩ := List.append_of_mem he
    obtain ⟨signed, body, hissued⟩ := issued_of_sends hrun hh hsends
    refine ⟨hfail, signed, body, hissued.mono ?_ hfail⟩
    intro e' he'
    rw [hh]
    exact List.mem_append_right _ (List.mem_cons_of_mem _ he')

end Runs

/-! ### A sample -/

/-- A hash and 33 zeros have the size of a signature. -/
theorem size_paddedHash (hash : Vector UInt8 32) :
  (hash.toList ++ List.replicate 33 (0 : UInt8)).toArray.size = 65
  := by
  simp

/-- A key for the sample. -/
def sampleKey : Crypto where
  PrivateKey := Unit
  toECDSA _ := .ok ()
  keccak256 m := Vector.replicate 32 (.ofNat m.length)
  sign hash _ := .ok ⟨(hash.toList ++ List.replicate 33 0).toArray, size_paddedHash hash⟩
  publicKeyBytes _ := Vector.replicate 65 0x04

/-- Settings with a private key and a cache. -/
def cachedSettings : Settings where
  env key :=
    if key = "SERVER_WALLET_PRIVATE_KEY" then List.replicate 64 0x31
    else if key = "CACHE_ENABLED" then bytes "1"
    else []
  crypto := sampleKey
  redisClient := true
  receiptStore := .memory

/-- A request with a payment. -/
def paidRequest : HttpRequest where
  path := bytes "/api/ai/summarize"
  signature := bytes "0x11"
  nonce := bytes "n-1"
  timestamp := bytes "1700000000"
  correlationID := bytes "c-1"
  contentLength := -1
  body := { received := GoJson.marshal (textObject [("text", bytes "long")]), broken := false }

/-- A world in which the text was summarized before and the payment is accepted. -/
def cachedWorld : (c : Call) → Answer c
  | .cacheGet _ => some (GoJson.marshal (textObject [("result", bytes "short")]))
  | .goStoreInCache _ _ => ()
  | .verify _ _ => .answered 200 (GoJson.marshal (.obj [(bytes "is_valid", .bool true),
      (bytes "recovered_address", .str (bytes "0x12"))])) false
  | .generate _ => .ok (bytes "short")
  | .newUUID => Vector.replicate 16 0x5A
  | .readRandom => some (Vector.replicate 6 0xAB)
  | .now => ⟨0⟩
  | .contextErr => none
  | .putReceipt _ _ _ => ()
  | .setReceipt _ _ _ => .ok ()
  | .header _ _ => ()
  | .json _ _ => ()

/-- The history of the request in this world. -/
def cachedHistory : History :=
  (trace cachedWorld (summarize cachedSettings paidRequest) []).1

theorem cachedHistory_eq : ∃ body x earlier, cachedHistory = ⟨.json 200 body, x⟩ :: earlier
  := by
  have hhead : cachedHistory.head?.map (fun e => e.call)
      = some (.json 200 (GoJson.marshal (textObject [("result", bytes "short")]))) := by
    decide +kernel
  cases hh : cachedHistory with
  | nil =>
      rw [hh] at hhead
      cases hhead
  | cons e earlier =>
      rw [hh] at hhead
      obtain ⟨c, x⟩ := e
      obtain rfl := Option.some.inj hhead
      exact ⟨_, x, earlier, rfl⟩

theorem receipt_integrity_sample :
  ∃ body x earlier timestamp resp signed, cachedHistory = ⟨.json 200 body, x⟩ :: earlier
    ∧ Paid cachedSettings paidRequest timestamp resp earlier
    ∧ Stored cachedSettings signed earlier
    ∧ signed.receipt.payment.nonce = bytes "n-1"
    ∧ signed.receipt.service.responseHash = hashData body
  := by
  obtain ⟨body, x, earlier, hh⟩ := cachedHistory_eq
  have hrun := reaches_trace cachedWorld (.start (p := summarize cachedSettings paidRequest))
  obtain ⟨-, timestamp, resp, signed, value, hpaid, hreceipt, hstored, -⟩ :=
    (receipt_integrity hrun).1 [] body x earlier hh
  exact ⟨body, x, earlier, timestamp, resp, signed, hh, hpaid, hstored, hreceipt.nonce,
    hreceipt.responseHash⟩

end Paygate.Gateway
