import Paygate.Base.Answers
import Paygate.Gateway.Routes
import Paygate.Protocol.Parity
import Paygate.Protocol.ReceiptHeader
import Paygate.Protocol.ReceiptSoundness
import Paygate.Sdk.RetryHeaders

/-!
# The gateway, the verifier and a client at work

The gateway handles requests to its paid route while the verifier runs next to it, the provider
answers, and the stores take what they are given.  A request of the SDK arrives as `fetch` sends
it, and the client is answered with what the handlers wrote.

Requests are handled one after another: none is overtaken by a timeout or refused by the rate
limiter, and the provider and the stores do not fail.
-/

namespace Paygate

open Text Json Program

/-! ### The services -/

/-- The services and their settings. -/
structure Deployment where
  settings : Gateway.Settings
  eth : Verifier.Ethers
  state : Verifier.AppState
  display : List UInt8 → String

/-- What the services find while a request is handled: the random values and the times the
gateway reads, by the number of those it has read before, the clock of the verifier, the response
cache, and what the provider makes of a text. -/
structure Surroundings where
  uuid : Nat → Vector UInt8 16
  receiptRandom : Nat → Vector UInt8 6
  now : Nat → Gateway.Time
  verifierClock : Nat
  cached : List UInt8 → Option (List UInt8)
  provider : List UInt8 → List UInt8

/-- What a request has come to: how many values were read, the nonce store of the verifier, the
headers of the response, the latest first, and its status and body. -/
structure Served where
  reads : Nat
  store : Verifier.MemoryNonceStore
  headers : List (String × List UInt8)
  response : Option (Nat × List UInt8)

namespace Deployment

variable (d : Deployment) (x : Surroundings)

/-- A request of the gateway to the verifier, when it arrives there. -/
def arrival (correlationID : Option (List UInt8)) (body : List UInt8) : Verifier.Arrival where
  clock := x.verifierClock
  correlationHeader := correlationID
  payload := Verifier.readBody d.state d.display body

/-- How the calls of the handlers are answered. -/
def answer : (c : Gateway.Call) → Served → Gateway.Answer c × Served
  | .cacheGet key, t => (x.cached key, t)
  | .goStoreInCache _ _, t => ((), t)
  | .verify correlationID body, t =>
      let r := Verifier.verifySignature d.eth d.state t.store (d.arrival x correlationID body)
      (.answered r.1.status (SerdeJson.toVec r.1.body.json) false, { t with store := r.2 })
  | .generate text, t => (.ok (x.provider text), t)
  | .newUUID, t => (x.uuid t.reads, { t with reads := t.reads + 1 })
  | .readRandom, t => (some (x.receiptRandom t.reads), { t with reads := t.reads + 1 })
  | .now, t => (x.now t.reads, { t with reads := t.reads + 1 })
  | .contextErr, t => (none, t)
  | .putReceipt _ _ _, t => ((), t)
  | .setReceipt _ _ _, t => (.ok (), t)
  | .header name value, t => ((), { t with headers := (name, value) :: t.headers })
  | .json status body, t => ((), { t with response := t.response.or (some (status, body)) })

/-- What a request comes to, with the nonce store the verifier has. -/
def handle (store : Verifier.MemoryNonceStore) (r : Gateway.HttpRequest) : Served :=
  ((Gateway.summarize d.settings r).runIn (d.answer x)
    { reads := 0, store := store, headers := [], response := none }).2

end Deployment

/-! ### Requests and responses on the wire -/

/-- The value the gateway reads under the name of a header: `fetch` joins the values that are
sent under it. -/
def receivedHeader (headers : Sdk.Headers) (name : String) : List UInt8 :=
  match Sdk.valuesOf headers (units name) with
  | [] => []
  | values => (headerBytes (List.intercalate (units ", ") values)).getD []

/-- The request as it arrives at the paid route. -/
def receivedHttpRequest (init : Sdk.RequestInit) : Gateway.HttpRequest where
  path := bytes "/api/ai/summarize"
  signature := receivedHeader init.headers "X-402-Signature"
  nonce := receivedHeader init.headers "X-402-Nonce"
  timestamp := receivedHeader init.headers "X-402-Timestamp"
  correlationID := receivedHeader init.headers "X-Correlation-ID"
  contentLength := (bodyBytes init.body).length
  body := { received := bodyBytes init.body, broken := false }

/-- The path of a URL of the gateway, without query and fragment. -/
def urlPath (gatewayUrl url : List UInt16) : Option (List UInt16) :=
  if gatewayUrl <+: url then
    some ((url.drop gatewayUrl.length).takeWhile fun u => u ≠ 0x3F && u ≠ 0x23)
  else none

/-- What is sent can be sent, and goes to the paid route. -/
def IsForRoute (gatewayUrl url : List UInt16) (init : Sdk.RequestInit) : Prop :=
  urlPath gatewayUrl url = some (units "/api/ai/summarize") ∧ init.method = units "POST"
    ∧ ∀ h ∈ init.headers, (headerBytes h.2).isSome

instance (gatewayUrl url : List UInt16) (init : Sdk.RequestInit) :
    Decidable (IsForRoute gatewayUrl url init) :=
  inferInstanceAs (Decidable (_ ∧ _ ∧ _))

/-- The response the client receives. -/
def Served.receive (t : Served) : Option Sdk.Response :=
  t.response.map fun r => {
    status := r.1
    headers := fun name => (t.headers.find? fun h => h.1 = name).map fun h => latin1 h.2
    body := some r.2 }

/-- How the exchanges of a client are answered: the `n`-th finds the `n`-th surroundings and
nonce store. -/
def Deployment.fetcher (d : Deployment) (gatewayUrl : List UInt16) (x : Nat → Surroundings)
    (store : Nat → Verifier.MemoryNonceStore) (n : Nat) (url : List UInt16) (init : Sdk.RequestInit) :
    Option Sdk.Response :=
  if IsForRoute gatewayUrl url init then
    (d.handle (x n) (store n) (receivedHttpRequest init)).receive
  else none

/-! ### Receipts -/

/-- The gateway can issue receipts: its private key is set, signing with it does not fail, and the
time receipts are kept is positive. -/
structure Issues (s : Gateway.Settings) (key : s.crypto.PrivateKey) : Prop where
  loads : Gateway.getServerPrivateKey s.crypto s.env = .ok key
  signs : ∀ hash, ∃ sig, s.crypto.sign hash key = .ok sig
  keeps : 0 < Gateway.getReceiptTTL s.env

/-- The times that are read are after the epoch, and their years have four digits. -/
def Surroundings.Timely (x : Surroundings) : Prop :=
  ∀ n, 0 < (x.now n).unix ∧ (x.now n).unix < 2 ^ 53
    ∧ 0 ≤ (x.now n).date.1 ∧ (x.now n).date.1 ≤ 9999

section Receipts

open Gateway

variable {s : Settings} {key : s.crypto.PrivateKey} {b : Vector UInt8 6} {now : Time}
  {payment : PaymentContext} {payer endpoint reqBody respBody : List UInt8}

/-- A gateway that can issue receipts makes one of every payment. -/
theorem Issues.exists_receipt (h : Issues s key) (hnow : 0 ≤ now.date.1 ∧ now.date.1 ≤ 9999)
    (b : Vector UInt8 6) (payment : PaymentContext) (payer endpoint reqBody respBody : List UInt8) :
  ∃ receipt header, generateReceipt s.crypto s.env (some b) now payment payer endpoint reqBody respBody
      = .ok receipt ∧ receiptHeader receipt = some header
  := by
  obtain ⟨v, hv⟩ : ∃ v, (newReceipt (bytes "rcpt_" ++ utf8 (hexEncode b.toList)) now payment payer
      endpoint reqBody respBody).json = some v :=
    ⟨_, Receipt.json_eq_some_iff.mpr ⟨hnow, rfl⟩⟩
  obtain ⟨sig, hsig⟩ := h.signs (s.crypto.keccak256 (GoJson.marshal v))
  have hreceipt : ∃ receipt, generateReceipt s.crypto s.env (some b) now payment payer endpoint reqBody
      respBody = .ok receipt ∧ receipt.receipt.json = some v := by
    simp only [generateReceipt, generateReceiptID, signReceipt, h.loads, hv, hsig, Bind.bind,
      Except.bind, Except.mapError, Option.map_some, Option.elim_some]
    exact ⟨_, rfl, hv⟩
  obtain ⟨receipt, hreceipt, hjson⟩ := hreceipt
  have hheader : ∃ header, receiptHeader receipt = some header := by
    rw [receiptHeader, SignedReceipt.json, hjson]
    exact ⟨_, rfl⟩
  obtain ⟨header, hheader⟩ := hheader
  use receipt, header

/-- A receipt that was made of strings that are not empty passes the check of the store. -/
theorem validateReceipt_of_generated {receipt : SignedReceipt}
    (h : generateReceipt s.crypto s.env (some b) now payment payer endpoint reqBody respBody
      = .ok receipt)
    (hnow : 0 < now.unix) (hgiven : ∀ t ∈ givenStrings payment payer endpoint, t ≠ []) :
  validateReceipt receipt = .ok ()
  := by
  obtain ⟨b', hb, hsign⟩ := generateReceipt_eq_ok h
  obtain rfl := Option.some.inj hb
  obtain ⟨key, v, sig, -, -, -, rfl⟩ := signReceipt_eq_ok hsign
  simp only [givenStrings, List.forall_mem_cons] at hgiven
  obtain ⟨hpayer, hrecipient, hamount, htoken, hnonce, hendpoint, -⟩ := hgiven
  have hzero : now.isZero = false := by
    apply decide_eq_false
    intro hzero
    rw [Time.unix, hzero] at hnow
    omega
  have hname : ∀ (name : String) (t : List UInt8), bytes name ≠ [] → bytes name ++ t ≠ [] :=
    fun name t hname h => hname (List.append_eq_nil_iff.mp h).1
  have hrest : ∀ data, hashData data ≠ [] := fun data => by
    rw [hashData_eq]
    exact hname _ _ (by decide)
  have hversion : bytes "1.0" ≠ [] := by decide
  have h0x : bytes "0x" ≠ [] := by decide
  simp only [validateReceipt, newReceipt, isValidReceiptID_generated, Bool.not_true, hversion, hzero,
    hpayer, hrecipient, hamount, htoken, hnonce, hendpoint, hrest, hname _ _ h0x,
    Bool.false_eq_true, if_false, List.prefix_append, not_true_eq_false]

end Receipts

/-! ### The handlers -/

/-- The characters of a UUID are digits and dashes. -/
theorem forall_mem_uuidString {q : Char → Prop} (hdigit : ∀ bs, ∀ c ∈ hexEncode bs, q c)
    (hdash : q '-') (random : Vector UInt8 16) :
  ∀ c ∈ Gateway.uuidString random, q c
  := by
  rw [Gateway.uuidString]
  generalize ((random.set 6 _).set 8 _).toList = bs
  have hpart : ∀ m n, ∀ c ∈ ((hexEncode bs).drop m).take n, q c :=
    fun m n c hc => hdigit bs c (List.mem_of_mem_drop (List.mem_of_mem_take hc))
  have hfirst : ∀ c ∈ (hexEncode bs).take 8, q c :=
    fun c hc => hdigit bs c (List.mem_of_mem_take hc)
  have hlast : ∀ c ∈ (hexEncode bs).drop 20, q c :=
    fun c hc => hdigit bs c (List.mem_of_mem_drop hc)
  simp only [List.forall_mem_append, List.forall_mem_cons]
  exact ⟨⟨⟨⟨hfirst, hdash, hpart 8 4⟩, hdash, hpart 12 4⟩, hdash, hpart 16 4⟩, hdash, hlast⟩

namespace Deployment

open Gateway

variable {d : Deployment} {x : Surroundings}

/-- An id, or a fresh one in its place. -/
def IsIdFor (given id : List UInt8) : Prop :=
  id ≠ [] ∧ (id = given ∨ ∃ random, id = utf8 (uuidString random))

theorem IsIdFor.trans {given id id' : List UInt8} (h : IsIdFor given id) (h' : IsIdFor id id') :
  IsIdFor given id'
  := by
  obtain ⟨hne, rfl | hfresh⟩ := h'
  · exact h
  · exact ⟨hne, .inr hfresh⟩

/-- A correlation id is found, perhaps a fresh one. -/
theorem runIn_safeCorrelationID (id : List UInt8) (t : Served) :
  ∃ id' n, (safeCorrelationID id).runIn (d.answer x) t = (id', { t with reads := n })
    ∧ IsIdFor id id'
  := by
  rw [safeCorrelationID]
  split
  · rename_i hsafe
    exact ⟨id, t.reads, rfl, (of_decide_eq_true hsafe).1, .inl rfl⟩
  · refine ⟨_, _, rfl, ?_, .inr ⟨_, rfl⟩⟩
    intro hnil
    have hempty := utf8_injective (hnil.trans utf8_nil.symm)
    have hdash := congrArg (fun s : List Char => s.contains '-') hempty
    simp [uuidString] at hdash

/-- Once the handlers have run, none is left to run. -/
theorem finished_runHandlers (handlers : List Handler) (c : Context) (t : Served) :
  ((runHandlers handlers c).runIn (d.answer x) t).1.finished = true
  := by
  induction handlers generalizing c t with
  | nil => rfl
  | cons handler handlers ih =>
      rw [runHandlers, runIn_bind]
      split
      · assumption
      · exact ih _ _

/-- The last handler decides what becomes of a request. -/
theorem runIn_lastHandler (handler : Handler) (c : Context) (t : Served) :
  ((runHandlers [handler] c).runIn (d.answer x) t).2
    = ((handler (runHandlers []) c).runIn (d.answer x) t).2
  := by
  rw [runHandlers, runIn_bind]
  split
  · rfl
  · rfl

/-- A handler after which none is left to run decides what becomes of a request. -/
theorem runIn_handler {handler : Handler} {handlers : List Handler} {c : Context} {t : Served}
    (h : ((handler (runHandlers handlers) c).runIn (d.answer x) t).1.finished = true) :
  (runHandlers (handler :: handlers) c).runIn (d.answer x) t
    = (handler (runHandlers handlers) c).runIn (d.answer x) t
  := by
  rw [runHandlers, runIn_bind, if_pos h]
  rfl

/-- Besides the header it sets, `CorrelationIDMiddleware` leaves the request to the handlers that
follow. -/
theorem runIn_correlationIDMiddleware (handlers : List Handler) (c : Context) (t : Served) :
  ∃ id n, IsIdFor c.request.correlationID id
    ∧ (runHandlers (correlationIDMiddleware :: handlers) c).runIn (d.answer x) t
      = (runHandlers handlers { c with correlationID := some id }).runIn (d.answer x)
          { t with reads := n, headers := ("X-Correlation-ID", id) :: t.headers }
  := by
  obtain ⟨id, n, hid, hfor⟩ := runIn_safeCorrelationID (d := d) (x := x) c.request.correlationID t
  have hcorrelation : (correlationIDMiddleware (runHandlers handlers) c).runIn (d.answer x) t
      = (runHandlers handlers { c with correlationID := some id }).runIn (d.answer x)
          { t with reads := n, headers := ("X-Correlation-ID", id) :: t.headers } := by
    rw [correlationIDMiddleware, runIn_bind, hid]
    rfl
  use id, n, hfor
  rw [← hcorrelation]
  apply runIn_handler
  rw [hcorrelation]
  apply finished_runHandlers

/-- A request without a signature passes the cache. -/
theorem runIn_cacheMiddleware_unpaid (handlers : List Handler) {c : Context}
    (h : c.request.signature = []) (t : Served) :
  (runHandlers (cacheMiddleware d.settings :: handlers) c).runIn (d.answer x) t
    = (runHandlers handlers c).runIn (d.answer x) t
  := by
  have hnext : cacheMiddleware d.settings (runHandlers handlers) c = runHandlers handlers c := by
    rw [cacheMiddleware]
    split
    · rfl
    · rw [if_pos (Or.inl h)]
  rw [← hnext]
  apply runIn_handler
  rw [hnext]
  exact finished_runHandlers handlers c t

/-- The handler of the route challenges a request without a signature. -/
theorem runIn_handleSummarize_unpaid {c : Context} (h : c.request.signature = []) (t : Served) :
  ((runHandlers [handleSummarize d.settings] c).runIn (d.answer x) t).2
    = { t with
        reads := t.reads + 1 + 1
        response := t.response.or (some (402, GoJson.marshal (createPaymentContext d.settings.env
          (x.uuid t.reads) (x.now (t.reads + 1)).unix).challenge)) }
  := by
  rw [runIn_lastHandler, handleSummarize, if_pos (Or.inl h)]
  rfl

/-- A request without a signature is challenged, and the verifier is not asked. -/
theorem handle_unpaid {r : HttpRequest} (h : r.signature = []) (store : Verifier.MemoryNonceStore) :
  ∃ n m, (d.handle x store r).response
      = some (402, GoJson.marshal
          (createPaymentContext d.settings.env (x.uuid n) (x.now m).unix).challenge)
    ∧ (d.handle x store r).store = store
  := by
  rw [handle, summarize, summarizeHandlers]
  split
  · obtain ⟨id, n, -, hrun⟩ := runIn_correlationIDMiddleware (d := d) (x := x)
      [cacheMiddleware d.settings, handleSummarize d.settings] (.init r)
      { reads := 0, store := store, headers := [], response := none }
    rw [hrun, runIn_cacheMiddleware_unpaid, runIn_handleSummarize_unpaid]
    · exact ⟨n, n + 1, rfl, rfl⟩
    · exact h
    · exact h
  · obtain ⟨id, n, -, hrun⟩ := runIn_correlationIDMiddleware (d := d) (x := x)
      [handleSummarize d.settings] (.init r)
      { reads := 0, store := store, headers := [], response := none }
    rw [hrun, runIn_handleSummarize_unpaid]
    · exact ⟨n, n + 1, rfl, rfl⟩
    · exact h

/-- What is left to do for a verified payment: a receipt of it is made, stored and sent with the
result. -/
theorem runIn_generateAndSendReceipt {key : d.settings.crypto.PrivateKey} (h : Issues d.settings key)
    (hx : x.Timely) {c : Context} {payment : PaymentContext} {payer : List UInt8}
    (hgiven : ∀ t ∈ givenStrings payment payer c.request.path, t ≠ []) (requestBody result : List UInt8)
    (t : Served) :
  ∃ b now receipt header reads,
    generateReceipt d.settings.crypto d.settings.env (some b) now payment payer c.request.path
        requestBody (GoJson.marshal (textObject [("result", result)])) = .ok receipt
      ∧ receiptHeader receipt = some header
      ∧ ((generateAndSendReceipt d.settings c payment payer requestBody result).runIn
          (d.answer x) t).2
        = { t with
            reads := reads
            headers := ("X-402-Receipt", utf8 header) :: t.headers
            response := t.response.or
              (some (200, GoJson.marshal (textObject [("result", result)]))) }
  := by
  obtain ⟨hunix, -, hdate⟩ := hx (t.reads + 1)
  obtain ⟨receipt, header, hreceipt, hheader⟩ := h.exists_receipt hdate (x.receiptRandom t.reads) payment
    payer c.request.path requestBody (GoJson.marshal (textObject [("result", result)]))
  have hvalid := validateReceipt_of_generated hreceipt hunix hgiven
  have hmake : (makeReceipt d.settings payment payer c.request.path requestBody
      (GoJson.marshal (textObject [("result", result)]))).runIn (d.answer x) t
        = (.ok receipt, { t with reads := t.reads + 1 + 1 }) := by
    rw [← hreceipt]
    rfl
  have hcheck : checkStore receipt (getReceiptTTL d.settings.env) = .ok () := by
    rw [checkStore, hvalid]
    exact if_neg (Int.not_le.mpr h.keeps)
  have hstore : ∀ u : Served, ∃ reads,
      (storeReceiptWithContext d.settings receipt (getReceiptTTL d.settings.env)).runIn (d.answer x) u
        = (.ok (), { u with reads := reads }) := by
    intro u
    rw [storeReceiptWithContext]
    split
    · use u.reads + 1
      rw [storeInMemory, runIn_bind]
      simp only [Gateway.perform, runIn_perform, answer, hcheck]
      rfl
    · use u.reads
      have hjson : ∃ v, receipt.json = some v := by
        rw [receiptHeader] at hheader
        obtain ⟨v, hv, -⟩ := Option.map_eq_some_iff.mp hheader
        exact ⟨v, hv⟩
      obtain ⟨v, hv⟩ := hjson
      simp only [storeInRedis, hcheck, hv]
      rfl
  obtain ⟨reads, hstored⟩ := hstore { t with reads := t.reads + 1 + 1 }
  refine ⟨_, _, receipt, header, reads, hreceipt, hheader, ?_⟩
  simp only [generateAndSendReceipt, runIn_bind, hmake, hstored, hheader]
  rfl

/-! ### Paid requests -/

theorem unmarshal_toVec (r : Verifier.VerifyResponse) :
  GoJson.unmarshal (SerdeJson.toVec r.json) = some (goValue r.json)
  := by
  have hparse : parse (GoJson.text (SerdeJson.toVec r.json)) = some (r.json.map SerdeJson.pieces) := by
    rw [SerdeJson.toVec, GoJson.text_utf8,
      parse_print SerdeJson.reads_quote (valid_verifyResponse_json r)]
  rw [GoJson.unmarshal, GoJson.scan_of_parse hparse (by
    rw [depth_map, depth_verifyResponse_json]
    decide), Option.map_some, goValue]

/-- The gateway reads an answer of status 200 of the verifier. -/
theorem readAnswer_toVec (r : Verifier.VerifyResponse) (deadline : Bool) :
  readAnswer (.answered 200 (SerdeJson.toVec r.json) deadline) = .ok (receivedResponse r)
  := by
  rw [readAnswer, if_neg (by decide), GoJson.decode_of_unmarshal (unmarshal_toVec r),
    Option.bind_some, readVerifyResponse_json]

variable (d x) in
/-- With its nonce store the verifier accepts a request of the gateway, recovering an address. -/
def Accepts (store : Verifier.MemoryNonceStore) (request : VerifyRequest)
    (addr : Verifier.Address) : Prop :=
  ∀ correlationID, ∃ cid, (Verifier.verifySignature d.eth d.state store
      (d.arrival x correlationID request.body)).1 = Verifier.afterClaim cid addr (.ok true)

/-- A payment the verifier accepts is verified. -/
theorem runIn_verifyPayment {t : Served} {signature nonce : List UInt8} {timestamp : UInt64}
    {addr : Verifier.Address}
    (h : d.Accepts x t.store (verifyRequest d.settings.env signature nonce timestamp) addr)
    (c : Context) :
  ∃ store, (verifyPayment d.settings c signature nonce timestamp).runIn (d.answer x) t
    = (.ok ({
        isValid := true
        recoveredAddress := bytes (Verifier.debugAddress addr)
        error := []
        errorCode := [] }, paymentContext d.settings.env nonce timestamp), { t with store := store })
  := by
  obtain ⟨cid, hreply⟩ := h c.correlationID
  have hverify : ∃ store, (perform (.verify c.correlationID
      (verifyRequest d.settings.env signature nonce timestamp).body)).runIn (d.answer x) t
        = (.answered 200 (SerdeJson.toVec (Verifier.afterClaim cid addr (.ok true)).body.json) false,
          { t with store := store }) := by
    rw [Gateway.perform, runIn_perform, answer, hreply]
    exact ⟨_, rfl⟩
  obtain ⟨store, hverify⟩ := hverify
  use store
  simp only [verifyPayment, runIn_bind, hverify, readAnswer_toVec]
  rfl

/-- A request that asks for a text to be summarized: it carries a payment, and its body arrives. -/
structure Asking (r : HttpRequest) (timestamp : UInt64) (text : List UInt8) : Prop where
  signed : r.signature ≠ []
  numbered : r.nonce ≠ []
  stamped : readTimestamp r.timestamp = some timestamp
  fits : r.body.received.length ≤ maxBodySize
  declared : r.contentLength ≤ maxBodySize
  arrives : r.body.broken = false
  reads : readSummarizeRequest r.body.received = some text
  asks : text ≠ []

/-- A request to be served: the verifier accepts its payment. -/
structure Due (d : Deployment) (x : Surroundings) (store : Verifier.MemoryNonceStore)
    (r : HttpRequest) (timestamp : UInt64) (text : List UInt8) (addr : Verifier.Address) : Prop
    extends Asking r timestamp text where
  accepted : d.Accepts x store (verifyRequest d.settings.env r.signature r.nonce timestamp) addr

/-- The handlers of a request are at work: nothing is answered yet, and the verifier was not
asked. -/
structure AtWork (store : Verifier.MemoryNonceStore) (r : HttpRequest) (c : Context) (t : Served) :
    Prop where
  request : c.request = r
  correlation : ∃ id, c.correlationID = some id ∧ IsIdFor r.correlationID id
  store : t.store = store
  response : t.response = none

section Asking

variable {r : HttpRequest} {timestamp : UInt64} {text : List UInt8}

theorem readTimestamp_ne_nil {header : List UInt8} (h : readTimestamp header = some timestamp) :
  header ≠ []
  := by
  rintro rfl
  cases h

/-- The body of a request that asks for a text is read. -/
theorem Asking.readAll (h : Asking r timestamp text) :
  r.body.readAll = .ok r.body.received
  := by
  rw [RequestBody.readAll, if_neg (Nat.not_lt.mpr h.fits), h.arrives]
  rfl

/-- Putting a result into the cache leaves the response as it is. -/
theorem runIn_storeResult (c : Context) (cacheKey : List UInt8) (t : Served) :
  (storeResult c cacheKey).runIn (d.answer x) t = (c, t)
  := by
  rw [storeResult]
  split
  · rfl
  · rfl

variable (d x) in
/-- The result for a text that the cache has. -/
def inCache (text : List UInt8) : Option CachedResponse :=
  if getCacheEnabled d.settings.env && d.settings.redisClient then
    (x.cached (getCacheKey text (getModel d.settings.env))).bind readCachedResponse
  else none

/-- The middleware answers from the cache, or leaves the request to the handler. -/
theorem Asking.runIn_cacheMiddleware (h : Asking r timestamp text)
    {store : Verifier.MemoryNonceStore} {P : Served → Prop}
    (henabled : getCacheEnabled d.settings.env = true)
    (hserve : ∀ c t cached, AtWork store r c t → d.inCache x text = some cached →
      P ((serveCached d.settings c r.body.received cached).runIn (d.answer x) t).2)
    (hhandle : ∀ c t, AtWork store r c t → d.inCache x text = none →
      requestBodyOf c = .ok r.body.received →
      P ((handleSummarize d.settings (runHandlers []) c).runIn (d.answer x) t).2)
    {c : Context} {t : Served} (hwork : AtWork store r c t) (hbody : c.body = r.body)
    (hread : c.requestBody = none) :
  P ((runHandlers [cacheMiddleware d.settings, handleSummarize d.settings] c).runIn (d.answer x) t).2
  := by
  have hfinal : ∀ {c' : Context} {t' : Served},
      (cacheMiddleware d.settings (runHandlers [handleSummarize d.settings]) c).runIn (d.answer x) t
        = (c', t') → c'.finished = true →
      ((runHandlers [cacheMiddleware d.settings, handleSummarize d.settings] c).runIn
        (d.answer x) t).2 = t' := by
    intro c' t' hrun hfinished
    rw [runIn_handler (by rw [hrun, hfinished]), hrun]
  cases hclient : d.settings.redisClient with
  | false =>
      have hnone : d.inCache x text = none := by
        rw [inCache, hclient, Bool.and_false]
        rfl
      have hnext : cacheMiddleware d.settings (runHandlers [handleSummarize d.settings]) c
          = runHandlers [handleSummarize d.settings] c := by
        rw [cacheMiddleware, if_pos hclient]
      rw [hfinal (by rw [hnext]) (finished_runHandlers _ _ _), runIn_lastHandler]
      apply hhandle c t hwork hnone
      rw [requestBodyOf, hread, hbody]
      exact h.readAll
  | true =>
      have hlook : d.inCache x text
          = (x.cached (getCacheKey text (getModel d.settings.env))).bind readCachedResponse := by
        rw [inCache, henabled, hclient]
        rfl
      generalize hnext : runHandlers [handleSummarize d.settings] = next at hfinal
      generalize hc₁ : ({ c with
          requestBody := some r.body.received
          body := { received := r.body.received, broken := false } } : Context) = c₁
      have hlookup : (getFromCache (getCacheKey text (getModel d.settings.env))).runIn (d.answer x) t
          = (d.inCache x text, t) := by
        rw [hlook]
        rfl
      have hwork₁ : AtWork store r c₁ t := by
        rw [← hc₁]
        exact ⟨hwork.request, hwork.correlation, hwork.store, hwork.response⟩
      cases hcached : d.inCache x text with
      | some cached =>
          have hrun : (cacheMiddleware d.settings next c).runIn (d.answer x) t
              = (((serveCached d.settings c₁ r.body.received cached).runIn (d.answer x) t).1.abort,
                ((serveCached d.settings c₁ r.body.received cached).runIn (d.answer x) t).2) := by
            simp only [cacheMiddleware, hclient, hwork.request, h.signed, h.numbered, or_self, if_false,
              hbody, h.readAll, h.reads, h.asks, Int.not_lt.mpr h.declared, Bool.true_eq_false, ← hc₁,
              runIn_bind, hlookup, hcached, runIn_pure]
          rw [hfinal hrun rfl]
          exact hserve c₁ t cached hwork₁ hcached
      | none =>
          have hrun : (cacheMiddleware d.settings next c).runIn (d.answer x) t
              = (next { c₁ with captured := some [] }).runIn (d.answer x) t := by
            simp only [cacheMiddleware, hclient, hwork.request, h.signed, h.numbered, or_self, if_false,
              hbody, h.readAll, h.reads, h.asks, Int.not_lt.mpr h.declared, Bool.true_eq_false, ← hc₁,
              runIn_bind, hlookup, hcached, runIn_storeResult]
          have hfinished : ((next { c₁ with captured := some [] }).runIn (d.answer x) t).1.finished
              = true := by
            rw [← hnext]
            exact finished_runHandlers _ _ _
          rw [hfinal hrun hfinished, ← hnext, runIn_lastHandler]
          apply hhandle { c₁ with captured := some [] } t _ hcached
          · rw [requestBodyOf, ← hc₁]
          · exact ⟨hwork₁.request, hwork₁.correlation, hwork₁.store, hwork₁.response⟩

/-- What a request that asks for a text comes to is decided by the cache, if it has the text, and
by the handler otherwise. -/
theorem Asking.handle (h : Asking r timestamp text) {store : Verifier.MemoryNonceStore}
    {P : Served → Prop}
    (hserve : ∀ c t cached, AtWork store r c t → d.inCache x text = some cached →
      P ((serveCached d.settings c r.body.received cached).runIn (d.answer x) t).2)
    (hhandle : ∀ c t, AtWork store r c t → d.inCache x text = none →
      requestBodyOf c = .ok r.body.received →
      P ((handleSummarize d.settings (runHandlers []) c).runIn (d.answer x) t).2) :
  P (d.handle x store r)
  := by
  rw [Deployment.handle, summarize, summarizeHandlers]
  split
  · rename_i henabled
    obtain ⟨id, n, hid, hrun⟩ := runIn_correlationIDMiddleware (d := d) (x := x)
      [cacheMiddleware d.settings, handleSummarize d.settings] (.init r)
      { reads := 0, store := store, headers := [], response := none }
    rw [hrun]
    apply h.runIn_cacheMiddleware henabled hserve hhandle
    · exact ⟨rfl, ⟨id, rfl, hid⟩, rfl, rfl⟩
    · rfl
    · rfl
  · rename_i hdisabled
    obtain ⟨id, n, hid, hrun⟩ := runIn_correlationIDMiddleware (d := d) (x := x)
      [handleSummarize d.settings] (.init r)
      { reads := 0, store := store, headers := [], response := none }
    rw [hrun, runIn_lastHandler]
    apply hhandle
    · exact ⟨rfl, ⟨id, rfl, hid⟩, rfl, rfl⟩
    · rw [inCache, Bool.not_eq_true _ |>.mp hdisabled]
      rfl
    · exact h.readAll

end Asking

/-- The response is a result, and a receipt of the payment for it. -/
def Delivered (d : Deployment) (payment : PaymentContext) (payer path requestBody result : List UInt8)
    (t : Served) : Prop :=
  ∃ b now receipt header rest,
    generateReceipt d.settings.crypto d.settings.env (some b) now payment payer path requestBody
        (GoJson.marshal (textObject [("result", result)])) = .ok receipt
      ∧ receiptHeader receipt = some header
      ∧ t.headers = ("X-402-Receipt", utf8 header) :: rest
      ∧ t.response = some (200, GoJson.marshal (textObject [("result", result)]))

section Due

variable {r : HttpRequest} {timestamp : UInt64} {text : List UInt8} {addr : Verifier.Address}
  {store : Verifier.MemoryNonceStore} {key : d.settings.crypto.PrivateKey}

/-- The payment context of a request. -/
def paid (d : Deployment) (r : HttpRequest) (timestamp : UInt64) : PaymentContext :=
  paymentContext d.settings.env r.nonce timestamp

variable (d x) in
/-- What is delivered for a text: the result in the cache, or what the provider makes of it. -/
def result (text : List UInt8) : List UInt8 :=
  match d.inCache x text with
  | some cached => cached.result
  | none => x.provider text

/-- The handler of the route delivers what the provider makes of the text. -/
theorem Due.runIn_handleSummarize (h : Due d x store r timestamp text addr)
    (hkey : Issues d.settings key) (hx : x.Timely)
    (hgiven : ∀ t ∈ givenStrings (d.paid r timestamp) (bytes (Verifier.debugAddress addr)) r.path,
      t ≠ [])
    {c : Context} {t : Served} (hwork : AtWork store r c t)
    (hbody : requestBodyOf c = .ok r.body.received) :
  d.Delivered (d.paid r timestamp) (bytes (Verifier.debugAddress addr)) r.path r.body.received
    (x.provider text) ((handleSummarize d.settings (runHandlers []) c).runIn (d.answer x) t).2
  := by
  obtain ⟨rfl, -, rfl, ht⟩ := hwork
  obtain ⟨store, hverify⟩ := runIn_verifyPayment h.accepted c
  obtain ⟨b, now, receipt, header, reads, hreceipt, hheader, hrun⟩ := runIn_generateAndSendReceipt
    (d := d) (x := x) hkey hx (c := c) hgiven c.request.body.received (x.provider text)
    { t with store := store }
  have haddr : bytes (Verifier.debugAddress addr) ≠ [] := fun hnil =>
    hgiven _ (List.mem_cons_self) hnil
  have hhandle : ((handleSummarize d.settings (runHandlers []) c).runIn (d.answer x) t).2
      = ((generateAndSendReceipt d.settings c (d.paid c.request timestamp)
          (bytes (Verifier.debugAddress addr)) c.request.body.received (x.provider text)).runIn
        (d.answer x) { t with store := store }).2 := by
    simp only [handleSummarize, h.signed, h.numbered, or_self, if_false,
      readTimestamp_ne_nil h.stamped, h.stamped, hbody, runIn_bind, hverify, Bool.true_eq_false, haddr,
      h.reads, h.asks]
    rfl
  rw [hhandle, hrun]
  refine ⟨b, now, receipt, header, t.headers, hreceipt, hheader, rfl, ?_⟩
  simp only [ht, Option.none_or]

/-- The middleware delivers a cached result. -/
theorem Due.runIn_serveCached (h : Due d x store r timestamp text addr)
    (hkey : Issues d.settings key) (hx : x.Timely)
    (hgiven : ∀ t ∈ givenStrings (d.paid r timestamp) (bytes (Verifier.debugAddress addr)) r.path,
      t ≠ [])
    {c : Context} {t : Served} (hwork : AtWork store r c t) (cached : CachedResponse) :
  d.Delivered (d.paid r timestamp) (bytes (Verifier.debugAddress addr)) r.path r.body.received
    cached.result ((serveCached d.settings c r.body.received cached).runIn (d.answer x) t).2
  := by
  obtain ⟨rfl, -, rfl, ht⟩ := hwork
  obtain ⟨store, hverify⟩ := runIn_verifyPayment h.accepted c
  obtain ⟨b, now, receipt, header, reads, hreceipt, hheader, hrun⟩ := runIn_generateAndSendReceipt
    (d := d) (x := x) hkey hx (c := c) hgiven c.request.body.received cached.result
    { t with store := store }
  have haddr : bytes (Verifier.debugAddress addr) ≠ [] := fun hnil =>
    hgiven _ (List.mem_cons_self) hnil
  have hserve : ((serveCached d.settings c c.request.body.received cached).runIn (d.answer x) t).2
      = ((generateAndSendReceipt d.settings c (d.paid c.request timestamp)
          (bytes (Verifier.debugAddress addr)) c.request.body.received cached.result).runIn
        (d.answer x) { t with store := store }).2 := by
    simp only [serveCached, if_false, readTimestamp_ne_nil h.stamped, h.stamped, runIn_bind, hverify,
      Bool.true_eq_false, haddr]
    rfl
  rw [hserve, hrun]
  refine ⟨b, now, receipt, header, t.headers, hreceipt, hheader, rfl, ?_⟩
  simp only [ht, Option.none_or]

/-- A request that is due is answered with the result for its text and a receipt of its payment. -/
theorem Due.handle (h : Due d x store r timestamp text addr) (hkey : Issues d.settings key)
    (hx : x.Timely)
    (hgiven : ∀ t ∈ givenStrings (d.paid r timestamp) (bytes (Verifier.debugAddress addr)) r.path,
      t ≠ []) :
  d.Delivered (d.paid r timestamp) (bytes (Verifier.debugAddress addr)) r.path r.body.received
    (d.result x text) (d.handle x store r)
  := by
  apply h.toAsking.handle
  · intro c t cached hwork hcached
    rw [result, hcached]
    exact h.runIn_serveCached hkey hx hgiven hwork cached
  · intro c t hwork hnone hbody
    rw [result, hnone]
    exact h.runIn_handleSummarize hkey hx hgiven hwork hbody

end Due

end Deployment

end Paygate
