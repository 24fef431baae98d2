import Paygate.Base.Sha256
import Paygate.Sdk.Payment

/-!
# The SDK client

`PaygateClient.request` sends a request, pays for it when it is challenged, and checks the
receipt of the answer.  The server is the function `fetcher`, which answers each of the
exchanges in any way; the protocol adapter is a parameter of the client, as it is in the
source.
-/

namespace Paygate.Sdk

open Text Json

/-! ### Requests and responses -/

/-- The headers of a request, by name. -/
abbrev Headers := List (List UInt16 × List UInt16)

/-- What is given to `fetch`. -/
structure RequestInit where
  method : List UInt16
  headers : Headers
  body : Option (List Char)
  deriving DecidableEq, Repr

/-- A response: its status, its header values and its body, which may fail to arrive. -/
structure Response where
  status : Nat
  headers : String → Option (List Char)
  body : Option (List UInt8)

/-- Whether the status is one of success. -/
def Response.ok (r : Response) : Bool :=
  200 ≤ r.status && r.status ≤ 299

/-- The kinds of errors of the SDK. -/
inductive PaygateSdkErrorCode where
  | paymentChallengeMissing
  | paymentSignatureFailed
  | signedRetryFailed
  | receiptDecodeFailed
  | receiptVerificationFailed
  | networkError
  deriving DecidableEq, Repr

/-- What a call throws: an error of the SDK or an error of the platform. -/
inductive Thrown where
  | sdk (code : PaygateSdkErrorCode) (message : String) (status : Option Nat)
      (bodyText : Option (List Char))
  | platform
  deriving DecidableEq, Repr

/-- The text of a response. -/
def Response.text (r : Response) : Except Thrown (List Char) :=
  match r.body with
  | some bs => .ok (textDecode bs)
  | none => .error .platform

/-- What the user asks for. -/
structure PaygateRequest (TBody : Type) where
  method : List UInt16
  path : List UInt16
  body : Option TBody
  headers : Headers

/-- What the user is answered. -/
structure PaygateResponse where
  data : Json (List UInt16)
  receipt : Option SignedReceipt
  receiptVerified : Option Bool
  status : Nat

/-! ### Protocol adapters -/

/-- The wallet that signs typed data. -/
abbrev PaymentSigner := TypedData (List UInt16) → Except Thrown (List UInt16)

/-- The parts of the client that are specific to a protocol. -/
structure PaygateProtocolAdapter where
  readPaymentContext : Response → Except Thrown PaymentContext
  signPaymentContext : PaymentSigner → PaymentContext → Except Thrown (List UInt16)
  buildSignedHeaders : PaymentContext → List UInt16 → Headers
  readReceipt : Response → Except Thrown (Option SignedReceipt)

/-- The payment context of a challenge. -/
def readPaymentContext (response : Response) : Except Thrown PaymentContext := do
  let bodyText ← response.text
  match JsJson.parse bodyText with
  | none =>
      .error (.sdk .paymentChallengeMissing "402 response did not contain JSON paymentContext"
        (some response.status) (some bodyText))
  | some _ =>
      match paymentContextOf bodyText with
      | none =>
          .error (.sdk .paymentChallengeMissing "402 response is missing a valid paymentContext"
            (some response.status) (some bodyText))
      | some paymentContext => .ok paymentContext

/-- The receipt of a response: none if the header is absent or empty. -/
def readReceipt (response : Response) : Except Thrown (Option SignedReceipt) :=
  match response.headers "X-402-Receipt" with
  | none | some [] => .ok none
  | some header =>
      match decodeReceiptHeader header with
      | some receipt => .ok (some receipt)
      | none =>
          .error (.sdk .receiptDecodeFailed
            "Failed to decode X-402-Receipt as a gateway SignedReceipt" none none)

/-- The protocol of the gateway. -/
def microAIPaygateProtocol : PaygateProtocolAdapter where
  readPaymentContext := readPaymentContext
  signPaymentContext signer ctx := signer (buildPaymentTypedData ctx)
  buildSignedHeaders := buildSignedHeaders
  readReceipt := readReceipt

/-! ### The client -/

/-- A client.  `fetcher n` is how the platform and the server answer the `n`-th exchange. -/
structure PaygateClient where
  eth : Ethers
  gatewayUrl : List UInt16
  signer : PaymentSigner
  fetcher : Nat → List UInt16 → RequestInit → Option Response
  protocol : PaygateProtocolAdapter
  trustedServerPublicKey : Option (List UInt16)

/-- A URL without its trailing slashes. -/
def trimSlashes (url : List UInt16) : List UInt16 :=
  (url.reverse.dropWhile (· = 0x2F)).reverse

/-- A client with the given options.  The protocol is that of the gateway by default. -/
def PaygateClient.ofOptions (eth : Ethers) (gatewayUrl : List UInt16) (signer : PaymentSigner)
    (fetcher : Nat → List UInt16 → RequestInit → Option Response)
    (protocol : Option PaygateProtocolAdapter) (trustedServerPublicKey : Option (List UInt16)) :
    PaygateClient where
  eth := eth
  gatewayUrl := trimSlashes gatewayUrl
  signer := signer
  fetcher := fetcher
  protocol := protocol.getD microAIPaygateProtocol
  trustedServerPublicKey := trustedServerPublicKey

/-- Whether a unit is one of the letters `a` to `z` in either case. -/
def isLetter (u : UInt16) : Bool :=
  (0x61 ≤ u && u ≤ 0x7A) || (0x41 ≤ u && u ≤ 0x5A)

/-- Whether a unit may stand in the scheme of a URL. -/
def isSchemeUnit (u : UInt16) : Bool :=
  isLetter u || (0x30 ≤ u && u ≤ 0x39) || u = 0x2B || u = 0x2D || u = 0x2E

/-- Whether a path starts with a scheme and `://`. -/
def isAbsolute : List UInt16 → Bool
  | [] => false
  | u :: s => isLetter u && units "://" <+: s.dropWhile isSchemeUnit

/-- A path that starts with a slash. -/
def withSlash (path : List UInt16) : List UInt16 :=
  if units "/" <+: path then path else units "/" ++ path

namespace PaygateClient

variable (client : PaygateClient)

/-- The URL of a path. -/
def buildUrl (path : List UInt16) : Except Thrown (List UInt16) :=
  if isAbsolute path then
    .error (.sdk .networkError "Request path must be relative to the configured gatewayUrl" none none)
  else .ok (client.gatewayUrl ++ withSlash path)

/-- The endpoint a receipt should name for a path. -/
def buildReceiptEndpoint (path : List UInt16) : List UInt16 :=
  let pathWithoutQuery := path.takeWhile fun u => u ≠ 0x3F && u ≠ 0x23
  if pathWithoutQuery = [] then units "/" else withSlash pathWithoutQuery

section Body

variable {TBody : Type} (stringify : TBody → Except Unit (Option (List Char)))

/-- The text of a request body.  `stringify` is what `JSON.stringify` makes of a value: it
may throw, and it gives no text for a value that has none. -/
def serializeRequestBody (body : Option TBody) : Except Thrown (Option (List Char)) :=
  match body with
  | none => .ok none
  | some body =>
      (stringify body).mapError fun _ =>
        .sdk .networkError "Failed to serialize request body as JSON" none none

/-- The record with a header set: in its place if the record has its name, else at the end. -/
def setHeader (headers : Headers) (h : List UInt16 × List UInt16) : Headers :=
  if ∃ e ∈ headers, e.1 = h.1 then headers.map fun e => if e.1 = h.1 then h else e
  else headers ++ [h]

/-- The headers of `extra` over those of `base`. -/
def spread (base extra : Headers) : Headers :=
  extra.foldl setHeader base

/-- What is given to `fetch` for a request. -/
def buildRequestInit (request : PaygateRequest TBody) (extraHeaders : Headers)
    (requestBodyText : Option (List Char)) : Except Thrown RequestInit := do
  let body ← match requestBodyText with
    | some text => .ok (some text)
    | none => serializeRequestBody stringify request.body
  let contentType : Headers :=
    if request.body.isNone then [] else [(units "Content-Type", units "application/json")]
  .ok {
    method := request.method
    headers := spread (spread contentType request.headers) extraHeaders
    body := body }

/-- An exchange with the server. -/
def fetchOrThrow (n : Nat) (url : List UInt16) (init : RequestInit) : Except Thrown Response :=
  match client.fetcher n url init with
  | some response => .ok response
  | none => .error (.sdk .networkError "Network error while calling gateway" none none)

/-- The name and the hash of a text; no text counts as no bytes. -/
def hashBody (bodyText : Option (List Char)) : List UInt16 :=
  units "sha256:" ++ (hexlify (Sha256.sum256 ((bodyText.map utf8).getD []))).drop 2

/-- Whether a receipt is about an endpoint, a request body and a response body. -/
def receiptMatchesPayload (receipt : SignedReceipt) (endpoint : List UInt16)
    (requestBodyText : Option (List Char)) (responseBodyText : List Char) : Bool :=
  receipt.receipt.service.endpoint = endpoint
    && receipt.receipt.service.requestHash = hashBody requestBodyText
    && receipt.receipt.service.responseHash = hashBody (some responseBodyText)

/-- What the user is answered on success. -/
def readSuccess (response : Response) (endpoint : List UInt16)
    (requestBodyText : Option (List Char)) : Except Thrown PaygateResponse := do
  let bodyText ← response.text
  match JsJson.parse bodyText with
  | none =>
      .error (.sdk .networkError "Gateway returned invalid JSON" (some response.status)
        (some bodyText))
  | some data =>
      match ← client.protocol.readReceipt response with
      | none =>
          .ok { data := data, receipt := none, receiptVerified := none, status := response.status }
      | some receipt =>
          if !receiptMatchesPayload receipt endpoint requestBodyText bodyText then
            .error (.sdk .receiptVerificationFailed
              "Gateway receipt does not match the request and response payload"
              (some response.status) none)
          else
            let receiptVerified :=
              match client.trustedServerPublicKey with
              | none => false
              | some key => verifyReceipt client.eth receipt (some key)
            if !receiptVerified then
              if client.trustedServerPublicKey.isNone then
                .ok {
                  data := data
                  receipt := some receipt
                  receiptVerified := some false
                  status := response.status }
              else
                .error (.sdk .receiptVerificationFailed "Gateway receipt signature did not verify"
                  (some response.status) none)
            else
              .ok {
                data := data
                receipt := some receipt
                receiptVerified := some receiptVerified
                status := response.status }

/-- Send a request; if it is challenged, sign the payment context and send it again. -/
def request (request : PaygateRequest TBody) : Except Thrown PaygateResponse := do
  let url ← client.buildUrl request.path
  let requestBodyText ← serializeRequestBody stringify request.body
  let endpoint := buildReceiptEndpoint request.path
  let firstInit ← buildRequestInit stringify request [] requestBodyText
  let firstResponse ← client.fetchOrThrow 0 url firstInit
  if firstResponse.status ≠ 402 then
    if !firstResponse.ok then
      .error (.sdk .networkError "Gateway request failed" (some firstResponse.status)
        (some (← firstResponse.text)))
    else client.readSuccess firstResponse endpoint requestBodyText
  else
    let paymentContext ← client.protocol.readPaymentContext firstResponse
    match client.protocol.signPaymentContext client.signer paymentContext with
    | .error _ =>
        .error (.sdk .paymentSignatureFailed "Failed to sign payment context" none none)
    | .ok signature =>
        let signedHeaders := client.protocol.buildSignedHeaders paymentContext signature
        let retryInit ← buildRequestInit stringify request signedHeaders requestBodyText
        let retryResponse ← client.fetchOrThrow 1 url retryInit
        if !retryResponse.ok then
          .error (.sdk .signedRetryFailed "Signed retry failed" (some retryResponse.status)
            (some (← retryResponse.text)))
        else client.readSuccess retryResponse endpoint requestBodyText

/-! ### What a call comes to -/

variable {client stringify}

/-- The body that is sent is the text of the request body. -/
theorem body_of_buildRequestInit {request : PaygateRequest TBody} {extraHeaders : Headers}
    {requestBodyText : Option (List Char)} {init : RequestInit}
    (htext : serializeRequestBody stringify request.body = .ok requestBodyText)
    (h : buildRequestInit stringify request extraHeaders requestBodyText = .ok init) :
  init.body = requestBodyText
  := by
  cases requestBodyText with
  | none =>
      simp only [buildRequestInit, htext, bind, Except.bind] at h
      rw [← Except.ok.inj h]
  | some text =>
      simp only [buildRequestInit, bind, Except.bind] at h
      rw [← Except.ok.inj h]

theorem fetcher_of_fetchOrThrow {n : Nat} {url : List UInt16} {init : RequestInit}
    {response : Response} (h : client.fetchOrThrow n url init = .ok response) :
  client.fetcher n url init = some response
  := by
  unfold fetchOrThrow at h
  split at h
  · rename_i hfetch
    rw [hfetch, Except.ok.inj h]
  · cases h

/-- A call that succeeds reads the answer to one of its exchanges, in which it sent the text
of the request body. -/
theorem request_eq_ok {request : PaygateRequest TBody} {result : PaygateResponse}
    (h : client.request stringify request = .ok result) :
  ∃ url requestBodyText n init response,
    client.buildUrl request.path = .ok url
      ∧ serializeRequestBody stringify request.body = .ok requestBodyText
      ∧ init.body = requestBodyText
      ∧ client.fetcher n url init = some response
      ∧ client.readSuccess response (buildReceiptEndpoint request.path) requestBodyText = .ok result
  := by
  unfold PaygateClient.request at h
  simp only [bind, Except.bind] at h
  split at h
  · cases h
  rename_i url hurl
  split at h
  · cases h
  rename_i text htext
  split at h
  · cases h
  rename_i init hinit
  split at h
  · cases h
  rename_i response hresponse
  have hfetch := fetcher_of_fetchOrThrow hresponse
  have hbody := body_of_buildRequestInit htext hinit
  split at h
  · split at h
    · split at h
      · cases h
      · cases h
    · exact ⟨url, text, 0, init, response, hurl, htext, hbody, hfetch, h⟩
  · split at h
    · cases h
    split at h
    · cases h
    split at h
    · cases h
    rename_i retryInit hretryInit
    split at h
    · cases h
    rename_i retry hretry
    have hfetch := fetcher_of_fetchOrThrow hretry
    have hbody := body_of_buildRequestInit htext hretryInit
    split at h
    · split at h
      · cases h
      · cases h
    · exact ⟨url, text, 1, retryInit, retry, hurl, htext, hbody, hfetch, h⟩

/-- The receipt of an answer counts as verified only if a key is trusted, the receipt is
about the payload and it verifies with the trusted key. -/
theorem readSuccess_verified {response : Response} {endpoint : List UInt16}
    {requestBodyText : Option (List Char)} {result : PaygateResponse}
    (h : client.readSuccess response endpoint requestBodyText = .ok result)
    (hverified : result.receiptVerified = some true) :
  ∃ bodyText receipt trusted, response.text = .ok bodyText
    ∧ JsJson.parse bodyText = some result.data ∧ result.receipt = some receipt
    ∧ receiptMatchesPayload receipt endpoint requestBodyText bodyText = true
    ∧ client.trustedServerPublicKey = some trusted
    ∧ verifyReceipt client.eth receipt (some trusted) = true
  := by
  unfold PaygateClient.readSuccess at h
  simp only [bind, Except.bind] at h
  split at h
  · cases h
  rename_i bodyText htext
  split at h
  · cases h
  rename_i data hdata
  split at h
  · cases h
  split at h
  · rw [← Except.ok.inj h] at hverified
    cases hverified
  rename_i receipt _
  split at h
  · cases h
  rename_i hmatch
  have hmatch := Bool.not_eq_true _ ▸ hmatch
  cases hkey : client.trustedServerPublicKey with
  | none =>
      simp only [hkey, Bool.not_false, if_true, Option.isNone_none] at h
      rw [← Except.ok.inj h] at hverified
      cases hverified
  | some trusted =>
      simp only [hkey, Option.isNone_some, Bool.false_eq_true, if_false] at h
      split at h
      · cases h
      · rename_i hverify
        obtain rfl := Except.ok.inj h
        refine ⟨bodyText, receipt, trusted, htext, hdata, rfl, ?_, rfl, ?_⟩
        · simpa using hmatch
        · simpa using hverify

end Body

end PaygateClient

end Paygate.Sdk
