import Paygate.Base.JsonWords
import Paygate.Protocol.Deployment

/-!
# An honest call resolves

A client that is challenged by the gateway, has the payment context signed by its wallet and
sends the request again is answered with the result for its text and a receipt that it verifies:
if the services share their settings, the challenge is still fresh, its nonce is unclaimed, and
the texts of the settings are plain.
-/

namespace Base64

/-- An encoding is a text of characters below 128. -/
theorem encode_ascii (bs : List UInt8) : ∀ c ∈ encode bs, c.toNat < 128
  := by
  have hdigit : ∀ c, isDigit c = true → c.toNat < 128 := by
    intro c hc
    by_contra hlarge
    have hnone : decodeDigit c = none := by
      have hlt : ∀ d : Char, d.toNat < 128 → ¬ c ≤ d := fun d hd hcd => by
        have : c.toNat ≤ d.toNat := hcd
        omega
      have hne : ∀ d : Char, d.toNat < 128 → c ≠ d := fun d hd hcd => hlt d hd (hcd ▸ Nat.le_refl _)
      simp only [decodeDigit, hlt 'Z' (by decide), hlt 'z' (by decide), hlt '9' (by decide),
        hne '+' (by decide), hne '/' (by decide), and_false, if_false]
    rw [isDigit, hnone] at hc
    cases hc
  obtain ⟨s, k, hencode, hall, -⟩ := exists_encode_eq bs
  intro c hc
  rw [hencode] at hc
  obtain hc | hc := List.mem_append.mp hc
  · exact hdigit c (List.all_eq_true.mp hall c hc)
  · rw [List.eq_of_mem_replicate hc]
    decide

end Base64

namespace Paygate

open Text Json JsJson Program

/-! ### Headers on the wire -/

/-- A header that is not sent is read as empty. -/
theorem receivedHeader_of_absent {headers : Sdk.Headers} {name : String}
    (h : ∀ e ∈ headers, Sdk.toLowerCase e.1 ≠ Sdk.toLowerCase (units name)) :
  receivedHeader headers name = []
  := by
  rw [receivedHeader, Sdk.valuesOf_eq_nil h]

/-- A header that is sent with a single value is read with it. -/
theorem receivedHeader_of_single {headers : Sdk.Headers} {name : String} {x : List Char}
    (h : Sdk.valuesOf headers (units name) = [utf16 x]) (hx : IsVisible x) :
  receivedHeader headers name = utf8 x
  := by
  have hjoined : List.intercalate (units ", ") [utf16 x] = utf16 x := by
    simp only [List.intercalate, List.intersperse_singleton, List.flatten_singleton]
  rw [receivedHeader, h]
  simp only [hjoined, headerBytes_utf16 hx, Option.getD_some]

/-- The headers a user gives can be sent, and leave the payment headers to the client. -/
def LeavesPayment (given : Sdk.Headers) : Prop :=
  ∀ h ∈ given, (headerBytes h.2).isSome
    ∧ ∀ name ∈ Sdk.signedNames, Sdk.toLowerCase h.1 ≠ Sdk.toLowerCase name

section Headers

open Sdk.PaygateClient (spread)

variable {given : Sdk.Headers} {ctx : Sdk.PaymentContext} {signature : List UInt16}

/-- The headers of the first request. -/
def firstHeaders (given : Sdk.Headers) : Sdk.Headers :=
  spread (spread (Sdk.defaultHeaders true) given) []

/-- The headers of the signed retry. -/
def retryHeaders (given : Sdk.Headers) (ctx : Sdk.PaymentContext) (signature : List UInt16) :
    Sdk.Headers :=
  spread (spread (Sdk.defaultHeaders true) given) (Sdk.buildSignedHeaders ctx signature)

/-- A header that is sent is the default one, one the user gives, or a signed one. -/
theorem mem_base {extra : Sdk.Headers} {h : List UInt16 × List UInt16}
    (hmem : h ∈ spread (spread (Sdk.defaultHeaders true) given) extra) :
  h = (units "Content-Type", units "application/json") ∨ h ∈ given ∨ h ∈ extra
  := by
  rcases Sdk.of_mem_spread hmem with ⟨hbase, -⟩ | hextra
  · rcases Sdk.of_mem_spread hbase with ⟨hdefault, -⟩ | hgiven
    · exact .inl (Sdk.mem_defaultHeaders.mp hdefault).2
    · exact .inr (.inl hgiven)
  · exact .inr (.inr hextra)

/-- No payment header is sent but those of the client. -/
theorem LeavesPayment.base (h : LeavesPayment given) {name : List UInt16}
    (hname : name ∈ Sdk.signedNames) :
  ∀ e ∈ spread (spread (Sdk.defaultHeaders true) given) [],
    Sdk.toLowerCase e.1 ≠ Sdk.toLowerCase name
  := by
  intro e he
  rcases mem_base he with rfl | hgiven | hnil
  · exact Sdk.signedNames_ne_contentType hname
  · exact (h e hgiven).2 name hname
  · cases hnil

/-- The first request carries no payment. -/
theorem LeavesPayment.first (h : LeavesPayment given) :
  receivedHeader (firstHeaders given) "X-402-Signature" = []
  := by
  apply receivedHeader_of_absent
  exact h.base (by decide)

/-- The signed retry carries the signed headers with their values. -/
theorem LeavesPayment.retry (h : LeavesPayment given) {name : String} {x : List Char}
    (hmem : (units name, utf16 x) ∈ Sdk.buildSignedHeaders ctx signature) (hx : IsVisible x) :
  receivedHeader (retryHeaders given ctx signature) name = utf8 x
  := by
  have hname : units name ∈ Sdk.signedNames := Sdk.mem_signedNames hmem
  apply receivedHeader_of_single _ hx
  apply Sdk.valuesOf_eq_singleton (Sdk.nodup_merged given _ true)
    (Sdk.mem_spread_of_extra (Sdk.nodup_buildSignedHeaders ctx signature) hmem _)
  intro e he heq
  rcases mem_base he with rfl | hgiven | hsigned
  · exact absurd heq (Sdk.signedNames_ne_contentType hname)
  · exact absurd heq ((h e hgiven).2 _ hname)
  · exact Sdk.signedNames_inj (Sdk.mem_signedNames hsigned) hname heq

/-- Everything that is sent can be sent. -/
theorem LeavesPayment.sendable (h : LeavesPayment given) {extra : Sdk.Headers}
    (hextra : ∀ e ∈ extra, (headerBytes e.2).isSome) :
  ∀ e ∈ spread (spread (Sdk.defaultHeaders true) given) extra, (headerBytes e.2).isSome
  := by
  intro e he
  rcases mem_base he with rfl | hgiven | hmem
  · decide
  · exact (h e hgiven).1
  · exact hextra e hmem

end Headers

/-! ### The honest parties -/

/-- The request the gateway makes for a payment context that was signed. -/
def signedRequest (w : Wallet) (p : Gateway.PaymentContext) (digest : Verifier.Digest) :
    Gateway.VerifyRequest where
  context := p
  signature := utf8 ('0' :: 'x' :: hexEncode (w.sign digest).toList)

/-- The verifier reads what the gateway asks about a challenge that was signed. -/
def Deployment.Reads (d : Deployment) (w : Wallet) : Prop :=
  ∀ random unix digest, 0 < unix → unix < 2 ^ 53 →
    (signedRequest w (Gateway.createPaymentContext d.settings.env random unix) digest).body.length
      ≤ d.state.maxBodySize

/-- The services share their settings, the gateway issues receipts the client trusts, the verifier
reads what the gateway asks, and the texts of the settings are plain. -/
structure Configured (d : Deployment) (eth : Sdk.Ethers) (w : Wallet)
    (key : d.settings.crypto.PrivateKey) (trusted : List UInt16) : Prop where
  wallet : w.Agrees d.eth
  packages : Agree d.settings.crypto eth
  issues : Issues d.settings key
  trusts : trusted ≠ []
    ∧ eth.computePublicKey trusted = some (d.settings.crypto.publicKeyBytes key)
  chain : 0 < Gateway.getChainID d.settings.env ∧ Gateway.getChainID d.settings.env < 2 ^ 53
  expected : Gateway.getChainID d.settings.env = d.state.expectedChainId.toNat
  recipient : IsPlainText (Gateway.getRecipientAddress d.settings.env)
  amount : IsPlainText (Gateway.getPaymentAmount d.settings.env)
  reads : d.Reads w

/-! ### The size of what the gateway asks -/

/-- What the gateway asks takes the bytes of its parts. -/
theorem length_body (r : Gateway.VerifyRequest) :
  r.body.length
    = 91 + (GoJson.marshal (.str r.context.recipient)).length
      + (GoJson.marshal (.str r.context.token)).length
      + (GoJson.marshal (.str r.context.amount)).length
      + (GoJson.marshal (.str r.context.nonce)).length
      + (decimalInt r.context.chainId).length
      + (decimal r.context.timestamp.toNat).length
      + (GoJson.marshal (.str r.signature)).length
  := by
  have hchain := length_utf8_of_ascii (decimalInt_ascii r.context.chainId)
  have hstamp := length_utf8_of_ascii (decimal_ascii r.context.timestamp.toNat)
  have hmark : ∀ c ∈ ['\x7b', '\x7d', ':', ','], (String.utf8EncodeChar c).length = 1 := by decide
  have hkey : ∀ k ∈ [("context", 9), ("recipient", 11), ("token", 7), ("amount", 8), ("nonce", 7),
      ("chainId", 9), ("timestamp", 11), ("signature", 11)],
      (utf8 (GoJson.quote (bytes k.1))).length = k.2 := by decide
  simp only [List.forall_mem_cons, List.not_mem_nil, false_implies, implies_true, and_true]
    at hmark hkey
  simp only [Gateway.VerifyRequest.body, Gateway.VerifyRequest.json, Gateway.PaymentContext.json,
    GoJson.marshal, print, printMembers, utf8_append, utf8_cons, utf8_nil, List.length_append,
    List.length_nil, hmark, hkey, hchain, hstamp]
  omega

/-- A text of digits is written as it is. -/
theorem escapeChar_of_mem_hexEncode (bs : List UInt8) :
  ∀ c ∈ hexEncode bs, escapeChar GoJson.named c = [c] ∧ c.toNat < 128
  := forall_mem_hexEncode (by decide) bs

/-- What the gateway asks about a challenge takes as much as its recipient, its amount, its chain
and its time. -/
theorem length_signedRequest_body (w : Wallet) (env : Gateway.Env) (random : Vector UInt8 16)
    {unix : Int} (hunix : 0 < unix) (hunix' : unix < 2 ^ 53) (digest : Verifier.Digest) :
  (signedRequest w (Gateway.createPaymentContext env random unix) digest).body.length
    = 269 + (GoJson.marshal (.str (Gateway.getRecipientAddress env))).length
      + (GoJson.marshal (.str (Gateway.getPaymentAmount env))).length
      + (decimalInt (Gateway.getChainID env)).length + (decimal unix.toNat).length
  := by
  have htoken : (GoJson.marshal (.str (bytes "USDC"))).length = 6 := by decide
  have hnonce : (GoJson.marshal (.str (utf8 (Gateway.uuidString random)))).length = 38 := by
    rw [length_marshal_str (forall_mem_uuidString escapeChar_of_mem_hexEncode (by decide) _)]
    simp [Gateway.uuidString, hexEncode_length]
  have hsignature : (GoJson.marshal (.str (utf8 ('0' :: 'x' :: hexEncode (w.sign digest).toList)))).length
      = 134 := by
    rw [length_marshal_str]
    · simp [hexEncode_length]
    · exact List.forall_mem_cons.mpr ⟨by decide, List.forall_mem_cons.mpr
        ⟨by decide, escapeChar_of_mem_hexEncode _⟩⟩
  have hstamp : (UInt64.ofInt unix).toNat = unix.toNat :=
    toNat_timestamp_createPaymentContext env random hunix hunix'
  rw [length_body]
  simp only [signedRequest, hsignature, Gateway.createPaymentContext, Gateway.paymentContext, htoken,
    hnonce, hstamp]
  omega

/-- The verifier reads what the gateway asks exactly if there is room for the recipient, the amount
and the chain of the settings. -/
theorem Deployment.reads_iff (d : Deployment) (w : Wallet) :
  d.Reads w ↔ 285 + (GoJson.marshal (.str (Gateway.getRecipientAddress d.settings.env))).length
      + (GoJson.marshal (.str (Gateway.getPaymentAmount d.settings.env))).length
      + (decimalInt (Gateway.getChainID d.settings.env)).length ≤ d.state.maxBodySize
  := by
  constructor
  · intro hreads
    -- A time of sixteen digits takes the most room.
    have hlong := hreads (Vector.replicate 16 0) (10 ^ 15) (Vector.replicate 32 0) (by decide) (by decide)
    have hdigits : (decimal ((10 : Int) ^ 15).toNat).length = 16 := by decide
    rw [length_signedRequest_body w _ _ (by decide) (by decide), hdigits] at hlong
    omega
  · intro hroom random unix digest hunix hunix'
    have hdigits : (decimal unix.toNat).length ≤ 16 := by
      rw [decimal, Nat.length_toDigits_le_iff (by decide) (by decide)]
      omega
    rw [length_signedRequest_body w _ _ hunix hunix']
    omega

/-! ### A call -/

/-- A request to the paid route with a body that the gateway reads a text from. -/
structure AsksFor {TBody : Type} (stringify : TBody → Except Unit (Option (List Char)))
    (request : Sdk.PaygateRequest TBody) (bodyText : List Char) (text : List UInt8) : Prop where
  method : request.method = units "POST"
  path : request.path.takeWhile (fun u => u ≠ 0x3F && u ≠ 0x23) = units "/api/ai/summarize"
  headers : LeavesPayment request.headers
  body : ∃ b, request.body = some b ∧ stringify b = .ok (some bodyText)
  reads : Gateway.readSummarizeRequest (utf8 bodyText) = some text
  asks : text ≠ []
  fits : (utf8 bodyText).length ≤ Gateway.maxBodySize

/-- Whatever is challenged with, the wallet signs it, and the verifier finds it fresh. -/
def Signable (d : Deployment) (w : Wallet) (x y : Surroundings) : Prop :=
  ∀ n m, ∃ digest,
    w.digest (Sdk.buildPaymentTypedData (receivedPaymentContext
        (Gateway.createPaymentContext d.settings.env (x.uuid n) (x.now m).unix))) = some digest
      ∧ Verifier.validateTimestampInternal (some (UInt64.ofInt (x.now m).unix))
          d.state.signatureExpirySeconds d.state.clockSkewSeconds
          (Verifier.unixSeconds y.verifierClock) = .ok ()

/-- The hash under which the verifier stores the nonce that is made of random bytes. -/
def issuedKey (d : Deployment) (random : Vector UInt8 16) : Verifier.Digest :=
  Verifier.nonceKey d.eth (String.ofList (Gateway.uuidString random))

/-- The signer of a client with a wallet. -/
def Wallet.signer (w : Wallet) : Sdk.PaymentSigner :=
  fun td => (w.signTypedData td).elim (.error .platform) .ok

/-- A client of the deployed gateway that trusts a key. -/
def honestClient (d : Deployment) (eth : Sdk.Ethers) (gatewayUrl : List UInt16) (w : Wallet)
    (x : Nat → Surroundings) (store : Nat → Verifier.MemoryNonceStore) (trusted : List UInt16) :
    Sdk.PaygateClient :=
  .ofOptions eth gatewayUrl w.signer (d.fetcher (Sdk.trimSlashes gatewayUrl) x store) none
    (some trusted)

section Run

variable {d : Deployment} {eth : Sdk.Ethers} {gatewayUrl : List UInt16} {w : Wallet}
  {key : d.settings.crypto.PrivateKey} {x : Nat → Surroundings}
  {store : Nat → Verifier.MemoryNonceStore} {trusted : List UInt16} {TBody : Type}
  {stringify : TBody → Except Unit (Option (List Char))} {request : Sdk.PaygateRequest TBody}
  {bodyText : List Char} {text : List UInt8}

/-! ### What is sent -/

/-- What `fetch` is given for the headers. -/
def callInit (request : Sdk.PaygateRequest TBody) (bodyText : List Char) (headers : Sdk.Headers) :
    Sdk.RequestInit where
  method := request.method
  headers := headers
  body := some bodyText

/-- The path of the request starts with a slash. -/
theorem AsksFor.slash (h : AsksFor stringify request bodyText text) :
  units "/" <+: request.path ∧ Sdk.isAbsolute request.path = false
  := by
  obtain ⟨-, hpath, -⟩ := h
  cases hcases : request.path with
  | nil =>
      rw [hcases] at hpath
      cases hpath
  | cons u path =>
      rw [hcases, List.takeWhile_cons] at hpath
      split at hpath
      · obtain ⟨hu, -⟩ := List.cons.inj hpath
        subst hu
        exact ⟨List.prefix_append (units "/") path, rfl⟩
      · cases hpath

theorem AsksFor.buildUrl (h : AsksFor stringify request bodyText text) :
  (honestClient d eth gatewayUrl w x store trusted).buildUrl request.path
    = .ok (Sdk.trimSlashes gatewayUrl ++ request.path)
  := by
  rw [Sdk.PaygateClient.buildUrl, h.slash.2, Sdk.withSlash, if_pos h.slash.1]
  rfl

theorem AsksFor.serialize (h : AsksFor stringify request bodyText text) :
  Sdk.PaygateClient.serializeRequestBody stringify request.body = .ok (some bodyText)
  := by
  obtain ⟨b, hb, hstringify⟩ := h.body
  rw [hb, Sdk.PaygateClient.serializeRequestBody, hstringify]
  rfl

theorem AsksFor.init (h : AsksFor stringify request bodyText text) (extra : Sdk.Headers) :
  Sdk.PaygateClient.buildRequestInit stringify request extra (some bodyText)
    = .ok (callInit request bodyText (Sdk.PaygateClient.spread
        (Sdk.PaygateClient.spread (Sdk.defaultHeaders true) request.headers) extra))
  := by
  obtain ⟨b, hb, -⟩ := h.body
  rw [Sdk.PaygateClient.buildRequestInit_eq_ok h.serialize, hb]
  rfl

theorem AsksFor.endpoint (h : AsksFor stringify request bodyText text) :
  Sdk.PaygateClient.buildReceiptEndpoint request.path = units "/api/ai/summarize"
  := by
  have hne : units "/api/ai/summarize" ≠ [] := by decide
  rw [Sdk.PaygateClient.buildReceiptEndpoint, h.path]
  simp only [hne, if_false]
  rw [Sdk.withSlash, if_pos]
  decide

/-- The request goes to the paid route. -/
theorem AsksFor.isForRoute (h : AsksFor stringify request bodyText text) {extra : Sdk.Headers}
    (hextra : ∀ e ∈ extra, (headerBytes e.2).isSome) :
  IsForRoute (Sdk.trimSlashes gatewayUrl) (Sdk.trimSlashes gatewayUrl ++ request.path)
    (callInit request bodyText (Sdk.PaygateClient.spread
        (Sdk.PaygateClient.spread (Sdk.defaultHeaders true) request.headers) extra))
  := by
  refine ⟨?_, h.method, h.headers.sendable hextra⟩
  rw [urlPath, if_pos (List.prefix_append _ _), List.drop_left, h.path]

/-- A client fetches what the deployed gateway answers. -/
theorem fetchOrThrow_of_handle {n : Nat} {url : List UInt16} {init : Sdk.RequestInit}
    {response : Sdk.Response} (hroute : IsForRoute (Sdk.trimSlashes gatewayUrl) url init)
    (h : (d.handle (x n) (store n) (receivedHttpRequest init)).receive = some response) :
  (honestClient d eth gatewayUrl w x store trusted).fetchOrThrow n url init = .ok response
  := by
  have hfetch : (honestClient d eth gatewayUrl w x store trusted).fetcher n url init = some response := by
    rw [← h]
    exact if_pos hroute
  rw [Sdk.PaygateClient.fetchOrThrow, hfetch]

/-! ### The challenge -/

/-- The payment context of a challenge the gateway may issue. -/
def issued (d : Deployment) (x : Surroundings) (n m : Nat) : Gateway.PaymentContext :=
  Gateway.createPaymentContext d.settings.env (x.uuid n) (x.now m).unix

variable (gatewayUrl x store trusted) in
/-- The first request is challenged. -/
theorem AsksFor.challenged (h : AsksFor stringify request bodyText text)
    (hconf : Configured d eth w key trusted) (hx : (x 0).Timely) :
  ∃ n m response, (honestClient d eth gatewayUrl w x store trusted).fetchOrThrow 0
      (Sdk.trimSlashes gatewayUrl ++ request.path)
      (callInit request bodyText (firstHeaders request.headers)) = .ok response
    ∧ response.Challenges (receivedPaymentContext (issued d (x 0) n m))
  := by
  obtain ⟨n, m, hresponse, -⟩ := Deployment.handle_unpaid (d := d) (x := x 0)
    (r := receivedHttpRequest (callInit request bodyText (firstHeaders request.headers)))
    h.headers.first (store 0)
  obtain ⟨hunix, hunix', -⟩ := hx m
  have htimestamp := toNat_timestamp_createPaymentContext d.settings.env ((x 0).uuid n) hunix hunix'
  have hreceive : (d.handle (x 0) (store 0) (receivedHttpRequest
      (callInit request bodyText (firstHeaders request.headers)))).receive
        = some {
            status := 402
            headers := fun name => ((d.handle (x 0) (store 0) (receivedHttpRequest (callInit request
              bodyText (firstHeaders request.headers)))).headers.find? fun h => h.1 = name).map
                fun h => latin1 h.2
            body := some (GoJson.marshal (issued d (x 0) n m).challenge) } := by
    rw [Served.receive, hresponse]
    rfl
  refine ⟨n, m, _, fetchOrThrow_of_handle (h.isForRoute (List.forall_mem_nil _)) hreceive, rfl, _, rfl,
    ?_⟩
  apply paymentContextOf_challenge
  · exact hconf.chain.1
  · exact hconf.chain.2
  · rw [issued, htimestamp]
    omega
  · rw [issued, htimestamp]
    omega

/-! ### The retry -/

/-- The verifier accepts the payment context that was signed. -/
theorem Configured.accepts (hconf : Configured d eth w key trusted) {x' y : Surroundings}
    {store' : Verifier.MemoryNonceStore} {n m : Nat} {digest : Verifier.Digest}
    (hdigest : w.digest (Sdk.buildPaymentTypedData (receivedPaymentContext (issued d x' n m)))
      = some digest)
    (hsize : (signedRequest w (issued d x' n m) digest).body.length ≤ d.state.maxBodySize)
    (hfresh : Verifier.validateTimestampInternal (some (issued d x' n m).timestamp)
      d.state.signatureExpirySeconds d.state.clockSkewSeconds
      (Verifier.unixSeconds y.verifierClock) = .ok ())
    (hunclaimed : store'.usedNonces.lookup
      (Verifier.nonceKey d.eth (receivedText (issued d x' n m).nonce)) = none) :
  d.Accepts y store' (signedRequest w (issued d x' n m) digest) w.address
  := by
  intro correlationID
  have hclaim : Verifier.beforeClaim d.eth d.state (Verifier.unixSeconds y.verifierClock)
      (Verifier.correlationId correlationID)
      (Verifier.readBody d.state d.display (signedRequest w (issued d x' n m) digest).body)
        = .ok (receivedRequest (signedRequest w (issued d x' n m) digest) d.state.expectedChainId,
          w.address) :=
    beforeClaim_receivedRequest hconf.wallet hconf.expected hdigest rfl d.display _ hsize hfresh
  have hgranted := claimMemoryNonce_of_unclaimed hunclaimed y.verifierClock
    (Verifier.nonceRetentionTtl d.state)
  use Verifier.correlationId correlationID
  simp only [Verifier.verifySignature, Deployment.arrival, hclaim]
  congr 2

/-- The strings a receipt of an issued payment context is made of are plain texts. -/
theorem Configured.plain (hconf : Configured d eth w key trusted) (x' : Surroundings) (n m : Nat) :
  ∀ t ∈ givenStrings (issued d x' n m) (bytes (Verifier.debugAddress w.address))
      (bytes "/api/ai/summarize"), IsPlainText t
  := by
  have htoken : IsPlainText (bytes "USDC") := isPlainText_utf8 (by decide) (by unfold IsPlain; decide)
  have hpath : IsPlainText (bytes "/api/ai/summarize") :=
    isPlainText_utf8 (by decide) (by unfold IsPlain; decide)
  have hpayer : IsPlainText (bytes (Verifier.debugAddress w.address)) := by
    have hplain : IsPlain ("0x".toList ++ hexEncode w.address.toList) :=
      isPlain_append (by unfold IsPlain; decide) (isPlain_hexEncode _)
    rw [bytes, Verifier.debugAddress, String.toList_ofList]
    exact isPlainText_utf8 (List.cons_ne_nil _ _) hplain
  have hnonce : IsPlainText (issued d x' n m).nonce := by
    apply isPlainText_utf8
    · simp [Gateway.uuidString]
    · exact forall_mem_uuidString (fun bs => isPlain_hexEncode bs) (by decide) _
  simp only [givenStrings, List.forall_mem_cons]
  exact ⟨hpayer, hconf.recipient, hconf.amount, htoken, hnonce, hpath, List.forall_mem_nil _⟩

/-- The headers of the signed retry are read with their values. -/
theorem LeavesPayment.received_retry {given : Sdk.Headers} (h : LeavesPayment given)
    {ctx : Sdk.PaymentContext} {nonce signature : List Char} (hnonce : ctx.nonce = utf16 nonce)
    (hvisible : IsVisible nonce) (hvisible' : IsVisible signature) :
  receivedHeader (retryHeaders given ctx (utf16 signature)) "X-402-Signature" = utf8 signature
    ∧ receivedHeader (retryHeaders given ctx (utf16 signature)) "X-402-Nonce" = utf8 nonce
    ∧ receivedHeader (retryHeaders given ctx (utf16 signature)) "X-402-Timestamp"
      = utf8 (decimal ctx.timestamp)
  := by
  have hmem : ∀ e ∈ [(units "X-402-Signature", utf16 signature), (units "X-402-Nonce", utf16 nonce),
      (units "X-402-Timestamp", utf16 (decimal ctx.timestamp))],
      e ∈ Sdk.buildSignedHeaders ctx (utf16 signature) := by
    rw [Sdk.buildSignedHeaders, hnonce]
    exact fun _ he => he
  simp only [List.forall_mem_cons, List.not_mem_nil, false_implies, implies_true, and_true] at hmem
  obtain ⟨hsignature, hnonce', htimestamp⟩ := hmem
  exact ⟨h.retry hsignature hvisible', h.retry hnonce' hvisible, h.retry htimestamp (isVisible_decimal _)⟩

/-- What is fetched, as it arrives at the gateway. -/
theorem receivedHttpRequest_callInit (request : Sdk.PaygateRequest TBody) (bodyText : List Char)
    (headers : Sdk.Headers) :
  receivedHttpRequest (callInit request bodyText headers) = {
    path := bytes "/api/ai/summarize"
    signature := receivedHeader headers "X-402-Signature"
    nonce := receivedHeader headers "X-402-Nonce"
    timestamp := receivedHeader headers "X-402-Timestamp"
    correlationID := receivedHeader headers "X-Correlation-ID"
    contentLength := (utf8 bodyText).length
    body := { received := utf8 bodyText, broken := false } }
  := rfl

variable (gatewayUrl x store trusted) in
/-- The signed retry is answered with the result and a receipt. -/
theorem AsksFor.retried (h : AsksFor stringify request bodyText text)
    (hconf : Configured d eth w key trusted) (hx : ∀ n, (x n).Timely) {n m : Nat}
    {digest : Verifier.Digest}
    (haccepts : d.Accepts (x 1) (store 1) (signedRequest w (issued d (x 0) n m) digest) w.address) :
  ∃ response, (honestClient d eth gatewayUrl w x store trusted).fetchOrThrow 1
      (Sdk.trimSlashes gatewayUrl ++ request.path)
      (callInit request bodyText (retryHeaders request.headers
        (receivedPaymentContext (issued d (x 0) n m)) (Sdk.hexlify (w.sign digest).toList)))
        = .ok response
    ∧ response.status = 200
    ∧ response.body = some (GoJson.marshal (Gateway.textObject [("result", d.result (x 1) text)]))
    ∧ ∃ b now receipt header,
      Gateway.generateReceipt d.settings.crypto d.settings.env (some b) now (issued d (x 0) n m)
          (bytes (Verifier.debugAddress w.address)) (bytes "/api/ai/summarize") (utf8 bodyText)
          (GoJson.marshal (Gateway.textObject [("result", d.result (x 1) text)])) = .ok receipt
        ∧ Gateway.receiptHeader receipt = some header
        ∧ response.headers "X-402-Receipt" = some header
  := by
  obtain ⟨hunix, hunix', -⟩ := hx 0 m
  have htimestamp := toNat_timestamp_createPaymentContext d.settings.env ((x 0).uuid n) hunix hunix'
  generalize hr : receivedHttpRequest (callInit request bodyText (retryHeaders request.headers
      (receivedPaymentContext (issued d (x 0) n m)) (Sdk.hexlify (w.sign digest).toList))) = r
  have hctx : (receivedPaymentContext (issued d (x 0) n m)).nonce
      = utf16 (Gateway.uuidString ((x 0).uuid n)) :=
    nonce_createPaymentContext d.settings.env ((x 0).uuid n) ((x 0).now m).unix
  obtain ⟨hsignature, hnonce, hstamp⟩ := h.headers.received_retry hctx (isVisible_uuidString _)
    (isVisible_hex (w.sign digest).toList)
  rw [receivedHttpRequest_callInit, Sdk.hexlify] at hr
  replace hsignature : r.signature = utf8 ('0' :: 'x' :: hexEncode (w.sign digest).toList) := by
    rw [← hr]
    exact hsignature
  replace hnonce : r.nonce = utf8 (Gateway.uuidString ((x 0).uuid n)) := by
    rw [← hr]
    exact hnonce
  replace hstamp : r.timestamp = utf8 (decimal (issued d (x 0) n m).timestamp.toNat) := by
    rw [← hr]
    exact hstamp
  have hpaid : d.paid r (issued d (x 0) n m).timestamp = issued d (x 0) n m := by
    rw [Deployment.paid, hnonce]
    rfl
  have hbody : r.body = { received := utf8 bodyText, broken := false } := by
    rw [← hr]
  have hlength : r.contentLength = (utf8 bodyText).length := by
    rw [← hr]
  have hpath : r.path = bytes "/api/ai/summarize" := by
    rw [← hr]
  have hdue : Deployment.Due d (x 1) (store 1) r (issued d (x 0) n m).timestamp text w.address := by
    have hne : ∀ y : List Char, y ≠ [] → utf8 y ≠ [] :=
      fun y hy hnil => hy (utf8_injective (hnil.trans utf8_nil.symm))
    have hzero : (issued d (x 0) n m).timestamp ≠ 0 := by
      intro hzero
      have : (issued d (x 0) n m).timestamp.toNat = 0 := by rw [hzero]; rfl
      rw [issued, htimestamp] at this
      omega
    have hreq : Gateway.verifyRequest d.settings.env r.signature r.nonce
        (issued d (x 0) n m).timestamp = signedRequest w (issued d (x 0) n m) digest := by
      rw [hsignature, hnonce]
      rfl
    exact {
      signed := by
        rw [hsignature]
        exact hne _ (List.cons_ne_nil _ _)
      numbered := by
        rw [hnonce]
        exact hne _ (by simp [Gateway.uuidString])
      stamped := by
        rw [hstamp, Gateway.readTimestamp, Gateway.parseUint_decimal]
        simp [hzero]
      fits := by
        rw [hbody]
        exact h.fits
      declared := by
        rw [hlength]
        exact Int.ofNat_le.mpr h.fits
      arrives := by rw [hbody]
      reads := by
        rw [hbody]
        exact h.reads
      asks := h.asks
      accepted := by
        rw [hreq]
        exact haccepts }
  have hgiven : ∀ t ∈ givenStrings (d.paid r (issued d (x 0) n m).timestamp)
      (bytes (Verifier.debugAddress w.address)) r.path, t ≠ [] := by
    rw [hpaid, hpath]
    exact fun t ht => (hconf.plain _ _ _ t ht).1
  obtain ⟨b, now, receipt, header, rest, hreceipt, hheader, hheaders, hresponse⟩ :=
    hdue.handle hconf.issues (hx 1) hgiven
  rw [hpaid, hpath, hbody] at hreceipt
  have hascii : latin1 (utf8 header) = header := by
    obtain ⟨v, -, rfl⟩ := Option.map_eq_some_iff.mp hheader
    exact latin1_utf8 (Base64.encode_ascii _)
  have hsendable : ∀ e ∈ Sdk.buildSignedHeaders (receivedPaymentContext (issued d (x 0) n m))
      (Sdk.hexlify (w.sign digest).toList), (headerBytes e.2).isSome := by
    have hvisible : ∀ y : List Char, IsVisible y → (headerBytes (utf16 y)).isSome := fun y hy => by
      rw [headerBytes_utf16 hy]
      rfl
    rw [Sdk.buildSignedHeaders, hctx]
    simp only [List.forall_mem_cons]
    exact ⟨hvisible _ (isVisible_hex _), hvisible _ (isVisible_uuidString _),
      hvisible _ (isVisible_decimal _), List.forall_mem_nil _⟩
  have hreceive : (d.handle (x 1) (store 1) r).receive = some {
      status := 200
      headers := fun name => ((d.handle (x 1) (store 1) r).headers.find? fun h => h.1 = name).map
        fun h => latin1 h.2
      body := some (GoJson.marshal (Gateway.textObject [("result", d.result (x 1) text)])) } := by
    rw [Served.receive, hresponse]
    rfl
  subst hr
  refine ⟨_, fetchOrThrow_of_handle (h.isForRoute hsendable) hreceive, rfl, rfl, b, now, receipt,
    header, hreceipt, hheader, ?_⟩
  simp only [hheaders, List.find?_cons, decide_true, Option.map_some, hascii]

/-! ### The answer -/

variable (gatewayUrl x store trusted) in
/-- The client reads a result and a receipt that was issued for it, and verifies the receipt. -/
theorem AsksFor.readSuccess (h : AsksFor stringify request bodyText text)
    (hconf : Configured d eth w key trusted) {x' : Surroundings} {n m : Nat} {result : List UInt8}
    {response : Sdk.Response} (hstatus : response.status = 200)
    (hbody : response.body = some (GoJson.marshal (Gateway.textObject [("result", result)])))
    {b : Vector UInt8 6} {now : Gateway.Time} {receipt : Gateway.SignedReceipt} {header : List Char}
    (hreceipt : Gateway.generateReceipt d.settings.crypto d.settings.env (some b) now (issued d x' n m)
      (bytes (Verifier.debugAddress w.address)) (bytes "/api/ai/summarize") (utf8 bodyText)
      (GoJson.marshal (Gateway.textObject [("result", result)])) = .ok receipt)
    (hheader : Gateway.receiptHeader receipt = some header)
    (hresponse : response.headers "X-402-Receipt" = some header) :
  (honestClient d eth gatewayUrl w x store trusted).readSuccess response
      (Sdk.PaygateClient.buildReceiptEndpoint request.path) (some bodyText)
    = .ok {
        data := .obj [(units "result", .str (received result))]
        receipt := some (receivedReceipt receipt)
        receiptVerified := some true
        status := 200 }
  := by
  have hplain := hconf.plain x' n m
  obtain ⟨b', hb, hsign⟩ := Gateway.generateReceipt_eq_ok hreceipt
  have hfields := Gateway.receipt_of_signReceipt hsign
  have hchain : receipt.receipt.payment.chainId = Gateway.getChainID d.settings.env := by
    rw [hfields]
    rfl
  have hpos : 0 < receipt.receipt.payment.chainId := hchain ▸ hconf.chain.1
  have hlt : receipt.receipt.payment.chainId < 2 ^ 53 := hchain ▸ hconf.chain.2
  have hvalid : (receivedReceipt receipt).isValid = true :=
    (isValid_receivedReceipt hsign (hconf.chain.1)).mpr fun t ht => received_ne_nil (hplain t ht)
  have hdecode : Sdk.decodeReceiptHeader header = some (receivedReceipt receipt) := by
    rw [decodeReceiptHeader_eq hheader hpos hlt, Option.filter_some, if_pos hvalid]
  have hne : header ≠ [] := by
    rintro rfl
    cases hdecode
  -- The text of the body, which the client hashes, is encoded as the body the gateway hashed.
  obtain ⟨bodyText', htext, hencode⟩ : ∃ y, textDecode (GoJson.marshal
      (Gateway.textObject [("result", result)])) = y
        ∧ GoJson.marshal (Gateway.textObject [("result", result)]) = utf8 y := by
    refine ⟨_, rfl, ?_⟩
    rw [GoJson.marshal, textDecode_utf8]
    simp [Gateway.textObject, print, utf8EncodeChar_of_lt (show '{'.toNat < 128 by decide)]
  have hdata : JsJson.parse bodyText' = some (.obj [(units "result", .str (received result))]) := by
    have hobject : (Json.obj [(bytes "result", .str result)]).Valid := by
      simp [Valid, ValidMembers]
    rw [← htext, Gateway.textObject, List.map_singleton, parse_textDecode_marshal hobject]
    simp [Json.map, mapMembers]
  have hhash : ∀ y : List Char, received (Gateway.hashData (utf8 y))
      = Sdk.PaygateClient.hashBody (some y) := by
    intro y
    obtain ⟨z, hz, hz'⟩ := sameText_hashBody (some y)
    rw [hz', ← received_utf8, ← hz]
    rfl
  have hmatch : Sdk.PaygateClient.receiptMatchesPayload (receivedReceipt receipt)
      (Sdk.PaygateClient.buildReceiptEndpoint request.path) (some bodyText) bodyText' = true := by
    rw [h.endpoint, Sdk.PaygateClient.receiptMatchesPayload, receivedReceipt, hfields,
      ← hhash bodyText, ← hhash bodyText', ← hencode]
    simp [Gateway.newReceipt]
  have hsame := sameReceipt_newReceipt hfields hplain
  have hbytes : receipt.receipt.json.map GoJson.marshal
      = some (utf8 (Sdk.serializeReceiptForGateway (receivedReceipt receipt).receipt)) := by
    obtain ⟨key', v, sig, -, hv, -⟩ := Gateway.signReceipt_eq_ok hsign
    rw [← hfields] at hv
    rw [hv, Option.map_some, hsame.marshal_eq hv]
  have hverify : Sdk.verifyReceipt eth (receivedReceipt receipt) (some trusted) = true := by
    apply verifyReceipt_receivedReceipt hconf.packages hsign hconf.issues.loads hconf.trusts.1
      hconf.trusts.2 hvalid
    rw [← hfields]
    exact hbytes
  have hok : response.text = .ok bodyText' := by
    rw [Sdk.Response.text, hbody, ← htext]
  have hread : Sdk.readReceipt response = .ok (some (receivedReceipt receipt)) := by
    rw [Sdk.readReceipt, hresponse]
    split
    · contradiction
    · rename_i hnil
      exact absurd (Option.some.inj hnil) hne
    · rename_i header' _ hheader'
      obtain rfl := Option.some.inj hheader'
      rw [hdecode]
  simp only [honestClient, Sdk.PaygateClient.ofOptions, Sdk.PaygateClient.readSuccess, hok, Bind.bind,
    Except.bind, hdata, Option.getD_none, Sdk.microAIPaygateProtocol, hread, hmatch, hverify,
    Bool.not_true, Bool.false_eq_true, if_false, hstatus]

end Run

/-- A call that is challenged and whose retry succeeds comes to what its answer is read as. -/
theorem request_of_retry {client : Sdk.PaygateClient} {TBody : Type}
    {stringify : TBody → Except Unit (Option (List Char))} {request : Sdk.PaygateRequest TBody}
    {requestBodyText : Option (List Char)} {url signature : List UInt16} {ctx : Sdk.PaymentContext}
    {firstInit retryInit : Sdk.RequestInit} {first retry : Sdk.Response}
    (hprotocol : client.protocol = Sdk.microAIPaygateProtocol)
    (hurl : client.buildUrl request.path = .ok url)
    (htext : Sdk.PaygateClient.serializeRequestBody stringify request.body = .ok requestBodyText)
    (hfirstInit : Sdk.PaygateClient.buildRequestInit stringify request [] requestBodyText
      = .ok firstInit)
    (hfirst : client.fetchOrThrow 0 url firstInit = .ok first) (hchallenge : first.Challenges ctx)
    (hsign : client.signer (Sdk.buildPaymentTypedData ctx) = .ok signature)
    (hretryInit : Sdk.PaygateClient.buildRequestInit stringify request
      (Sdk.buildSignedHeaders ctx signature) requestBodyText = .ok retryInit)
    (hretry : client.fetchOrThrow 1 url retryInit = .ok retry) (hok : retry.ok = true) :
  client.request stringify request
    = client.readSuccess retry (Sdk.PaygateClient.buildReceiptEndpoint request.path) requestBodyText
  := by
  have hread := Sdk.PaygateClient.readPaymentContext_of_challenges hchallenge
  have hstatus : ¬ first.status ≠ 402 := not_not.mpr hchallenge.1
  simp only [Sdk.PaygateClient.request, hurl, htext, hfirstInit, hfirst, hstatus, if_false, hprotocol,
    Sdk.microAIPaygateProtocol, hread, hsign, hretryInit, hretry, hok, Bool.not_true,
    Bool.false_eq_true, Bind.bind, Except.bind]

/-- A call resolves if the nonce it is challenged with is unclaimed when it is sent again.  The
client is challenged, its wallet signs the challenge, and the retry is answered with the result for
the text, from the cache or else from the provider, and with a receipt of the payment, which the
client verifies. -/
theorem AsksFor.resolves {d : Deployment} {eth : Sdk.Ethers} (gatewayUrl : List UInt16)
    {w : Wallet} {key : d.settings.crypto.PrivateKey} {x : Nat → Surroundings}
    (store : Nat → Verifier.MemoryNonceStore) {trusted : List UInt16} {TBody : Type}
    {stringify : TBody → Except Unit (Option (List Char))} {request : Sdk.PaygateRequest TBody}
    {bodyText : List Char} {text : List UInt8} (hask : AsksFor stringify request bodyText text)
    (hconf : Configured d eth w key trusted) (hx : ∀ n, (x n).Timely)
    (hsignable : Signable d w (x 0) (x 1))
    (hunclaimed : ∀ n, (store 1).usedNonces.lookup (issuedKey d ((x 0).uuid n)) = none) :
  ∃ receipt : Sdk.SignedReceipt,
    (honestClient d eth gatewayUrl w x store trusted).request stringify request
        = .ok {
            data := .obj [(units "result", .str (received (d.result (x 1) text)))]
            receipt := some receipt
            receiptVerified := some true
            status := 200 }
      ∧ receipt.receipt.payment.payer = units (Verifier.debugAddress w.address)
      ∧ receipt.receipt.payment.recipient
        = received (Gateway.getRecipientAddress d.settings.env)
      ∧ receipt.receipt.payment.amount = received (Gateway.getPaymentAmount d.settings.env)
  := by
  obtain ⟨n, m, first, hfirst, hchallenge⟩ := hask.challenged gatewayUrl x store trusted hconf (hx 0)
  obtain ⟨digest, hdigest, hfresh⟩ := hsignable n m
  have hsize := hconf.reads ((x 0).uuid n) _ digest (hx 0 m).1 (hx 0 m).2.1
  have haccepts : d.Accepts (x 1) (store 1) (signedRequest w (issued d (x 0) n m) digest) w.address := by
    apply hconf.accepts hdigest hsize hfresh
    rw [issued, Gateway.createPaymentContext, Gateway.paymentContext, receivedText_utf8]
    exact hunclaimed n
  obtain ⟨retry, hretry, hstatus, hbody, b, now, receipt, header, hreceipt, hheader, hresponse⟩ :=
    hask.retried gatewayUrl x store trusted hconf hx haccepts
  have hanswer := hask.readSuccess gatewayUrl x store trusted hconf hstatus hbody hreceipt hheader
    hresponse
  have hsign : w.signer (Sdk.buildPaymentTypedData (receivedPaymentContext (issued d (x 0) n m)))
      = .ok (Sdk.hexlify (w.sign digest).toList) := by
    rw [issued, Wallet.signer, Wallet.signTypedData, hdigest]
    rfl
  obtain ⟨b', hb, hsigned⟩ := Gateway.generateReceipt_eq_ok hreceipt
  have hfields := Gateway.receipt_of_signReceipt hsigned
  refine ⟨receivedReceipt receipt, ?_, ?_, ?_, ?_⟩
  · rw [request_of_retry rfl hask.buildUrl hask.serialize (hask.init []) hfirst hchallenge hsign
      (hask.init _) hretry (by rw [Sdk.Response.ok, hstatus]; rfl), hanswer]
  · have hpayer : receipt.receipt.payment.payer = bytes (Verifier.debugAddress w.address) := by
      rw [hfields]
      rfl
    rw [receivedReceipt, hpayer, received_bytes]
  · rw [receivedReceipt, hfields]
    rfl
  · rw [receivedReceipt, hfields]
    rfl

end Paygate
