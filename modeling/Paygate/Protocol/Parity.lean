import Paygate.Protocol.VerifyCodec
import Paygate.Sdk.Payment
import Paygate.Verifier.Memory

/-!
# Parity of the typed data

A payment context goes from the gateway to a client as JSON, comes back in the headers of
the signed retry, is completed by the gateway from its settings and goes on to the verifier
as JSON.  The typed data the verifier rebuilds at the end is the one the client signed, so
that it recovers the address of the client.
-/

namespace Paygate

open Text Json JsJson

/-! ### Headers -/

/-- Whether a byte is white space around a header value. -/
def isHeaderWs (b : UInt8) : Bool :=
  b = 0x09 || b = 0x0A || b = 0x0D || b = 0x20

/-- The bytes of a header value, without the white space around it.  A value with a unit
above 255 is refused. -/
def headerBytes (value : List UInt16) : Option (List UInt8) :=
  if value.all (· < 256) then
    let bs := value.map fun u => UInt8.ofNat u.toNat
    some ((bs.dropWhile isHeaderWs).reverse.dropWhile isHeaderWs).reverse
  else none

/-- The value of a header in a request. -/
def headerOf (headers : List (List UInt16 × List UInt16)) (name : String) : Option (List UInt8) :=
  (headers.find? fun h => h.1 = units name).bind fun h => headerBytes h.2

/-- The request the gateway makes to the verifier for the payment headers of a request. -/
def gatewayRequest (env : Gateway.Env) (headers : List (List UInt16 × List UInt16)) :
    Option Gateway.VerifyRequest := do
  let signature ← headerOf headers "X-402-Signature"
  let nonce ← headerOf headers "X-402-Nonce"
  let timestampHeader ← headerOf headers "X-402-Timestamp"
  if signature = [] ∨ nonce = [] then none
  else
    let timestamp ← Gateway.readTimestamp timestampHeader
    some (Gateway.verifyRequest env signature nonce timestamp)

/-- A text that is sent as it is: visible characters below 127. -/
def IsVisible (x : List Char) : Prop :=
  ∀ c ∈ x, 0x20 < c.toNat ∧ c.toNat < 0x7F

/-- The bytes of a visible text. -/
theorem map_units_of_visible {x : List Char} (h : IsVisible x) :
  (utf16 x).all (· < 256) = true ∧ (utf16 x).map (fun u => UInt8.ofNat u.toNat) = utf8 x
    ∧ ∀ b ∈ utf8 x, isHeaderWs b = false
  := by
  induction x with
  | nil => simp
  | cons c x ih =>
      obtain ⟨⟨hlo, hhi⟩, hx⟩ := List.forall_mem_cons.mp h
      obtain ⟨hall, hmap, hws⟩ := ih hx
      have henc16 : utf16EncodeChar c = [.ofNat c.toNat] := by
        rw [utf16EncodeChar, if_pos (by omega)]
      have henc8 := utf8EncodeChar_of_lt (show c.toNat < 128 by omega)
      have hval16 : (UInt16.ofNat c.toNat).toNat = c.toNat := by
        rw [UInt16.toNat_ofNat', Nat.mod_eq_of_lt (by omega)]
      have hval8 : (UInt8.ofNat c.toNat).toNat = c.toNat := by
        rw [UInt8.toNat_ofNat', Nat.mod_eq_of_lt (by omega)]
      rw [utf16_cons, utf8_cons, henc16, henc8, List.singleton_append, List.singleton_append]
      refine ⟨?_, ?_, ?_⟩
      · have hlt : (UInt16.ofNat c.toNat) < 256 := by
          rw [UInt16.lt_iff_toNat_lt, hval16]
          exact Nat.lt_trans hhi (by decide)
        simp [hlt, hall]
      · rw [List.map_cons, hmap, hval16]
      · have hne : ∀ b : UInt8, b.toNat ≤ 0x20 → UInt8.ofNat c.toNat ≠ b := by
          rintro b hb rfl
          omega
        refine List.forall_mem_cons.mpr ⟨?_, hws⟩
        simp only [isHeaderWs, Bool.or_eq_false_iff, decide_eq_false_iff_not]
        exact ⟨⟨⟨hne 0x09 (by decide), hne 0x0A (by decide)⟩, hne 0x0D (by decide)⟩,
          hne 0x20 (by decide)⟩

theorem dropWhile_eq_self {α : Type} {p : α → Bool} {l : List α} (h : ∀ a ∈ l, p a = false) :
  l.dropWhile p = l
  := by
  cases l with
  | nil => rfl
  | cons a l => simp [h a List.mem_cons_self]

/-- A visible text is sent as its encoding. -/
theorem headerBytes_utf16 {x : List Char} (h : IsVisible x) : headerBytes (utf16 x) = some (utf8 x)
  := by
  obtain ⟨hall, hmap, hws⟩ := map_units_of_visible h
  have hws' : ∀ b ∈ (utf8 x).reverse, isHeaderWs b = false :=
    fun b hb => hws b (List.mem_reverse.mp hb)
  simp only [headerBytes, hall, if_true, hmap, dropWhile_eq_self hws, dropWhile_eq_self hws',
    List.reverse_reverse]

theorem isVisible_append {x y : List Char} (hx : IsVisible x) (hy : IsVisible y) :
  IsVisible (x ++ y)
  := List.forall_mem_append.mpr ⟨hx, hy⟩

theorem isVisible_hexEncode (bs : List UInt8) : IsVisible (hexEncode bs)
  := forall_mem_hexEncode (by decide) bs

theorem isVisible_hex (bs : List UInt8) : IsVisible ('0' :: 'x' :: hexEncode bs)
  := by
  apply isVisible_append (x := ['0', 'x']) _ (isVisible_hexEncode bs)
  unfold IsVisible
  decide

theorem isVisible_decimal (n : Nat) : IsVisible (decimal n)
  := by
  intro c hc
  have hdigit := Char.isDigit_iff_toNat.mp (isDigit_of_mem_decimal hc)
  have hlo : 0x20 < '0'.toNat := by decide
  have hhi : '9'.toNat < 0x7F := by decide
  omega

/-- The text of a UUID is visible. -/
theorem isVisible_uuidString (random : Vector UInt8 16) : IsVisible (Gateway.uuidString random)
  := by
  unfold Gateway.uuidString
  dsimp only
  generalize hb : ((random.set 6 _).set 8 _).toList = bs
  have hhex := isVisible_hexEncode bs
  have hpart : ∀ m n, IsVisible (((hexEncode bs).drop m).take n) :=
    fun m n c hc => hhex c (List.mem_of_mem_drop (List.mem_of_mem_take hc))
  have hdash : ∀ x, IsVisible x → IsVisible ('-' :: x) :=
    fun x hx => List.forall_mem_cons.mpr ⟨by decide, hx⟩
  have hfirst : IsVisible ((hexEncode bs).take 8) := fun c hc => hhex c (List.mem_of_mem_take hc)
  have hlast : IsVisible ((hexEncode bs).drop 20) := fun c hc => hhex c (List.mem_of_mem_drop hc)
  exact isVisible_append (isVisible_append (isVisible_append (isVisible_append hfirst
    (hdash _ (hpart 8 4))) (hdash _ (hpart 12 4))) (hdash _ (hpart 16 4))) (hdash _ hlast)

/-! ### The client -/

/-- A client: how it reads the challenge, the typed data it has signed, and the headers of
its retry. -/
structure HonestClient where
  readPaymentContext : List Char → Option Sdk.PaymentContext
  typedData : Sdk.PaymentContext → TypedData (List UInt16)
  signedHeaders : Sdk.PaymentContext → List UInt16 → List (List UInt16 × List UInt16)

/-- The SDK. -/
def sdkClient : HonestClient where
  readPaymentContext := Sdk.paymentContextOf
  typedData := Sdk.buildPaymentTypedData
  signedHeaders := Sdk.buildSignedHeaders

/-- The web client. -/
def webClient : HonestClient where
  readPaymentContext := Web.paymentContextOf
  typedData := Web.paymentTypedData
  signedHeaders := Web.buildSignedHeaders

/-- A wallet: its address, the digest `ethers` computes of typed data unless it refuses it,
and the signature of a digest. -/
structure Wallet where
  address : Verifier.Address
  digest : TypedData (List UInt16) → Option Verifier.Digest
  sign : Verifier.Digest → Vector UInt8 65

/-- The signature of typed data, as `ethers` writes it. -/
def Wallet.signTypedData (w : Wallet) (td : TypedData (List UInt16)) : Option (List UInt16) :=
  (w.digest td).map fun d => Sdk.hexlify (w.sign d).toList

/-- The two `ethers` packages agree: equal typed data has equal digests, and recovery inverts
signing. -/
structure Wallet.Agrees (w : Wallet) (eth : Verifier.Ethers) : Prop where
  digest : ∀ (td : Verifier.TypedDataJson) d, td.primaryType = "Payment" →
    w.digest (td.toTypedData.map units) = some d →
    ∃ value, eth.typedDataFromValue td = .ok value ∧ eth.encodeEip712 value = .ok d
  recover : ∀ d, ∃ signature,
    eth.signatureFromStr (String.ofList ('0' :: 'x' :: hexEncode (w.sign d).toList))
        = .ok signature
      ∧ eth.recover signature d = .ok w.address

/-- The payment context a client reads where the gateway wrote one. -/
def receivedPaymentContext (p : Gateway.PaymentContext) : Sdk.PaymentContext where
  recipient := received p.recipient
  token := received p.token
  amount := received p.amount
  nonce := received p.nonce
  chainId := p.chainId.toNat
  timestamp := p.timestamp.toNat

/-- The nonce of a challenge, as the client reads it. -/
theorem nonce_createPaymentContext (env : Gateway.Env) (random : Vector UInt8 16) (unix : Int) :
  (receivedPaymentContext (Gateway.createPaymentContext env random unix)).nonce
    = utf16 (Gateway.uuidString random)
  := by
  have hnonce : (Gateway.createPaymentContext env random unix).nonce
      = utf8 (Gateway.uuidString random) := rfl
  rw [receivedPaymentContext, hnonce, received_utf8]

theorem valid_challenge (p : Gateway.PaymentContext) : p.challenge.Valid
  := by
  have hchain := isNumber_decimalInt p.chainId
  have htimestamp := isNumber_decimal p.timestamp.toNat
  simp [Gateway.PaymentContext.challenge, Gateway.PaymentContext.json, Valid, ValidMembers, hchain,
    htimestamp]

/-- A client reads the payment context of a challenge. -/
theorem paymentContextOf_challenge {p : Gateway.PaymentContext} (hchain : 0 < p.chainId)
    (hchain' : p.chainId < 2 ^ 53) (htimestamp : 0 < p.timestamp.toNat)
    (htimestamp' : p.timestamp.toNat < 2 ^ 53) :
  Sdk.paymentContextOf (textDecode (GoJson.marshal p.challenge)) = some (receivedPaymentContext p)
  := by
  have hcontext : Sdk.isPaymentContext ((p.json.map GoJson.pieces).map JsJson.unquote)
      = some (receivedPaymentContext p) := by
    simp [Gateway.PaymentContext.json, Json.map, mapMembers, Sdk.isPaymentContext, Sdk.getString,
      Sdk.getPositiveSafeInteger, Sdk.getSafeInteger, Sdk.asString, Sdk.asSafeInteger,
      safeInteger_decimalInt hchain hchain', safeInteger_decimal htimestamp', hchain,
      htimestamp, receivedPaymentContext]
  have hparse := parse_textDecode_marshal (valid_challenge p)
  rw [Sdk.paymentContextOf, Gateway.PaymentContext.challenge, hparse]
  simp [Json.map, mapMembers, hcontext]

/-- The headers of the retry name the request to the verifier. -/
theorem gatewayRequest_signedHeaders {env : Gateway.Env} {ctx : Sdk.PaymentContext}
    {nonce signature : List Char} {timestamp : UInt64} (hnonce : ctx.nonce = utf16 nonce)
    (htimestamp : ctx.timestamp = timestamp.toNat) (hvisible : IsVisible nonce)
    (hvisible' : IsVisible signature) (hnonce' : nonce ≠ []) (hsignature' : signature ≠ [])
    (hne : timestamp ≠ 0) :
  gatewayRequest env (Sdk.buildSignedHeaders ctx (utf16 signature))
    = some (Gateway.verifyRequest env (utf8 signature) (utf8 nonce) timestamp)
  := by
  have hsig : headerOf (Sdk.buildSignedHeaders ctx (utf16 signature)) "X-402-Signature"
      = some (utf8 signature) := by
    simp [headerOf, Sdk.buildSignedHeaders, headerBytes_utf16 hvisible']
  have hnon : headerOf (Sdk.buildSignedHeaders ctx (utf16 signature)) "X-402-Nonce"
      = some (utf8 nonce) := by
    simp [headerOf, Sdk.buildSignedHeaders, hnonce, headerBytes_utf16 hvisible]
  have hts : headerOf (Sdk.buildSignedHeaders ctx (utf16 signature)) "X-402-Timestamp"
      = some (utf8 (decimal timestamp.toNat)) := by
    simp [headerOf, Sdk.buildSignedHeaders, htimestamp,
      headerBytes_utf16 (isVisible_decimal timestamp.toNat)]
  have hempty : ∀ x : List Char, x ≠ [] → utf8 x ≠ [] :=
    fun x hx h => hx (utf8_injective (h.trans utf8_nil.symm))
  have hread : Gateway.readTimestamp (utf8 (decimal timestamp.toNat)) = some timestamp := by
    simp [Gateway.readTimestamp, Gateway.parseUint_decimal, hne]
  simp only [gatewayRequest, hsig, hnon, hts, hread, Option.bind_eq_bind, Option.bind_some]
  rw [if_neg (by simp [hempty _ hnonce', hempty _ hsignature'])]

/-! ### Parity -/

theorem units_receivedText (s : List UInt8) : units (receivedText s) = received s
  := by
  rw [units, receivedText, String.toList_ofList, received]

/-- The verifier and the client make the same typed data of a payment context. -/
theorem typedData_eq {p : Gateway.PaymentContext} {chainId : UInt64}
    (hchain : p.chainId = chainId.toNat) :
  (Verifier.typedDataJson (receivedContext p chainId)).toTypedData.map units
    = Sdk.buildPaymentTypedData (receivedPaymentContext p)
  := by
  simp [Verifier.typedDataJson, TypedData.map, TypedDataDomain.map, TypedDataField.map,
    PaymentMessage.map, Sdk.buildPaymentTypedData, Sdk.paymentTypedData, receivedContext,
    receivedPaymentContext, units_receivedText, hchain]

/-- The verifier recovers the address of the wallet that signed the typed data. -/
theorem recoverSigner_of_agrees {eth : Verifier.Ethers} {w : Wallet} (hagrees : w.Agrees eth)
    {cid : String} {context : Verifier.PaymentContext} {d : Verifier.Digest}
    (hdigest : w.digest ((Verifier.typedDataJson context).toTypedData.map units) = some d) :
  Verifier.recoverSigner eth cid {
      context := context
      signature := String.ofList ('0' :: 'x' :: hexEncode (w.sign d).toList) }
    = .ok w.address
  := by
  obtain ⟨value, hvalue, hencode⟩ := hagrees.digest _ d rfl hdigest
  obtain ⟨signature, hsignature, hrecover⟩ := hagrees.recover d
  simp only [Verifier.recoverSigner, hvalue, hsignature, Verifier.Ethers.recoverTypedData, hencode,
    bind, Except.bind, hrecover]

/-- A nonce that is not in the store can be claimed. -/
theorem claimMemoryNonce_of_unclaimed {store : Verifier.MemoryNonceStore} {key : Verifier.Digest}
    (h : store.usedNonces.lookup key = none) (now ttl : Nat) :
  (Verifier.claimMemoryNonce store key now ttl).1 = true
  := by
  have hswept : (Verifier.maybeEvictExpiredNonces store now ttl).usedNonces.lookup key = none := by
    unfold Verifier.maybeEvictExpiredNonces
    split
    · exact h
    · apply AList.lookup_retain_eq_none.mpr
      intro b hb
      rw [h] at hb
      cases hb
  simp only [Verifier.claimMemoryNonce, hswept]

theorem toNat_ofInt {i : Int} (h : 0 ≤ i) (h' : i < 2 ^ 64) :
  (UInt64.ofInt i).toNat = i.toNat
  := by
  have hlt : i.toNat < 2 ^ 64 := by omega
  rw [UInt64.ofInt, UInt64.toNat_ofNat', Int.emod_eq_of_lt h h', Nat.mod_eq_of_lt hlt]

/-- A fresh payment context has the Unix time as its timestamp. -/
theorem toNat_timestamp_createPaymentContext (env : Gateway.Env) (random : Vector UInt8 16)
    {unix : Int} (hunix : 0 < unix) (hunix' : unix < 2 ^ 53) :
  (Gateway.createPaymentContext env random unix).timestamp.toNat = unix.toNat
  := toNat_ofInt (by omega) (by omega)

/-- A client that sends back the payment context of a challenge makes the gateway ask about
this payment context. -/
theorem gatewayRequest_challenge (env : Gateway.Env) (random : Vector UInt8 16) {unix : Int}
    (hunix : 0 < unix) (hunix' : unix < 2 ^ 53) {signature : List Char}
    (hvisible : IsVisible signature) (hne : signature ≠ []) :
  gatewayRequest env (Sdk.buildSignedHeaders
      (receivedPaymentContext (Gateway.createPaymentContext env random unix)) (utf16 signature))
    = some {
        context := Gateway.createPaymentContext env random unix
        signature := utf8 signature }
  := by
  have htimestamp := toNat_timestamp_createPaymentContext env random hunix hunix'
  have hzero : (Gateway.createPaymentContext env random unix).timestamp ≠ 0 := by
    intro hzero
    rw [hzero] at htimestamp
    have : (0 : UInt64).toNat = 0 := rfl
    omega
  have hnonce : (receivedPaymentContext (Gateway.createPaymentContext env random unix)).nonce
      = utf16 (Gateway.uuidString random) := nonce_createPaymentContext env random unix
  have huuid : Gateway.uuidString random ≠ [] := by
    simp [Gateway.uuidString]
  rw [gatewayRequest_signedHeaders hnonce rfl (isVisible_uuidString random) hvisible huuid hne hzero]
  rfl

/-- The verifier lets a request of the gateway through to the nonce claim if it carries the
signature of a wallet over its typed data. -/
theorem beforeClaim_receivedRequest {eth : Verifier.Ethers} {state : Verifier.AppState} {w : Wallet}
    (hagrees : w.Agrees eth) {request : Gateway.VerifyRequest}
    (hchain : request.context.chainId = state.expectedChainId.toNat) {d : Verifier.Digest}
    (hdigest : w.digest (Sdk.buildPaymentTypedData (receivedPaymentContext request.context)) = some d)
    (hsignature : request.signature = utf8 ('0' :: 'x' :: hexEncode (w.sign d).toList))
    (display : List UInt8 → String) {now : UInt64} (cid : String)
    (hsize : request.body.length ≤ state.maxBodySize)
    (hfresh : Verifier.validateTimestampInternal (some request.context.timestamp)
      state.signatureExpirySeconds state.clockSkewSeconds now = .ok ()) :
  Verifier.beforeClaim eth state now cid (Verifier.readBody state display request.body)
    = .ok (receivedRequest request state.expectedChainId, w.address)
  := by
  apply Verifier.beforeClaim_ok_iff.mpr
  refine ⟨?_, rfl, hfresh, ?_⟩
  · exact readBody_eq_ok.mpr ⟨hsize, state.expectedChainId, hchain, rfl⟩
  · have hreceived : receivedRequest request state.expectedChainId = {
        context := receivedContext request.context state.expectedChainId
        signature := String.ofList ('0' :: 'x' :: hexEncode (w.sign d).toList) } := by
      simp only [receivedRequest, hsignature, receivedText_utf8]
    rw [hreceived]
    apply recoverSigner_of_agrees hagrees
    rw [typedData_eq hchain]
    exact hdigest

/-- For every payment context the gateway issues, what a client reads of the challenge, has
signed and sends back makes the gateway ask the verifier about the very typed data that was
signed.  Hence a request that fits into a body of the verifier reaches the nonce claim with
the address of the client while its timestamp is fresh, and is answered positively with this
address if the nonce is unclaimed. -/
theorem payment_parity {eth : Verifier.Ethers} {state : Verifier.AppState} {w : Wallet}
    (hagrees : w.Agrees eth) {client : HonestClient} (hclient : client = sdkClient ∨ client = webClient)
    {env : Gateway.Env} (random : Vector UInt8 16) {unix : Int} (hunix : 0 < unix)
    (hunix' : unix < 2 ^ 53) (hchain : 0 < Gateway.getChainID env)
    (hchain' : Gateway.getChainID env < 2 ^ 53)
    (hexpected : Gateway.getChainID env = state.expectedChainId.toNat) :
  ∃ ctx,
    client.readPaymentContext
        (textDecode (GoJson.marshal (Gateway.createPaymentContext env random unix).challenge))
      = some ctx
    ∧ ∀ signature, w.signTypedData (client.typedData ctx) = some signature →
      ∃ request req, gatewayRequest env (client.signedHeaders ctx signature) = some request
        ∧ (SerdeJson.fromSlice request.body).bind Verifier.readVerifyRequest = some req
        ∧ (Verifier.typedDataJson req.context).toTypedData.map units = client.typedData ctx
        ∧ ∀ (display : List UInt8 → String) (store : Verifier.MemoryNonceStore) (clock : Nat)
            (correlationHeader : Option (List UInt8)),
          request.body.length ≤ state.maxBodySize →
          Verifier.validateTimestampInternal req.context.timestamp state.signatureExpirySeconds
            state.clockSkewSeconds (Verifier.unixSeconds clock) = .ok () →
          Verifier.beforeClaim eth state (Verifier.unixSeconds clock)
              (Verifier.correlationId correlationHeader)
              (Verifier.readBody state display request.body) = .ok (req, w.address)
            ∧ (store.usedNonces.lookup (Verifier.nonceKey eth req.context.nonce) = none →
              (Verifier.verifySignature eth state store {
                  clock := clock
                  correlationHeader := correlationHeader
                  payload := Verifier.readBody state display request.body }).1.body = {
                isValid := true
                recoveredAddress := some (Verifier.debugAddress w.address)
                error := none
                errorCode := none })
  := by
  have htimestamp := toNat_timestamp_createPaymentContext env random hunix hunix'
  have hcontext : (Gateway.createPaymentContext env random unix).chainId = Gateway.getChainID env :=
    rfl
  have hsdk : Sdk.paymentContextOf
      (textDecode (GoJson.marshal (Gateway.createPaymentContext env random unix).challenge))
        = some (receivedPaymentContext (Gateway.createPaymentContext env random unix)) := by
    apply paymentContextOf_challenge
    · omega
    · omega
    · omega
    · omega
  have hread : client.readPaymentContext
      (textDecode (GoJson.marshal (Gateway.createPaymentContext env random unix).challenge))
        = some (receivedPaymentContext (Gateway.createPaymentContext env random unix)) := by
    obtain rfl | rfl := hclient
    · exact hsdk
    · exact Web.paymentContextOf_eq_some hsdk
  have htyped : client.typedData = Sdk.buildPaymentTypedData := by
    obtain rfl | rfl := hclient
    · rfl
    · rfl
  have hheaders : client.signedHeaders = Sdk.buildSignedHeaders := by
    obtain rfl | rfl := hclient
    · rfl
    · rfl
  rw [htyped, hheaders]
  refine ⟨receivedPaymentContext (Gateway.createPaymentContext env random unix), hread, ?_⟩
  intro signature hsignature
  obtain ⟨d, hd, rfl⟩ := Option.map_eq_some_iff.mp hsignature
  have hrequest := gatewayRequest_challenge env random hunix hunix'
    (isVisible_hex (w.sign d).toList) (List.cons_ne_nil _ _)
  generalize hr : ({
      context := Gateway.createPaymentContext env random unix
      signature := utf8 ('0' :: 'x' :: hexEncode (w.sign d).toList) } : Gateway.VerifyRequest)
    = request at hrequest
  have hrcontext : request.context = Gateway.createPaymentContext env random unix := by rw [← hr]
  have hchainId : request.context.chainId = state.expectedChainId.toNat := by
    rw [hrcontext, hcontext, hexpected]
  refine ⟨request, receivedRequest request state.expectedChainId, hrequest, ?_, ?_, ?_⟩
  · rw [readVerifyRequest_body, readU64_decimalInt.mpr hchainId, Option.map_some]
  · rw [← hrcontext]
    exact typedData_eq hchainId
  · intro display store clock correlationHeader hsize hfresh
    have hclaim := beforeClaim_receivedRequest hagrees hchainId (hrcontext ▸ hd) (by rw [← hr])
      display (Verifier.correlationId correlationHeader) hsize hfresh
    refine ⟨hclaim, ?_⟩
    intro hunclaimed
    have hgranted := claimMemoryNonce_of_unclaimed hunclaimed clock
      (Verifier.nonceRetentionTtl state)
    simp only [Verifier.verifySignature, hclaim, hgranted, Verifier.afterClaim]

/-! ### Samples -/

/-- A digest that only depends on the length of the amount. -/
def sampleDigest (td : TypedData (List UInt16)) : Verifier.Digest :=
  Vector.replicate 32 (.ofNat td.message.amount.length)

/-- An `ethers` crate for which one address signs everything. -/
def parityEthers : Verifier.Ethers where
  TypedData := Verifier.TypedDataJson
  Signature := String
  typedDataFromValue := .ok
  signatureFromStr := .ok
  encodeEip712 td := .ok (sampleDigest (td.toTypedData.map units))
  recover _ _ := .ok (Vector.replicate 20 0xAB)
  keccak256 _ := Vector.replicate 32 0

/-- The wallet with this address. -/
def parityWallet : Wallet where
  address := Vector.replicate 20 0xAB
  digest td := some (sampleDigest td)
  sign _ := Vector.replicate 65 0

theorem agrees_sample : parityWallet.Agrees parityEthers
  := by
  constructor
  · intro td d _ hd
    exact ⟨td, rfl, congrArg Except.ok (Option.some.inj hd)⟩
  · intro d
    exact ⟨_, rfl, rfl⟩

/-- Settings of the gateway with an amount. -/
def parityEnv (amount : List UInt8) : Gateway.Env :=
  fun key => if key = "PAYMENT_AMOUNT" then amount else []

theorem getChainID_parityEnv (amount : List UInt8) : Gateway.getChainID (parityEnv amount) = 84532
  := by
  simp [Gateway.getChainID, parityEnv]

/-- A payment context the gateway issues with these settings. -/
def paritySample (amount : List UInt8) : Gateway.PaymentContext :=
  Gateway.createPaymentContext (parityEnv amount) (Vector.replicate 16 0x5A) 1700000000

/-- The request the signed retry of the SDK leads to. -/
def parityRequest (amount : List UInt8) : Gateway.VerifyRequest where
  context := paritySample amount
  signature := utf8 ('0' :: 'x' :: hexEncode (List.replicate 65 0))

/-- The SDK reads the challenge, signs, and its retry leads to the request. -/
theorem retry_paritySample (amount : List UInt8) :
  ∃ ctx signature,
    sdkClient.readPaymentContext (textDecode (GoJson.marshal (paritySample amount).challenge))
        = some ctx
      ∧ parityWallet.signTypedData (sdkClient.typedData ctx) = some signature
      ∧ gatewayRequest (parityEnv amount) (sdkClient.signedHeaders ctx signature)
        = some (parityRequest amount)
  := by
  have hchain : (paritySample amount).chainId = 84532 := getChainID_parityEnv amount
  have htimestamp : (paritySample amount).timestamp.toNat = 1700000000 :=
    toNat_timestamp_createPaymentContext _ _ (by decide) (by decide)
  refine ⟨receivedPaymentContext (paritySample amount), _, ?_, rfl, ?_⟩
  · apply paymentContextOf_challenge
    · omega
    · omega
    · omega
    · omega
  · apply gatewayRequest_challenge _ _ (by decide) (by decide)
    · exact isVisible_hex _
    · exact List.cons_ne_nil _ _

/-- The verifier's answer to the request, one second after the challenge. -/
def parityAnswer (request : Gateway.VerifyRequest) : Verifier.Reply :=
  (Verifier.verifySignature parityEthers Verifier.sampleState (Verifier.memoryNonceStore 0) {
    clock := 1700000001 * Verifier.nanosPerSecond
    correlationHeader := none
    payload := Verifier.readBody Verifier.sampleState (fun _ => "") request.body }).1

/-- With the default amount the retry is accepted. -/
theorem payment_parity_sample :
  ∃ ctx signature request,
    sdkClient.readPaymentContext (textDecode (GoJson.marshal (paritySample []).challenge)) = some ctx
      ∧ parityWallet.signTypedData (sdkClient.typedData ctx) = some signature
      ∧ gatewayRequest (parityEnv []) (sdkClient.signedHeaders ctx signature) = some request
      ∧ (parityAnswer request).body.isValid = true
  := by
  obtain ⟨ctx, signature, hread, hsign, hrequest⟩ := retry_paritySample []
  obtain ⟨ctx', hread', hparity⟩ := payment_parity agrees_sample (Or.inl rfl)
    (Vector.replicate 16 0x5A) (show (0 : Int) < 1700000000 by decide) (by decide)
    (show 0 < Gateway.getChainID (parityEnv []) by decide) (by decide)
    (show _ = (Verifier.sampleState.expectedChainId.toNat : Int) by decide)
  obtain rfl := Option.some.inj (hread.symm.trans hread')
  obtain ⟨request, req, hrequest', hreq, -, hanswer⟩ := hparity signature hsign
  obtain rfl := Option.some.inj (hrequest.symm.trans hrequest')
  have hsize : (parityRequest []).body.length ≤ Verifier.sampleState.maxBodySize := by decide +kernel
  rw [readVerifyRequest_body, (readU64_decimalInt (n := 84532)).mpr (by decide),
    Option.map_some, Option.some.injEq] at hreq
  subst hreq
  refine ⟨ctx, signature, parityRequest [], hread, hsign, hrequest, ?_⟩
  rw [parityAnswer, (hanswer _ _ _ none hsize (by decide)).2 rfl]

/-- The bytes of a request are at least as many as the characters of its amount. -/
theorem length_le_body {request : Gateway.VerifyRequest} {amount : List Char}
    (h : request.context.amount = utf8 amount) :
  amount.length ≤ request.body.length
  := by
  have hutf8 : ∀ x : List Char, x.length ≤ (utf8 x).length := by
    intro x
    induction x with
    | nil => exact Nat.le_refl _
    | cons c x ih =>
        have hc : 0 < (String.utf8EncodeChar c).length := by
          rw [String.length_utf8EncodeChar]
          exact c.utf8Size_pos
        rw [utf8_cons, List.length_append, List.length_cons]
        omega
  have hquote : ∀ x : List Char, x.length ≤ (GoJson.quote (utf8 x)).length := by
    intro x
    have hflat : x.length ≤ ((x.map some).flatMap GoJson.escapeRune).length := by
      induction x with
      | nil => exact Nat.le_refl _
      | cons c x ih =>
          have hc : 0 < (GoJson.escapeRune (some c)).length := by
            rw [GoJson.escapeRune, escapeChar]
            split
            · exact Nat.zero_lt_succ _
            · split
              · exact Nat.zero_lt_succ _
              · exact Nat.zero_lt_succ _
          rw [List.map_cons, List.flatMap_cons, List.length_append, List.length_cons]
          omega
    simp only [GoJson.quote, runes_utf8, List.length_append, List.length_cons]
    omega
  have hle := hquote amount
  apply Nat.le_trans _ (hutf8 _)
  simp only [Gateway.VerifyRequest.json, Gateway.PaymentContext.json, print, printMembers, h,
    List.length_append, List.length_cons]
  omega

/-- An amount of more than a mebibyte. -/
def longAmount : List UInt8 :=
  utf8 (List.replicate 1048577 'x')

theorem exists_longAmount_eq : ∃ x : List Char, longAmount = utf8 x ∧ 1048577 ≤ x.length
  := ⟨List.replicate 1048577 'x', rfl, List.length_replicate.ge⟩

/-- With an amount of more than a mebibyte the request is refused for its size. -/
theorem long_amount_refused :
  parityWallet.Agrees parityEthers
    ∧ ∃ ctx signature request,
      sdkClient.readPaymentContext (textDecode (GoJson.marshal (paritySample longAmount).challenge))
          = some ctx
        ∧ parityWallet.signTypedData (sdkClient.typedData ctx) = some signature
        ∧ gatewayRequest (parityEnv longAmount) (sdkClient.signedHeaders ctx signature)
          = some request
        ∧ Verifier.validateTimestampInternal (some request.context.timestamp)
            Verifier.sampleState.signatureExpirySeconds Verifier.sampleState.clockSkewSeconds
            1700000001 = .ok ()
        ∧ (parityAnswer request).status = 413 ∧ (parityAnswer request).body.isValid = false
  := by
  refine ⟨agrees_sample, ?_⟩
  obtain ⟨x, hx, hlength⟩ := exists_longAmount_eq
  generalize longAmount = amount at hx
  subst hx
  obtain ⟨ctx, signature, hread, hsign, hrequest⟩ := retry_paritySample (utf8 x)
  have hamount : (parityRequest (utf8 x)).context.amount = utf8 x := by
    have hne : utf8 x ≠ [] := by
      intro hnil
      have hnil' : x = [] := utf8_injective (hnil.trans utf8_nil.symm)
      rw [hnil', List.length_nil] at hlength
      omega
    change Gateway.getPaymentAmount (parityEnv (utf8 x)) = utf8 x
    simp [Gateway.getPaymentAmount, parityEnv, hne]
  have hlong := length_le_body hamount
  have hbody : Verifier.readBody Verifier.sampleState (fun _ => "") (parityRequest (utf8 x)).body
      = .error .bytesRejection := by
    have hlimit : Verifier.sampleState.maxBodySize = 1048576 := rfl
    rw [Verifier.readBody, if_pos (by omega)]
  have hanswer : parityAnswer (parityRequest (utf8 x)) = Verifier.refuse "unknown" 413
      ("Request body too large (max " ++ toString (1048576 : Nat) ++ " bytes)") none := by
    rw [parityAnswer, hbody]
    rfl
  have hfresh : ∀ t : UInt64, t = 1700000000 → Verifier.validateTimestampInternal (some t)
      Verifier.sampleState.signatureExpirySeconds Verifier.sampleState.clockSkewSeconds
      1700000001 = .ok () := by
    rintro t rfl
    decide
  refine ⟨ctx, signature, parityRequest (utf8 x), hread, hsign, hrequest, hfresh _ rfl, ?_, ?_⟩
  · rw [hanswer]
    rfl
  · rw [hanswer]
    rfl

end Paygate
