import Paygate.Protocol.ReceiptCodec
import Paygate.Sdk.Client

/-!
# Verified receipts

If the SDK reports a receipt as verified, the gateway signed a receipt with the same
fields, and this receipt is about the path, the request body and the response body of the
call.  The signature the SDK checks is assumed to be made by the gateway if the trusted key is
recovered from it, and the hashes that occur are assumed not to collide.
-/

namespace Paygate

open Text Json JsJson

/-! ### The hashes on both sides -/

/-- The bytes of the text of a body; no text counts as no bytes. -/
def bodyBytes (text : Option (List Char)) : List UInt8 :=
  (text.map utf8).getD []

/-- The gateway and the SDK write the hash of a text alike. -/
theorem sameText_hashBody (text : Option (List Char)) :
  SameText (Gateway.hashData (bodyBytes text)) (Sdk.PaygateClient.hashBody text)
  := by
  refine ⟨"sha256:".toList ++ hexEncode (Sha256.sum256 (bodyBytes text)), ?_, ?_⟩
  · rw [Gateway.hashData_eq, utf8_append]
    rfl
  · rw [utf16_append]
    rfl

/-- A string has one text. -/
theorem SameText.left_unique {s s' : List UInt8} {t : List UInt16} (h : SameText s t)
    (h' : SameText s' t) :
  s = s'
  := by
  obtain ⟨x, rfl, rfl⟩ := h
  obtain ⟨y, rfl, hxy⟩ := h'
  rw [utf16_injective hxy]

/-- The hash of data determines it, unless two hashes collide. -/
theorem eq_of_hashData_eq {data data' : List UInt8} (hinj : Set.InjOn Sha256.sum256 {data, data'})
    (h : Gateway.hashData data = Gateway.hashData data') :
  data = data'
  := by
  rw [Gateway.hashData_eq, Gateway.hashData_eq] at h
  apply hinj (by simp) (by simp)
  exact hexEncode_injective (utf8_injective (List.append_cancel_left h))

/-! ### Who signed -/

section Soundness

variable {crypto : Gateway.Crypto} {env : Gateway.Env} {client : Sdk.PaygateClient}
  {signed : Set Gateway.Receipt} {TBody : Type} {stringify : TBody → Except Unit (Option (List Char))}
  {request : Sdk.PaygateRequest TBody} {result : Sdk.PaygateResponse}

/-- The bytes of the receipts that were signed. -/
def signedMessages (signed : Set Gateway.Receipt) : Set (List UInt8) :=
  {m | ∃ g ∈ signed, ∃ v, g.json = some v ∧ m = GoJson.marshal v}

/-- The bytes whose signature the SDK checked to report a receipt. -/
def checkedMessages (result : Sdk.PaygateResponse) : Set (List UInt8) :=
  {m | ∃ r, result.receipt = some r ∧ m = utf8 (Sdk.serializeReceiptForGateway r.receipt)}

/-- If the trusted key is recovered from the hash and the signature that are checked for a receipt,
the hash is that of one of the receipts that were signed by `signReceipt`. -/
def OnlySigned (crypto : Gateway.Crypto) (env : Gateway.Env) (client : Sdk.PaygateClient)
    (signed : Set Gateway.Receipt) (receipt : Sdk.SignedReceipt) : Prop :=
  ∀ signature recovered key, Sdk.checkedSignature client.eth receipt = some signature →
    client.eth.recoverPublicKey
        (client.eth.keccak256 (utf8 (Sdk.serializeReceiptForGateway receipt.receipt))) signature
      = some recovered →
    Sdk.normalizePublicKey client.eth (some recovered) = some key →
    Sdk.normalizePublicKey client.eth client.trustedServerPublicKey = some key →
    ∃ g ∈ signed, ∃ s v, Gateway.signReceipt crypto env g = .ok s ∧ g.json = some v
      ∧ client.eth.keccak256 (utf8 (Sdk.serializeReceiptForGateway receipt.receipt))
        = crypto.keccak256 (GoJson.marshal v)

/-- A receipt that verifies with the trusted key was signed by the gateway. -/
theorem exists_signed_of_verifyReceipt (hkeccak : client.eth.keccak256 = crypto.keccak256)
    {receipt : Sdk.SignedReceipt} (honly : OnlySigned crypto env client signed receipt)
    (hinj : Set.InjOn crypto.keccak256
      (signedMessages signed ∪ {utf8 (Sdk.serializeReceiptForGateway receipt.receipt)}))
    (h : Sdk.verifyReceipt client.eth receipt client.trustedServerPublicKey = true) :
  ∃ g ∈ signed, (∃ s, Gateway.signReceipt crypto env g = .ok s)
    ∧ SameReceipt SameText g receipt.receipt
  := by
  obtain ⟨trusted, key, htrusted, hkey, signature, recovered, hsignature, hrecover, hrecovered⟩ :=
    Sdk.exists_recover_of_verifyReceipt h
  rw [← htrusted] at hkey
  obtain ⟨g, hg, s, v, hs, hv, hhash⟩ :=
    honly signature recovered key hsignature hrecover hrecovered hkey
  have hbytes : utf8 (Sdk.serializeReceiptForGateway receipt.receipt) = GoJson.marshal v := by
    apply hinj (Or.inr rfl) (Or.inl ⟨g, hg, v, hv, rfl⟩)
    rw [← hhash, hkeccak]
  have hsame := sameReceipt_of_marshal_eq hv hbytes.symm
  exact ⟨g, hg, ⟨s, hs⟩, hsame.mono fun _ _ ⟨x, _, hx⟩ => ⟨x, hx⟩⟩

/-- If the SDK reports a receipt as verified, a key was trusted and the gateway signed a
receipt with the same fields, about the path that was requested, the body that was sent and
the response text the data was parsed from.  No receipt of the gateway and no other receipt
of the SDK are written with the same bytes. -/
theorem receiptVerified_sound (hkeccak : client.eth.keccak256 = crypto.keccak256)
    (honly : ∀ receipt ∈ result.receipt, OnlySigned crypto env client signed receipt)
    (hinj : Set.InjOn crypto.keccak256 (signedMessages signed ∪ checkedMessages result))
    (h : client.request stringify request = .ok result)
    (hverified : result.receiptVerified = some true) :
  (∃ trusted receipt g url n init response bodyText,
      client.trustedServerPublicKey = some trusted
        ∧ result.receipt = some receipt
        ∧ g ∈ signed ∧ (∃ s, Gateway.signReceipt crypto env g = .ok s)
        ∧ SameReceipt SameText g receipt.receipt
        ∧ client.buildUrl request.path = .ok url
        ∧ Sdk.PaygateClient.serializeRequestBody stringify request.body = .ok init.body
        ∧ client.fetcher n url init = some response
        ∧ response.text = .ok bodyText
        ∧ JsJson.parse bodyText = some result.data
        ∧ SameText g.service.endpoint (Sdk.PaygateClient.buildReceiptEndpoint request.path)
        ∧ g.service.requestHash = Gateway.hashData (bodyBytes init.body)
        ∧ g.service.responseHash = Gateway.hashData (utf8 bodyText)
        ∧ (∀ data, Set.InjOn Sha256.sum256 {data, bodyBytes init.body} →
            g.service.requestHash = Gateway.hashData data → data = bodyBytes init.body)
        ∧ (∀ data, Set.InjOn Sha256.sum256 {data, utf8 bodyText} →
            g.service.responseHash = Gateway.hashData data → data = utf8 bodyText))
    ∧ ∀ (g : Gateway.Receipt) (r : Sdk.Receipt) (v : Json (List UInt8)), g.json = some v →
        GoJson.marshal v = utf8 (Sdk.serializeReceiptForGateway r) → SameReceipt SameText g r
  := by
  constructor
  · obtain ⟨url, text, n, init, response, hurl, htext, rfl, hfetch, hsuccess⟩ :=
      Sdk.PaygateClient.request_eq_ok h
    obtain ⟨bodyText, receipt, trusted, hbody, hdata, hreceipt, hmatch, htrusted, hverify⟩ :=
      Sdk.PaygateClient.readSuccess_verified hsuccess hverified
    have hchecked : checkedMessages result
        = {utf8 (Sdk.serializeReceiptForGateway receipt.receipt)} := by
      ext m
      simp [checkedMessages, hreceipt]
    rw [hchecked] at hinj
    rw [← htrusted] at hverify
    obtain ⟨g, hg, hs, hsame⟩ := exists_signed_of_verifyReceipt hkeccak
      (honly receipt hreceipt) hinj hverify
    simp only [Sdk.PaygateClient.receiptMatchesPayload, Bool.and_eq_true, decide_eq_true_eq]
      at hmatch
    obtain ⟨⟨hendpoint, hrequest⟩, hresponse⟩ := hmatch
    have hrequestHash : g.service.requestHash = Gateway.hashData (bodyBytes init.body) := by
      apply SameText.left_unique hsame.requestHash
      rw [hrequest]
      apply sameText_hashBody
    have hresponseHash : g.service.responseHash = Gateway.hashData (utf8 bodyText) := by
      apply SameText.left_unique hsame.responseHash
      rw [hresponse]
      exact sameText_hashBody (some bodyText)
    refine ⟨trusted, receipt, g, url, n, init, response, bodyText, htrusted, hreceipt, hg, hs,
      hsame, hurl, htext, hfetch, hbody, hdata, hendpoint ▸ hsame.endpoint, hrequestHash,
      hresponseHash, ?_, ?_⟩
    · intro data hdata hhash
      exact eq_of_hashData_eq hdata (hhash.symm.trans hrequestHash)
    · intro data hdata hhash
      exact eq_of_hashData_eq hdata (hhash.symm.trans hresponseHash)
  · intro g r v hv hbytes
    exact (sameReceipt_of_marshal_eq hv hbytes).mono fun _ _ ⟨x, _, hx⟩ => ⟨x, hx⟩

end Soundness

/-! ### A sample call -/

/-- A client that trusts the sample key, and a server that answers with a body and a receipt
header. -/
def soundClient (header : List Char) : Sdk.PaygateClient :=
  .ofOptions sampleEthers (units "http://gateway/") (fun _ => .error .platform)
    (fun _ _ _ => some {
      status := 200
      headers := fun name => if name = "X-402-Receipt" then some header else none
      body := some (bytes "1") })
    none (some (Sdk.hexlify samplePublicKey.toList))

/-- A request without a body. -/
def soundRequest : Sdk.PaygateRequest Unit where
  method := units "POST"
  path := units "/api/ai/summarize?x"
  body := none
  headers := []

/-- The receipt of the sample server is reported as verified. -/
theorem request_sample {s : Gateway.SignedReceipt} {header : List Char}
    (hheader : Sdk.decodeReceiptHeader header = some (receivedReceipt s))
    (hmatch : Sdk.PaygateClient.receiptMatchesPayload (receivedReceipt s)
      (units "/api/ai/summarize") none ['1'] = true)
    (hverify : Sdk.verifyReceipt sampleEthers (receivedReceipt s)
      (some (Sdk.hexlify samplePublicKey.toList)) = true) :
  (soundClient header).request (fun _ => .ok none) soundRequest
    = .ok {
        data := .num ['1']
        receipt := some (receivedReceipt s)
        receiptVerified := some true
        status := 200 }
  := by
  have hne : header ≠ [] := by
    rintro rfl
    cases hheader
  have hendpoint : Sdk.PaygateClient.buildReceiptEndpoint soundRequest.path
      = units "/api/ai/summarize" := by decide
  have hurl : ∃ url, (soundClient header).buildUrl soundRequest.path = .ok url := ⟨_, rfl⟩
  obtain ⟨url, hurl⟩ := hurl
  have htext : textDecode (bytes "1") = ['1'] := by decide
  have hdata : JsJson.parse ['1'] = some (.num ['1']) := rfl
  simp only [Sdk.PaygateClient.request, hurl, bind, Except.bind, hendpoint]
  simp [Sdk.PaygateClient.serializeRequestBody, Sdk.PaygateClient.buildRequestInit, soundRequest,
    Sdk.PaygateClient.fetchOrThrow, soundClient, Sdk.PaygateClient.ofOptions, Sdk.Response.ok,
    Sdk.PaygateClient.readSuccess, Sdk.Response.text, htext, hdata, Sdk.microAIPaygateProtocol,
    Sdk.readReceipt, hheader, hmatch, hverify, bind, Except.bind]


/-- One receipt was signed, and the client reports it as verified.  The packages it uses agree
with those of the gateway. -/
theorem receiptVerified_sound_sample :
  Agree sampleCrypto sampleEthers
    ∧ ∃ (g : Gateway.Receipt) (header : List Char) (result : Sdk.PaygateResponse),
    (soundClient header).request (fun _ => .ok none) soundRequest = .ok result
      ∧ result.receiptVerified = some true
      ∧ ∃ receipt, result.receipt = some receipt ∧ SameReceipt SameText g receipt.receipt
  := by
  have hrun : ((sampleReceipt "n-1" "1").toOption.bind fun s =>
      s.receipt.json.bind fun v => (Gateway.receiptHeader s).map fun _ =>
        ((receivedReceipt s).isValid, s.receipt.payment.chainId,
          decide (GoJson.marshal v
            = utf8 (Sdk.serializeReceiptForGateway (receivedReceipt s).receipt)),
          Sdk.PaygateClient.receiptMatchesPayload (receivedReceipt s)
            (units "/api/ai/summarize") none ['1'],
          Sdk.verifyReceipt sampleEthers (receivedReceipt s)
            (some (Sdk.hexlify samplePublicKey.toList))))
      = some (true, 84532, true, true, true) := by decide +kernel
  obtain ⟨s, hs, hrun⟩ := Option.bind_eq_some_iff.mp hrun
  obtain ⟨v, hv, hrun⟩ := Option.bind_eq_some_iff.mp hrun
  obtain ⟨header, hheader, hrun⟩ := Option.map_eq_some_iff.mp hrun
  simp only [Prod.mk.injEq, decide_eq_true_eq] at hrun
  obtain ⟨hvalid, hchain, hbytes, hmatch, hverify⟩ := hrun
  have hdecode : Sdk.decodeReceiptHeader header = some (receivedReceipt s) := by
    rw [decodeReceiptHeader_eq hheader (by omega) (by omega), Option.filter_some, if_pos hvalid]
  have hrequest := request_sample hdecode hmatch hverify
  have hok : sampleReceipt "n-1" "1" = .ok s := eq_ok_of_toOption hs
  have hsigned := Gateway.signReceipt_of_generateReceipt hok
  have hmessages : signedMessages {s.receipt} ∪ checkedMessages {
        data := .num ['1']
        receipt := some (receivedReceipt s)
        receiptVerified := some true
        status := 200 } ⊆ {GoJson.marshal v} := by
    rintro m (⟨g, rfl, w, hw, rfl⟩ | ⟨r, hr, rfl⟩)
    · rw [hv] at hw
      rw [Option.some.inj hw]
      rfl
    · rw [← Option.some.inj hr]
      exact hbytes.symm
  have honly : OnlySigned sampleCrypto sampleEnv (soundClient header) {s.receipt}
      (receivedReceipt s) := by
    intro signature recovered key _ _ _ _
    exact ⟨s.receipt, rfl, s, v, hsigned, hv, congrArg sampleCrypto.keccak256 hbytes.symm⟩
  obtain ⟨⟨trusted, receipt, g, -, -, -, -, -, -, hreceipt, -, -, hsame, -⟩, -⟩ :=
    receiptVerified_sound rfl (by
      rintro receipt hreceipt
      obtain rfl := Option.some.inj hreceipt
      exact honly)
      (Set.Subsingleton.injOn (Set.subsingleton_singleton.anti hmessages)
        sampleCrypto.keccak256) hrequest rfl
  exact ⟨agree_sample, g, header, _, hrequest, rfl, receipt, hreceipt, hsame⟩

end Paygate
