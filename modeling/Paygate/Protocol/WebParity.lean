import Paygate.Base.JsLatin1
import Paygate.Protocol.ReceiptHeader
import Paygate.Web.Receipts

/-!
# Receipts in the web client and in the SDK

The SDK takes the bytes of the receipt header for UTF-8, the web client takes each of them
for a character.  Hence the two decode a header to the same receipt exactly if Go wrote
none of its strings with a byte above 127.  On the same receipt they verify the same.
-/

namespace Paygate

open Text Json JsJson Program

/-! ### The forms of keys -/

/-- The `ethers` and `go-ethereum` packages and JavaScript as they are documented: a
signature ends with a recovery id of 0 or 1, keys are recovered and computed in their
uncompressed form, and positive integers below `2 ^ 53` are written with their digits. -/
structure Documented (crypto : Gateway.Crypto) (eth : Sdk.Ethers) (numbers : Web.Numbers) :
    Prop where
  recoveryId : ∀ hash key sig, crypto.sign hash key = .ok sig → sig.toList.getD 64 0 ≤ 1
  publicKey : ∀ key, eth.computePublicKey (Sdk.hexlify (crypto.publicKeyBytes key).toList)
    = some (crypto.publicKeyBytes key)
  recovered : ∀ hash signature recovered, eth.recoverPublicKey hash signature = some recovered →
    ∃ key, recovered = Sdk.hexlify key.toList ∧ eth.computePublicKey recovered = some key
  toText : ∀ i, 0 < i → i < 2 ^ 53 → numbers.toText (decimalInt i) = decimalInt i

/-! ### What the web client decodes -/

/-- The bytes of the value the gateway wrote, taken for characters. -/
theorem latin1_marshal {s : Gateway.SignedReceipt} {v : Json (List UInt8)} (hv : s.json = some v) :
  latin1 (GoJson.marshal v) = v.print fun t => latin1 (utf8 (GoJson.quote t))
  := by
  obtain ⟨w, hw, rfl⟩ := Option.map_eq_some_iff.mp hv
  obtain ⟨-, rfl⟩ := Gateway.Receipt.json_eq_some_iff.mp hw
  have hend : latin1 (utf8 ['}']) = ['}'] := by decide
  simp only [GoJson.marshal, Gateway.Receipt.jsonWith, Gateway.PaymentDetails.json,
    Gateway.ServiceDetails.json, print, printMembers, utf8_append, latin1_append, hend,
    latin1_utf8_cons (show '{'.toNat < 128 by decide), latin1_utf8_cons (show ':'.toNat < 128 by decide),
    latin1_utf8_cons (show ','.toNat < 128 by decide),
    latin1_utf8 (decimalInt_ascii s.receipt.payment.chainId)]

/-- The web client parses the value the gateway wrote, with its strings misread. -/
theorem parse_atob {s : Gateway.SignedReceipt} {v : Json (List UInt8)} (hv : s.json = some v) :
  (Web.atob (Base64.encode (GoJson.marshal v))).bind JsJson.parse = some (v.map misread)
  := by
  rw [Web.atob, Base64.forgivingDecode_encode, Option.map_some, Option.bind_some, latin1_marshal hv,
    JsJson.parse, parse_print reads_latin1_quote (Gateway.SignedReceipt.valid_json hv), Option.map_some, map_map]
  rfl

/-! ### The checks of the form -/

theorem get_of_getString {v : Json (List UInt16)} {name : String} {t : List UInt16}
    (h : Sdk.getString v name = some t) :
  JsJson.get v name = some (.str t)
  := by
  obtain ⟨w, hw, ht⟩ := Option.bind_eq_some_iff.mp h
  cases w with
  | str u =>
      obtain rfl := Option.some.inj ht
      exact hw
  | _ => cases ht

/-- The value is an object with the fields of a signed receipt. -/
structure HasFields (value : Json (List UInt16)) (r : Sdk.SignedReceipt) : Prop where
  receipt : ∃ receipt, JsJson.get value "receipt" = some receipt
    ∧ JsJson.get receipt "id" = some (.str r.receipt.id)
    ∧ JsJson.get receipt "version" = some (.str r.receipt.version)
    ∧ JsJson.get receipt "timestamp" = some (.str r.receipt.timestamp)
    ∧ (∃ payment, JsJson.get receipt "payment" = some payment
      ∧ JsJson.get payment "payer" = some (.str r.receipt.payment.payer)
      ∧ JsJson.get payment "recipient" = some (.str r.receipt.payment.recipient)
      ∧ JsJson.get payment "amount" = some (.str r.receipt.payment.amount)
      ∧ JsJson.get payment "token" = some (.str r.receipt.payment.token)
      ∧ JsJson.get payment "nonce" = some (.str r.receipt.payment.nonce))
    ∧ ∃ service, JsJson.get receipt "service" = some service
      ∧ JsJson.get service "endpoint" = some (.str r.receipt.service.endpoint)
      ∧ JsJson.get service "request_hash" = some (.str r.receipt.service.requestHash)
      ∧ JsJson.get service "response_hash" = some (.str r.receipt.service.responseHash)
  signature : JsJson.get value "signature" = some (.str r.signature)
  serverPublicKey : JsJson.get value "server_public_key" = some (.str r.serverPublicKey)

theorem hasFields_of_readFields {value : Json (List UInt16)} {r : Sdk.SignedReceipt}
    (h : Sdk.readFields value = some r) :
  HasFields value r
  := by
  simp only [Sdk.readFields, Sdk.readReceiptFields, Sdk.readPayment, Sdk.readService,
    Option.bind_eq_bind, Option.bind_eq_some_iff] at h
  obtain ⟨fields, ⟨receipt, hreceipt, payment, ⟨w, hw, payer, hpayer, recipient, hrecipient, amount,
    hamount, token, htoken, chainId, -, nonce, hnonce, hpayment⟩, service, ⟨w', hw', endpoint,
    hendpoint, requestHash, hrequest, responseHash, hresponse, hservice⟩, id, hid, version, hversion,
    timestamp, htimestamp, hfields⟩, signature, hsignature, key, hkey, hr⟩ := h
  obtain rfl := Option.some.inj hpayment
  obtain rfl := Option.some.inj hservice
  obtain rfl := Option.some.inj hfields
  obtain rfl := Option.some.inj hr
  exact {
    receipt := ⟨receipt, hreceipt, get_of_getString hid, get_of_getString hversion,
      get_of_getString htimestamp,
      ⟨w, hw, get_of_getString hpayer, get_of_getString hrecipient, get_of_getString hamount,
        get_of_getString htoken, get_of_getString hnonce⟩,
      w', hw', get_of_getString hendpoint, get_of_getString hrequest, get_of_getString hresponse⟩
    signature := get_of_getString hsignature
    serverPublicKey := get_of_getString hkey }

theorem truthy_str (numbers : Web.Numbers) (t : List UInt16) :
  Web.truthy numbers (some (.str t)) = decide (t ≠ [])
  := rfl

theorem truthy_of_get {numbers : Web.Numbers} {v w : Json (List UInt16)} {name : String}
    (h : JsJson.get v name = some w) :
  Web.truthy numbers (some v) = true
  := by
  cases v with
  | obj ms => rfl
  | _ => cases h

/-- What the SDK finds to be a signed receipt, the web client finds to be one. -/
theorem web_validateReceiptFormat {value : Json (List UInt16)} {r : Sdk.SignedReceipt}
    (numbers : Web.Numbers) (h : HasFields value r) (hvalid : r.isValid = true) :
  Web.validateReceiptFormat numbers value = some true
  := by
  obtain ⟨receipt, hreceipt, hid, hversion, htimestamp, ⟨payment, hpayment, hpayer, hrecipient,
    hamount, htoken, hnonce⟩, service, hservice, hendpoint, hrequest, hresponse⟩ := h.receipt
  simp only [Sdk.SignedReceipt.isValid, Sdk.isPrefixedString, Sdk.isNonEmptyString,
    Bool.and_eq_true, decide_eq_true_eq] at hvalid
  have htruthy : Web.truthy numbers (some receipt) = true := truthy_of_get hid
  simp [Web.validateReceiptFormat, hreceipt, htruthy, Web.get?, hid, hversion, htimestamp, hpayment,
    hpayer, hrecipient, hamount, htoken, hnonce, hservice, hendpoint, hrequest, hresponse,
    h.signature, h.serverPublicKey, Web.startsWith?, truthy_str, Web.andThen, hvalid]

/-! ### The checks of the signature -/

/-- The web client and the SDK verify the same where they have the same receipt. -/
theorem web_verifyReceipt {eth : Sdk.Ethers} {numbers : Web.Numbers} {value : Json (List UInt16)}
    {r : Sdk.SignedReceipt} (h : HasFields value r) (hvalid : r.isValid = true)
    (hjson : ∀ receipt, JsJson.get value "receipt" = some receipt →
      Web.stringify numbers receipt = Sdk.serializeReceiptForGateway r.receipt)
    {sigBytes : List UInt8} (hsig : r.signature = Sdk.hexlify sigBytes)
    (hid : (sigBytes.getD 64 0).toNat ≤ 1) {key : Vector UInt8 65}
    (hkey : r.serverPublicKey = Sdk.hexlify key.toList)
    (hcompute : eth.computePublicKey r.serverPublicKey = some key)
    (hrecover : ∀ hash signature recovered, eth.recoverPublicKey hash signature = some recovered →
      ∃ key, recovered = Sdk.hexlify key.toList ∧ eth.computePublicKey recovered = some key) :
  Web.verifyReceipt eth numbers value = Sdk.verifyReceipt eth r (some r.serverPublicKey)
  := by
  obtain ⟨receipt, hreceipt, hfield, -⟩ := h.receipt
  have htruthy : Web.truthy numbers (some receipt) = true := truthy_of_get hfield
  have hserver : Sdk.normalizePublicKey eth (some r.serverPublicKey)
      = some (Sdk.toLowerCase r.serverPublicKey) := by
    rw [hkey] at hcompute ⊢
    rw [normalizePublicKey_of_computePublicKey (hexlify_ne_nil _) hcompute]
  have hbytes : Sdk.getBytes r.signature = some sigBytes := by rw [hsig, getBytes_hexlify]
  have hne : r.signature ≠ [] ∧ r.serverPublicKey ≠ [] := by
    rw [hsig, hkey]
    exact ⟨hexlify_ne_nil _, hexlify_ne_nil _⟩
  have htrue : decide (r.signature ≠ []) = true ∧ decide (r.serverPublicKey ≠ []) = true :=
    ⟨decide_eq_true hne.1, decide_eq_true hne.2⟩
  have hv : (if (sigBytes.getD 64 0).toNat ≤ 1 then (sigBytes.getD 64 0).toNat + 27
      else (sigBytes.getD 64 0).toNat) = (sigBytes.getD 64 0).toNat + 27 := if_pos hid
  simp only [Web.verifyReceipt, hreceipt, h.signature, h.serverPublicKey, htruthy,
    hjson receipt hreceipt, truthy_str, Sdk.asString, Option.bind_some, hbytes, htrue,
    Sdk.verifyReceipt, hvalid, hserver, hv, Bool.not_true, Bool.or_self, Bool.false_eq_true,
    if_false, ne_eq, not_true_eq_false]
  cases hfrom : eth.signatureFrom (Sdk.hexlify (sigBytes.take 32))
      (Sdk.hexlify ((sigBytes.drop 32).take 32)) ((sigBytes.getD 64 0).toNat + 27) with
  | none => rfl
  | some signature =>
      cases hrec : eth.recoverPublicKey
          (eth.keccak256 (utf8 (Sdk.serializeReceiptForGateway r.receipt))) signature with
      | none => simp only [hrec]
      | some recovered =>
          obtain ⟨k, hk, hcomputed⟩ := hrecover _ _ _ hrec
          have hnormal : Sdk.normalizePublicKey eth (some recovered)
              = some (Sdk.toLowerCase recovered) := by
            rw [hk] at hcomputed ⊢
            rw [normalizePublicKey_of_computePublicKey (hexlify_ne_nil _) hcomputed]
          simp only [hrec, hnormal, Option.some.injEq]

/-! ### Writing the receipt again -/

/-- Members that are named by these different names, which are no indices, are enumerated as
they stand. -/
theorem properties_names {ms : List (List UInt16 × Json (List UInt16))} (names : List String)
    (hnames : ms.map Prod.fst = names.map units) (hnodup : names.Nodup)
    (hindex : ∀ name ∈ names, Web.arrayIndex (units name) = none) :
  Web.properties ms = ms
  := by
  apply Web.properties_eq
  · rw [hnames]
    exact hnodup.map fun _ _ h => units_inj.mp h
  · intro m hm
    have hmem : m.1 ∈ names.map units := hnames ▸ List.mem_map_of_mem hm
    obtain ⟨name, hname, heq⟩ := List.mem_map.mp hmem
    rw [← heq]
    exact hindex name hname

/-- The web client writes the receipt the SDK would write. -/
theorem stringify_json {numbers : Web.Numbers} (r : Sdk.Receipt)
    (htext : numbers.toText (decimalInt r.payment.chainId) = decimalInt r.payment.chainId) :
  Web.stringify numbers r.json = Sdk.serializeReceiptForGateway r
  := by
  have hindex : ∀ name ∈ ["id", "version", "timestamp", "payment", "service", "payer", "recipient",
      "amount", "token", "chainId", "nonce", "endpoint", "request_hash", "response_hash"],
      Web.arrayIndex (units name) = none := by
    decide +kernel
  have henum : Web.enumerated numbers r.json = r.json := by
    simp only [Sdk.Receipt.json, Web.enumerated, Web.enumeratedMembers, htext]
    rw [properties_names ["id", "version", "timestamp", "payment", "service"] rfl
        (by decide) (fun name hname => hindex name (by revert name; decide)),
      properties_names ["payer", "recipient", "amount", "token", "chainId", "nonce"] rfl
        (by decide) (fun name hname => hindex name (by revert name; decide)),
      properties_names ["endpoint", "request_hash", "response_hash"] rfl (by decide)
        (fun name hname => hindex name (by revert name; decide))]
  rw [Web.stringify, henum, Sdk.serializeReceiptForGateway]

/-- The receipt in the value the SDK parses. -/
theorem get_receipt {s : Gateway.SignedReceipt} {v : Json (List UInt8)} (hv : s.json = some v) :
  JsJson.get (v.map received) "receipt" = some (receivedReceipt s).receipt.json
  := by
  obtain ⟨w, hw, rfl⟩ := Option.map_eq_some_iff.mp hv
  obtain ⟨-, rfl⟩ := Gateway.Receipt.json_eq_some_iff.mp hw
  simp [Json.map, mapMembers, Gateway.Receipt.jsonWith, Gateway.PaymentDetails.json,
    Gateway.ServiceDetails.json, receivedReceipt, Sdk.Receipt.json]

/-! ### Agreement -/

/-- The web client and the SDK decode a header to receipts with the same fields, and verify
the same, the SDK with the key that comes with the receipt. -/
def WebAgrees (eth : Sdk.Ethers) (numbers : Web.Numbers) (header : List Char) : Prop :=
  ∃ r value, Sdk.decodeReceiptHeader header = some r
    ∧ Web.safeDecodeReceiptHeader numbers header = some value
    ∧ Sdk.readFields value = some r
    ∧ Web.verifyReceipt eth numbers value = Sdk.verifyReceipt eth r (some r.serverPublicKey)

/-- Go writes the string with bytes below 128 only. -/
def IsNarrow (t : List UInt8) : Prop :=
  ∀ c, some c ∈ runes t → c.toNat < 128 ∨ GoJson.named c = true

theorem isNarrow_iff {t : List UInt8} : IsNarrow t ↔ misread t = received t
  := by
  rw [misread_eq_received_iff]
  constructor
  · rintro h r hr c rfl
    exact h c hr
  · intro h c hc
    exact h _ hc c rfl

section Agrees

variable {s : Gateway.Settings} {c : Gateway.Context} {payment : Gateway.PaymentContext}
  {payer path requestBody aiResult : List UInt8} {signed : Gateway.SignedReceipt}
  {eth : Sdk.Ethers} {numbers : Web.Numbers} {header : List Char}

theorem format_ascii (t : Gateway.Time) : ∀ c ∈ t.format, c.toNat < 128
  := by
  refine Gateway.forall_mem_format (q := fun c => c.toNat < 128) ?_ (by decide) t
  intro c hdigit
  exact lt_of_le_of_lt (Char.isDigit_iff_toNat.mp hdigit).2 (by decide)

theorem misread_fieldName : ∀ name ∈ fieldNames, misread (bytes name) = units name
  := by
  have hascii : ∀ name ∈ fieldNames, ∀ c ∈ name.toList, c.toNat < 128 := by decide
  intro name hname
  exact misread_utf8 (hascii name hname)

/-- The web client misreads no string of a receipt if it misreads none of those the gateway
was given. -/
theorem map_misread (hgen : Gateway.Generated s payment payer path requestBody aiResult signed)
    {v : Json (List UInt8)} (hv : signed.json = some v)
    (hnarrow : ∀ t ∈ givenStrings payment payer path, IsNarrow t) :
  v.map misread = v.map received
  := by
  have hstrings : ∀ t ∈ signed.strings, misread t = received t := by
    apply forall_strings_of_generated (q := fun t => misread t = received t) _ hgen
    · intro t ht
      exact isNarrow_iff.mp (hnarrow t ht)
    · intro x hx
      rw [misread_utf8 hx, received_utf8]
  have hnames : ∀ name ∈ fieldNames, misread (bytes name) = received (bytes name) := by
    intro name hname
    rw [misread_fieldName name hname, received_bytes]
  have htime : misread (utf8 signed.receipt.timestamp.format)
      = received (utf8 signed.receipt.timestamp.format) := by
    rw [misread_utf8 (format_ascii _), received_utf8]
  obtain ⟨w, hw, rfl⟩ := Option.map_eq_some_iff.mp hv
  obtain ⟨-, rfl⟩ := Gateway.Receipt.json_eq_some_iff.mp hw
  simp only [Gateway.SignedReceipt.strings, fieldNames, List.forall_mem_cons] at hstrings hnames
  simp only [Json.map, mapMembers, Gateway.Receipt.jsonWith, Gateway.PaymentDetails.json,
    Gateway.ServiceDetails.json, hnames, hstrings, htime]

/-- If the two agree, the SDK has found the chain id to be a positive safe integer. -/
theorem chainId_of_agrees (hheader : Gateway.receiptHeader signed = some header)
    (h : WebAgrees eth numbers header) :
  0 < signed.receipt.payment.chainId ∧ signed.receipt.payment.chainId < 2 ^ 53
  := by
  obtain ⟨r, value, hdecode, -⟩ := h
  obtain ⟨v, hv, -, heq⟩ := decodeReceiptHeader_receiptHeader hheader
  rw [heq, Sdk.validateReceiptFormat, Option.filter_eq_some_iff, readFields_map (fun name _ => received_bytes name) hv,
    Option.map_eq_some_iff] at hdecode
  obtain ⟨⟨n, hn, rfl⟩, hvalid⟩ := hdecode
  apply lt_of_safeInteger_decimalInt hn
  simp only [Sdk.SignedReceipt.isValid, Bool.and_eq_true, decide_eq_true_eq] at hvalid
  exact hvalid.1.1.1.1.1.1.2

/-- If the two agree, the web client has misread no string. -/
theorem isNarrow_of_agrees (hheader : Gateway.receiptHeader signed = some header)
    (h : WebAgrees eth numbers header) :
  ∀ t ∈ signed.strings, IsNarrow t
  := by
  have hchain := chainId_of_agrees hheader h
  obtain ⟨r, value, hdecode, hweb, hfields, -⟩ := h
  obtain ⟨v, hv, rfl, -⟩ := decodeReceiptHeader_receiptHeader hheader
  have hr : r = receivedReceipt signed := by
    rw [decodeReceiptHeader_eq hheader hchain.1 hchain.2, Option.filter_eq_some_iff] at hdecode
    exact (Option.some.inj hdecode.1).symm
  have hvalue : value = v.map misread := by
    rw [Web.safeDecodeReceiptHeader, parse_atob hv] at hweb
    dsimp only at hweb
    split at hweb
    · exact (Option.some.inj hweb).symm
    · cases hweb
  rw [hvalue, readFields_map misread_fieldName hv, safeInteger_decimalInt hchain.1 hchain.2, Option.map_some,
    hr, ← readReceipt_received, Option.some.injEq] at hfields
  simp only [readReceipt, Sdk.SignedReceipt.mk.injEq, Sdk.Receipt.mk.injEq,
    Sdk.PaymentDetails.mk.injEq, Sdk.ServiceDetails.mk.injEq] at hfields
  obtain ⟨⟨hid, hversion, -, ⟨hpayer, hrecipient, hamount, htoken, -, hnonce⟩, hendpoint, hrequest,
    hresponse⟩, hsignature, hkey⟩ := hfields
  simp only [Gateway.SignedReceipt.strings, List.forall_mem_cons, isNarrow_iff]
  exact ⟨hid, hversion, hpayer, hrecipient, hamount, htoken, hnonce, hendpoint, hrequest, hresponse,
    hsignature, hkey, List.forall_mem_nil _⟩

/-- The chain id and the strings the gateway was given are in the receipt. -/
theorem given_mem_strings
    (hgen : Gateway.Generated s payment payer path requestBody aiResult signed) :
  signed.receipt.payment.chainId = payment.chainId
    ∧ ∀ t ∈ givenStrings payment payer path, t ∈ signed.strings
  := by
  obtain ⟨-, random, now, hgenerate⟩ := hgen
  obtain ⟨b, -, hsign⟩ := Gateway.generateReceipt_eq_ok hgenerate
  have hreceipt := Gateway.receipt_of_signReceipt hsign
  constructor
  · rw [hreceipt]
    rfl
  · rw [Gateway.SignedReceipt.strings, hreceipt]
    simp [givenStrings, Gateway.newReceipt]

/-- Where no string is misread, the two agree. -/
theorem agrees_of_isNarrow (hdoc : Documented s.crypto eth numbers)
    (hgen : Gateway.Generated s payment payer path requestBody aiResult signed)
    (hheader : Gateway.receiptHeader signed = some header)
    (hpos : 0 < signed.receipt.payment.chainId) (hlt : signed.receipt.payment.chainId < 2 ^ 53)
    (hnarrow : ∀ t ∈ givenStrings payment payer path, IsNarrow t) :
  WebAgrees eth numbers header
  := by
  obtain ⟨v, hv, rfl, -⟩ := decodeReceiptHeader_receiptHeader hheader
  have hvalid := isValid_generated hgen hpos
  have hdecode := decodeReceiptHeader_eq hheader hpos hlt
  rw [Option.filter_some, if_pos hvalid] at hdecode
  have hread := readFields_json hv hpos hlt
  have hfields := hasFields_of_readFields hread
  have hweb : Web.safeDecodeReceiptHeader numbers (Base64.encode (GoJson.marshal v))
      = some (v.map received) := by
    rw [Web.safeDecodeReceiptHeader, parse_atob hv, map_misread hgen hv hnarrow]
    dsimp only
    rw [web_validateReceiptFormat numbers hfields hvalid]
  refine ⟨receivedReceipt signed, v.map received, hdecode, hweb, hread, ?_⟩
  obtain ⟨-, random, now, hgenerate⟩ := hgen
  obtain ⟨b, -, hsign⟩ := Gateway.generateReceipt_eq_ok hgenerate
  obtain ⟨key, w, sig, -, -, hsig, hsigned⟩ := Gateway.signReceipt_eq_ok hsign
  have hsignature : (receivedReceipt signed).signature = Sdk.hexlify sig.toList := by
    rw [hsigned]
    exact received_hex _
  have hkey : (receivedReceipt signed).serverPublicKey
      = Sdk.hexlify (s.crypto.publicKeyBytes key).toList := by
    rw [hsigned]
    exact received_hex _
  apply web_verifyReceipt hfields hvalid _ hsignature _ hkey _ hdoc.recovered
  · intro receipt hreceipt
    rw [get_receipt hv] at hreceipt
    rw [← Option.some.inj hreceipt]
    exact stringify_json _ (hdoc.toText _ hpos hlt)
  · exact UInt8.le_iff_toNat_le.mp (hdoc.recoveryId _ _ _ hsig)
  · rw [hkey]
    exact hdoc.publicKey key

/-- On a receipt header the gateway sends, the web client and the SDK agree exactly if the
chain id is a positive integer below `2 ^ 53` and Go wrote every string the gateway was given
for the receipt with bytes below 128: its characters are below 128 or one of the two line
separators Go names by their numbers. -/
theorem webAgrees_iff (hdoc : Documented s.crypto eth numbers) {h : Gateway.History}
    {p : Gateway.Prog Gateway.Context}
    (hrun : (Gateway.generateAndSendReceipt s c payment payer requestBody aiResult).Reaches h p)
    {x : Unit} (hmem : ⟨.header "X-402-Receipt" (utf8 header), x⟩ ∈ h) :
  WebAgrees eth numbers header
    ↔ (0 < payment.chainId ∧ payment.chainId < 2 ^ 53)
      ∧ ∀ t ∈ givenStrings payment payer c.request.path, IsNarrow t
  := by
  obtain ⟨signed, header', hgen, hheader, heq⟩ := Gateway.generated_of_header hrun hmem
  obtain rfl := utf8_injective heq
  obtain ⟨hchain, hgiven⟩ := given_mem_strings hgen
  rw [← hchain]
  constructor
  · intro hagrees
    refine ⟨chainId_of_agrees hheader hagrees, ?_⟩
    intro t ht
    exact isNarrow_of_agrees hheader hagrees t (hgiven t ht)
  · rintro ⟨⟨hpos, hlt⟩, hnarrow⟩
    exact agrees_of_isNarrow hdoc hgen hheader hpos hlt hnarrow

end Agrees

/-! ### Samples -/

/-- Numbers whose digits are written as they were read. -/
def sampleNumbers : Web.Numbers where
  truthy l := l ≠ ['0']
  toText l := l

theorem documented_sample : Documented Gateway.sampleKey sampleEthers sampleNumbers
  := by
  constructor
  · intro hash key sig h
    obtain rfl := Except.ok.inj h
    have hlength : hash.toList.length = 32 := hash.length_toList
    simp [List.getD_eq_getElem?_getD, hlength]
  · have hkey : sampleEthers.computePublicKey (Sdk.hexlify samplePublicKey.toList)
        = some samplePublicKey := by decide +kernel
    exact fun _ => hkey
  · intro hash (signature : List UInt16) recovered h
    have hrec : (if signature = Sdk.hexlify hash.toList then
        some (Sdk.hexlify samplePublicKey.toList) else none) = some recovered := h
    split at hrec
    · obtain rfl := Option.some.inj hrec
      exact ⟨samplePublicKey, rfl, by decide +kernel⟩
    · cases hrec
  · intro i _ _
    rfl

/-- The two agree on the receipt of a plain nonce. -/
theorem webAgrees_sample :
  Documented Gateway.cachedSettings.crypto sampleEthers sampleNumbers
    ∧ ∃ header x, ⟨.header "X-402-Receipt" (utf8 header), x⟩ ∈ sentHistory "n-1"
      ∧ WebAgrees sampleEthers sampleNumbers header
  := by
  refine ⟨documented_sample, ?_⟩
  obtain ⟨p, hrun⟩ := reaches_sentHistory "n-1"
  obtain ⟨v, x, hmem⟩ := sentHistory_header "n-1" (by decide)
  obtain ⟨signed, header, -, -, rfl⟩ := Gateway.generated_of_header hrun hmem
  refine ⟨header, x, hmem, (webAgrees_iff documented_sample hrun hmem).mpr ?_⟩
  have hchain := chainId_sample "n-1"
  refine ⟨by omega, ?_⟩
  rw [Gateway.Context.init, givenStrings_sample]
  intro t ht
  obtain ⟨name, hname, rfl⟩ := List.mem_map.mp ht
  have hascii : ∀ name ∈ ["0x12", "0x2cAF48b4BA1C58721a85dFADa5aC01C2DFa62219", "0.001", "USDC",
      "n-1", "/api/ai/summarize"], ∀ c ∈ name.toList, c.toNat < 128 := by decide
  rw [isNarrow_iff, bytes, misread_utf8 (hascii name hname), received_utf8]

/-- The two do not agree on the receipt of a nonce with an accent. -/
theorem accented_nonce_misread :
  Documented Gateway.cachedSettings.crypto sampleEthers sampleNumbers
    ∧ ∃ header x, ⟨.header "X-402-Receipt" (utf8 header), x⟩ ∈ sentHistory "é"
      ∧ ¬ WebAgrees sampleEthers sampleNumbers header
  := by
  refine ⟨documented_sample, ?_⟩
  obtain ⟨p, hrun⟩ := reaches_sentHistory "é"
  obtain ⟨v, x, hmem⟩ := sentHistory_header "é" (by decide)
  obtain ⟨signed, header, hgen, hheader, rfl⟩ := Gateway.generated_of_header hrun hmem
  refine ⟨header, x, hmem, ?_⟩
  intro hagrees
  have hgiven : bytes "é" ∈ givenStrings (sentPayment "é") (bytes "0x12")
      Gateway.paidRequest.path := by
    rw [givenStrings_sample]
    simp
  have hnarrow := isNarrow_of_agrees hheader hagrees _ ((given_mem_strings hgen).2 _ hgiven)
  have hmisread : misread (bytes "é") ≠ received (bytes "é") := by decide
  exact hmisread (isNarrow_iff.mp hnarrow)

end Paygate
