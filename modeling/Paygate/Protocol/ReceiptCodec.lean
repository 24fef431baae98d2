import Paygate.Gateway.Receipt
import Paygate.Sdk.Receipts

/-!
# Receipts between the gateway and the SDK

The gateway signs the bytes `json.Marshal` makes of a receipt, the SDK checks the signature
against the text `JSON.stringify` makes of the receipt it decoded.  The two agree exactly
if every string of the receipt is a plain text; in particular they never agree on two
different receipts.
-/

namespace Paygate

open Text Json JsJson

/-! ### The same receipt on both sides -/

/-- A receipt of the gateway and a receipt of the SDK have the same fields, up to a relation
between their strings. -/
structure SameReceipt (R : List UInt8 → List UInt16 → Prop) (g : Gateway.Receipt)
    (r : Sdk.Receipt) : Prop where
  id : R g.id r.id
  version : R g.version r.version
  timestamp : R (utf8 g.timestamp.format) r.timestamp
  payer : R g.payment.payer r.payment.payer
  recipient : R g.payment.recipient r.payment.recipient
  amount : R g.payment.amount r.payment.amount
  token : R g.payment.token r.payment.token
  chainId : g.payment.chainId = r.payment.chainId
  nonce : R g.payment.nonce r.payment.nonce
  endpoint : R g.service.endpoint r.service.endpoint
  requestHash : R g.service.requestHash r.service.requestHash
  responseHash : R g.service.responseHash r.service.responseHash

/-- Receipts are the same up to a weaker relation. -/
theorem SameReceipt.mono {R S : List UInt8 → List UInt16 → Prop} (hRS : ∀ s t, R s t → S s t)
    {g : Gateway.Receipt} {r : Sdk.Receipt} (h : SameReceipt R g r) :
  SameReceipt S g r
  := by
  constructor
  case chainId => exact h.chainId
  all_goals apply hRS
  · exact h.id
  · exact h.version
  · exact h.timestamp
  · exact h.payer
  · exact h.recipient
  · exact h.amount
  · exact h.token
  · exact h.nonce
  · exact h.endpoint
  · exact h.requestHash
  · exact h.responseHash

theorem valid_sdk_json (r : Sdk.Receipt) : r.json.Valid
  := by
  have hnum := isNumber_decimalInt r.payment.chainId
  simp [Sdk.Receipt.json, Valid, ValidMembers, hnum]

/-- If the gateway and the SDK write the same bytes, they write the same receipt. -/
theorem sameReceipt_of_marshal_eq {g : Gateway.Receipt} {r : Sdk.Receipt} {v : Json (List UInt8)}
    (hv : g.json = some v)
    (h : GoJson.marshal v = utf8 (Sdk.serializeReceiptForGateway r)) :
  SameReceipt SamePlainText g r
  := by
  have hmap := map_pieces_eq_of_marshal_eq (Gateway.Receipt.valid_json hv) (valid_sdk_json r) h
  obtain ⟨-, rfl⟩ := Gateway.Receipt.json_eq_some_iff.mp hv
  simp only [Gateway.Receipt.jsonWith, Gateway.PaymentDetails.json, Gateway.ServiceDetails.json,
    Sdk.Receipt.json, Json.map, mapMembers, Json.obj.injEq, List.cons.injEq, Prod.mk.injEq,
    Json.str.injEq, Json.num.injEq, and_true] at hmap
  obtain ⟨⟨-, hid⟩, ⟨-, hversion⟩, ⟨-, htimestamp⟩, ⟨-, ⟨-, hpayer⟩, ⟨-, hrecipient⟩, ⟨-, hamount⟩,
    ⟨-, htoken⟩, ⟨-, hchain⟩, -, hnonce⟩, -, ⟨-, hendpoint⟩, ⟨-, hrequest⟩, -, hresponse⟩ := hmap
  exact {
    id := samePlainText_of_pieces_eq hid
    version := samePlainText_of_pieces_eq hversion
    timestamp := samePlainText_of_pieces_eq htimestamp
    payer := samePlainText_of_pieces_eq hpayer
    recipient := samePlainText_of_pieces_eq hrecipient
    amount := samePlainText_of_pieces_eq hamount
    token := samePlainText_of_pieces_eq htoken
    chainId := decimalInt_injective hchain
    nonce := samePlainText_of_pieces_eq hnonce
    endpoint := samePlainText_of_pieces_eq hendpoint
    requestHash := samePlainText_of_pieces_eq hrequest
    responseHash := samePlainText_of_pieces_eq hresponse }

/-- The gateway and the SDK write the same bytes for a receipt of plain texts. -/
theorem SameReceipt.marshal_eq {g : Gateway.Receipt} {r : Sdk.Receipt} {v : Json (List UInt8)}
    (hsame : SameReceipt SamePlainText g r) (hv : g.json = some v) :
  GoJson.marshal v = utf8 (Sdk.serializeReceiptForGateway r)
  := by
  obtain ⟨-, rfl⟩ := Gateway.Receipt.json_eq_some_iff.mp hv
  have hkeys : ∀ s ∈ ["id", "version", "timestamp", "payment", "payer", "recipient", "amount",
      "token", "chainId", "nonce", "service", "endpoint", "request_hash", "response_hash"],
      GoJson.quote (bytes s) = quote (units s) := by
    intro s hs
    apply SamePlainText.quote_eq
    refine ⟨s.toList, ?_, rfl, rfl⟩
    revert s
    unfold IsPlain
    decide
  simp only [List.forall_mem_cons] at hkeys
  simp only [GoJson.marshal, Sdk.serializeReceiptForGateway, stringify, Gateway.Receipt.jsonWith,
    Gateway.PaymentDetails.json, Gateway.ServiceDetails.json, Sdk.Receipt.json, print, printMembers,
    hkeys, hsame.id.quote_eq, hsame.version.quote_eq, hsame.timestamp.quote_eq,
    hsame.payer.quote_eq, hsame.recipient.quote_eq, hsame.amount.quote_eq, hsame.token.quote_eq,
    hsame.chainId, hsame.nonce.quote_eq, hsame.endpoint.quote_eq, hsame.requestHash.quote_eq,
    hsame.responseHash.quote_eq]

/-! ### What the SDK decodes -/

/-- The signed receipt the SDK reads where the gateway wrote one. -/
def receivedReceipt (s : Gateway.SignedReceipt) : Sdk.SignedReceipt where
  receipt := {
    id := received s.receipt.id
    version := received s.receipt.version
    timestamp := utf16 s.receipt.timestamp.format
    payment := {
      payer := received s.receipt.payment.payer
      recipient := received s.receipt.payment.recipient
      amount := received s.receipt.payment.amount
      token := received s.receipt.payment.token
      chainId := s.receipt.payment.chainId
      nonce := received s.receipt.payment.nonce }
    service := {
      endpoint := received s.receipt.service.endpoint
      requestHash := received s.receipt.service.requestHash
      responseHash := received s.receipt.service.responseHash } }
  signature := received s.signature
  serverPublicKey := received s.serverPublicKey

/-- The signed receipt with each string read in some way and with a chain id. -/
def readReceipt (read : List UInt8 → List UInt16) (s : Gateway.SignedReceipt) (chainId : Int) :
    Sdk.SignedReceipt where
  receipt := {
    id := read s.receipt.id
    version := read s.receipt.version
    timestamp := read (utf8 s.receipt.timestamp.format)
    payment := {
      payer := read s.receipt.payment.payer
      recipient := read s.receipt.payment.recipient
      amount := read s.receipt.payment.amount
      token := read s.receipt.payment.token
      chainId := chainId
      nonce := read s.receipt.payment.nonce }
    service := {
      endpoint := read s.receipt.service.endpoint
      requestHash := read s.receipt.service.requestHash
      responseHash := read s.receipt.service.responseHash } }
  signature := read s.signature
  serverPublicKey := read s.serverPublicKey

theorem readReceipt_received (s : Gateway.SignedReceipt) :
  readReceipt received s s.receipt.payment.chainId = receivedReceipt s
  := by
  simp only [readReceipt, receivedReceipt, received_utf8]

/-- The names of the fields of a signed receipt. -/
def fieldNames : List String :=
  ["receipt", "signature", "server_public_key", "id", "version", "timestamp", "payment", "service",
    "payer", "recipient", "amount", "token", "chainId", "nonce", "endpoint", "request_hash",
    "response_hash"]

/-- The fields of the value the gateway wrote, if their names are read as they are. -/
theorem readFields_map {read : List UInt8 → List UInt16}
    (hread : ∀ name ∈ fieldNames, read (bytes name) = units name) {s : Gateway.SignedReceipt}
    {v : Json (List UInt8)} (hv : s.json = some v) :
  Sdk.readFields (v.map read)
    = (safeInteger (decimalInt s.receipt.payment.chainId)).map (readReceipt read s)
  := by
  simp only [fieldNames, List.forall_mem_cons] at hread
  obtain ⟨w, hw, rfl⟩ := Option.map_eq_some_iff.mp hv
  obtain ⟨-, rfl⟩ := Gateway.Receipt.json_eq_some_iff.mp hw
  have hpayment : Sdk.readPayment (s.receipt.payment.json.map read)
      = (safeInteger (decimalInt s.receipt.payment.chainId)).map fun n =>
        (readReceipt read s n).receipt.payment := by
    simp [Gateway.PaymentDetails.json, Json.map, mapMembers, hread, Sdk.readPayment, Sdk.getString,
      Sdk.getSafeInteger, Sdk.asString, Sdk.asSafeInteger, readReceipt, Option.map_eq_bind]
  have hservice : Sdk.readService (s.receipt.service.json.map read)
      = some (readReceipt read s 0).receipt.service := by
    simp [Gateway.ServiceDetails.json, Json.map, mapMembers, hread, Sdk.readService, Sdk.getString,
      Sdk.asString, readReceipt]
  have hreceipt : Sdk.readReceiptFields
      ((s.receipt.jsonWith (.str (utf8 s.receipt.timestamp.format))).map read)
      = (safeInteger (decimalInt s.receipt.payment.chainId)).map fun n =>
        (readReceipt read s n).receipt := by
    simp [Gateway.Receipt.jsonWith, Json.map, mapMembers, hread, Sdk.readReceiptFields,
      Sdk.getString, Sdk.asString, hpayment, hservice, Option.map_eq_bind]
    rw [Option.bind_assoc]
    rfl
  simp [Json.map, mapMembers, hread, Sdk.readFields, Sdk.getString, Sdk.asString, hreceipt,
    Option.map_eq_bind]
  rw [Option.bind_assoc]
  rfl

/-- The SDK reads the value the gateway wrote. -/
theorem readFields_json {s : Gateway.SignedReceipt} {v : Json (List UInt8)} (hv : s.json = some v)
    (hpos : 0 < s.receipt.payment.chainId) (hlt : s.receipt.payment.chainId < 2 ^ 53) :
  Sdk.readFields (v.map received) = some (receivedReceipt s)
  := by
  rw [readFields_map (fun name _ => received_bytes name) hv, safeInteger_decimalInt hpos hlt, Option.map_some,
    readReceipt_received]

theorem map_unquote_pieces (v : Json (List UInt8)) :
  (v.map GoJson.pieces).map unquote = v.map received
  := by
  rw [map_map]
  simp only [unquote_pieces]

/-- The receipt header is decoded to the value that was written. -/
theorem decodeReceiptHeader_receiptHeader {s : Gateway.SignedReceipt} {header : List Char}
    (h : Gateway.receiptHeader s = some header) :
  ∃ v, s.json = some v ∧ header = Base64.encode (GoJson.marshal v)
    ∧ Sdk.decodeReceiptHeader header = Sdk.validateReceiptFormat (v.map received)
  := by
  obtain ⟨v, hv, rfl⟩ := Option.map_eq_some_iff.mp h
  obtain ⟨w, hw, hobj⟩ := Option.map_eq_some_iff.mp hv
  have hparse : JsJson.parse (textDecode (GoJson.marshal v)) = some (v.map received) := by
    have hvalid := Gateway.SignedReceipt.valid_json hv
    rw [← map_unquote_pieces]
    rw [← hobj] at hvalid ⊢
    exact parse_textDecode_marshal hvalid
  have hne : Base64.encode (GoJson.marshal v) ≠ [] := by
    intro hnil
    have hdec := Base64.decode_encode (GoJson.marshal v)
    rw [hnil, Base64.decode, Option.some.injEq, ← hobj, GoJson.marshal, print] at hdec
    simp [utf8EncodeChar_of_lt (show '{'.toNat < 128 by decide)] at hdec
  have hbase : Sdk.decodeBase64ToUtf8 (Base64.encode (GoJson.marshal v))
      = some (textDecode (GoJson.marshal v)) := by
    rw [Sdk.decodeBase64ToUtf8, if_neg (by simp [hne, Base64.isCanonical_encode]),
      Base64.decode_encode, Option.map_some]
  refine ⟨v, hv, rfl, ?_⟩
  simp only [Sdk.decodeReceiptHeader, hbase, hparse, Option.bind_eq_bind, Option.bind_some]

/-- What the SDK makes of the receipt header. -/
theorem decodeReceiptHeader_eq {s : Gateway.SignedReceipt} {header : List Char}
    (h : Gateway.receiptHeader s = some header)
    (hpos : 0 < s.receipt.payment.chainId) (hlt : s.receipt.payment.chainId < 2 ^ 53) :
  Sdk.decodeReceiptHeader header
    = (some (receivedReceipt s)).filter Sdk.SignedReceipt.isValid
  := by
  obtain ⟨v, hv, -, hdecode⟩ := decodeReceiptHeader_receiptHeader h
  rw [hdecode, Sdk.validateReceiptFormat, readFields_json hv hpos hlt]

/-! ### What the SDK verifies -/

/-- The `ethers` and `go-ethereum` packages agree: on the hash function, on the spelling of
public keys, and recovery finds the key a signature was made with. -/
structure Agree (crypto : Gateway.Crypto) (eth : Sdk.Ethers) : Prop where
  keccak256 : eth.keccak256 = crypto.keccak256
  publicKey : ∀ key, eth.computePublicKey (Sdk.hexlify (crypto.publicKeyBytes key).toList)
    = some (crypto.publicKeyBytes key)
  recover : ∀ hash key sig, crypto.sign hash key = .ok sig → sig.toList.getD 64 0 ≤ 1
    ∧ ∃ signature, eth.signatureFrom (Sdk.hexlify (sig.toList.take 32))
          (Sdk.hexlify ((sig.toList.drop 32).take 32)) ((sig.toList.getD 64 0).toNat + 27)
        = some signature
      ∧ eth.recoverPublicKey hash signature
        = some (Sdk.hexlify (crypto.publicKeyBytes key).toList)

/-- The digits of bytes are characters below 128. -/
theorem hexEncode_ascii (bs : List UInt8) : ∀ c ∈ hexEncode bs, c.toNat < 128
  := forall_mem_hexEncode (by decide) bs

/-- The bytes of what `ethers` writes for bytes. -/
theorem getBytes_hexlify (bs : List UInt8) : Sdk.getBytes (Sdk.hexlify bs) = some bs
  := by
  have hunits : Sdk.hexlify bs = 0x30 :: 0x78 :: utf16 (hexEncode bs) := rfl
  rw [hunits, Sdk.getBytes, if_pos (Or.inl rfl), map_utf16 (hexEncode_ascii bs),
    hexDecode_hexEncode]

theorem received_hex (bs : List UInt8) :
  received (bytes "0x" ++ utf8 (hexEncode bs)) = Sdk.hexlify bs
  := by
  rw [bytes, ← utf8_append, received_utf8]
  rfl

/-- A key is normalised to the lower-case spelling of its bytes. -/
theorem normalizePublicKey_of_computePublicKey {eth : Sdk.Ethers} {value : List UInt16}
    {key : Vector UInt8 65} (hne : value ≠ []) (h : eth.computePublicKey value = some key) :
  Sdk.normalizePublicKey eth (some value) = some (Sdk.toLowerCase (Sdk.hexlify key.toList))
  := by
  simp [Sdk.normalizePublicKey, hne, h]

theorem hexlify_ne_nil (bs : List UInt8) : Sdk.hexlify bs ≠ []
  := List.cons_ne_nil _ _

/-- A receipt the gateway signed verifies if the SDK finds its fields valid and writes the
bytes that were signed. -/
theorem verifyReceipt_receivedReceipt {crypto : Gateway.Crypto} {eth : Sdk.Ethers}
    (hagree : Agree crypto eth) {env : Gateway.Env} {r : Gateway.Receipt} {s : Gateway.SignedReceipt}
    (hs : Gateway.signReceipt crypto env r = .ok s) {key : crypto.PrivateKey}
    (hkey : Gateway.getServerPrivateKey crypto env = .ok key) {trusted : List UInt16}
    (hne : trusted ≠ []) (htrusted : eth.computePublicKey trusted = some (crypto.publicKeyBytes key))
    (hvalid : (receivedReceipt s).isValid = true)
    (hbytes : r.json.map GoJson.marshal
      = some (utf8 (Sdk.serializeReceiptForGateway (receivedReceipt s).receipt))) :
  Sdk.verifyReceipt eth (receivedReceipt s) (some trusted) = true
  := by
  obtain ⟨key', v, sig, hkey', hv, hsig, rfl⟩ := Gateway.signReceipt_eq_ok hs
  obtain rfl := Except.ok.inj (hkey.symm.trans hkey')
  rw [hv, Option.map_some, Option.some.injEq] at hbytes
  rw [hbytes, ← hagree.keccak256] at hsig
  obtain ⟨hle, signature, hfrom, hrec⟩ := hagree.recover _ _ _ hsig
  have hexpected := normalizePublicKey_of_computePublicKey hne htrusted
  have hserver := normalizePublicKey_of_computePublicKey (hexlify_ne_nil _) (hagree.publicKey key)
  have hlength : sig.toList.length = 65 := sig.length_toList
  have hv27 : (sig.toList.getD 64 0).toNat ≤ 1 := UInt8.le_iff_toNat_le.mp hle
  unfold Sdk.verifyReceipt
  simp only [hvalid, Bool.not_true, Bool.false_eq_true, if_false, hexpected]
  simp only [receivedReceipt, received_hex, hserver, ne_eq, not_true_eq_false, if_false,
    getBytes_hexlify, hlength, hv27, if_true, hfrom]
  simp only [receivedReceipt] at hrec
  simp only [hrec, hserver, decide_true]

/-! ### Plain texts -/

/-- A string is a text that is not empty and in which Go names no character but control
characters by its number. -/
def IsPlainText (s : List UInt8) : Prop :=
  s ≠ [] ∧ ∃ x, IsPlain x ∧ s = utf8 x

theorem isPlain_append {x y : List Char} (hx : IsPlain x) (hy : IsPlain y) : IsPlain (x ++ y)
  := by
  intro c hc
  obtain hc | hc := List.mem_append.mp hc
  · exact hx c hc
  · exact hy c hc

theorem isPlain_hexEncode (bs : List UInt8) : IsPlain (hexEncode bs)
  := forall_mem_hexEncode (by decide) bs

/-- The form of a time is a plain text. -/
theorem isPlain_format (t : Gateway.Time) : IsPlain t.format
  := by
  refine Gateway.forall_mem_format (q := fun c => GoJson.named c = false) ?_ (by decide) t
  intro c hdigit
  have hrange := Char.isDigit_iff_toNat.mp hdigit
  simp only [GoJson.named, Bool.or_eq_false_iff, decide_eq_false_iff_not]
  refine ⟨⟨⟨⟨?_, ?_⟩, ?_⟩, ?_⟩, ?_⟩
  all_goals
    rintro rfl
    revert hrange
    decide

theorem IsPlainText.same {s : List UInt8} (h : IsPlainText s) : SamePlainText s (received s)
  := by
  obtain ⟨-, x, hx, rfl⟩ := h
  exact ⟨x, hx, rfl, received_utf8 x⟩

theorem isPlainText_utf8 {x : List Char} (hne : x ≠ []) (hx : IsPlain x) : IsPlainText (utf8 x)
  := by
  refine ⟨?_, x, hx, rfl⟩
  intro h
  exact hne (utf8_injective (h.trans utf8_nil.symm))

theorem received_ne_nil {s : List UInt8} (h : IsPlainText s) : received s ≠ []
  := by
  obtain ⟨hne, x, -, rfl⟩ := h
  rw [received_utf8]
  intro hnil
  have : x = [] := utf16_injective (hnil.trans utf16_nil.symm)
  exact hne (this ▸ utf8_nil)

/-- A plain text after a name that is plain. -/
theorem isPlainText_append {s : String} {x : List Char} (hne : s.toList ≠ [])
    (hs : IsPlain s.toList) (hx : IsPlain x) :
  IsPlainText (bytes s ++ utf8 x)
  := by
  rw [bytes, ← utf8_append]
  apply isPlainText_utf8 _ (isPlain_append hs hx)
  simp [hne]

/-- The strings of a receipt that are not made by the gateway. -/
def givenStrings (payment : Gateway.PaymentContext) (payer endpoint : List UInt8) :
    List (List UInt8) :=
  [payer, payment.recipient, payment.amount, payment.token, payment.nonce, endpoint]

/-- The SDK verifies a receipt of the gateway: it decodes the receipt header, finds the
signature of what it decoded to be made with the trusted key, and writes the very bytes
that were signed. -/
def SdkVerifies (eth : Sdk.Ethers) (trusted : List UInt16) (s : Gateway.SignedReceipt) : Prop :=
  ∃ header r, Gateway.receiptHeader s = some header
    ∧ Sdk.decodeReceiptHeader header = some r
    ∧ Sdk.verifyReceipt eth r (some trusted) = true
    ∧ s.receipt.json.map GoJson.marshal = some (utf8 (Sdk.serializeReceiptForGateway r.receipt))

section Verifies

variable {crypto : Gateway.Crypto} {eth : Sdk.Ethers} {env : Gateway.Env}
  {random : Vector UInt8 6} {now : Gateway.Time} {payment : Gateway.PaymentContext}
  {payer endpoint reqBody respBody : List UInt8}

/-- The strings the gateway makes for a receipt are plain texts, so that the SDK reads the
receipt that was written if the others are plain texts as well. -/
theorem sameReceipt_newReceipt {s : Gateway.SignedReceipt}
    (hs : s.receipt = Gateway.newReceipt (bytes "rcpt_" ++ utf8 (hexEncode random.toList)) now
      payment payer endpoint reqBody respBody)
    (hplain : ∀ t ∈ givenStrings payment payer endpoint, IsPlainText t) :
  SameReceipt SamePlainText s.receipt (receivedReceipt s).receipt
  := by
  obtain ⟨hpayer, hrecipient, hamount, htoken, hnonce, hendpoint, -⟩ :
      IsPlainText payer ∧ IsPlainText payment.recipient ∧ IsPlainText payment.amount
        ∧ IsPlainText payment.token ∧ IsPlainText payment.nonce ∧ IsPlainText endpoint ∧ True := by
    simpa [givenStrings] using hplain
  have hnames : ∀ name ∈ ["rcpt_", "1.0", "sha256:"], name.toList ≠ [] ∧ IsPlain name.toList := by
    unfold IsPlain
    decide
  have hname : ∀ name ∈ ["rcpt_", "1.0", "sha256:"], ∀ x, IsPlain x →
      IsPlainText (bytes name ++ utf8 x) :=
    fun name hmem x hx => isPlainText_append (hnames name hmem).1 (hnames name hmem).2 hx
  have hid := hname "rcpt_" (by decide) _ (isPlain_hexEncode random.toList)
  have hversion := hname "1.0" (by decide) [] (List.forall_mem_nil _)
  rw [utf8_nil, List.append_nil] at hversion
  have hhash : ∀ data, IsPlainText (Gateway.hashData data) := by
    intro data
    rw [Gateway.hashData_eq]
    exact hname "sha256:" (by decide) _ (isPlain_hexEncode _)
  simp only [receivedReceipt, hs, Gateway.newReceipt]
  exact {
    id := hid.same
    version := hversion.same
    timestamp := ⟨now.format, isPlain_format now, rfl, rfl⟩
    payer := hpayer.same
    recipient := hrecipient.same
    amount := hamount.same
    token := htoken.same
    chainId := rfl
    nonce := hnonce.same
    endpoint := hendpoint.same
    requestHash := (hhash reqBody).same
    responseHash := (hhash respBody).same }

theorem isPrefixedString_received {name : String} (hne : name.toList ≠ []) (x : List Char) :
  Sdk.isPrefixedString (received (bytes name ++ utf8 x)) name = true
  := by
  have heq : received (bytes name ++ utf8 x) = units name ++ utf16 x := by
    rw [bytes, ← utf8_append, received_utf8, utf16_append, units]
  have hne' : units name ≠ [] := by
    intro h
    exact hne (utf16_injective (h.trans utf16_nil.symm))
  simp [Sdk.isPrefixedString, Sdk.isNonEmptyString, heq, hne']

/-- The SDK finds the fields of a receipt valid exactly if the strings the gateway was given
are not empty. -/
theorem isValid_receivedReceipt {s : Gateway.SignedReceipt}
    (hs : Gateway.signReceipt crypto env
      (Gateway.newReceipt (bytes "rcpt_" ++ utf8 (hexEncode random.toList)) now
        payment payer endpoint reqBody respBody) = .ok s)
    (hpos : 0 < payment.chainId) :
  (receivedReceipt s).isValid = true
    ↔ ∀ t ∈ givenStrings payment payer endpoint, received t ≠ []
  := by
  obtain ⟨key, v, sig, -, -, -, rfl⟩ := Gateway.signReceipt_eq_ok hs
  have htimestamp : utf16 now.format ≠ [] := by
    intro h
    have hnil := utf16_injective (h.trans utf16_nil.symm)
    simp [Gateway.Time.format] at hnil
  have hversion : units "1.0" ≠ [] := by decide
  have hzero : "0x".toList ≠ [] := by decide
  have hsha : "sha256:".toList ≠ [] := by decide
  have hrcpt : "rcpt_".toList ≠ [] := by decide
  simp only [receivedReceipt, Gateway.newReceipt, Sdk.SignedReceipt.isValid, Gateway.hashData_eq,
    isPrefixedString_received hzero, isPrefixedString_received hsha,
    isPrefixedString_received hrcpt, Sdk.isNonEmptyString, received_bytes, htimestamp, hversion,
    hpos, givenStrings, Bool.and_eq_true, decide_eq_true_eq, ne_eq, not_false_eq_true,
    List.forall_mem_cons, and_true, true_and, and_assoc]
  simp

/-- The SDK verifies a receipt the gateway generated exactly if the strings the gateway was
given for it are plain texts. -/
theorem receipt_verifies_iff (hagree : Agree crypto eth) {key : crypto.PrivateKey}
    (hkey : Gateway.getServerPrivateKey crypto env = .ok key) {trusted : List UInt16}
    (hne : trusted ≠ []) (htrusted : eth.computePublicKey trusted = some (crypto.publicKeyBytes key))
    {random : Option (Vector UInt8 6)} {s : Gateway.SignedReceipt}
    (hs : Gateway.generateReceipt crypto env random now payment payer endpoint reqBody respBody
      = .ok s)
    (hpos : 0 < payment.chainId) (hlt : payment.chainId < 2 ^ 53) :
  SdkVerifies eth trusted s ↔ ∀ t ∈ givenStrings payment payer endpoint, IsPlainText t
  := by
  obtain ⟨b, rfl, hsign⟩ := Gateway.generateReceipt_eq_ok hs
  obtain ⟨key', v, sig, hkey', hv, -, hs'⟩ := Gateway.signReceipt_eq_ok hsign
  have hreceipt := congrArg Gateway.SignedReceipt.receipt hs'
  dsimp only at hreceipt
  have hchain : s.receipt.payment.chainId = payment.chainId := by rw [hreceipt]; rfl
  have hjson : s.receipt.json = some v := by rw [hreceipt, hv]
  have hvalid := isValid_receivedReceipt hsign hpos
  constructor
  · rintro ⟨header, r, hheader, hdecode, -, hbytes⟩
    rw [decodeReceiptHeader_eq hheader (hchain ▸ hpos) (hchain ▸ hlt),
      Option.filter_eq_some_iff] at hdecode
    obtain ⟨hr, hok⟩ := hdecode
    obtain rfl := Option.some.inj hr
    rw [hjson, Option.map_some, Option.some.injEq] at hbytes
    have hsame := sameReceipt_of_marshal_eq hjson hbytes
    have hfilled := hvalid.mp hok
    have hplain : ∀ t, received t ≠ [] → SamePlainText t (received t) → IsPlainText t := by
      rintro t hnil ⟨x, hx, rfl, -⟩
      refine ⟨?_, x, hx, rfl⟩
      intro ht
      exact hnil (by rw [ht]; rfl)
    have hgiven : givenStrings payment payer endpoint
        = [s.receipt.payment.payer, s.receipt.payment.recipient, s.receipt.payment.amount,
          s.receipt.payment.token, s.receipt.payment.nonce, s.receipt.service.endpoint] := by
      rw [hreceipt]
      rfl
    rw [hgiven] at hfilled ⊢
    simp only [List.forall_mem_cons] at hfilled ⊢
    obtain ⟨hpayer, hrecipient, hamount, htoken, hnonce, hendpoint, -⟩ := hfilled
    exact ⟨hplain _ hpayer hsame.payer, hplain _ hrecipient hsame.recipient,
      hplain _ hamount hsame.amount, hplain _ htoken hsame.token, hplain _ hnonce hsame.nonce,
      hplain _ hendpoint hsame.endpoint, List.forall_mem_nil _⟩
  · intro hplain
    have hsame := sameReceipt_newReceipt hreceipt hplain
    have hok := hvalid.mpr fun t ht => received_ne_nil (hplain t ht)
    have hbytes : s.receipt.json.map GoJson.marshal
        = some (utf8 (Sdk.serializeReceiptForGateway (receivedReceipt s).receipt)) := by
      rw [hjson, Option.map_some, hsame.marshal_eq hjson]
    have hsigned : ∃ w, s.json = some w := by
      rw [Gateway.SignedReceipt.json, hjson]
      exact ⟨_, rfl⟩
    obtain ⟨w, hw⟩ := hsigned
    have hheader : Gateway.receiptHeader s = some (Base64.encode (GoJson.marshal w)) := by
      rw [Gateway.receiptHeader, hw, Option.map_some]
    refine ⟨_, receivedReceipt s, hheader, ?_, ?_, hbytes⟩
    · rw [decodeReceiptHeader_eq hheader (hchain ▸ hpos) (hchain ▸ hlt), Option.filter_some,
        if_pos hok]
    · apply verifyReceipt_receivedReceipt hagree hsign hkey hne htrusted hok
      rw [← hreceipt]
      exact hbytes

end Verifies

/-! ### Samples -/

/-- The public key of the samples. -/
def samplePublicKey : Vector UInt8 65 :=
  Vector.replicate 65 4

/-- A signature scheme with one key, whose hashes are lengths and whose signatures are the
hashes they sign. -/
def sampleCrypto : Gateway.Crypto where
  PrivateKey := Unit
  toECDSA _ := .ok ()
  keccak256 m := Vector.replicate 32 (.ofNat m.length)
  sign hash _ := .ok ⟨(hash.toList ++ List.replicate 33 0).toArray, by simp⟩
  publicKeyBytes _ := samplePublicKey

/-- Recovery for the samples: a hash was signed with the one key. -/
def sampleEthers : Sdk.Ethers where
  Signature := List UInt16
  keccak256 := sampleCrypto.keccak256
  computePublicKey value :=
    if value = Sdk.hexlify samplePublicKey.toList then some samplePublicKey else none
  signatureFrom r _ _ := some r
  recoverPublicKey hash signature :=
    if signature = Sdk.hexlify hash.toList then some (Sdk.hexlify samplePublicKey.toList) else none

theorem agree_sample : Agree sampleCrypto sampleEthers
  := by
  constructor
  · rfl
  · intro key
    simp [sampleEthers, sampleCrypto]
  · intro hash key sig h
    obtain rfl := Except.ok.inj h
    have hlength : hash.toList.length = 32 := hash.length_toList
    constructor
    · simp [List.getD_eq_getElem?_getD, hlength]
    · refine ⟨_, rfl, ?_⟩
      simp [hlength, sampleEthers, sampleCrypto]

/-- Settings with a private key of thirty-two bytes. -/
def sampleEnv : Gateway.Env :=
  fun key => if key = "SERVER_WALLET_PRIVATE_KEY" then List.replicate 64 0x31 else []

/-- The receipt of a payment with a nonce for an answer, under the sample settings. -/
def sampleReceipt (nonce answer : String) : Except Gateway.ReceiptError Gateway.SignedReceipt :=
  Gateway.generateReceipt sampleCrypto sampleEnv (some (Vector.replicate 6 0xAB)) ⟨0⟩
    (Gateway.paymentContext sampleEnv (bytes nonce) 1700000000) (bytes "0x12")
    (bytes "/api/ai/summarize") [] (bytes answer)

theorem getServerPrivateKey_sample :
  Gateway.getServerPrivateKey sampleCrypto sampleEnv = .ok ()
  := by
  have hok : (Gateway.getServerPrivateKey sampleCrypto sampleEnv).isOk = true := by decide
  cases h : Gateway.getServerPrivateKey sampleCrypto sampleEnv with
  | error e =>
      rw [h] at hok
      cases hok
  | ok key => rfl

/-- The receipt of a payment with a plain nonce is verified. -/
theorem receipt_verifies_sample :
  ∃ s, sampleReceipt "n-1" "" = .ok s
    ∧ SdkVerifies sampleEthers (Sdk.hexlify samplePublicKey.toList) s
  := by
  have hok : (sampleReceipt "n-1" "").isOk = true := by decide
  cases hs : sampleReceipt "n-1" "" with
  | error e =>
      rw [hs] at hok
      cases hok
  | ok s =>
      refine ⟨s, rfl, ?_⟩
      apply (receipt_verifies_iff agree_sample getServerPrivateKey_sample (hexlify_ne_nil _)
        (agree_sample.publicKey ()) hs (by decide) (by decide)).mpr
      have hgiven : givenStrings (Gateway.paymentContext sampleEnv (bytes "n-1") 1700000000)
            (bytes "0x12") (bytes "/api/ai/summarize")
          = ["0x12", "0x2cAF48b4BA1C58721a85dFADa5aC01C2DFa62219", "0.001", "USDC", "n-1",
            "/api/ai/summarize"].map bytes := by decide
      rw [hgiven]
      intro t ht
      obtain ⟨name, hname, rfl⟩ := List.mem_map.mp ht
      apply isPlainText_utf8
      · revert name
        decide
      · revert name
        unfold IsPlain
        decide

theorem eq_ok_of_toOption {ε α : Type} {x : Except ε α} {a : α} (h : x.toOption = some a) :
  x = .ok a
  := by
  cases x with
  | error e => cases h
  | ok b => rw [Option.some.inj h]

/-- The receipt of a payment whose nonce has an ampersand is decoded, but not verified: the
SDK writes the ampersand where the gateway named it by its number. -/
theorem ampersand_receipt_not_verified :
  Agree sampleCrypto sampleEthers
    ∧ ∃ s header r, sampleReceipt "n&1" "" = .ok s
      ∧ Gateway.receiptHeader s = some header
      ∧ Sdk.decodeReceiptHeader header = some r
      ∧ Sdk.verifyReceipt sampleEthers r (some (Sdk.hexlify samplePublicKey.toList)) = false
      ∧ ¬ SdkVerifies sampleEthers (Sdk.hexlify samplePublicKey.toList) s
  := by
  refine ⟨agree_sample, ?_⟩
  have hrun : ((sampleReceipt "n&1" "").toOption.map fun s =>
      ((receivedReceipt s).isValid, (Gateway.receiptHeader s).isSome, s.receipt.payment.chainId,
        Sdk.verifyReceipt sampleEthers (receivedReceipt s)
          (some (Sdk.hexlify samplePublicKey.toList))))
      = some (true, true, 84532, false) := by decide +kernel
  obtain ⟨s, hs, hrun⟩ := Option.map_eq_some_iff.mp hrun
  simp only [Prod.mk.injEq] at hrun
  obtain ⟨hvalid, hheader, hchain, hfalse⟩ := hrun
  obtain ⟨header, hheader⟩ := Option.isSome_iff_exists.mp hheader
  have hr : Sdk.decodeReceiptHeader header = some (receivedReceipt s) := by
    rw [decodeReceiptHeader_eq hheader (by omega) (by omega), Option.filter_some, if_pos hvalid]
  have hok := eq_ok_of_toOption hs
  refine ⟨s, header, receivedReceipt s, hok, hheader, hr, hfalse, ?_⟩
  rintro ⟨header', r', hheader', hr', htrue, -⟩
  obtain rfl := Option.some.inj (hheader.symm.trans hheader')
  obtain rfl := Option.some.inj (hr.symm.trans hr')
  rw [hfalse] at htrue
  cases htrue

end Paygate
