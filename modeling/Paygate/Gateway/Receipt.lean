import Paygate.Base.Base64
import Paygate.Base.Sha256
import Paygate.Gateway.Config

/-!
# Receipts

The receipts of the gateway: how they are made, signed and written as JSON, and the check
they pass before they are stored.  The functions of the `go-ethereum` package the gateway
calls are the fields of `Crypto`.
-/

namespace Paygate.Gateway

open Text Json

/-! ### Time -/

/-- A point in time, in nanoseconds since the epoch, shown in UTC. -/
structure Time where
  unixNano : Int
  deriving DecidableEq, Repr

/-- Whole seconds since the epoch. -/
def Time.unix (t : Time) : Int :=
  t.unixNano / 1000000000

/-- The calendar date of a day counted from the epoch: year, month and day. -/
def civilDate (day : Int) : Int × Nat × Nat :=
  let z := day + 719468
  let era := z / 146097
  let doe := (z % 146097).toNat
  let yoe := (doe - doe / 1460 + doe / 36524 - doe / 146096) / 365
  let doy := doe - (365 * yoe + yoe / 4 - yoe / 100)
  let mp := (5 * doy + 2) / 153
  let month := if mp < 10 then mp + 3 else mp - 9
  (yoe + era * 400 + (if month ≤ 2 then 1 else 0), month, doy - (153 * mp + 2) / 5 + 1)

/-- The calendar date of a point in time. -/
def Time.date (t : Time) : Int × Nat × Nat :=
  civilDate (t.unix / 86400)

/-- The decimal digits of a number, filled with zeros to a width. -/
def padDecimal (width n : Nat) : List Char :=
  List.replicate (width - (decimal n).length) '0' ++ decimal n

/-- The fraction of a second, without trailing zeros. -/
def fraction (nanos : Nat) : List Char :=
  if nanos = 0 then [] else '.' :: ((padDecimal 9 nanos).reverse.dropWhile (· = '0')).reverse

/-- The RFC 3339 form with nanoseconds. -/
def Time.format (t : Time) : List Char :=
  let date := t.date
  let second := (t.unix % 86400).toNat
  padDecimal 4 date.1.toNat ++ '-' :: padDecimal 2 date.2.1 ++ '-' :: padDecimal 2 date.2.2
    ++ 'T' :: padDecimal 2 (second / 3600) ++ ':' :: padDecimal 2 (second / 60 % 60)
    ++ ':' :: padDecimal 2 (second % 60) ++ fraction (t.unixNano % 1000000000).toNat ++ ['Z']

theorem isDigit_of_mem_padDecimal {width n : Nat} {c : Char} (hc : c ∈ padDecimal width n) :
  c.isDigit = true
  := by
  obtain hc | hc := List.mem_append.mp hc
  · rw [List.eq_of_mem_replicate hc]
    rfl
  · exact isDigit_of_mem_decimal hc

/-- What holds of the digits and of the marks between them holds of the characters of the
form of a time. -/
theorem forall_mem_format {q : Char → Prop} (hdigit : ∀ c, c.isDigit = true → q c)
    (hmark : ∀ c ∈ ['-', 'T', ':', '.', 'Z'], q c) (t : Time) :
  ∀ c ∈ t.format, q c
  := by
  have hpad : ∀ width n, ∀ c ∈ padDecimal width n, q c :=
    fun width n c hc => hdigit c (isDigit_of_mem_padDecimal hc)
  have happend : ∀ {x y : List Char}, (∀ c ∈ x, q c) → (∀ c ∈ y, q c) → ∀ c ∈ x ++ y, q c := by
    intro x y hx hy c hc
    obtain hc | hc := List.mem_append.mp hc
    · exact hx c hc
    · exact hy c hc
  have hpart : ∀ m ∈ ['-', 'T', ':', '.', 'Z'], ∀ width n,
      ∀ c ∈ m :: padDecimal width n, q c :=
    fun m hm width n => List.forall_mem_cons.mpr ⟨hmark m hm, hpad width n⟩
  have hfraction : ∀ n, ∀ c ∈ fraction n, q c := by
    intro n
    unfold fraction
    split
    · exact List.forall_mem_nil _
    · refine List.forall_mem_cons.mpr ⟨hmark _ (by decide), ?_⟩
      intro c hc
      apply hpad 9 n
      exact List.mem_reverse.mp ((List.dropWhile_sublist _).subset (List.mem_reverse.mp hc))
  have hdate := happend (happend (hpad 4 t.date.1.toNat) (hpart '-' (by decide) 2 t.date.2.1))
    (hpart '-' (by decide) 2 t.date.2.2)
  have htime := happend (happend (happend hdate
    (hpart 'T' (by decide) 2 ((t.unix % 86400).toNat / 3600)))
    (hpart ':' (by decide) 2 ((t.unix % 86400).toNat / 60 % 60)))
    (hpart ':' (by decide) 2 ((t.unix % 86400).toNat % 60))
  exact happend (happend htime (hfraction (t.unixNano % 1000000000).toNat))
    (List.forall_mem_singleton.mpr (hmark 'Z' (by decide)))

/-- The JSON form, which a time whose year has not four digits lacks. -/
def Time.json (t : Time) : Option (Json (List UInt8)) :=
  if 0 ≤ t.date.1 ∧ t.date.1 ≤ 9999 then some (.str (utf8 t.format)) else none

/-- The first moment of the year 1. -/
def Time.isZero (t : Time) : Bool :=
  t.unixNano = -62135596800 * 1000000000

/-! ### Receipts -/

/-- What was paid, and by whom. -/
structure PaymentDetails where
  payer : List UInt8
  recipient : List UInt8
  amount : List UInt8
  token : List UInt8
  chainId : Int
  nonce : List UInt8
  deriving DecidableEq, Repr

/-- What was paid for. -/
structure ServiceDetails where
  endpoint : List UInt8
  requestHash : List UInt8
  responseHash : List UInt8
  deriving DecidableEq, Repr

/-- A receipt. -/
structure Receipt where
  id : List UInt8
  version : List UInt8
  timestamp : Time
  payment : PaymentDetails
  service : ServiceDetails
  deriving DecidableEq, Repr

/-- A receipt with its signature and the key that verifies it. -/
structure SignedReceipt where
  receipt : Receipt
  signature : List UInt8
  serverPublicKey : List UInt8
  deriving DecidableEq, Repr

/-- The strings of a signed receipt. -/
def SignedReceipt.strings (s : SignedReceipt) : List (List UInt8) :=
  [s.receipt.id, s.receipt.version, s.receipt.payment.payer, s.receipt.payment.recipient,
    s.receipt.payment.amount, s.receipt.payment.token, s.receipt.payment.nonce,
    s.receipt.service.endpoint, s.receipt.service.requestHash, s.receipt.service.responseHash,
    s.signature, s.serverPublicKey]

/-- The payment details as JSON. -/
def PaymentDetails.json (p : PaymentDetails) : Json (List UInt8) :=
  .obj [
    (bytes "payer", .str p.payer),
    (bytes "recipient", .str p.recipient),
    (bytes "amount", .str p.amount),
    (bytes "token", .str p.token),
    (bytes "chainId", .num (decimalInt p.chainId)),
    (bytes "nonce", .str p.nonce)]

/-- The service details as JSON. -/
def ServiceDetails.json (s : ServiceDetails) : Json (List UInt8) :=
  .obj [
    (bytes "endpoint", .str s.endpoint),
    (bytes "request_hash", .str s.requestHash),
    (bytes "response_hash", .str s.responseHash)]

/-- The receipt as JSON, with the JSON of its timestamp. -/
def Receipt.jsonWith (r : Receipt) (timestamp : Json (List UInt8)) : Json (List UInt8) :=
  .obj [
    (bytes "id", .str r.id),
    (bytes "version", .str r.version),
    (bytes "timestamp", timestamp),
    (bytes "payment", r.payment.json),
    (bytes "service", r.service.json)]

/-- The receipt as JSON. -/
def Receipt.json (r : Receipt) : Option (Json (List UInt8)) :=
  r.timestamp.json.map r.jsonWith

/-- The signed receipt as JSON. -/
def SignedReceipt.json (s : SignedReceipt) : Option (Json (List UInt8)) :=
  s.receipt.json.map fun r =>
    .obj [
      (bytes "receipt", r),
      (bytes "signature", .str s.signature),
      (bytes "server_public_key", .str s.serverPublicKey)]

/-- A receipt has a JSON form if its year has at most four digits. -/
theorem Receipt.json_eq_some_iff {r : Receipt} {v : Json (List UInt8)} :
  r.json = some v ↔ (0 ≤ r.timestamp.date.1 ∧ r.timestamp.date.1 ≤ 9999)
    ∧ v = r.jsonWith (.str (utf8 r.timestamp.format))
  := by
  simp only [Receipt.json, Time.json]
  split
  · rename_i h
    simp only [Option.map_some, Option.some.injEq, h, true_and]
    exact eq_comm
  · rename_i h
    simp only [Option.map_none, reduceCtorEq, false_iff]
    intro hv
    exact h hv.1

theorem Receipt.valid_json {r : Receipt} {v : Json (List UInt8)} (h : r.json = some v) : v.Valid
  := by
  obtain ⟨-, rfl⟩ := json_eq_some_iff.mp h
  have hnum := isNumber_decimalInt r.payment.chainId
  simp [Receipt.jsonWith, PaymentDetails.json, ServiceDetails.json, Valid, ValidMembers, hnum]

theorem SignedReceipt.valid_json {s : SignedReceipt} {v : Json (List UInt8)} (h : s.json = some v) :
  v.Valid
  := by
  obtain ⟨w, hw, rfl⟩ := Option.map_eq_some_iff.mp h
  simp [Valid, ValidMembers, Receipt.valid_json hw]

/-- The payment and the service are nested in the receipt, and this in the signed one. -/
theorem SignedReceipt.depth_json {s : SignedReceipt} {v : Json (List UInt8)} (h : s.json = some v) :
  v.depth = 3
  := by
  obtain ⟨w, hw, rfl⟩ := Option.map_eq_some_iff.mp h
  obtain ⟨-, rfl⟩ := Receipt.json_eq_some_iff.mp hw
  rfl

/-! ### Signing -/

/-- The functions of the `go-ethereum` package the gateway calls. -/
structure Crypto where
  PrivateKey : Type
  toECDSA : List UInt8 → Except String PrivateKey
  keccak256 : List UInt8 → Vector UInt8 32
  sign : Vector UInt8 32 → PrivateKey → Except String (Vector UInt8 65)
  publicKeyBytes : PrivateKey → Vector UInt8 65

/-- Why the private key could not be loaded. -/
inductive KeyError where
  | notSet
  | invalidFormat
  | tooShort (length : Nat)
  | tooLong (length : Nat)
  | parse (error : String)
  deriving DecidableEq, Repr

/-- Why a receipt could not be made. -/
inductive ReceiptError where
  | receiptID
  | privateKey (error : KeyError)
  | marshal
  | sign (error : String)
  deriving DecidableEq, Repr

/-- The text without a prefix, if it has it. -/
def trimPrefix (p s : List UInt8) : List UInt8 :=
  if p <+: s then s.drop p.length else s

/-- The private key of the server. -/
def getServerPrivateKey (crypto : Crypto) (env : Env) : Except KeyError crypto.PrivateKey :=
  let keyHex := env "SERVER_WALLET_PRIVATE_KEY"
  if keyHex = [] then .error .notSet
  else
    match hexDecode (latin1 (trimPrefix (bytes "0x") keyHex)) with
    | none => .error .invalidFormat
    | some keyBytes =>
        if keyBytes.length < 31 then .error (.tooShort keyBytes.length)
        else if 32 < keyBytes.length then .error (.tooLong keyBytes.length)
        else
          (crypto.toECDSA (List.replicate (32 - keyBytes.length) 0 ++ keyBytes)).mapError .parse

/-- Sign a receipt with the private key of the server. -/
def signReceipt (crypto : Crypto) (env : Env) (receipt : Receipt) :
    Except ReceiptError SignedReceipt := do
  let privateKey ← (getServerPrivateKey crypto env).mapError .privateKey
  let receiptBytes ← (receipt.json.map GoJson.marshal).elim (.error .marshal) .ok
  let hash := crypto.keccak256 receiptBytes
  let signature ← (crypto.sign hash privateKey).mapError .sign
  .ok {
    receipt := receipt
    signature := bytes "0x" ++ utf8 (hexEncode signature.toList)
    serverPublicKey := bytes "0x" ++ utf8 (hexEncode (crypto.publicKeyBytes privateKey).toList) }

/-- What `signReceipt` returns. -/
theorem signReceipt_eq_ok {crypto : Crypto} {env : Env} {r : Receipt}
    {s : SignedReceipt} (h : signReceipt crypto env r = .ok s) :
  ∃ key v sig, getServerPrivateKey crypto env = .ok key ∧ r.json = some v
    ∧ crypto.sign (crypto.keccak256 (GoJson.marshal v)) key = .ok sig
    ∧ s = {
        receipt := r
        signature := bytes "0x" ++ utf8 (hexEncode sig.toList)
        serverPublicKey := bytes "0x" ++ utf8 (hexEncode (crypto.publicKeyBytes key).toList) }
  := by
  unfold signReceipt at h
  cases hkey : getServerPrivateKey crypto env with
  | error e => simp [hkey, Except.mapError, bind, Except.bind] at h
  | ok key =>
      cases hv : r.json with
      | none => simp [hkey, hv, Except.mapError, bind, Except.bind] at h
      | some v =>
          cases hsig : crypto.sign (crypto.keccak256 (GoJson.marshal v)) key with
          | error e => simp [hkey, hv, hsig, Except.mapError, bind, Except.bind] at h
          | ok sig =>
              simp [hkey, hv, hsig, Except.mapError, bind, Except.bind] at h
              exact ⟨key, v, sig, rfl, rfl, hsig, h.symm⟩

/-- The receipt that was signed is the one in the signed receipt. -/
theorem receipt_of_signReceipt {crypto : Crypto} {env : Env} {r : Receipt} {s : SignedReceipt}
    (h : signReceipt crypto env r = .ok s) :
  s.receipt = r
  := by
  obtain ⟨-, -, -, -, -, -, rfl⟩ := signReceipt_eq_ok h
  rfl

/-! ### Making receipts -/

/-- The hash of data, with its name. -/
def hashData (data : List UInt8) : List UInt8 :=
  if data = [] then
    bytes "sha256:e3b0c44298fc1c149afbf4c8996fb92427ae41e4649b934ca495991b7852b855"
  else bytes "sha256:" ++ utf8 (hexEncode (Sha256.sum256 data))

/-- The constant for empty data is the hash of empty data. -/
theorem hashData_eq (data : List UInt8) :
  hashData data = bytes "sha256:" ++ utf8 (hexEncode (Sha256.sum256 data))
  := by
  rw [hashData]
  split
  · rename_i hnil
    rw [hnil]
    decide +kernel
  · rfl

/-- A receipt id, made of six random bytes. -/
def generateReceiptID (random : Option (Vector UInt8 6)) : Except ReceiptError (List UInt8) :=
  match random with
  | none => .error .receiptID
  | some b => .ok (bytes "rcpt_" ++ utf8 (hexEncode b.toList))

/-- The receipt of a payment. -/
def newReceipt (id : List UInt8) (now : Time) (payment : PaymentContext)
    (payer endpoint reqBody respBody : List UInt8) : Receipt where
  id := id
  version := bytes "1.0"
  timestamp := now
  payment := {
    payer := payer
    recipient := payment.recipient
    amount := payment.amount
    token := payment.token
    chainId := payment.chainId
    nonce := payment.nonce }
  service := {
    endpoint := endpoint
    requestHash := hashData reqBody
    responseHash := hashData respBody }

/-- Make and sign the receipt of a payment, from the random bytes and the time that were
read. -/
def generateReceipt (crypto : Crypto) (env : Env) (random : Option (Vector UInt8 6)) (now : Time)
    (payment : PaymentContext) (payer endpoint reqBody respBody : List UInt8) :
    Except ReceiptError SignedReceipt := do
  let receiptID ← generateReceiptID random
  signReceipt crypto env (newReceipt receiptID now payment payer endpoint reqBody respBody)

/-- What `generateReceipt` returns. -/
theorem generateReceipt_eq_ok {crypto : Crypto} {env : Env} {random : Option (Vector UInt8 6)}
    {now : Time} {payment : PaymentContext} {payer endpoint reqBody respBody : List UInt8}
    {s : SignedReceipt}
    (h : generateReceipt crypto env random now payment payer endpoint reqBody respBody = .ok s) :
  ∃ b, random = some b
    ∧ signReceipt crypto env (newReceipt (bytes "rcpt_" ++ utf8 (hexEncode b.toList)) now payment
        payer endpoint reqBody respBody) = .ok s
  := by
  cases random with
  | none => cases h
  | some b => exact ⟨b, rfl, h⟩

/-- A generated receipt was signed. -/
theorem signReceipt_of_generateReceipt {crypto : Crypto} {env : Env}
    {random : Option (Vector UInt8 6)} {now : Time} {payment : PaymentContext}
    {payer endpoint reqBody respBody : List UInt8} {s : SignedReceipt}
    (h : generateReceipt crypto env random now payment payer endpoint reqBody respBody = .ok s) :
  signReceipt crypto env s.receipt = .ok s
  := by
  obtain ⟨b, -, hsign⟩ := generateReceipt_eq_ok h
  rw [receipt_of_signReceipt hsign, hsign]

/-- The value of the `X-402-Receipt` header. -/
def receiptHeader (s : SignedReceipt) : Option (List Char) :=
  s.json.map fun v => Base64.encode (GoJson.marshal v)

/-! ### Checking receipts -/

/-- Whether a byte is one of the digits of a receipt id. -/
def isReceiptDigit (b : UInt8) : Bool :=
  (0x61 ≤ b && b ≤ 0x66) || (0x30 ≤ b && b ≤ 0x39)

/-- Whether a string has the form of a receipt id. -/
def isValidReceiptID (id : List UInt8) : Bool :=
  id.take 5 = bytes "rcpt_" && (id.drop 5).length = 12 && (id.drop 5).all isReceiptDigit

/-- A generated receipt id has the form of one. -/
theorem isValidReceiptID_generated (b : Vector UInt8 6) :
  isValidReceiptID (bytes "rcpt_" ++ utf8 (hexEncode b.toList)) = true
  := by
  have hdigit : ∀ c ∈ hexEncode b.toList,
      c.toNat < 128 ∧ isReceiptDigit (.ofNat c.toNat) = true :=
    forall_mem_hexEncode (by decide) b.toList
  have hbytes := utf8_eq_map fun c hc => (hdigit c hc).1
  have hlen : (bytes "rcpt_").length = 5 := by decide
  have htake : (bytes "rcpt_" ++ utf8 (hexEncode b.toList)).take 5 = bytes "rcpt_" := by
    rw [← hlen, List.take_left]
  have hdrop : (bytes "rcpt_" ++ utf8 (hexEncode b.toList)).drop 5 = utf8 (hexEncode b.toList) := by
    rw [← hlen, List.drop_left]
  rw [isValidReceiptID, htake, hdrop, hbytes]
  simp only [List.length_map, hexEncode_length, Vector.length_toList, List.all_map,
    Bool.and_eq_true, decide_eq_true_eq, List.all_eq_true]
  exact ⟨⟨trivial, trivial⟩, fun c hc => (hdigit c hc).2⟩

/-- The first of the fields a stored receipt must have that it lacks. -/
def validateReceipt (s : SignedReceipt) : Except String Unit :=
  if !isValidReceiptID s.receipt.id then .error "invalid receipt ID format"
  else if s.receipt.version = [] then .error "receipt version is empty"
  else if s.receipt.timestamp.isZero then .error "receipt timestamp is zero"
  else if s.receipt.payment.payer = [] then .error "payer address is empty"
  else if s.receipt.payment.recipient = [] then .error "recipient address is empty"
  else if s.receipt.payment.amount = [] then .error "payment amount is empty"
  else if s.receipt.payment.token = [] then .error "token is empty"
  else if s.receipt.payment.nonce = [] then .error "nonce is empty"
  else if s.receipt.service.endpoint = [] then .error "service endpoint is empty"
  else if s.receipt.service.requestHash = [] then .error "request hash is empty"
  else if s.receipt.service.responseHash = [] then .error "response hash is empty"
  else if s.signature = [] then .error "signature is empty"
  else if ¬ bytes "0x" <+: s.signature then .error "signature must start with '0x'"
  else if s.serverPublicKey = [] then .error "server public key is empty"
  else if ¬ bytes "0x" <+: s.serverPublicKey then
    .error "server public key must start with '0x'"
  else .ok ()

end Paygate.Gateway
