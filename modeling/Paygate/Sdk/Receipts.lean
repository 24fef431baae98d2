import Paygate.Base.Base64
import Paygate.Base.JsJson

/-!
# Receipts in the SDK

How the TypeScript SDK reads the receipt header of a response and verifies the signature
of a receipt.  Strings are lists of 16-bit units.  An object of the SDK is seen through the
fields its type gives it.  The functions of the `ethers` package the SDK calls are the
fields of `Ethers`.
-/

namespace Paygate.Sdk

open Text Json

/-! ### Receipts -/

/-- What was paid, and by whom. -/
structure PaymentDetails where
  payer : List UInt16
  recipient : List UInt16
  amount : List UInt16
  token : List UInt16
  chainId : Int
  nonce : List UInt16
  deriving DecidableEq, Repr

/-- What was paid for. -/
structure ServiceDetails where
  endpoint : List UInt16
  requestHash : List UInt16
  responseHash : List UInt16
  deriving DecidableEq, Repr

/-- A receipt. -/
structure Receipt where
  id : List UInt16
  version : List UInt16
  timestamp : List UInt16
  payment : PaymentDetails
  service : ServiceDetails
  deriving DecidableEq, Repr

/-- A receipt with its signature and the key that is said to verify it. -/
structure SignedReceipt where
  receipt : Receipt
  signature : List UInt16
  serverPublicKey : List UInt16
  deriving DecidableEq, Repr

/-! ### The shape of a receipt -/

/-- The string a value is. -/
def asString : Json (List UInt16) → Option (List UInt16)
  | .str s => some s
  | _ => none

/-- The safe integer a value is. -/
def asSafeInteger : Json (List UInt16) → Option Int
  | .num l => JsJson.safeInteger l
  | _ => none

/-- The property of a value if it is a string. -/
def getString (v : Json (List UInt16)) (name : String) : Option (List UInt16) :=
  (JsJson.get v name).bind asString

/-- The property of a value if it is a safe integer. -/
def getSafeInteger (v : Json (List UInt16)) (name : String) : Option Int :=
  (JsJson.get v name).bind asSafeInteger

/-- The payment details in a value, if all have the types they should. -/
def readPayment (payment : Json (List UInt16)) : Option PaymentDetails := do
  let payer ← getString payment "payer"
  let recipient ← getString payment "recipient"
  let amount ← getString payment "amount"
  let token ← getString payment "token"
  let chainId ← getSafeInteger payment "chainId"
  let nonce ← getString payment "nonce"
  some { payer, recipient, amount, token, chainId, nonce }

/-- The service details in a value, if all have the types they should. -/
def readService (service : Json (List UInt16)) : Option ServiceDetails := do
  let endpoint ← getString service "endpoint"
  let requestHash ← getString service "request_hash"
  let responseHash ← getString service "response_hash"
  some { endpoint, requestHash, responseHash }

/-- The fields of a receipt in a value, if they all have the types they should. -/
def readReceiptFields (receipt : Json (List UInt16)) : Option Receipt := do
  let payment ← (JsJson.get receipt "payment").bind readPayment
  let service ← (JsJson.get receipt "service").bind readService
  let id ← getString receipt "id"
  let version ← getString receipt "version"
  let timestamp ← getString receipt "timestamp"
  some { id, version, timestamp, payment, service }

/-- The fields of a signed receipt in a value, if they all have the types they should. -/
def readFields (value : Json (List UInt16)) : Option SignedReceipt := do
  let receipt ← (JsJson.get value "receipt").bind readReceiptFields
  let signature ← getString value "signature"
  let serverPublicKey ← getString value "server_public_key"
  some { receipt, signature, serverPublicKey }

/-- Whether a string is not empty. -/
def isNonEmptyString (s : List UInt16) : Bool :=
  s ≠ []

/-- Whether a string is not empty and starts with another. -/
def isPrefixedString (s : List UInt16) (start : String) : Bool :=
  isNonEmptyString s && units start <+: s

/-- The conditions on the fields of a signed receipt. -/
def SignedReceipt.isValid (s : SignedReceipt) : Bool :=
  isPrefixedString s.receipt.id "rcpt_"
    && isNonEmptyString s.receipt.version
    && isNonEmptyString s.receipt.timestamp
    && isNonEmptyString s.receipt.payment.payer
    && isNonEmptyString s.receipt.payment.recipient
    && isNonEmptyString s.receipt.payment.amount
    && isNonEmptyString s.receipt.payment.token
    && 0 < s.receipt.payment.chainId
    && isNonEmptyString s.receipt.payment.nonce
    && isNonEmptyString s.receipt.service.endpoint
    && isPrefixedString s.receipt.service.requestHash "sha256:"
    && isPrefixedString s.receipt.service.responseHash "sha256:"
    && isPrefixedString s.signature "0x"
    && isPrefixedString s.serverPublicKey "0x"

/-- The signed receipt a value is, if it is one. -/
def validateReceiptFormat (value : Json (List UInt16)) : Option SignedReceipt :=
  (readFields value).filter SignedReceipt.isValid

/-! ### The receipt header -/

/-- The text whose base64 form a header value is. -/
def decodeBase64ToUtf8 (value : List Char) : Option (List Char) :=
  if value = [] ∨ Base64.isCanonical value = false then none
  else (Base64.decode value).map textDecode

/-- The signed receipt a header value holds. -/
def decodeReceiptHeader (headerValue : List Char) : Option SignedReceipt := do
  let json ← decodeBase64ToUtf8 headerValue
  let decoded ← JsJson.parse json
  validateReceiptFormat decoded

/-! ### Verification -/

/-- The receipt as JSON. -/
def Receipt.json (r : Receipt) : Json (List UInt16) :=
  .obj [
    (units "id", .str r.id),
    (units "version", .str r.version),
    (units "timestamp", .str r.timestamp),
    (units "payment", .obj [
      (units "payer", .str r.payment.payer),
      (units "recipient", .str r.payment.recipient),
      (units "amount", .str r.payment.amount),
      (units "token", .str r.payment.token),
      (units "chainId", .num (decimalInt r.payment.chainId)),
      (units "nonce", .str r.payment.nonce)]),
    (units "service", .obj [
      (units "endpoint", .str r.service.endpoint),
      (units "request_hash", .str r.service.requestHash),
      (units "response_hash", .str r.service.responseHash)])]

/-- The text whose hash the signature is checked against. -/
def serializeReceiptForGateway (r : Receipt) : List Char :=
  JsJson.stringify r.json

/-- The functions of the `ethers` package the SDK calls.  Where one of them throws, its
value is `none`. -/
structure Ethers where
  Signature : Type
  keccak256 : List UInt8 → Vector UInt8 32
  computePublicKey : List UInt16 → Option (Vector UInt8 65)
  signatureFrom : (r s : List UInt16) → (v : Nat) → Option Signature
  recoverPublicKey : Vector UInt8 32 → Signature → Option (List UInt16)

/-- Bytes as `ethers` writes them. -/
def hexlify (bs : List UInt8) : List UInt16 :=
  utf16 ('0' :: 'x' :: hexEncode bs)

/-- The bytes of hexadecimal digits after `0x`. -/
def getBytes : List UInt16 → Option (List UInt8)
  | 0x30 :: x :: s =>
      if x = 0x78 ∨ x = 0x58 then hexDecode (s.map fun u => .ofNat u.toNat) else none
  | _ => none

/-- Lower case for the letters from `A` to `Z`. -/
def toLowerCase (s : List UInt16) : List UInt16 :=
  s.map fun u => if 0x41 ≤ u ∧ u ≤ 0x5A then u + 0x20 else u

/-- The one spelling of a public key. -/
def normalizePublicKey (eth : Ethers) (value : Option (List UInt16)) : Option (List UInt16) := do
  let value ← value
  if value = [] then none
  else
    let key ← eth.computePublicKey value
    some (toLowerCase (hexlify key.toList))

/-- Whether the signature of a receipt was made with the expected key. -/
def verifyReceipt (eth : Ethers) (signedReceipt : SignedReceipt)
    (expectedServerPublicKey : Option (List UInt16)) : Bool :=
  if !signedReceipt.isValid then false
  else
    match normalizePublicKey eth expectedServerPublicKey with
    | none => false
    | some expectedPublicKey =>
        if normalizePublicKey eth (some signedReceipt.serverPublicKey) ≠ some expectedPublicKey then
          false
        else
          let receiptJson := serializeReceiptForGateway signedReceipt.receipt
          let messageHash := eth.keccak256 (utf8 receiptJson)
          match getBytes signedReceipt.signature with
          | none => false
          | some sigBytes =>
              if sigBytes.length ≠ 65 then false
              else
                let recoveryId := (sigBytes.getD 64 0).toNat
                let v := if recoveryId ≤ 1 then recoveryId + 27 else recoveryId
                match eth.signatureFrom (hexlify (sigBytes.take 32))
                  (hexlify ((sigBytes.drop 32).take 32)) v with
                | none => false
                | some signature =>
                    match eth.recoverPublicKey messageHash signature with
                    | none => false
                    | some recoveredPubKey =>
                        normalizePublicKey eth (some recoveredPubKey) = some expectedPublicKey

/-- The signature that is checked when a receipt is verified. -/
def checkedSignature (eth : Ethers) (signedReceipt : SignedReceipt) : Option eth.Signature :=
  match getBytes signedReceipt.signature with
  | none => none
  | some sigBytes =>
      if sigBytes.length ≠ 65 then none
      else
        let recoveryId := (sigBytes.getD 64 0).toNat
        let v := if recoveryId ≤ 1 then recoveryId + 27 else recoveryId
        eth.signatureFrom (hexlify (sigBytes.take 32)) (hexlify ((sigBytes.drop 32).take 32)) v

/-- A receipt verifies only if a key is expected, the expected key has a spelling, and it is
the key that is recovered from the hash of the receipt's text and the signature. -/
theorem exists_recover_of_verifyReceipt {eth : Ethers} {s : SignedReceipt}
    {expected : Option (List UInt16)} (h : verifyReceipt eth s expected = true) :
  ∃ trusted key, expected = some trusted ∧ normalizePublicKey eth (some trusted) = some key
    ∧ ∃ signature recovered, checkedSignature eth s = some signature
        ∧ eth.recoverPublicKey (eth.keccak256 (utf8 (serializeReceiptForGateway s.receipt))) signature
          = some recovered
        ∧ normalizePublicKey eth (some recovered) = some key
  := by
  unfold verifyReceipt at h
  split at h
  · cases h
  · split at h
    · cases h
    · rename_i key hkey
      have hsome : ∃ trusted, expected = some trusted := by
        cases expected with
        | none => cases hkey
        | some trusted => exact ⟨trusted, rfl⟩
      obtain ⟨trusted, rfl⟩ := hsome
      refine ⟨trusted, key, rfl, hkey, ?_⟩
      split at h
      · cases h
      · dsimp only at h
        split at h
        · cases h
        · rename_i sigBytes hbytes
          split at h
          · cases h
          · rename_i hlength
            split at h
            · cases h
            · rename_i signature hsignature
              split at h
              · cases h
              · rename_i recovered hrec
                refine ⟨signature, recovered, ?_, hrec, of_decide_eq_true h⟩
                simp only [checkedSignature, hbytes, if_neg hlength]
                exact hsignature

end Paygate.Sdk
