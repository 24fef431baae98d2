import Mathlib.Data.List.Sort
import Paygate.Sdk.Receipts

/-!
# Receipts in the web client

How the web client decodes the receipt header of a response and verifies the signature of
a receipt.  It works on the value that was parsed, whatever its fields are.  Where
JavaScript would throw, the result is `none`.
-/

namespace Paygate.Web

open Text Json

/-! ### Values -/

/-- What JavaScript makes of a number that was read, given as it is written: whether it
counts as true, and how `JSON.stringify` writes it. -/
structure Numbers where
  truthy : List Char → Bool
  toText : List Char → List Char

/-- Whether a value counts as true. -/
def truthy (numbers : Numbers) : Option (Json (List UInt16)) → Bool
  | none | some .null => false
  | some (.bool b) => b
  | some (.num l) => numbers.truthy l
  | some (.str s) => s ≠ []
  | some (.arr _) | some (.obj _) => true

/-- The property of a value that may be missing. -/
def get? (v : Option (Json (List UInt16))) (name : String) : Option (Json (List UInt16)) :=
  v.bind fun v => JsJson.get v name

/-- Whether a value, if there is one, starts with a string; other values than strings have
no method for this. -/
def startsWith? (v : Option (Json (List UInt16))) (start : String) : Option Bool :=
  match v with
  | none | some .null => some false
  | some (.str s) => some (units start <+: s)
  | some _ => none

/-- The conjunction of checks, which ends with the first that fails or throws. -/
def andThen : List (Option Bool) → Option Bool
  | [] => some true
  | check :: checks => check.bind fun b => if b then andThen checks else some false

/-- Whether a value has the form of a signed receipt. -/
def validateReceiptFormat (numbers : Numbers) (signedReceipt : Json (List UInt16)) : Option Bool :=
  let r := JsJson.get signedReceipt "receipt"
  if truthy numbers r = false then some false
  else
    andThen [
      startsWith? (get? r "id") "rcpt_",
      some (truthy numbers (get? r "version")),
      some (truthy numbers (get? r "timestamp")),
      some (truthy numbers (get? (get? r "payment") "payer")),
      some (truthy numbers (get? (get? r "payment") "recipient")),
      some (truthy numbers (get? (get? r "payment") "amount")),
      some (truthy numbers (get? (get? r "payment") "token")),
      some (truthy numbers (get? (get? r "payment") "nonce")),
      some (truthy numbers (get? (get? r "service") "endpoint")),
      some (truthy numbers (get? (get? r "service") "request_hash")),
      some (truthy numbers (get? (get? r "service") "response_hash")),
      startsWith? (JsJson.get signedReceipt "signature") "0x",
      startsWith? (JsJson.get signedReceipt "server_public_key") "0x"]

/-! ### The receipt header -/

/-- The text a base64 text decodes to: each byte is one character. -/
def atob (b64 : List Char) : Option (List Char) :=
  (Base64.forgivingDecode b64).map latin1

/-- The value a receipt header holds, if it has the form of a signed receipt. -/
def safeDecodeReceiptHeader (numbers : Numbers) (b64 : List Char) : Option (Json (List UInt16)) :=
  match (atob b64).bind JsJson.parse with
  | none => none
  | some decoded =>
      match validateReceiptFormat numbers decoded with
      | some true => some decoded
      | _ => none

/-! ### Writing a value that was parsed -/

/-- Give an object a property: it takes the place of one with the same name. -/
def setProperty (properties : List (List UInt16 × Json (List UInt16)))
    (m : List UInt16 × Json (List UInt16)) : List (List UInt16 × Json (List UInt16)) :=
  if m.1 ∈ properties.map Prod.fst then
    properties.map fun p => if p.1 = m.1 then m else p
  else properties ++ [m]

/-- The index a name is, if it is one. -/
def arrayIndex (name : List UInt16) : Option Nat :=
  let n := Nat.ofDigitChars 10 (name.map fun u => Char.ofNat u.toNat) 0
  if utf16 (decimal n) = name ∧ n < 2 ^ 32 - 1 then some n else none

/-- The properties an object with these members has, in the order they are enumerated: those
whose name is an index in the order of the indices, and then the others. -/
def properties (members : List (List UInt16 × Json (List UInt16))) :
    List (List UInt16 × Json (List UInt16)) :=
  let ps := members.foldl setProperty []
  (ps.filter fun p => (arrayIndex p.1).isSome).insertionSort
      (fun p q => (arrayIndex p.1).getD 0 ≤ (arrayIndex q.1).getD 0)
    ++ ps.filter fun p => (arrayIndex p.1).isNone

mutual

/-- The value that was parsed, as it is written again. -/
def enumerated (numbers : Numbers) : Json (List UInt16) → Json (List UInt16)
  | .null => .null
  | .bool b => .bool b
  | .num l => .num (numbers.toText l)
  | .str s => .str s
  | .arr vs => .arr (enumeratedItems numbers vs)
  | .obj ms => .obj (properties (enumeratedMembers numbers ms))

/-- The items that were parsed, as they are written again. -/
def enumeratedItems (numbers : Numbers) : List (Json (List UInt16)) → List (Json (List UInt16))
  | [] => []
  | v :: vs => enumerated numbers v :: enumeratedItems numbers vs

/-- The members that were parsed, with their values as they are written again. -/
def enumeratedMembers (numbers : Numbers) :
    List (List UInt16 × Json (List UInt16)) → List (List UInt16 × Json (List UInt16))
  | [] => []
  | (k, v) :: ms => (k, enumerated numbers v) :: enumeratedMembers numbers ms

end

/-- `JSON.stringify` of a value that was parsed. -/
def stringify (numbers : Numbers) (v : Json (List UInt16)) : List Char :=
  JsJson.stringify (enumerated numbers v)

/-! ### Verification -/

/-- Whether the signature of a receipt was made with the key that comes with it. -/
def verifyReceipt (eth : Sdk.Ethers) (numbers : Numbers) (signedReceipt : Json (List UInt16)) :
    Bool :=
  match JsJson.get signedReceipt "receipt", JsJson.get signedReceipt "signature",
      JsJson.get signedReceipt "server_public_key" with
  | some receipt, some signature, some serverPublicKey =>
      if !truthy numbers (some receipt) || !truthy numbers (some signature)
          || !truthy numbers (some serverPublicKey) then false
      else
        let messageHash := eth.keccak256 (utf8 (stringify numbers receipt))
        match (Sdk.asString signature).bind Sdk.getBytes with
        | none => false
        | some sigBytes =>
            if sigBytes.length ≠ 65 then false
            else
              match eth.signatureFrom (Sdk.hexlify (sigBytes.take 32))
                (Sdk.hexlify ((sigBytes.drop 32).take 32)) ((sigBytes.getD 64 0).toNat + 27) with
              | none => false
              | some signature =>
                  match eth.recoverPublicKey messageHash signature, Sdk.asString serverPublicKey with
                  | some recoveredPubKey, some serverPublicKey =>
                      Sdk.toLowerCase recoveredPubKey = Sdk.toLowerCase serverPublicKey
                  | _, _ => false
  | _, _, _ => false

/-! ### Objects without surprises -/

/-- Properties with new names are added at the end. -/
theorem foldl_setProperty {ps ms : List (List UInt16 × Json (List UInt16))}
    (h : ((ps ++ ms).map Prod.fst).Nodup) :
  ms.foldl setProperty ps = ps ++ ms
  := by
  induction ms generalizing ps with
  | nil => simp
  | cons m ms ih =>
      have hnew : m.1 ∉ ps.map Prod.fst := by
        intro hmem
        rw [List.map_append, List.map_cons] at h
        exact List.disjoint_of_nodup_append h hmem List.mem_cons_self
      rw [List.foldl_cons, setProperty, if_neg hnew, ih]
      · simp
      · simpa using h

/-- Members with different names that are no indices are the properties as they stand. -/
theorem properties_eq {ms : List (List UInt16 × Json (List UInt16))}
    (hnodup : (ms.map Prod.fst).Nodup) (hindex : ∀ m ∈ ms, arrayIndex m.1 = none) :
  properties ms = ms
  := by
  have hfold : ms.foldl setProperty [] = ms := foldl_setProperty hnodup
  have hnone : ms.filter (fun p => (arrayIndex p.1).isSome) = [] := by
    apply List.filter_eq_nil_iff.mpr
    intro m hm
    simp [hindex m hm]
  have hall : ms.filter (fun p => (arrayIndex p.1).isNone) = ms := by
    apply List.filter_eq_self.mpr
    intro m hm
    simp [hindex m hm]
  unfold properties
  simp only [hfold, hnone, hall, List.insertionSort_nil, List.nil_append]

end Paygate.Web
