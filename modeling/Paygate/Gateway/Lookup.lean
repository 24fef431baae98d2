import Paygate.Base.GoJson
import Paygate.Gateway.Receipt

/-!
# Looking a receipt up in the gateway

The route `GET /api/receipts/:id`.  The store is asked only for ids that have the form of one.  A path
of the route with a slash after it is redirected to the path without.
-/

namespace Paygate.Gateway

open Text Json

/-- The `:id` of a path, if it is one of the route. -/
def receiptIDParam (path : List UInt8) : Option (List UInt8) :=
  if bytes "/api/receipts/" <+: path then
    let id := path.drop (bytes "/api/receipts/").length
    if id = [] ∨ 0x2F ∈ id then none else some id
  else none

/-- Where a path of the route that has a slash after it is redirected to.  A segment of dots is
removed from the path with what it stands for. -/
def redirectTrailingSlash (path : List UInt8) : Option (List UInt8) :=
  if bytes "/api/receipts/" <+: path then
    let id := path.drop (bytes "/api/receipts/").length
    if id.getLast? = some 0x2F ∧ 0x2F ∉ id.dropLast then
      if id.dropLast = bytes "." then some (bytes "/api/receipts")
      else if id.dropLast = bytes ".." then some (bytes "/api")
      else some path.dropLast
    else none
  else none

/-- The body of a receipt that was found, if its time can be written. -/
def SignedReceipt.lookupJson (s : SignedReceipt) : Option (Json (List UInt8)) :=
  s.receipt.json.map fun receipt => .obj [
    (bytes "receipt", receipt),
    (bytes "server_public_key", .str s.serverPublicKey),
    (bytes "signature", .str s.signature),
    (bytes "status", .str (bytes "valid"))]

/-- The body of the answer to an id that does not have the form of one. -/
def malformedIdBody : List UInt8 :=
  GoJson.marshal (.obj [
    (bytes "error", .str (bytes "invalid receipt id format")),
    (bytes "message", .str (bytes
      "receipt id must start with rcpt_ followed by exactly 12 lowercase hexadecimal characters"))])

/-- The status and the body of the answer to a lookup, given what `Get` of the store returns.  A
receipt whose time cannot be written has none. -/
def handleGetReceipt (get : List UInt8 → Except String (Option SignedReceipt)) (id : List UInt8) :
    Option (Nat × List UInt8) :=
  if !isValidReceiptID id then
    some (400, malformedIdBody)
  else
    match get id with
    | .error _ =>
        some (500, GoJson.marshal (.obj [(bytes "error", .str (bytes "failed to retrieve receipt"))]))
    | .ok none =>
        some (404, GoJson.marshal (.obj [
          (bytes "error", .str (bytes "Receipt not found")),
          (bytes "message", .str (bytes "Receipt may have expired or never existed"))]))
    | .ok (some receipt) => receipt.lookupJson.map fun v => (200, GoJson.marshal v)

/-- What a path is answered with: a status and a body, or another path to go to. -/
inductive RouteAnswer where
  | answered (status : Nat) (body : List UInt8)
  | movedPermanently (location : List UInt8)

/-- The answer to a `GET` of a path. -/
def serveReceipts (get : List UInt8 → Except String (Option SignedReceipt)) (path : List UInt8) :
    Option RouteAnswer :=
  match receiptIDParam path with
  | some id => (handleGetReceipt get id).map fun answer => .answered answer.1 answer.2
  | none =>
      match redirectTrailingSlash path with
      | some location => some (.movedPermanently location)
      | none => some (.answered 404 (bytes "404 page not found"))

section Routes

variable {get : List UInt8 → Except String (Option SignedReceipt)} {id : List UInt8}

/-- A path with something after the prefix that has no slash is one of the route. -/
theorem serveReceipts_append (hne : id ≠ []) (hslash : 0x2F ∉ id) :
  serveReceipts get (bytes "/api/receipts/" ++ id)
    = (handleGetReceipt get id).map fun answer => .answered answer.1 answer.2
  := by
  have hparam : receiptIDParam (bytes "/api/receipts/" ++ id) = some id := by
    rw [receiptIDParam, if_pos (List.prefix_append _ _), List.drop_left,
      if_neg (by simp [hne, hslash])]
  rw [serveReceipts, hparam]

/-- A path with nothing or a slash after the prefix is not one of the route. -/
theorem receiptIDParam_append_of_not (h : id = [] ∨ 0x2F ∈ id) :
  receiptIDParam (bytes "/api/receipts/" ++ id) = none
  := by
  rw [receiptIDParam, if_pos (List.prefix_append _ _), List.drop_left, if_pos h]

/-- A path of the route with a slash after it is redirected. -/
theorem serveReceipts_append_slash (hslash : 0x2F ∉ id) :
  serveReceipts get (bytes "/api/receipts/" ++ (id ++ [0x2F])) = some (.movedPermanently
    (if id = bytes "." then bytes "/api/receipts"
    else if id = bytes ".." then bytes "/api"
    else bytes "/api/receipts/" ++ id))
  := by
  have hlast : (id ++ [0x2F]).getLast? = some 0x2F ∧ 0x2F ∉ (id ++ [0x2F]).dropLast := by
    simp [hslash]
  rw [serveReceipts, receiptIDParam_append_of_not (Or.inr (by simp)), redirectTrailingSlash,
    if_pos (List.prefix_append _ _), List.drop_left, if_pos hlast, List.dropLast_concat,
    ← List.append_assoc, List.dropLast_concat]
  by_cases hone : id = bytes "."
  · rw [if_pos hone, if_pos hone]
  · rw [if_neg hone, if_neg hone]
    by_cases htwo : id = bytes ".."
    · rw [if_pos htwo, if_pos htwo]
    · rw [if_neg htwo, if_neg htwo]

/-- Another path is not found. -/
theorem serveReceipts_append_of_not (h : id = [] ∨ 0x2F ∈ id)
    (hinner : ¬ (id.getLast? = some 0x2F ∧ 0x2F ∉ id.dropLast)) :
  serveReceipts get (bytes "/api/receipts/" ++ id)
    = some (.answered 404 (bytes "404 page not found"))
  := by
  rw [serveReceipts, receiptIDParam_append_of_not h, redirectTrailingSlash,
    if_pos (List.prefix_append _ _), List.drop_left, if_neg hinner]

end Routes

end Paygate.Gateway
