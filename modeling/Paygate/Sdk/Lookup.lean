import Paygate.Base.Uri
import Paygate.Sdk.Client

/-!
# Looking a receipt up in the SDK

`fetchReceipt` asks a gateway for the receipt with an id.  What is thrown on the way and is not an
error of the SDK becomes one.
-/

namespace Paygate.Sdk

open Text Json

/-- The value, or what the platform throws without one. -/
def orThrow {α : Type} : Option α → Except Thrown α
  | some x => .ok x
  | none => .error .platform

/-- The URL under which a receipt is looked up, without its id. -/
def receiptsUrl (gatewayUrl : List UInt16) : List UInt16 :=
  trimSlashes gatewayUrl ++ units "/api/receipts/"

/-- The receipt in the answer to a lookup, or none if there is none. -/
def readLookup (response : Response) : Except Thrown (Option SignedReceipt) :=
  if response.status = 404 then .ok none
  else if !response.ok then do
    let bodyText ← response.text
    .error (.sdk .networkError "Failed to fetch receipt" (some response.status) (some bodyText))
  else
    match response.text.toOption.bind JsJson.parse with
    | none =>
        .error (.sdk .receiptDecodeFailed "Receipt lookup response was not JSON"
          (some response.status) none)
    | some body =>
        match validateReceiptFormat body with
        | none =>
            .error (.sdk .receiptDecodeFailed
              "Receipt lookup response did not match SignedReceipt shape" (some response.status) none)
        | some receipt => .ok (some receipt)

/-- What happens within the `try` of `fetchReceipt`. -/
def tryFetchReceipt (receiptId gatewayUrl : List UInt16) (fetcher : List UInt16 → Option Response) :
    Except Thrown (Option SignedReceipt) := do
  let id ← orThrow (Uri.encodeURIComponent receiptId)
  let response ← orThrow (fetcher (receiptsUrl gatewayUrl ++ id))
  readLookup response

/-- The receipt with an id, or none if the gateway has none.  `fetcher` is how the platform and the
gateway answer. -/
def fetchReceipt (receiptId gatewayUrl : List UInt16) (fetcher : List UInt16 → Option Response) :
    Except Thrown (Option SignedReceipt) :=
  match tryFetchReceipt receiptId gatewayUrl fetcher with
  | .error .platform =>
      .error (.sdk .networkError "Network error while fetching receipt" none none)
  | result => result

end Paygate.Sdk
