import Paygate.Base.SerdeJson
import Paygate.Verifier.Basic

/-!
# The bodies of the verifier

The request bodies of the `/verify` endpoint as the derived deserialisers read them, and
the bodies of its answers as `serde_json` writes them.
-/

namespace Paygate.Verifier

open Json SerdeJson

/-- Read a string. -/
def readText (v : Json Pieces) : Option String :=
  (readString v).map String.ofList

/-- Read a payment context, from an object or from the list of its fields. -/
def readPaymentContext : Json Pieces → Option PaymentContext
  | .arr [recipient, token, amount, nonce, chainId, timestamp] => do
      let recipient ← readText recipient
      let token ← readText token
      let amount ← readText amount
      let nonce ← readText nonce
      let chainId ← readU64 chainId
      let timestamp ← readOption readU64 timestamp
      some { recipient, token, amount, nonce, chainId, timestamp }
  | v => do
      let ms ← asObject v
      let recipient ← requiredField readText ms "recipient"
      let token ← requiredField readText ms "token"
      let amount ← requiredField readText ms "amount"
      let nonce ← requiredField readText ms "nonce"
      let chainId ← requiredField readU64 ms "chainId"
      let timestamp ← optionalField readU64 ms "timestamp"
      some { recipient, token, amount, nonce, chainId, timestamp }

/-- Read a request, from an object or from the list of its fields. -/
def readVerifyRequest : Json Pieces → Option VerifyRequest
  | .arr [context, signature] => do
      let context ← readPaymentContext context
      let signature ← readText signature
      some { context, signature }
  | v => do
      let ms ← asObject v
      let context ← requiredField readPaymentContext ms "context"
      let signature ← requiredField readText ms "signature"
      some { context, signature }

/-- The request in a body.  `display` is the text of the error for a body that holds none. -/
def readBody (state : AppState) (display : List UInt8 → String) (body : List UInt8) :
    Except JsonRejection VerifyRequest :=
  if state.maxBodySize < body.length then .error .bytesRejection
  else
    match (fromSlice body).bind readVerifyRequest with
    | some req => .ok req
    | none => .error (.other (display body))

/-- A string or `null`. -/
def optionJson : Option String → Json (List Char)
  | none => .null
  | some s => .str s.toList

/-- The answer as JSON.  The error code is left out if there is none. -/
def VerifyResponse.json (r : VerifyResponse) : Json (List Char) :=
  .obj ([
    ("is_valid".toList, .bool r.isValid),
    ("recovered_address".toList, optionJson r.recoveredAddress),
    ("error".toList, optionJson r.error)]
    ++ (r.errorCode.map fun code => ("error_code".toList, .str code.toList)).toList)

end Paygate.Verifier
