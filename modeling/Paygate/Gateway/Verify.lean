import Paygate.Gateway.Config

/-!
# Asking the verifier

The request `verifyPayment` sends to the verifier and what it makes of the answer: an
answer of status 200 is decoded, another one counts only as the rejection its error code
names.
-/

namespace Paygate.Gateway

open Text Json

/-! ### The request -/

/-- The body of the request to the verifier. -/
structure VerifyRequest where
  context : PaymentContext
  signature : List UInt8
  deriving DecidableEq, Repr

/-- The request to the verifier as JSON. -/
def VerifyRequest.json (r : VerifyRequest) : Json (List UInt8) :=
  .obj [
    (bytes "context", r.context.json),
    (bytes "signature", .str r.signature)]

/-- The bytes of the request to the verifier. -/
def VerifyRequest.body (r : VerifyRequest) : List UInt8 :=
  GoJson.marshal r.json

/-- The request to the verifier for a payment under the settings. -/
def verifyRequest (env : Env) (signature nonce : List UInt8) (timestamp : UInt64) : VerifyRequest where
  context := paymentContext env nonce timestamp
  signature := signature

/-- The timestamp in the `X-402-Timestamp` header, which must be a number above zero. -/
def readTimestamp (header : List UInt8) : Option UInt64 :=
  (parseUint header).filter (· ≠ 0)

/-! ### The answer -/

/-- The body of the verifier's answer. -/
structure VerifyResponse where
  isValid : Bool
  recoveredAddress : List UInt8
  error : List UInt8
  errorCode : List UInt8
  deriving DecidableEq, Repr

/-- An answer without any field set. -/
def VerifyResponse.zero : VerifyResponse where
  isValid := false
  recoveredAddress := []
  error := []
  errorCode := []

/-- Set the field with a name. -/
def VerifyResponse.set (name : String) (v : Json (List UInt8)) (r : VerifyResponse) :
    Option VerifyResponse :=
  match name with
  | "is_valid" => (GoJson.setBool v r.isValid).map fun b => { r with isValid := b }
  | "recovered_address" =>
      (GoJson.setString v r.recoveredAddress).map fun s => { r with recoveredAddress := s }
  | "error" => (GoJson.setString v r.error).map fun s => { r with error := s }
  | "error_code" => (GoJson.setString v r.errorCode).map fun s => { r with errorCode := s }
  | _ => some r

@[simp]
theorem VerifyResponse.set_isValid (v : Json (List UInt8)) (r : VerifyResponse) :
  r.set "is_valid" v = (GoJson.setBool v r.isValid).map fun b => { r with isValid := b }
  := rfl

@[simp]
theorem VerifyResponse.set_recoveredAddress (v : Json (List UInt8)) (r : VerifyResponse) :
  r.set "recovered_address" v
    = (GoJson.setString v r.recoveredAddress).map fun s => { r with recoveredAddress := s }
  := rfl

@[simp]
theorem VerifyResponse.set_error (v : Json (List UInt8)) (r : VerifyResponse) :
  r.set "error" v = (GoJson.setString v r.error).map fun s => { r with error := s }
  := rfl

@[simp]
theorem VerifyResponse.set_errorCode (v : Json (List UInt8)) (r : VerifyResponse) :
  r.set "error_code" v = (GoJson.setString v r.errorCode).map fun s => { r with errorCode := s }
  := rfl

/-- Read an answer. -/
def readVerifyResponse (v : Json (List UInt8)) : Option VerifyResponse :=
  GoJson.readStruct ["is_valid", "recovered_address", "error", "error_code"] VerifyResponse.set v
    .zero

/-- Whether an error code names a rejection of the payment. -/
def isVerifierBusinessRejection (r : VerifyResponse) : Bool :=
  r.errorCode ∈ ["chain_id_mismatch", "nonce_already_used", "timestamp_expired",
    "timestamp_future", "timestamp_missing", "invalid_signature"].map bytes

/-- What `http.DefaultClient.Do` comes to, after the redirects it follows: the request failed, or it
was answered with a status and a body.  `deadline` tells whether an error is that of an exceeded
deadline. -/
inductive VerifierAnswer where
  | failed (deadline : Bool)
  | answered (status : Nat) (body : List UInt8) (deadline : Bool)
  deriving DecidableEq, Repr

/-- Why the verifier did not answer. -/
structure VerifyFailure where
  deadlineExceeded : Bool
  deriving DecidableEq, Repr

/-- The answer of the verifier, if there is one. -/
def readAnswer : VerifierAnswer → Except VerifyFailure VerifyResponse
  | .failed deadline => .error { deadlineExceeded := deadline }
  | .answered status body deadline =>
      if status ≠ 200 then
        match ((GoJson.unmarshal (body.take 4096)).bind readVerifyResponse).filter
          isVerifierBusinessRejection with
        | some r => .ok r
        | none => .error { deadlineExceeded := false }
      else
        match (GoJson.decode body).bind readVerifyResponse with
        | some r => .ok r
        | none => .error { deadlineExceeded := deadline }

/-- The status and the message for a rejected payment. -/
def verifierFailureResponse (r : VerifyResponse) : Nat × String :=
  if r.errorCode = bytes "chain_id_mismatch" then (400, "chain_id_mismatch")
  else if r.errorCode = bytes "nonce_already_used" then (409, "nonce_already_used")
  else if r.errorCode = bytes "timestamp_expired" ∨ r.errorCode = bytes "timestamp_future"
    ∨ r.errorCode = bytes "timestamp_missing" then (400, "invalid_timestamp")
  else if r.errorCode = bytes "invalid_signature" then (403, "invalid_signature")
  else if bytes "E007" <+: r.error ∨ bytes "E008" <+: r.error ∨ bytes "E009" <+: r.error then
    (400, "invalid_timestamp")
  else (403, "invalid_signature")

/-- The status for a rejected payment is none of success. -/
theorem verifierFailureResponse_ne (r : VerifyResponse) : (verifierFailureResponse r).1 ≠ 200
  := by
  unfold verifierFailureResponse
  repeat' split
  all_goals simp

end Paygate.Gateway
