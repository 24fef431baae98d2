import Paygate.Protocol.TypedData
import Paygate.Sdk.Receipts
import Paygate.Web.Values

/-!
# Payment contexts in the clients

How the TypeScript SDK and the web client read the payment context of a challenge, the
typed data they have signed for it, and the headers of the signed retry.
-/

namespace Paygate.Sdk

open Text Json

/-- The payment context of a challenge. -/
structure PaymentContext where
  recipient : List UInt16
  token : List UInt16
  amount : List UInt16
  nonce : List UInt16
  chainId : Nat
  timestamp : Nat
  deriving DecidableEq, Repr

/-- The property of a value if it is a safe integer above zero. -/
def getPositiveSafeInteger (v : Json (List UInt16)) (name : String) : Option Nat :=
  (getSafeInteger v name).bind fun i => if 0 < i then some i.toNat else none

/-- The payment context a value is, if it is one. -/
def isPaymentContext (value : Json (List UInt16)) : Option PaymentContext := do
  let recipient ← getString value "recipient"
  let token ← getString value "token"
  let amount ← getString value "amount"
  let nonce ← getString value "nonce"
  let chainId ← getPositiveSafeInteger value "chainId"
  let timestamp ← getPositiveSafeInteger value "timestamp"
  some { recipient, token, amount, nonce, chainId, timestamp }

/-- The payment context in the text of a challenge. -/
def paymentContextOf (bodyText : List Char) : Option PaymentContext := do
  let parsed ← JsJson.parse bodyText
  let paymentContext ← JsJson.get parsed "paymentContext"
  isPaymentContext paymentContext

/-- The typed data of a payment context, for a signing domain. -/
def paymentTypedData (name version : String) (ctx : PaymentContext) : TypedData (List UInt16) where
  domain := {
    name := units name
    version := units version
    chainId := ctx.chainId
    verifyingContract := units "0x0000000000000000000000000000000000000000" }
  types := [(units "Payment", [
    { name := units "recipient", type := units "address" },
    { name := units "token", type := units "string" },
    { name := units "amount", type := units "string" },
    { name := units "nonce", type := units "string" },
    { name := units "timestamp", type := units "uint256" }])]
  message := {
    recipient := ctx.recipient
    token := ctx.token
    amount := ctx.amount
    nonce := ctx.nonce
    timestamp := some ctx.timestamp }

/-- The typed data the SDK has signed. -/
def buildPaymentTypedData (ctx : PaymentContext) : TypedData (List UInt16) :=
  paymentTypedData "MicroAI Paygate" "1" ctx

/-- The headers of the signed retry. -/
def buildSignedHeaders (ctx : PaymentContext) (signature : List UInt16) :
    List (List UInt16 × List UInt16) := [
  (units "X-402-Signature", signature),
  (units "X-402-Nonce", ctx.nonce),
  (units "X-402-Timestamp", utf16 (decimal ctx.timestamp))]

end Paygate.Sdk

namespace Paygate.Web

open Text Json

/-- The payment context in the text of a challenge, where it has the type the web client takes it to
have. -/
def paymentContextOf (bodyText : List Char) : Option Sdk.PaymentContext := do
  let data ← JsJson.parse bodyText
  let context ← (challengeContext data).join
  Sdk.isPaymentContext context

/-- The web client reads what the SDK reads. -/
theorem paymentContextOf_eq_some {bodyText : List Char} {ctx : Sdk.PaymentContext}
    (h : Sdk.paymentContextOf bodyText = some ctx) :
  paymentContextOf bodyText = some ctx
  := by
  obtain ⟨data, hdata, h⟩ := Option.bind_eq_some_iff.mp h
  obtain ⟨context, hcontext, hctx⟩ := Option.bind_eq_some_iff.mp h
  -- What has properties is no null and counts as true.
  have hproperty : property (some data) "paymentContext" = some (some context) := by
    rw [← hcontext]
    cases data with
    | obj ms => rfl
    | _ => cases hcontext
  have htruthy : truthy jsNumbers (some context) = true := by
    cases context with
    | obj ms => rfl
    | _ => cases hctx
  have hread : challengeContext data = some (some context) := by
    rw [challengeContext, hproperty, Option.map_some, Option.filter_some, if_pos htruthy]
  simp only [paymentContextOf, hdata, hread, Option.bind_eq_bind, Option.bind_some, Option.join_some,
    hctx]

/-- The typed data the web client has signed. -/
def paymentTypedData (ctx : Sdk.PaymentContext) : TypedData (List UInt16) :=
  Sdk.paymentTypedData "MicroAI Paygate" "1" ctx

/-- The headers of the signed retry. -/
def buildSignedHeaders (ctx : Sdk.PaymentContext) (signature : List UInt16) :
    List (List UInt16 × List UInt16) :=
  Sdk.buildSignedHeaders ctx signature

end Paygate.Web
