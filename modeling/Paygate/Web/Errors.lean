import Paygate.Web.Values

/-!
# Errors of the web client

How the web client names what went wrong, from the status and the body of a response or from a
value that was thrown, and what it shows to the user.
-/

namespace Paygate.Web

open Text Json

/-! ### What is shown -/

/-- The kinds of errors. -/
inductive ErrorKind where
  | noWallet
  | wrongChain
  | userRejected
  | expired
  | duplicateNonce
  | invalidSignature
  | rateLimited
  | aiTimeout
  | aiUnavailable
  | verifierTimeout
  | verifierUnavailable
  | network
  | unknown
  deriving DecidableEq, Repr

/-- What is shown for an error. -/
structure ClassifiedError where
  kind : ErrorKind
  title : String
  message : String
  detail : Option (List UInt16)
  recoverable : Bool
  deriving DecidableEq, Repr

/-- The title and the message for a kind of error. -/
def COPY : ErrorKind → String × String
  | .noWallet =>
      ("No wallet detected",
        "Install MetaMask, Rabby, or Coinbase Wallet, then refresh this page.")
  | .wrongChain =>
      ("Wrong network",
        "Your wallet isn't on the expected network. Use the switch button in the wallet widget to "
          ++ "fix it.")
  | .userRejected =>
      ("You cancelled the signature", "No payment was sent. Try again whenever you're ready.")
  | .expired =>
      ("Payment context expired",
        "The signed challenge took too long to return. Retry to get a fresh one.")
  | .duplicateNonce =>
      ("Signature already used",
        "This payment context was already submitted. Each challenge can only be used once. Retry "
          ++ "to get a fresh one.")
  | .invalidSignature =>
      ("Signature was rejected",
        "The verifier didn't accept the signature. Double-check your wallet account hasn't changed "
          ++ "mid-flow, then retry.")
  | .rateLimited =>
      ("Rate limited", "Too many requests recently. Wait a moment and try again.")
  | .aiTimeout =>
      ("AI provider timed out",
        "Payment was verified, but the AI provider didn't respond in time. Your wallet wasn't "
          ++ "charged. Retry.")
  | .aiUnavailable =>
      ("AI provider unavailable",
        "The upstream model is down right now. Try again in a minute.")
  | .verifierTimeout =>
      ("Verifier timed out",
        "The signature verifier didn't respond in time. Your signature wasn't accepted — no "
          ++ "payment occurred. Retry.")
  | .verifierUnavailable =>
      ("Verifier unavailable",
        "The signature verifier is down. Your signature wasn't accepted — no payment occurred. "
          ++ "Retry in a moment.")
  | .network =>
      ("Network error", "Couldn't reach the gateway. Check your connection and retry.")
  | .unknown =>
      ("Something broke",
        "An unexpected error happened. Retry — and if it persists, check the console.")

/-- The code of the gateway that a text names, with the correlation of the request; there is none
where reading it throws. -/
def errorCode (raw : List UInt16) : Option (List UInt16) := do
  match JsJson.get (← parse raw) "error" with
  | some (.str code) =>
      if code = [] then none
      else
        let correlation := JsJson.get (← parse raw) "correlation_id"
        if truthy jsNumbers correlation then
          some (units "[" ++ code ++ units "] correlation_id=" ++ (← correlation.bind toString))
        else some (units "[" ++ code ++ units "]")
  | _ => none

/-- The part of a text that is shown. -/
def sanitizeDetail (raw : Option (List UInt16)) : Option (List UInt16) :=
  match raw with
  | none | some [] => none
  | some raw =>
      match errorCode raw with
      | some detail => some detail
      | none => some (if raw.length > 200 then raw.take 200 ++ units "..." else raw)

/-- What is shown for a kind of error. -/
def build (kind : ErrorKind) (detail : Option (List UInt16)) : ClassifiedError where
  kind := kind
  title := (COPY kind).1
  message := (COPY kind).2
  detail := sanitizeDetail detail
  recoverable := kind ≠ .noWallet

/-! ### From a response -/

/-- Whether a text includes a word. -/
def includes (s : List UInt16) (word : String) : Bool :=
  units word <:+: s

/-- The kind of error a response is. -/
def statusToKind (status : Nat) (body : List UInt16) : ErrorKind :=
  if status = 400 then
    if includes body "chain_id_mismatch" then .wrongChain
    else if includes body "invalid_timestamp" then .expired
    else .invalidSignature
  else if status = 402 then .expired
  else if status = 403 then .invalidSignature
  else if status = 408 then .aiTimeout
  else if status = 504 then
    if includes body "verifier_timeout" then .verifierTimeout else .aiTimeout
  else if status = 409 then
    if includes body "nonce_already_used" then .duplicateNonce else .invalidSignature
  else if status = 429 then .rateLimited
  else if status = 502 then
    if includes body "verification_unavailable" then .verifierUnavailable else .aiUnavailable
  else if 500 ≤ status then .aiUnavailable
  else .unknown

/-! ### From a value that was thrown -/

/-- A value that was thrown: an object whose messages, where it has them, are texts, a value that
is no object, by its text, or another object, with what is made of it, if this does not throw. -/
inductive Raised where
  | error (shortMessage message : Option (List UInt16)) (code : Option (Json (List UInt16)))
  | other (text : List UInt16)
  | untyped (classified : Option ClassifiedError)

/-- The lower case of a unit, as far as letters from `a` to `z` come out. -/
def toLowerUnit (u : UInt16) : List UInt16 :=
  if 0x41 ≤ u ∧ u ≤ 0x5A then [u + 0x20]
  else if u = 0x212A then units "k"
  else if u = 0x0130 then units "i\u0307"
  else [u]

/-- The lower case of a text. -/
def toLower (s : List UInt16) : List UInt16 :=
  s.flatMap toLowerUnit

/-- Whether a message is about another chain. -/
def looksWrongChain (message : List UInt16) : Bool :=
  ["wrong network", "wrong chain", "chain mismatch", "unsupported chain", "chain not supported",
    "incorrect network", "did not switch to chain"].any (includes (toLower message))

/-- Whether the user has rejected the request. -/
def looksRejected (message : List UInt16) (code : Option (Json (List UInt16))) : Bool :=
  match code with
  | some (.num l) => JsNumber.toString l = "4001".toList || rejected
  | some (.str s) => s = units "ACTION_REJECTED" || rejected
  | _ => rejected
where
  rejected : Bool :=
    ["user rejected", "user denied", "rejected the request", "action_rejected"].any
      (includes (toLower message))

/-- What is known of the response. -/
structure ErrorContext where
  status : Option Nat
  bodyText : Option (List UInt16)

/-- What is shown for a response, or else for a value that was thrown; there is nothing where this
throws again. -/
def classifyError (err : Raised) (ctx : Option ErrorContext) : Option ClassifiedError :=
  match ctx.bind ErrorContext.status with
  | some (status + 1) =>
      let bodyText := ctx.bind ErrorContext.bodyText
      some (build (statusToKind (status + 1) (bodyText.getD [])) bodyText)
  | _ =>
      match err with
      | .error shortMessage message code =>
          let message := (shortMessage.or message).getD []
          if looksRejected message code then some (build .userRejected (some message))
          else if looksWrongChain message then some (build .wrongChain (some message))
          else if includes (toLower message) "no wallet"
              || includes (toLower message) "no crypto wallet" then
            some (build .noWallet (some message))
          else if includes (toLower message) "failed to fetch"
              || includes (toLower message) "networkerror" then
            some (build .network (some message))
          else some (build .unknown (some message))
      | .other text => some (build .unknown (some text))
      | .untyped classified => classified

/-! ### What holds of them -/

/-- The AI provider has failed, after the payment was verified. -/
def ErrorKind.IsAi (kind : ErrorKind) : Prop :=
  kind = .aiTimeout ∨ kind = .aiUnavailable

instance (kind : ErrorKind) : Decidable kind.IsAi := by
  unfold ErrorKind.IsAi
  infer_instance

/-- A response is shown by its status and its body. -/
theorem classifyError_response {status : Nat} (h : status ≠ 0) (err : Raised) (body : List UInt16) :
  classifyError err (some ⟨some status, some body⟩) = some (build (statusToKind status body) (some body))
  := by
  obtain ⟨n, rfl⟩ := Nat.exists_eq_succ_of_ne_zero h
  rfl

/-- Only a timeout of a request and an error of the server count as a failure of the AI provider,
and these only if they do not name the verifier. -/
theorem statusToKind_isAi_iff (status : Nat) (body : List UInt16) :
  (statusToKind status body).IsAi
    ↔ status = 408 ∨ (500 ≤ status
        ∧ (status = 504 → includes body "verifier_timeout" = false)
        ∧ (status = 502 → includes body "verification_unavailable" = false))
  := by
  unfold statusToKind ErrorKind.IsAi
  by_cases h400 : status = 400
  · subst h400
    cases includes body "chain_id_mismatch" <;> cases includes body "invalid_timestamp" <;> simp
  · by_cases h504 : status = 504
    · subst h504
      cases includes body "verifier_timeout" <;> simp
    · by_cases h502 : status = 502
      · subst h502
        cases includes body "verification_unavailable" <;> simp
      · by_cases h409 : status = 409
        · subst h409
          cases includes body "nonce_already_used" <;> simp
        · simp only [h400, h504, h502, h409, if_false]
          split_ifs <;> simp_all

/-- What is shown for an error whose messages are texts, for any response. -/
theorem classifyError_isSome {err : Raised} (h : ∀ classified, err ≠ .untyped classified)
    (ctx : Option ErrorContext) :
  (classifyError err ctx).isSome
  := by
  unfold classifyError
  split
  · rfl
  · cases err with
    | error shortMessage message code =>
        dsimp only
        split_ifs
        · rfl
        · rfl
        · rfl
        · rfl
        · rfl
    | other text => rfl
    | untyped classified => exact absurd rfl (h classified)

end Paygate.Web
