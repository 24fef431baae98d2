import Mathlib.Algebra.Group.Int.Defs
import Mathlib.Algebra.Group.Nat.Defs
import Paygate.Base.GoJson

/-!
# Settings and payment contexts of the gateway

The environment variables the payment path of the gateway reads, with their defaults, and
the payment context it makes of them.  The strings of the gateway are byte strings.
-/

namespace Paygate.Gateway

open Text Json

/-- The environment: the value of each variable, empty if it is not set. -/
abbrev Env := String → List UInt8

/-! ### Numbers in decimal -/

/-- `strconv.ParseUint` in base ten with 64 bits. -/
def parseUint (s : List UInt8) : Option UInt64 :=
  let n := Nat.ofDigitChars 10 (latin1 s) 0
  if s ≠ [] ∧ (latin1 s).all Char.isDigit ∧ n < 2 ^ 64 then some (.ofNat n) else none

/-- `strconv.Atoi`. -/
def atoi (s : List UInt8) : Option Int :=
  let sign := parseSign ['+', '-'] (latin1 s)
  let n := Nat.ofDigitChars 10 sign.2 0
  if sign.2 ≠ [] ∧ sign.2.all Char.isDigit then
    if sign.1 = ['-'] then
      if n ≤ 2 ^ 63 then some (-n) else none
    else
      if n < 2 ^ 63 then some n else none
  else none

/-- The digits of a number are parsed as the number. -/
theorem parseUint_decimal (n : UInt64) : parseUint (utf8 (decimal n.toNat)) = some n
  := by
  have hdigits : ∀ c ∈ decimal n.toNat, c.isDigit = true := fun c hc => isDigit_of_mem_decimal hc
  have hvalue : Nat.ofDigitChars 10 (decimal n.toNat) 0 = n.toNat := Nat.ofDigitChars_ten_toDigits
  have hne : utf8 (decimal n.toNat) ≠ [] := by
    intro h
    have hnil := utf8_injective (h.trans utf8_nil.symm)
    exact Nat.toDigits_ne_nil hnil
  have hlt := n.toNat_lt
  rw [parseUint, latin1_utf8 (decimal_ascii _), hvalue, if_pos ⟨hne, List.all_eq_true.mpr hdigits, hlt⟩,
    UInt64.ofNat_toNat]

/-! ### Settings -/

/-- The recipient of payments. -/
def getRecipientAddress (env : Env) : List UInt8 :=
  if env "RECIPIENT_ADDRESS" = [] then bytes "0x2cAF48b4BA1C58721a85dFADa5aC01C2DFa62219"
  else env "RECIPIENT_ADDRESS"

/-- The amount of a payment. -/
def getPaymentAmount (env : Env) : List UInt8 :=
  if env "PAYMENT_AMOUNT" = [] then bytes "0.001" else env "PAYMENT_AMOUNT"

/-- The chain payments are made on. -/
def getChainID (env : Env) : Int :=
  if env "CHAIN_ID" = [] then 84532 else (atoi (env "CHAIN_ID")).getD 84532

/-- An integer setting with a default. -/
def getEnvAsInt (env : Env) (key : String) (defaultValue : Int) : Int :=
  if env key = [] then defaultValue else (atoi (env key)).getD defaultValue

/-! ### Payment contexts -/

/-- The payment context, as it is sent to clients and to the verifier. -/
structure PaymentContext where
  recipient : List UInt8
  token : List UInt8
  amount : List UInt8
  nonce : List UInt8
  chainId : Int
  timestamp : UInt64
  deriving DecidableEq, Repr

/-- The payment context as JSON. -/
def PaymentContext.json (p : PaymentContext) : Json (List UInt8) :=
  .obj [
    (bytes "recipient", .str p.recipient),
    (bytes "token", .str p.token),
    (bytes "amount", .str p.amount),
    (bytes "nonce", .str p.nonce),
    (bytes "chainId", .num (decimalInt p.chainId)),
    (bytes "timestamp", .num (decimal p.timestamp.toNat))]

/-- The body of a challenge to pay, as JSON. -/
def PaymentContext.challenge (p : PaymentContext) : Json (List UInt8) :=
  .obj [
    (bytes "error", .str (bytes "Payment Required")),
    (bytes "message", .str (bytes "Please sign the payment context")),
    (bytes "paymentContext", p.json)]

/-- The payment context of the settings, with a nonce and a timestamp. -/
def paymentContext (env : Env) (nonce : List UInt8) (timestamp : UInt64) : PaymentContext where
  recipient := getRecipientAddress env
  token := bytes "USDC"
  amount := getPaymentAmount env
  nonce := nonce
  chainId := getChainID env
  timestamp := timestamp

/-- The text of a random UUID made of sixteen random bytes. -/
def uuidString (random : Vector UInt8 16) : List Char :=
  let b := (random.set 6 (random[6] &&& 0x0F ||| 0x40)).set 8 (random[8] &&& 0x3F ||| 0x80)
  let digits := hexEncode b.toList
  digits.take 8 ++ '-' :: (digits.drop 8).take 4 ++ '-' :: (digits.drop 12).take 4
    ++ '-' :: (digits.drop 16).take 4 ++ '-' :: digits.drop 20

/-- A fresh payment context, from sixteen random bytes and the Unix time. -/
def createPaymentContext (env : Env) (random : Vector UInt8 16) (unix : Int) : PaymentContext :=
  paymentContext env (utf8 (uuidString random)) (.ofInt unix)

end Paygate.Gateway
