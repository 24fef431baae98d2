import Paygate.Base.Hex
import Paygate.Base.Word
import Paygate.Protocol.TypedData

/-!
# The verifier up to the nonce claim

The requests and the answers of the verifier's `/verify` endpoint, the timestamp check,
and `verifySignature` around its nonce claim: `beforeClaim` is everything it does before
it asks the nonce store, `afterClaim` the answer it makes of what the store says.  The
clock is a number of nanoseconds since the epoch; system time is that number in whole
seconds.  The functions of the `ethers` crate the verifier calls are the fields of
`Ethers`.
-/

namespace Paygate.Verifier

/-! ### Requests and answers -/

/-- The payment context of a request. -/
structure PaymentContext where
  recipient : String
  token : String
  amount : String
  nonce : String
  chainId : UInt64
  timestamp : Option UInt64
  deriving DecidableEq, Repr

/-- The body of a request. -/
structure VerifyRequest where
  context : PaymentContext
  signature : String
  deriving DecidableEq, Repr

/-- The body of an answer. -/
structure VerifyResponse where
  isValid : Bool
  recoveredAddress : Option String
  error : Option String
  errorCode : Option String
  deriving DecidableEq, Repr

/-- Why the body of a request could not be read as a `VerifyRequest`. -/
inductive JsonRejection where
  | bytesRejection
  | other (display : String)
  deriving DecidableEq, Repr

/-- An answer: its status code, the correlation id header it echoes and its body. -/
structure Reply where
  status : Nat
  correlationId : String
  body : VerifyResponse
  deriving DecidableEq, Repr

/-- The settings the verifier is started with. -/
structure AppState where
  maxBodySize : Nat
  expectedChainId : UInt64
  signatureExpirySeconds : UInt64
  clockSkewSeconds : UInt64
  deriving DecidableEq, Repr

/-- Whether a byte may stand in a header value read as a string. -/
def isVisibleAscii (b : UInt8) : Bool :=
  (32 ≤ b && b < 127) || b == 9

/-- The correlation id of a request, from the value of its `X-Correlation-ID` header. -/
def correlationId (header : Option (List UInt8)) : String :=
  match header with
  | some v =>
      if v.all isVisibleAscii then String.ofList (v.map fun b => Char.ofNat b.toNat)
      else "unknown"
  | none => "unknown"

/-! ### The `ethers` crate -/

/-- A 32-byte hash. -/
abbrev Digest := Vector UInt8 32

/-- A 20-byte account address. -/
abbrev Address := Vector UInt8 20

/-- The typed data the verifier builds, with the name of the struct type it signs. -/
structure TypedDataJson extends TypedData String where
  primaryType : String
  deriving DecidableEq, Repr

/-- The functions of the `ethers` crate the verifier calls. -/
structure Ethers where
  TypedData : Type
  Signature : Type
  typedDataFromValue : TypedDataJson → Except String TypedData
  signatureFromStr : String → Except String Signature
  encodeEip712 : TypedData → Except String Digest
  recover : Signature → Digest → Except String Address
  keccak256 : List UInt8 → Digest

/-- The address that signed the digest of the typed data. -/
def Ethers.recoverTypedData (eth : Ethers) (sig : eth.Signature) (td : eth.TypedData) :
    Except String Address := do
  let digest ← eth.encodeEip712 td
  eth.recover sig digest

/-- An address as `{:?}` prints it: `0x` and forty lower-case hexadecimal digits. -/
def debugAddress (a : Address) : String :=
  String.ofList ('0' :: 'x' :: hexEncode a.toList)

/-! ### Time -/

/-- The nanoseconds in a second. -/
def nanosPerSecond : Nat := 1000000000

/-- System time in whole seconds at a clock value. -/
def unixSeconds (clock : Nat) : UInt64 :=
  .ofNat (clock / nanosPerSecond)

/-- The duration of a number of seconds. -/
def durationFromSecs (s : UInt64) : Nat :=
  s.toNat * nanosPerSecond

theorem toNat_unixSeconds {clock : Nat} (h : clock < 2 ^ 63 * nanosPerSecond) :
  (unixSeconds clock).toNat = clock / nanosPerSecond
  := by
  unfold unixSeconds
  rw [UInt64.toNat_ofNat']
  apply Nat.mod_eq_of_lt
  have := Nat.div_lt_of_lt_mul (mul_comm (2 ^ 63) nanosPerSecond ▸ h)
  omega

/-! ### The timestamp check -/

/-- Why a timestamp is refused. -/
inductive VerifyError where
  | signatureExpired (ageSeconds maxSeconds : UInt64)
  | futureTimestamp (timestamp now : UInt64)
  | missingTimestamp
  deriving DecidableEq, Repr

/-- The timestamp must not lie further ahead of `now` than the skew, nor be older than
the window. -/
def validateTimestampInternal (timestamp : Option UInt64)
    (windowSeconds clockSkewSeconds now : UInt64) : Except VerifyError Unit :=
  match timestamp with
  | none => .error .missingTimestamp
  | some ts =>
      if now.saturatingAdd clockSkewSeconds < ts then .error (.futureTimestamp ts now)
      else
        let age := now.saturatingSub ts
        if windowSeconds < age then .error (.signatureExpired age windowSeconds)
        else .ok ()

/-- The message and the error code of a refused timestamp. -/
def VerifyError.describe : VerifyError → String × String
  | .signatureExpired age max =>
      ("E007: expired (age=" ++ toString age.toNat ++ " max=" ++ toString max.toNat ++ ")",
        "timestamp_expired")
  | .futureTimestamp ts now =>
      ("E008: future ts=" ++ toString ts.toNat ++ " now=" ++ toString now.toNat,
        "timestamp_future")
  | .missingTimestamp => ("E009: missing timestamp", "timestamp_missing")

/-- An accepted timestamp is present, at most the skew ahead of the clock and at most the
window behind it. -/
theorem validateTimestampInternal_ok_iff {timestamp : Option UInt64} {window skew now : UInt64} :
  validateTimestampInternal timestamp window skew now = .ok ()
    ↔ ∃ ts, timestamp = some ts ∧ ts.toNat ≤ min (now.toNat + skew.toNat) (2 ^ 64 - 1)
        ∧ now.toNat - ts.toNat ≤ window.toNat
  := by
  cases timestamp with
  | none => simp [validateTimestampInternal]
  | some ts =>
      simp only [validateTimestampInternal, Option.some.injEq, exists_eq_left',
        UInt64.lt_iff_toNat_lt, UInt64.toNat_saturatingAdd, UInt64.toNat_saturatingSub]
      split
      · simp only [reduceCtorEq, false_iff]
        omega
      · split
        · simp only [reduceCtorEq, false_iff]
          omega
        · simp only [true_iff]
          omega

/-! ### The answer to a request -/

/-- The typed data the verifier rebuilds from the context of a request. -/
def typedDataJson (context : PaymentContext) : TypedDataJson where
  domain := {
    name := "MicroAI Paygate"
    version := "1"
    chainId := context.chainId.toNat
    verifyingContract := "0x0000000000000000000000000000000000000000" }
  types := [("Payment", [
    { name := "recipient", type := "address" },
    { name := "token", type := "string" },
    { name := "amount", type := "string" },
    { name := "nonce", type := "string" },
    { name := "timestamp", type := "uint256" }])]
  message := {
    recipient := context.recipient
    token := context.token
    amount := context.amount
    nonce := context.nonce
    timestamp := context.timestamp.map UInt64.toNat }
  primaryType := "Payment"

/-- A refusal, with no recovered address. -/
def refuse (cid : String) (status : Nat) (error : String) (errorCode : Option String) : Reply where
  status := status
  correlationId := cid
  body := {
    isValid := false
    recoveredAddress := none
    error := some error
    errorCode := errorCode }

/-- The address `ethers` recovers from the signature of a request over the typed data of
its context, or the refusal of the step that fails. -/
def recoverSigner (eth : Ethers) (cid : String) (payload : VerifyRequest) : Except Reply Address :=
  match eth.typedDataFromValue (typedDataJson payload.context) with
  | .error e => .error (refuse cid 400 ("typed data error: " ++ e) none)
  | .ok td =>
      match eth.signatureFromStr payload.signature with
      | .error e => .error (refuse cid 400 ("bad signature: " ++ e) (some "invalid_signature"))
      | .ok sig =>
          match eth.recoverTypedData sig td with
          | .error e => .error (refuse cid 200 e (some "invalid_signature"))
          | .ok addr => .ok addr

/-- What the verifier does before it claims the nonce: it answers a request it refuses,
and otherwise goes on with the request and the address recovered from its signature. -/
def beforeClaim (eth : Ethers) (state : AppState) (now : UInt64) (cid : String)
    (payload : Except JsonRejection VerifyRequest) : Except Reply (VerifyRequest × Address) :=
  match payload with
  | .error .bytesRejection =>
      .error (refuse cid 413
        ("Request body too large (max " ++ toString state.maxBodySize ++ " bytes)") none)
  | .error (.other e) => .error (refuse cid 400 ("Invalid request: " ++ e) none)
  | .ok payload =>
      if payload.context.chainId ≠ state.expectedChainId then
        .error (refuse cid 400 "chain ID mismatch" (some "chain_id_mismatch"))
      else
        match validateTimestampInternal payload.context.timestamp
          state.signatureExpirySeconds state.clockSkewSeconds now with
        | .error e => .error (refuse cid 200 e.describe.1 (some e.describe.2))
        | .ok () => (recoverSigner eth cid payload).map fun addr => (payload, addr)

/-- The answer once the nonce store has said whether the nonce was free. -/
def afterClaim (cid : String) (addr : Address) (claim : Except String Bool) : Reply :=
  match claim with
  | .ok true => {
      status := 200
      correlationId := cid
      body := {
        isValid := true
        recoveredAddress := some (debugAddress addr)
        error := none
        errorCode := none } }
  | .ok false => {
      status := 409
      correlationId := cid
      body := {
        isValid := false
        recoveredAddress := some (debugAddress addr)
        error := some "nonce already used"
        errorCode := some "nonce_already_used" } }
  | .error e => refuse cid 503 e (some "nonce_store_unavailable")

/-- An answer is positive exactly when the store granted the claim. -/
theorem afterClaim_isValid {cid : String} {addr : Address} {claim : Except String Bool} :
  (afterClaim cid addr claim).body.isValid = true ↔ claim = .ok true
  := by
  rcases claim with e | (_ | _)
  · simp [afterClaim, refuse]
  · simp [afterClaim]
  · simp [afterClaim]

/-- A request gets to the nonce claim exactly when its body was read, its chain is the
expected one, its timestamp is fresh and an address is recovered from its signature. -/
theorem beforeClaim_ok_iff {eth : Ethers} {state : AppState} {now : UInt64} {cid : String}
    {payload : Except JsonRejection VerifyRequest} {req : VerifyRequest} {addr : Address} :
  beforeClaim eth state now cid payload = .ok (req, addr)
    ↔ payload = .ok req ∧ req.context.chainId = state.expectedChainId
        ∧ validateTimestampInternal req.context.timestamp state.signatureExpirySeconds
            state.clockSkewSeconds now = .ok ()
        ∧ recoverSigner eth cid req = .ok addr
  := by
  rcases payload with (_ | e) | p
  · simp [beforeClaim]
  · simp [beforeClaim]
  · simp only [beforeClaim, Except.ok.injEq]
    split
    · rename_i hchain
      simp only [reduceCtorEq, false_iff]
      rintro ⟨rfl, h, -⟩
      exact hchain h
    · rename_i hchain
      split
      · rename_i e hts
        simp only [reduceCtorEq, false_iff]
        rintro ⟨rfl, -, h, -⟩
        rw [hts] at h
        cases h
      · rename_i hts
        cases hrec : recoverSigner eth cid p with
        | error r =>
            simp only [Except.map, reduceCtorEq, false_iff]
            rintro ⟨rfl, -, -, h⟩
            rw [hrec] at h
            cases h
        | ok a =>
            simp only [Except.map, Except.ok.injEq, Prod.mk.injEq]
            constructor
            · rintro ⟨rfl, rfl⟩
              exact ⟨rfl, not_not.mp hchain, hts, hrec⟩
            · rintro ⟨rfl, -, -, h⟩
              rw [hrec, Except.ok.injEq] at h
              exact ⟨rfl, h⟩

/-- Every refusal before the claim is negative. -/
theorem beforeClaim_error_isValid {eth : Ethers} {state : AppState} {now : UInt64} {cid : String}
    {payload : Except JsonRejection VerifyRequest} {r : Reply}
    (h : beforeClaim eth state now cid payload = .error r) :
  r.body.isValid = false
  := by
  have hrec : ∀ req r, recoverSigner eth cid req = .error r → r.body.isValid = false := by
    intro req r hr
    unfold recoverSigner at hr
    split at hr
    · cases hr
      rfl
    · split at hr
      · cases hr
        rfl
      · split at hr
        · cases hr
          rfl
        · cases hr
  rcases payload with (_ | e) | p
  · cases h
    rfl
  · cases h
    rfl
  · simp only [beforeClaim] at h
    split at h
    · cases h
      rfl
    · split at h
      · cases h
        rfl
      · cases hp : recoverSigner eth cid p with
        | error r' =>
            rw [hp] at h
            cases h
            apply hrec p _ hp
        | ok a =>
            rw [hp] at h
            cases h

end Paygate.Verifier
