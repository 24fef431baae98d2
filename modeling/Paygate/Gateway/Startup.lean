import Paygate.Gateway.Summarize

/-!
# Settings checked at startup

The check of the private key when the gateway starts, against the loading of the key when the
first receipt is signed, and the durations made of settings in seconds.

The check leaves out the range of the key, so that a key of the right length that is zero or
not below the order of the curve is only refused when a receipt is to be signed
(`validated_key_loads_iff`).  A number of seconds is checked to be positive before it is
multiplied, so that a large one wraps around (`getPositiveTimeout_iff`).
-/

namespace Paygate.Gateway

open Text Json

/-! ### The private key -/

/-- The check of the private key, which does not load it. -/
def validateServerPrivateKey (env : Env) : Except KeyError Unit :=
  let keyHex := env "SERVER_WALLET_PRIVATE_KEY"
  if keyHex = [] then .error .notSet
  else
    match hexDecode (latin1 (trimPrefix (bytes "0x") keyHex)) with
    | none => .error .invalidFormat
    | some keyBytes =>
        if keyBytes.length < 31 then .error (.tooShort keyBytes.length)
        else if 32 < keyBytes.length then .error (.tooLong keyBytes.length)
        else .ok ()

/-- The number with the given bytes, the most significant first. -/
def ofBigEndian (bs : List UInt8) : Nat :=
  bs.foldl (fun n b => n * 256 + b.toNat) 0

/-- Leading zeros do not change a number. -/
theorem ofBigEndian_replicate_append (k : Nat) (bs : List UInt8) :
  ofBigEndian (List.replicate k 0 ++ bs) = ofBigEndian bs
  := by
  induction k with
  | zero => rfl
  | succ k ih => exact ih

/-- The order of the base point of secp256k1. -/
def secp256k1N : Nat := 0xFFFFFFFFFFFFFFFFFFFFFFFFFFFFFFFEBAAEDCE6AF48A03BBFD25E8CD0364141

/-- `ToECDSA` accepts exactly the numbers from 1 to `N - 1` in 32 bytes. -/
def AcceptsScalars (crypto : Crypto) : Prop :=
  ∀ bs, (∃ key, crypto.toECDSA bs = .ok key)
    ↔ bs.length = 32 ∧ 0 < ofBigEndian bs ∧ ofBigEndian bs < secp256k1N

/-- A text of hexadecimal digits, with or without `0x`, has the given bytes. -/
def HexText (keyHex : List UInt8) (keyBytes : List UInt8) : Prop :=
  hexDecode (latin1 (trimPrefix (bytes "0x") keyHex)) = some keyBytes

/-- The check accepts the texts of 31 or 32 bytes. -/
theorem validateServerPrivateKey_ok_iff {env : Env} :
  validateServerPrivateKey env = .ok ()
    ↔ ∃ keyBytes, HexText (env "SERVER_WALLET_PRIVATE_KEY") keyBytes
      ∧ 31 ≤ keyBytes.length ∧ keyBytes.length ≤ 32
  := by
  unfold validateServerPrivateKey HexText
  by_cases hempty : env "SERVER_WALLET_PRIVATE_KEY" = []
  · simp only [hempty]
    decide
  · simp only [hempty, if_false]
    cases hexDecode (latin1 (trimPrefix (bytes "0x") (env "SERVER_WALLET_PRIVATE_KEY"))) with
    | none => simp
    | some keyBytes =>
        simp only [Option.some.injEq, exists_eq_left']
        split
        · simp
          omega
        · split
          · simp
            omega
          · simp
            omega

/-- A text of 31 or 32 bytes is loaded exactly if its number is in the range of the keys. -/
theorem getServerPrivateKey_ok_iff {crypto : Crypto} (hcrypto : AcceptsScalars crypto) {env : Env}
    {keyBytes : List UInt8} (htext : HexText (env "SERVER_WALLET_PRIVATE_KEY") keyBytes)
    (hmin : 31 ≤ keyBytes.length) (hmax : keyBytes.length ≤ 32) :
  (∃ key, getServerPrivateKey crypto env = .ok key)
    ↔ 0 < ofBigEndian keyBytes ∧ ofBigEndian keyBytes < secp256k1N
  := by
  have hne : env "SERVER_WALLET_PRIVATE_KEY" ≠ [] := by
    intro hempty
    rw [HexText, hempty] at htext
    obtain rfl := Option.some.inj htext
    exact absurd hmin (by decide)
  have hload : getServerPrivateKey crypto env
      = (crypto.toECDSA (List.replicate (32 - keyBytes.length) 0 ++ keyBytes)).mapError .parse := by
    unfold getServerPrivateKey
    rw [HexText] at htext
    simp only [hne, if_false, htext, not_lt.mpr hmin, not_lt.mpr hmax]
  have hlength : (List.replicate (32 - keyBytes.length) (0 : UInt8) ++ keyBytes).length = 32 := by
    rw [List.length_append, List.length_replicate]
    omega
  have hpadded := hcrypto (List.replicate (32 - keyBytes.length) 0 ++ keyBytes)
  rw [ofBigEndian_replicate_append, and_iff_right hlength] at hpadded
  rw [hload, ← hpadded]
  cases crypto.toECDSA (List.replicate (32 - keyBytes.length) 0 ++ keyBytes) with
  | error e => simp [Except.mapError]
  | ok key => simp [Except.mapError]

/-- For every environment, a key that passes the check at startup is loaded when a receipt is
to be signed, exactly if a key of 31 or 32 bytes is neither zero nor the order of the curve or
more. -/
theorem validated_key_loads_iff (crypto : Crypto) (hcrypto : AcceptsScalars crypto) (env : Env) :
  (validateServerPrivateKey env = .ok () → ∃ key, getServerPrivateKey crypto env = .ok key)
    ↔ ∀ keyBytes, HexText (env "SERVER_WALLET_PRIVATE_KEY") keyBytes →
        31 ≤ keyBytes.length → keyBytes.length ≤ 32 →
        0 < ofBigEndian keyBytes ∧ ofBigEndian keyBytes < secp256k1N
  := by
  rw [validateServerPrivateKey_ok_iff]
  constructor
  · intro h keyBytes htext hmin hmax
    apply (getServerPrivateKey_ok_iff hcrypto htext hmin hmax).mp
    apply h
    exact ⟨keyBytes, htext, hmin, hmax⟩
  · rintro h ⟨keyBytes, htext, hmin, hmax⟩
    apply (getServerPrivateKey_ok_iff hcrypto htext hmin hmax).mpr
    apply h keyBytes htext hmin hmax

/-- Keys for the samples: the scalars themselves, with which every hash is signed alike. -/
def scalarCrypto : Crypto where
  PrivateKey := List UInt8
  toECDSA bs :=
    if bs.length ≠ 32 then .error "invalid length, need 256 bits"
    else if secp256k1N ≤ ofBigEndian bs then .error "invalid private key, >=N"
    else if ofBigEndian bs = 0 then .error "invalid private key, zero or negative"
    else .ok bs
  keccak256 m := .replicate 32 (.ofNat m.length)
  sign _ _ := .ok (.replicate 65 0)
  publicKeyBytes _ := .replicate 65 4

/-- The keys of the samples are the numbers from 1 to `N - 1` in 32 bytes. -/
theorem acceptsScalars_scalarCrypto : AcceptsScalars scalarCrypto
  := by
  intro bs
  simp only [scalarCrypto]
  split
  · rename_i hlength
    simp [hlength]
  · split
    · rename_i hlength hlarge
      simp [hlarge]
    · split
      · rename_i hzero
        simp [hzero]
      · rename_i hlength hlarge hzero
        simp only [Except.ok.injEq, exists_eq', true_iff]
        exact ⟨not_not.mp hlength, Nat.pos_of_ne_zero hzero, not_le.mp hlarge⟩

/-- An environment with one variable. -/
def singleEnv (key : String) (value : List UInt8) : Env :=
  fun k => if k = key then value else []

/-- The key of 64 zeros passes the check at startup, and then no receipt can be signed. -/
theorem validated_key_loads_counterexample :
  AcceptsScalars scalarCrypto
    ∧ validateServerPrivateKey
        (singleEnv "SERVER_WALLET_PRIVATE_KEY" (List.replicate 64 0x30)) = .ok ()
    ∧ (¬ ∃ key, getServerPrivateKey scalarCrypto
        (singleEnv "SERVER_WALLET_PRIVATE_KEY" (List.replicate 64 0x30)) = .ok key)
    ∧ ∀ receipt, signReceipt scalarCrypto
        (singleEnv "SERVER_WALLET_PRIVATE_KEY" (List.replicate 64 0x30)) receipt
          = .error (.privateKey (.parse "invalid private key, zero or negative"))
  := by
  have hload : getServerPrivateKey scalarCrypto
      (singleEnv "SERVER_WALLET_PRIVATE_KEY" (List.replicate 64 0x30))
        = .error (.parse "invalid private key, zero or negative") := by
    rfl
  refine ⟨acceptsScalars_scalarCrypto, by decide, ?_, ?_⟩
  · rw [hload]
    rintro ⟨key, h⟩
    cases h
  · intro receipt
    rw [signReceipt, hload]
    rfl

/-- The key with the number 1 passes the check at startup and is loaded, also if its leading
zero byte is left out. -/
theorem validated_key_loads_sample :
  (∃ key, getServerPrivateKey scalarCrypto
      (singleEnv "SERVER_WALLET_PRIVATE_KEY" (bytes "0x" ++ List.replicate 61 0x30 ++ [0x31]))
        = .ok key)
  := by
  apply (validated_key_loads_iff scalarCrypto acceptsScalars_scalarCrypto _).mpr
  · intro keyBytes htext _ _
    have hbytes : HexText (bytes "0x" ++ List.replicate 61 0x30 ++ [0x31])
        (List.replicate 30 0 ++ [1]) := by
      rfl
    obtain rfl := Option.some.inj (htext.symm.trans hbytes)
    decide
  · decide

/-! ### Durations -/

/-- A positive setting in seconds, or its default, as a duration in nanoseconds. -/
def getPositiveTimeout (env : Env) (envKey : String) (defaultSeconds : Int) : Int :=
  let seconds := getEnvAsInt env envKey defaultSeconds
  wrapInt64 ((if seconds ≤ 0 then defaultSeconds else seconds) * 1000000000)

/-- How long a request may take. -/
def getRequestTimeout (env : Env) : Int := getPositiveTimeout env "REQUEST_TIMEOUT_SECONDS" 60

/-- How long the model may take to answer. -/
def getAITimeout (env : Env) : Int := getPositiveTimeout env "AI_REQUEST_TIMEOUT_SECONDS" 30

/-- How long the verifier may take to answer. -/
def getVerifierTimeout (env : Env) : Int := getPositiveTimeout env "VERIFIER_TIMEOUT_SECONDS" 2

/-- How long a health check may take. -/
def getHealthCheckTimeout (env : Env) : Int :=
  getPositiveTimeout env "HEALTH_CHECK_TIMEOUT_SECONDS" 2

/-- The durations made of settings in seconds, each with its setting and its default. -/
def durationSettings : List ((Env → Int) × String × Int) := [
  (getRequestTimeout, "REQUEST_TIMEOUT_SECONDS", 60),
  (getAITimeout, "AI_REQUEST_TIMEOUT_SECONDS", 30),
  (getVerifierTimeout, "VERIFIER_TIMEOUT_SECONDS", 2),
  (getHealthCheckTimeout, "HEALTH_CHECK_TIMEOUT_SECONDS", 2),
  (getReceiptTTL, "RECEIPT_TTL", 86400)]

/-- The number of seconds a text asks for: the positive number it is, or else the default. -/
def secondsOf (value : List UInt8) (defaultSeconds : Int) : Int :=
  match atoi value with
  | some n => if 0 < n then n else defaultSeconds
  | none => defaultSeconds

/-- A duration in nanoseconds is positive and the given number of seconds long. -/
def IsDuration (duration seconds : Int) : Prop :=
  0 < duration ∧ duration = seconds * 1000000000

/-- A positive number of seconds is not wrapped around exactly if it is at most 9223372036. -/
theorem isDuration_wrapInt64_iff {seconds : Int} (hpos : 0 < seconds) :
  IsDuration (wrapInt64 (seconds * 1000000000)) seconds ↔ seconds ≤ 9223372036
  := by
  unfold IsDuration wrapInt64
  constructor
  · rintro ⟨-, heq⟩
    have hlt : (seconds * 1000000000).bmod (2 ^ 64) < (((2 ^ 64 : Nat) : Int) + 1) / 2 :=
      Int.bmod_lt (by decide)
    rw [heq] at hlt
    omega
  · intro hle
    rw [Int.bmod_eq_of_le_mul_two (by omega) (by omega)]
    exact ⟨by omega, rfl⟩

/-- The setting is the number of seconds its text asks for. -/
theorem getPositiveTimeout_eq (env : Env) (envKey : String) (defaultSeconds : Int) :
  getPositiveTimeout env envKey defaultSeconds
    = wrapInt64 (secondsOf (env envKey) defaultSeconds * 1000000000)
  := by
  have hempty : atoi [] = none := by decide
  unfold getPositiveTimeout getEnvAsInt secondsOf
  by_cases h : env envKey = []
  · simp [h, hempty]
  · cases hparsed : atoi (env envKey) with
    | none => simp [h]
    | some n =>
        simp only [h, if_false, Option.getD_some]
        by_cases hpos : 0 < n
        · rw [if_neg (not_le.mpr hpos), if_pos hpos]
        · rw [if_pos (not_lt.mp hpos), if_neg hpos]

/-- Receipts are kept for a setting in seconds like the others. -/
theorem getReceiptTTL_eq (env : Env) : getReceiptTTL env = getPositiveTimeout env "RECEIPT_TTL" 86400
  := rfl

/-- A duration with a default of one second to one day is what its setting asks for, exactly if
the setting is not too large a number. -/
theorem isDuration_getPositiveTimeout_iff {env : Env} {envKey : String} {defaultSeconds : Int}
    (hmin : 1 ≤ defaultSeconds) (hmax : defaultSeconds ≤ 86400) :
  IsDuration (getPositiveTimeout env envKey defaultSeconds) (secondsOf (env envKey) defaultSeconds)
    ↔ ∀ n, atoi (env envKey) = some n → n ≤ 9223372036
  := by
  have hpos : 0 < secondsOf (env envKey) defaultSeconds := by
    unfold secondsOf
    split
    · split
      · assumption
      · omega
    · omega
  rw [getPositiveTimeout_eq, isDuration_wrapInt64_iff hpos]
  unfold secondsOf
  cases atoi (env envKey) with
  | none =>
      simp only [reduceCtorEq, false_implies, implies_true, iff_true]
      omega
  | some n =>
      simp only [Option.some.injEq, forall_eq']
      split
      · rfl
      · omega

/-- For every value of the setting and every default of one second to one day, the duration is
positive and what the setting or else the default asks for, exactly if the setting is not a
number above 9223372036. -/
theorem getPositiveTimeout_iff (env : Env) :
  (∀ (envKey : String) (defaultSeconds : Int), 1 ≤ defaultSeconds → defaultSeconds ≤ 86400 →
      (IsDuration (getPositiveTimeout env envKey defaultSeconds)
          (secondsOf (env envKey) defaultSeconds)
        ↔ ∀ n, atoi (env envKey) = some n → n ≤ 9223372036))
    ∧ ∀ p ∈ durationSettings,
      (IsDuration (p.1 env) (secondsOf (env p.2.1) p.2.2)
        ↔ ∀ n, atoi (env p.2.1) = some n → n ≤ 9223372036)
  := by
  constructor
  · intro envKey defaultSeconds hmin hmax
    apply isDuration_getPositiveTimeout_iff hmin hmax
  · simp only [durationSettings, List.forall_mem_cons, List.not_mem_nil, false_implies,
      implies_true, and_true, getReceiptTTL_eq]
    refine ⟨?_, ?_, ?_, ?_, ?_⟩
    all_goals
      apply isDuration_getPositiveTimeout_iff
      · decide
      · decide

/-- A request timeout of 9223372037 seconds is negative. -/
theorem getPositiveTimeout_counterexample :
  atoi (bytes "9223372037") = some 9223372037
    ∧ getRequestTimeout (singleEnv "REQUEST_TIMEOUT_SECONDS" (bytes "9223372037"))
      = -9223372036709551616
    ∧ getReceiptTTL (singleEnv "RECEIPT_TTL" (bytes "9223372037")) = -9223372036709551616
    ∧ ¬ IsDuration
        (getPositiveTimeout (singleEnv "REQUEST_TIMEOUT_SECONDS" (bytes "9223372037"))
          "REQUEST_TIMEOUT_SECONDS" 60)
        (secondsOf (bytes "9223372037") 60)
  := by
  refine ⟨by decide, by decide, by decide, ?_⟩
  rintro ⟨hpos, -⟩
  revert hpos
  decide

/-- A request timeout of 45 seconds, with a default of 60. -/
theorem getPositiveTimeout_sample :
  IsDuration (getPositiveTimeout (singleEnv "REQUEST_TIMEOUT_SECONDS" (bytes "45"))
    "REQUEST_TIMEOUT_SECONDS" 60) 45
  := by
  have hparsed : atoi (singleEnv "REQUEST_TIMEOUT_SECONDS" (bytes "45") "REQUEST_TIMEOUT_SECONDS")
      = some 45 := by
    decide
  have hduration := ((getPositiveTimeout_iff
    (singleEnv "REQUEST_TIMEOUT_SECONDS" (bytes "45"))).1 "REQUEST_TIMEOUT_SECONDS" 60
      (by decide) (by decide)).mpr
  rw [hparsed, secondsOf, hparsed] at hduration
  apply hduration
  intro n hn
  obtain rfl := Option.some.inj hn
  decide

end Paygate.Gateway
