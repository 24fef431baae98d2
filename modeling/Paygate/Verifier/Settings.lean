import Paygate.Gateway.Config
import Paygate.Verifier.Basic

/-!
# Settings of the verifier

The environment variables the verifier reads when it starts.  A variable that is set to a text which
is no number, or no number that makes sense, has the default.
-/

namespace Paygate.Verifier

open Text Json

/-- The environment: the value of each variable that is set. -/
abbrev Env := String → Option (List UInt8)

/-- The value of a variable that is set to Unicode text. -/
def Env.var (env : Env) (key : String) : Option (List Char) :=
  (env key).bind fun value => (runes value).mapM id

/-- `str::parse` for `u64`. -/
def parseU64 (s : List Char) : Option UInt64 :=
  let digits := (parseSign ['+'] s).2
  let n := Nat.ofDigitChars 10 digits 0
  if digits ≠ [] ∧ digits.all Char.isDigit ∧ n < 2 ^ 64 then some (.ofNat n) else none

/-- The largest body that is read, in bytes. -/
def getMaxBodySize (env : Env) : Nat :=
  (((env.var "MAX_REQUEST_BODY_BYTES").bind parseU64).filter (0 < ·)).elim 1048576 UInt64.toNat

/-- A chain from a variable. -/
def parseChainIdEnv (env : Env) (key : String) : Option UInt64 :=
  ((env.var key).bind parseU64).filter (0 < ·)

/-- The chain payments are to be made on. -/
def getExpectedChainId (env : Env) : UInt64 :=
  if (env.var "EXPECTED_CHAIN_ID").isSome then
    (parseChainIdEnv env "EXPECTED_CHAIN_ID").getD 84532
  else (parseChainIdEnv env "CHAIN_ID").getD 84532

/-- A number from a variable, with a default. -/
def getEnvU64 (env : Env) (key : String) (default : UInt64) : UInt64 :=
  ((env.var key).bind parseU64).getD default

/-- The settings of a verifier that starts. -/
def stateOf (env : Env) : AppState where
  maxBodySize := getMaxBodySize env
  expectedChainId := getExpectedChainId env
  signatureExpirySeconds := getEnvU64 env "SIGNATURE_EXPIRY_SECONDS" 300
  clockSkewSeconds := getEnvU64 env "SIGNATURE_CLOCK_SKEW_SECONDS" 60

/-! ### Variables -/

theorem mapM_id_eq_some {l : List (Option Char)} {s : List Char} :
  l.mapM id = some s ↔ l = s.map some
  := by
  induction l generalizing s with
  | nil =>
      rw [List.mapM_nil, eq_comm (a := []), List.map_eq_nil_iff]
      exact Option.some_inj.trans eq_comm
  | cons a l ih =>
      rw [List.mapM_cons]
      cases a with
      | none =>
          constructor
          · exact nofun
          · intro h
            obtain ⟨c, s, -, hc, -⟩ := List.map_eq_cons_iff.mp h.symm
            cases hc
      | some c =>
          have hrest : (do pure (c :: (← l.mapM id)) : Option (List Char)) = some s
              ↔ ∃ s', l = s'.map some ∧ c :: s' = s := by
            rw [Option.bind_eq_bind, Option.bind_eq_some_iff]
            apply exists_congr
            intro s'
            rw [ih]
            exact and_congr_right fun _ => Option.some_inj
          refine hrest.trans ?_
          constructor
          · rintro ⟨s', rfl, rfl⟩
            rfl
          · intro h
            obtain ⟨c', s', rfl, hc, hs⟩ := List.map_eq_cons_iff.mp h.symm
            obtain rfl := Option.some.inj hc
            exact ⟨s', hs.symm, rfl⟩

/-- The value of a variable is the text it is set to. -/
theorem var_eq_some {env : Env} {key : String} {s : List Char} :
  env.var key = some s ↔ env key = some (utf8 s)
  := by
  rw [Env.var, Option.bind_eq_some_iff]
  constructor
  · rintro ⟨value, hvalue, hs⟩
    rw [hvalue, eq_utf8_of_runes (mapM_id_eq_some.mp hs)]
  · intro h
    exact ⟨utf8 s, h, mapM_id_eq_some.mpr (runes_utf8 s)⟩

end Paygate.Verifier
