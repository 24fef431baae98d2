import Paygate.Base.Decimal
import Paygate.Gateway.Boot
import Paygate.Protocol.Verdicts
import Paygate.Verifier.Settings

/-!
# Services that start with shared settings

The gateway and the verifier read the chain of payments from their environments, each with the
number parser of its own language.  The two readings are compared on every text, and so are the
checks the gateway makes when it starts with what an honest call needs.
-/

namespace Paygate

open Text Json

/-! ### The chain -/

/-- `Atoi` gives the number of a text in the range of a machine integer. -/
theorem atoi_eq (s : List UInt8) :
  Gateway.atoi s
    = (signedNumber (latin1 s)).filter fun n => -(2 ^ 63) ≤ n ∧ n < 2 ^ 63
  := by
  rw [Gateway.atoi, signedNumber]
  generalize Nat.ofDigitChars 10 (parseSign ['+', '-'] (latin1 s)).2 0 = n
  split
  · rw [Option.filter_some]
    split
    · by_cases hn : n ≤ 2 ^ 63
      · rw [if_pos hn, if_pos]
        simp only [decide_eq_true_eq]
        omega
      · rw [if_neg hn, if_neg]
        simp only [decide_eq_true_eq]
        omega
    · by_cases hn : n < 2 ^ 63
      · rw [if_pos hn, if_pos]
        simp only [decide_eq_true_eq]
        omega
      · rw [if_neg hn, if_neg]
        simp only [decide_eq_true_eq]
        omega
  · rfl

/-- A positive number that is parsed is the number of the text, if it fits. -/
theorem parseU64_eq (s : List Char) :
  ((Verifier.parseU64 s).filter (0 < ·)).map (fun n => (n.toNat : Int))
    = (signedNumber s).filter fun n => 0 < n ∧ n < 2 ^ 64
  := by
  have hunsigned : ∀ digits : List Char,
      ((if digits ≠ [] ∧ digits.all Char.isDigit ∧ Nat.ofDigitChars 10 digits 0 < 2 ^ 64 then
          some (UInt64.ofNat (Nat.ofDigitChars 10 digits 0)) else none).filter (0 < ·)).map
            (fun n => (n.toNat : Int))
        = (if digits ≠ [] ∧ digits.all Char.isDigit then
          some (Nat.ofDigitChars 10 digits 0 : Int) else none).filter
            fun n => 0 < n ∧ n < 2 ^ 64 := by
    intro digits
    generalize Nat.ofDigitChars 10 digits 0 = n
    by_cases hdigits : digits ≠ [] ∧ digits.all Char.isDigit
    · rw [if_pos hdigits, Option.filter_some]
      by_cases hn : n < 2 ^ 64
      · have hvalue : (UInt64.ofNat n).toNat = n := UInt64.toNat_ofNat_of_lt' hn
        have hpositive : 0 < UInt64.ofNat n ↔ 0 < n := by
          rw [UInt64.lt_iff_toNat_lt, hvalue]
          rfl
        rw [if_pos ⟨hdigits.1, hdigits.2, hn⟩, Option.filter_some]
        simp only [hpositive, decide_eq_true_eq]
        by_cases hpos : 0 < n
        · rw [if_pos hpos, if_pos (by omega), Option.map_some, hvalue]
        · rw [if_neg hpos, if_neg (by omega)]
          rfl
      · rw [if_neg fun h => hn h.2.2, if_neg]
        · rfl
        · simp only [decide_eq_true_eq]
          omega
    · rw [if_neg hdigits, if_neg fun h => hdigits ⟨h.1, h.2.1⟩]
      rfl
  rw [Verifier.parseU64, signedNumber]
  cases s with
  | nil => rfl
  | cons c s =>
      by_cases hplus : c = '+'
      · subst hplus
        exact hunsigned s
      · by_cases hminus : c = '-'
        · subst hminus
          have hno : ¬ ('-' :: s ≠ [] ∧ ('-' :: s).all Char.isDigit
              ∧ Nat.ofDigitChars 10 ('-' :: s) 0 < 2 ^ 64) := by
            rintro ⟨-, hall, -⟩
            exact absurd (List.all_eq_true.mp hall '-' List.mem_cons_self) (by decide)
          have hsign : parseSign ['+'] ('-' :: s) = ([], '-' :: s) := rfl
          have hsign' : parseSign ['+', '-'] ('-' :: s) = (['-'], s) := rfl
          simp only [hsign, hsign', if_neg hno, if_true]
          split
          · rw [Option.filter_some, if_neg]
            · rfl
            · simp only [decide_eq_true_eq]
              omega
          · rfl
        · have hsign : parseSign ['+'] (c :: s) = ([], c :: s) := if_neg (by simpa using hplus)
          have hsign' : parseSign ['+', '-'] (c :: s) = ([], c :: s) := if_neg (by simp [hplus, hminus])
          simp only [hsign, hsign']
          exact hunsigned (c :: s)

/-- The chain of the gateway. -/
theorem getChainID_eq (env : Gateway.Env) :
  Gateway.getChainID env
    = ((signedNumber (latin1 (env "CHAIN_ID"))).filter
        fun n => -(2 ^ 63) ≤ n ∧ n < 2 ^ 63).getD 84532
  := by
  rw [← atoi_eq, Gateway.getChainID]
  split
  · rename_i hunset
    rw [hunset]
    rfl
  · rfl

/-- The variable the verifier reads the chain from. -/
def chainVariable (env : Verifier.Env) : String :=
  if (env.var "EXPECTED_CHAIN_ID").isSome then "EXPECTED_CHAIN_ID" else "CHAIN_ID"

/-- The chain the verifier expects. -/
theorem getExpectedChainId_eq (env : Verifier.Env) :
  ((Verifier.getExpectedChainId env).toNat : Int)
    = ((signedNumber (latin1 ((env (chainVariable env)).getD []))).filter
        fun n => 0 < n ∧ n < 2 ^ 64).getD 84532
  := by
  have hparsed : ((Verifier.parseChainIdEnv env (chainVariable env)).map
        fun n => (n.toNat : Int))
      = (signedNumber (latin1 ((env (chainVariable env)).getD []))).filter
        fun n => 0 < n ∧ n < 2 ^ 64 := by
    rw [Verifier.parseChainIdEnv]
    cases hvar : env.var (chainVariable env) with
    | none =>
        -- A value that is not set, or is not Unicode, is no number.
        rw [Option.bind_none, Option.filter_none, Option.map_none]
        cases hvalue : env (chainVariable env) with
        | none => rfl
        | some value =>
            rw [Option.getD_some]
            cases hnumber : signedNumber (latin1 value) with
            | none => rfl
            | some n =>
                rw [eq_utf8_of_signedNumber hnumber] at hvalue
                rw [Verifier.var_eq_some.mpr hvalue] at hvar
                cases hvar
    | some s =>
        rw [Verifier.var_eq_some.mp hvar, Option.bind_some, parseU64_eq, Option.getD_some,
          signedNumber_latin1_utf8]
  have hexpected : Verifier.getExpectedChainId env
      = (Verifier.parseChainIdEnv env (chainVariable env)).getD 84532 := by
    rw [Verifier.getExpectedChainId, chainVariable]
    split
    · rfl
    · rfl
  rw [hexpected, ← hparsed]
  cases Verifier.parseChainIdEnv env (chainVariable env) with
  | none => rfl
  | some n => rfl

/-- The number the chain is set to, if it is a number, is positive and fits both services, or fits
none of them. -/
def ChainFits (text : List UInt8) : Prop :=
  ∀ n, signedNumber (latin1 text) = some n → 0 < n ∧ n < 2 ^ 63 ∨ n < -(2 ^ 63) ∨ 2 ^ 64 ≤ n

/-- Services that read one text for the chain read the same chain exactly if the text fits. -/
theorem getChainID_eq_iff {env : Gateway.Env} {venv : Verifier.Env}
    (hshared : (venv (chainVariable venv)).getD [] = env "CHAIN_ID") :
  Gateway.getChainID env = (Verifier.getExpectedChainId venv).toNat ↔ ChainFits (env "CHAIN_ID")
  := by
  rw [getChainID_eq, getExpectedChainId_eq, hshared, ChainFits]
  cases signedNumber (latin1 (env "CHAIN_ID")) with
  | none => simp
  | some n =>
      simp only [Option.filter_some, decide_eq_true_eq, Option.some.injEq, forall_eq']
      split
      · split
        · simp only [Option.getD_some, true_iff]
          omega
        · simp only [Option.getD_some, Option.getD_none]
          omega
      · split
        · simp only [Option.getD_some, Option.getD_none]
          omega
        · simp only [Option.getD_none, true_iff]
          omega

/-- The setting of the chain decides about every payment: if it fits, no payment is refused for its
chain, whatever is signed and whenever; if it does not, every payment is, or cannot be read. -/
theorem chain_setting_decides {d : Deployment} {venv : Verifier.Env}
    (hstate : d.state = Verifier.stateOf venv)
    (hshared : (venv (chainVariable venv)).getD [] = d.settings.env "CHAIN_ID") :
  (ChainFits (d.settings.env "CHAIN_ID") → ∀ x store signature nonce timestamp,
      d.verdict x store (Gateway.verifyRequest d.settings.env signature nonce timestamp)
        ≠ .wrongChain)
    ∧ (¬ ChainFits (d.settings.env "CHAIN_ID") → ∀ x store signature nonce timestamp,
      d.verdict x store (Gateway.verifyRequest d.settings.env signature nonce timestamp)
        = .wrongChain
      ∨ d.verdict x store (Gateway.verifyRequest d.settings.env signature nonce timestamp)
        = .unreadable)
  := by
  have hexpected : d.state.expectedChainId = Verifier.getExpectedChainId venv := by
    rw [hstate]
    rfl
  have hchain : ∀ signature nonce timestamp,
      (Gateway.verifyRequest d.settings.env signature nonce timestamp).context.chainId
        = d.state.expectedChainId.toNat ↔ ChainFits (d.settings.env "CHAIN_ID") := by
    intro signature nonce timestamp
    rw [hexpected]
    exact getChainID_eq_iff hshared
  constructor
  · intro hfits x store signature nonce timestamp
    have hsame := (hchain signature nonce timestamp).mpr hfits
    rw [Deployment.verdict]
    split
    · exact Verdict.noConfusion
    · rw [if_neg (not_not.mpr hsame)]
      split
      · exact Verdict.noConfusion
      · rw [Deployment.signedVerdict]
        split
        · exact Verdict.noConfusion
        · split
          · exact Verdict.noConfusion
          · split
            · exact Verdict.noConfusion
            · exact Verdict.noConfusion
  · intro hmisfits x store signature nonce timestamp
    have hother := mt (hchain signature nonce timestamp).mp hmisfits
    rw [Deployment.verdict]
    split
    · exact .inr rfl
    · exact .inl rfl

/-! ### The recipient -/

/-- The characters of an address are written as they are. -/
theorem forall_mem_address {digits : List Char} (h : ∀ c ∈ digits, Gateway.isHexDigit c = true) :
  ∀ c ∈ '0' :: 'x' :: digits,
    GoJson.named c = false ∧ escapeChar GoJson.named c = [c] ∧ c.toNat < 128
  := by
  have hall : ∀ c ∈ "0x123456789abcdefABCDEF".toList,
      GoJson.named c = false ∧ escapeChar GoJson.named c = [c] ∧ c.toNat < 128 := by decide
  have hdigit : ∀ c ∈ "0123456789abcdefABCDEF".toList, c ∈ "0x123456789abcdefABCDEF".toList := by
    decide
  refine List.forall_mem_cons.mpr ⟨hall _ (by decide), List.forall_mem_cons.mpr ⟨hall _ (by decide), ?_⟩⟩
  intro c hc
  exact hall c (hdigit c (of_decide_eq_true (h c hc)))

/-- An address is a plain text. -/
theorem isPlainText_of_isAddress {text : List UInt8} (h : Gateway.IsAddress text) : IsPlainText text
  := by
  obtain ⟨digits, rfl, -, hdigits⟩ := h
  apply isPlainText_utf8 (List.cons_ne_nil _ _)
  exact fun c hc => (forall_mem_address hdigits c hc).1

/-- An address takes forty-four bytes as a literal. -/
theorem length_marshal_address {text : List UInt8} (h : Gateway.IsAddress text) :
  (GoJson.marshal (.str text)).length = 44
  := by
  obtain ⟨digits, rfl, hlength, hdigits⟩ := h
  rw [length_marshal_str fun c hc => (forall_mem_address hdigits c hc).2, List.length_cons,
    List.length_cons, hlength]

/-- The recipient of a gateway that has started is an address. -/
theorem isAddress_getRecipientAddress {env : Gateway.Env}
    (h : env "RECIPIENT_ADDRESS" = [] ∨ Gateway.IsAddress (env "RECIPIENT_ADDRESS")) :
  Gateway.IsAddress (Gateway.getRecipientAddress env)
  := by
  rw [Gateway.getRecipientAddress]
  split
  · exact ⟨"2cAF48b4BA1C58721a85dFADa5aC01C2DFa62219".toList, rfl, by decide, by decide⟩
  · rename_i hset
    exact h.resolve_left hset

/-! ### An honest call -/

/-- What a start does not see to, of what an honest call asks of the settings: the key is in the
range of the curve, receipts are kept for a while, the chain is one that both services and JavaScript
read, the amount is a plain text, and the verifier has room for the amount and the chain. -/
structure LeftToOperator (env : Gateway.Env) (venv : Verifier.Env) : Prop where
  key : ∀ keyBytes, Gateway.HexText (env "SERVER_WALLET_PRIVATE_KEY") keyBytes →
    0 < Gateway.ofBigEndian keyBytes ∧ Gateway.ofBigEndian keyBytes < Gateway.secp256k1N
  keeps : 0 < Gateway.getReceiptTTL env
  chain : ∀ n, signedNumber (latin1 (env "CHAIN_ID")) = some n →
    0 < n ∧ n < 2 ^ 53 ∨ n < -(2 ^ 63) ∨ 2 ^ 64 ≤ n
  amount : IsPlainText (Gateway.getPaymentAmount env)
  room : 329 + (GoJson.marshal (.str (Gateway.getPaymentAmount env))).length
    + (decimalInt (Gateway.getChainID env)).length ≤ Verifier.getMaxBodySize venv

/-- The chain is one that both services and JavaScript read, exactly if its setting is. -/
theorem chain_iff {env : Gateway.Env} {venv : Verifier.Env}
    (hshared : (venv (chainVariable venv)).getD [] = env "CHAIN_ID") :
  ((0 < Gateway.getChainID env ∧ Gateway.getChainID env < 2 ^ 53)
      ∧ Gateway.getChainID env = (Verifier.getExpectedChainId venv).toNat)
    ↔ ∀ n, signedNumber (latin1 (env "CHAIN_ID")) = some n →
      0 < n ∧ n < 2 ^ 53 ∨ n < -(2 ^ 63) ∨ 2 ^ 64 ≤ n
  := by
  rw [getChainID_eq_iff hshared, getChainID_eq, ChainFits]
  cases signedNumber (latin1 (env "CHAIN_ID")) with
  | none => simp
  | some n =>
      simp only [Option.filter_some, decide_eq_true_eq, Option.some.injEq, forall_eq']
      split
      · simp only [Option.getD_some]
        omega
      · simp only [Option.getD_none]
        omega

/-- What is left to the operator does not depend on the recipient of payments. -/
theorem leftToOperator_of_same {env env' : Gateway.Env} (h : Gateway.SameSettings env env')
    (venv : Verifier.Env) :
  LeftToOperator env' venv ↔ LeftToOperator env venv
  := by
  have hkey : env' "SERVER_WALLET_PRIVATE_KEY" = env "SERVER_WALLET_PRIVATE_KEY" := h _ (by decide)
  have hchain : env' "CHAIN_ID" = env "CHAIN_ID" := h _ (by decide)
  have hamount : Gateway.getPaymentAmount env' = Gateway.getPaymentAmount env := by
    rw [Gateway.getPaymentAmount, Gateway.getPaymentAmount, h "PAYMENT_AMOUNT" (by decide)]
  have hkeeps : Gateway.getReceiptTTL env' = Gateway.getReceiptTTL env := by
    rw [Gateway.getReceiptTTL_eq, Gateway.getReceiptTTL_eq, Gateway.getPositiveTimeout_eq,
      Gateway.getPositiveTimeout_eq, h "RECEIPT_TTL" (by decide)]
  have hid : Gateway.getChainID env' = Gateway.getChainID env := by
    rw [getChainID_eq, getChainID_eq, hchain]
  constructor
  · rintro ⟨hk, hr, hc, ha, hroom⟩
    exact ⟨hkey ▸ hk, hkeeps ▸ hr, hchain ▸ hc, hamount ▸ ha, hid ▸ hamount ▸ hroom⟩
  · rintro ⟨hk, hr, hc, ha, hroom⟩
    exact ⟨hkey ▸ hk, hkeeps ▸ hr, hchain ▸ hc, hamount ▸ ha, hid ▸ hamount ▸ hroom⟩

/-- A gateway that has started, next to a verifier that reads the same chain, is configured as an
honest call asks exactly if what the start does not see to is in order. -/
theorem ready_iff_leftToOperator {d : Deployment} {eth : Sdk.Ethers} {w : Wallet}
    {pk : Gateway.StartupPackages} {env : Gateway.Env} {ping : Bool} {t : Gateway.Started}
    {venv : Verifier.Env} (hpk : pk.Lawful) (hboot : Gateway.boot pk env ping = .ok t)
    (henv : d.settings.env = t.env) (hstate : d.state = Verifier.stateOf venv)
    (hshared : (venv (chainVariable venv)).getD [] = env "CHAIN_ID")
    (hscalars : Gateway.AcceptsScalars d.settings.crypto)
    (hsigns : ∀ key hash, ∃ sig, d.settings.crypto.sign hash key = .ok sig)
    (hwallet : w.Agrees d.eth) (hagree : Agree d.settings.crypto eth) :
  (∃ key trusted, Configured d eth w key trusted) ↔ LeftToOperator env venv
  := by
  obtain ⟨hsame, haddress, -⟩ := Gateway.boot_again hpk hboot
  obtain ⟨-, -, hvalid, -⟩ := Gateway.validateConfig_eq_ok.mp (Gateway.boot_eq_ok.mp hboot).1
  obtain ⟨keyBytes, htext, hmin, hmax⟩ := Gateway.validateServerPrivateKey_ok_iff.mp hvalid
  rw [← leftToOperator_of_same hsame venv]
  have hsecret : t.env "SERVER_WALLET_PRIVATE_KEY" = env "SERVER_WALLET_PRIVATE_KEY" :=
    hsame _ (by decide)
  have hchainText : t.env "CHAIN_ID" = env "CHAIN_ID" := hsame _ (by decide)
  rw [← hsecret] at htext
  rw [← hchainText] at hshared
  have hloads := Gateway.getServerPrivateKey_ok_iff hscalars htext hmin hmax
  have hchain := chain_iff hshared
  have hexpected : (Verifier.getExpectedChainId venv).toNat = d.state.expectedChainId.toNat := by
    rw [hstate]
    rfl
  rw [hexpected] at hchain
  have hroom := d.reads_iff w
  have hsize : d.state.maxBodySize = Verifier.getMaxBodySize venv := by
    rw [hstate]
    rfl
  rw [← henv] at htext hloads hchain haddress ⊢
  have hrecipient := isAddress_getRecipientAddress haddress
  rw [length_marshal_address hrecipient, hsize] at hroom
  constructor
  · rintro ⟨key, trusted, hconf⟩
    exact {
      key := fun keyBytes' htext' => by
        obtain rfl := Option.some.inj (htext.symm.trans htext')
        exact hloads.mp ⟨key, hconf.issues.loads⟩
      keeps := hconf.issues.keeps
      chain := hchain.mp ⟨hconf.chain, hconf.expected⟩
      amount := hconf.amount
      room := hroom.mp hconf.reads }
  · intro hleft
    obtain ⟨key, hkey⟩ := hloads.mpr (hleft.key keyBytes htext)
    obtain ⟨hrange, hexpects⟩ := hchain.mpr hleft.chain
    exact ⟨key, Sdk.hexlify (d.settings.crypto.publicKeyBytes key).toList, {
      wallet := hwallet
      packages := hagree
      issues := ⟨hkey, hsigns key, hleft.keeps⟩
      trusts := ⟨List.cons_ne_nil _ _, hagree.publicKey key⟩
      chain := hrange
      expected := hexpects
      recipient := isPlainText_of_isAddress hrecipient
      amount := hleft.amount
      reads := hroom.mpr hleft.room }⟩

/-! ### Samples -/

/-- Services whose chain is set to zero. -/
def zeroChainDeployment : Deployment :=
  { honestDeployment with
    settings := { honestDeployment.settings with
      env := Gateway.singleEnv "CHAIN_ID" (bytes "0") }
    state := Verifier.stateOf fun key => if key = "CHAIN_ID" then some (bytes "0") else none }

/-- With the chain set to zero no payment is granted: the gateway takes it for the chain, and the
verifier expects the default. -/
theorem chain_setting_decides_sample :
  zeroChainDeployment.verdict honestSurroundings replayedStore
      (Gateway.verifyRequest (Gateway.singleEnv "CHAIN_ID" (bytes "0")) (bytes "0x00") (bytes "n") 0)
    = .wrongChain
  := by
  have hshared : (((fun key => if key = "CHAIN_ID" then some (bytes "0") else none : Verifier.Env)
      (chainVariable fun key => if key = "CHAIN_ID" then some (bytes "0") else none)).getD [])
        = zeroChainDeployment.settings.env "CHAIN_ID" := by
    decide
  have hmisfits : ¬ ChainFits (zeroChainDeployment.settings.env "CHAIN_ID") := by
    intro hfits
    have hzero := hfits 0 (by decide +kernel)
    omega
  have hrefused := (chain_setting_decides (d := zeroChainDeployment) rfl hshared).2 hmisfits
    honestSurroundings replayedStore (bytes "0x00") (bytes "n") 0
  apply hrefused.resolve_right
  decide +kernel

/-- A signature scheme with one key, which is loaded from any number in the range of the curve. -/
def startupCrypto : Gateway.Crypto :=
  { sampleCrypto with
    toECDSA := fun bs =>
      if bs.length = 32 ∧ 0 < Gateway.ofBigEndian bs ∧ Gateway.ofBigEndian bs < Gateway.secp256k1N then
        .ok ()
      else .error "invalid private key" }

/-- The services that start from the sample environment. -/
def startedDeployment : Deployment where
  settings := Gateway.sampleStarted.settings startupCrypto
  eth := honestEthers
  state := Verifier.stateOf fun _ => none
  display _ := ""

/-- The sample services are ready for honest calls. -/
theorem ready_iff_leftToOperator_sample :
  ∃ key trusted, Configured startedDeployment sampleEthers parityWallet key trusted
  := by
  have hscalars : Gateway.AcceptsScalars startupCrypto := by
    intro bs
    simp only [startupCrypto]
    split
    · rename_i h
      exact iff_of_true ⟨_, rfl⟩ h
    · rename_i h
      exact iff_of_false (fun ⟨key, hkey⟩ => nomatch hkey) h
  have hamount : IsPlainText (bytes "0.001") :=
    isPlainText_utf8 (by decide) (by unfold JsJson.IsPlain; decide)
  have hshared : ((fun _ => none : Verifier.Env) (chainVariable fun _ => none)).getD []
      = Gateway.startupEnv "CHAIN_ID" := by
    decide
  have hleft : LeftToOperator Gateway.startupEnv fun _ => none := {
    key := by
      intro keyBytes htext
      have hbytes : Gateway.HexText (Gateway.startupEnv "SERVER_WALLET_PRIVATE_KEY")
          (List.replicate 32 0x11) := by
        rfl
      obtain rfl := Option.some.inj (htext.symm.trans hbytes)
      decide
    keeps := by decide
    chain := by
      intro n hn
      cases hn
    amount := hamount
    room := by decide }
  apply (ready_iff_leftToOperator (d := startedDeployment) Gateway.lawful_samplePackages
    Gateway.boot_sample rfl rfl hshared hscalars (fun _ _ => ⟨_, rfl⟩) ⟨agrees_sample.digest, agrees_sample.recover⟩
    ⟨agree_sample.keccak256, agree_sample.publicKey, agree_sample.recover⟩).mpr
  exact hleft

end Paygate
