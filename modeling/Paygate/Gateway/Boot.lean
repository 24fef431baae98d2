import Mathlib.Logic.Function.Basic
import Paygate.Gateway.Startup

/-!
# The start of the gateway

What the gateway makes of its environment before it takes requests: the settings that have to be
there, the private key, the address of Redis and the recipient of payments are checked, the
recipient is rewritten to its canonical form, and the clients and stores that are configured are
made.  A gateway that has started would start again from the environment it left, with the same
settings.
-/

namespace Paygate.Gateway

open Text Json

/-! ### Where receipts are stored -/

/-- `unicode.IsSpace`. -/
def isSpace (c : Char) : Bool :=
  (0x9 ≤ c.toNat && c.toNat ≤ 0xD) || c.toNat = 0x20 || c.toNat = 0x85 || c.toNat = 0xA0
    || c.toNat = 0x1680 || (0x2000 ≤ c.toNat && c.toNat ≤ 0x200A) || c.toNat = 0x2028
    || c.toNat = 0x2029 || c.toNat = 0x202F || c.toNat = 0x205F || c.toNat = 0x3000

/-- A text without the spaces around it. -/
def trimSpace (s : List (Option Char)) : List (Option Char) :=
  let blank : Option Char → Bool := fun c => c.any isSpace
  ((s.dropWhile blank).reverse.dropWhile blank).reverse

/-- A character in lower case, as far as it is lowered to an ASCII character: besides the capital
letters these are `İ` and the Kelvin sign. -/
def lowerRune (c : Char) : Char :=
  if c.toNat = 0x130 then 'i' else if c.toNat = 0x212A then 'k' else c.toLower

/-- The name of the receipt store. -/
def getReceiptStoreMode (env : Env) : List (Option Char) :=
  let mode := (trimSpace (runes (env "RECEIPT_STORE"))).map fun c => c.map lowerRune
  if mode = [] then "redis".toList.map some else mode

/-- The receipt store of a name. -/
def receiptStoreOf (mode : List (Option Char)) : Option ReceiptStoreMode :=
  if mode = "redis".toList.map some then some .redis
  else if mode = "memory".toList.map some then some .memory
  else none

/-- Whether Redis is needed, for the cache or for the receipts. -/
def isRedisRequired (env : Env) : Bool :=
  getCacheEnabled env || receiptStoreOf (getReceiptStoreMode env) = some .redis

/-! ### The check of the settings -/

/-- What the packages of the gateway make of the texts of settings: whether a text is an address and
what its canonical form is, the host of a URL, and whether the Redis package reads a URL. -/
structure StartupPackages where
  isHexAddress : List UInt8 → Bool
  canonicalAddress : List UInt8 → List UInt8
  urlHost : List UInt8 → Option (List UInt8)
  readsRedisURL : List UInt8 → Bool

/-- Whether a character is a hexadecimal digit. -/
def isHexDigit (c : Char) : Bool :=
  c ∈ "0123456789abcdefABCDEF".toList

/-- `0x` and forty hexadecimal digits. -/
def IsAddress (text : List UInt8) : Prop :=
  ∃ digits : List Char, text = utf8 ('0' :: 'x' :: digits) ∧ digits.length = 40
    ∧ ∀ c ∈ digits, isHexDigit c = true

/-- The canonical form of an address is an address, and canonical. -/
structure StartupPackages.Lawful (pk : StartupPackages) : Prop where
  isAddress : ∀ raw, pk.isHexAddress raw = true → IsAddress (pk.canonicalAddress raw)
  isHexAddress : ∀ text, IsAddress text → pk.isHexAddress text = true
  canonical : ∀ raw, pk.isHexAddress raw = true →
    pk.canonicalAddress (pk.canonicalAddress raw) = pk.canonicalAddress raw

/-- Why the settings are refused. -/
inductive ConfigError where
  | receiptStore
  | missing (keys : List String)
  | privateKey (e : KeyError)
  | redisURL
  | recipientAddress
  deriving DecidableEq, Repr

/-- Whether the text names a host and a port. -/
def isHostPort (text : List UInt8) : Bool :=
  match text.splitOn 0x3A with
  | [host, port] => host ≠ [] && port ≠ []
  | _ => false

/-- Whether the text is a URL for Redis. -/
def hasRedisScheme (text : List UInt8) : Bool :=
  bytes "redis://" <+: text || bytes "rediss://" <+: text

/-- The settings that have to be there. -/
def requiredSettings (env : Env) : List String :=
  ["SERVER_WALLET_PRIVATE_KEY", "VERIFIER_URL"]
    ++ (if env "AI_PROVIDER" = [] ∨ env "AI_PROVIDER" = bytes "openrouter" then ["OPENROUTER_API_KEY"]
        else [])
    ++ (if isRedisRequired env then ["REDIS_URL"] else [])

/-- Check the name of the receipt store. -/
def validateReceiptStoreMode (env : Env) : Except ConfigError Unit :=
  match receiptStoreOf (getReceiptStoreMode env) with
  | some _ => .ok ()
  | none => .error .receiptStore

/-- Check that the settings are there that have to be. -/
def requireSettings (env : Env) : Except ConfigError Unit :=
  let missing := (requiredSettings env).filter fun key => env key = []
  if missing = [] then .ok () else .error (.missing missing)

section Boot

variable (pk : StartupPackages)

/-- Check the address of Redis. -/
def validateRedisURL (env : Env) : Except ConfigError Unit :=
  let redisURL := env "REDIS_URL"
  if redisURL = [] then .error .redisURL
  else if hasRedisScheme redisURL then
    if (pk.urlHost redisURL).any isHostPort then .ok () else .error .redisURL
  else if isHostPort redisURL then .ok ()
  else .error .redisURL

/-- Check the address of Redis if it is needed. -/
def validateRedis (env : Env) : Except ConfigError Unit :=
  if isRedisRequired env then validateRedisURL pk env else .ok ()

/-- Rewrite the recipient of payments to its canonical form. -/
def normalizeRecipientAddress (env : Env) : Except ConfigError Env :=
  let raw := env "RECIPIENT_ADDRESS"
  if raw = [] then .ok env
  else if pk.isHexAddress raw then
    .ok (Function.update env "RECIPIENT_ADDRESS" (pk.canonicalAddress raw))
  else .error .recipientAddress

/-- Check the settings. -/
def validateConfig (env : Env) : Except ConfigError Env := do
  validateReceiptStoreMode env
  requireSettings env
  (validateServerPrivateKey env).mapError .privateKey
  validateRedis pk env
  normalizeRecipientAddress pk env

/-! ### The start -/

/-- Why the gateway does not start. -/
inductive BootError where
  | config (e : ConfigError)
  | provider
  | redis
  | receiptStore
  deriving DecidableEq, Repr

/-- Make the provider. -/
def newProvider (env : Env) : Except BootError Unit :=
  if env "AI_PROVIDER" = [] ∨ env "AI_PROVIDER" = bytes "openrouter"
      ∨ env "AI_PROVIDER" = bytes "ollama" then .ok ()
  else .error .provider

/-- Connect to Redis if it is needed: whether there is a client. -/
def initRedis (env : Env) (ping : Bool) : Except BootError Bool :=
  if isRedisRequired env then
    if env "REDIS_URL" = [] ∨ (hasRedisScheme (env "REDIS_URL") = true
        ∧ pk.readsRedisURL (env "REDIS_URL") = false) ∨ ping = false then .error .redis
    else .ok true
  else .ok false

/-- Make the receipt store. -/
def initReceiptStore (env : Env) (redisClient : Bool) : Except BootError ReceiptStoreMode :=
  match receiptStoreOf (getReceiptStoreMode env) with
  | some .memory => .ok .memory
  | some .redis => if redisClient then .ok .redis else .error .receiptStore
  | none => .error .receiptStore

/-- What a gateway has started with. -/
structure Started where
  env : Env
  redisClient : Bool
  receiptStore : ReceiptStoreMode

/-- Start the gateway, where Redis answers or does not. -/
def boot (env : Env) (ping : Bool) : Except BootError Started := do
  let env ← (validateConfig pk env).mapError .config
  newProvider env
  let redisClient ← initRedis pk env ping
  let receiptStore ← initReceiptStore env redisClient
  pure { env := env, redisClient := redisClient, receiptStore := receiptStore }

/-- The settings the handlers share. -/
def Started.settings (t : Started) (crypto : Crypto) : Settings where
  env := t.env
  crypto := crypto
  redisClient := t.redisClient
  receiptStore := t.receiptStore

variable {pk} {env env' : Env} {ping : Bool} {t : Started}

/-! ### What a start says of the settings -/

theorem bind_eq_ok {ε α β : Type} {x : Except ε α} {f : α → Except ε β} {b : β} :
  x >>= f = .ok b ↔ ∃ a, x = .ok a ∧ f a = .ok b
  := by
  cases x with
  | error e =>
      constructor
      · exact nofun
      · rintro ⟨a, h, -⟩
        cases h
  | ok a =>
      constructor
      · exact fun h => ⟨a, rfl, h⟩
      · rintro ⟨a', h, hb⟩
        obtain rfl := Except.ok.inj h
        exact hb

theorem mapError_eq_ok {ε ε' α : Type} {x : Except ε α} {f : ε → ε'} {a : α} :
  x.mapError f = .ok a ↔ x = .ok a
  := by
  cases x with
  | error e => exact ⟨nofun, nofun⟩
  | ok a' => rw [Except.mapError, Except.ok.injEq, Except.ok.injEq]

/-- The settings are accepted if each check accepts them. -/
theorem validateConfig_eq_ok :
  validateConfig pk env = .ok env'
    ↔ validateReceiptStoreMode env = .ok () ∧ requireSettings env = .ok ()
      ∧ validateServerPrivateKey env = .ok () ∧ validateRedis pk env = .ok ()
      ∧ normalizeRecipientAddress pk env = .ok env'
  := by
  simp only [validateConfig, bind_eq_ok, mapError_eq_ok]
  constructor
  · rintro ⟨_, hstore, _, hrequired, _, hkey, _, hredis, hrecipient⟩
    exact ⟨hstore, hrequired, hkey, hredis, hrecipient⟩
  · rintro ⟨hstore, hrequired, hkey, hredis, hrecipient⟩
    exact ⟨(), hstore, (), hrequired, (), hkey, (), hredis, hrecipient⟩

/-- The gateway starts if each step of its start succeeds. -/
theorem boot_eq_ok :
  boot pk env ping = .ok t
    ↔ validateConfig pk env = .ok t.env ∧ newProvider t.env = .ok ()
      ∧ initRedis pk t.env ping = .ok t.redisClient
      ∧ initReceiptStore t.env t.redisClient = .ok t.receiptStore
  := by
  simp only [boot, bind_eq_ok, mapError_eq_ok]
  constructor
  · rintro ⟨env, hconfig, u, hprovider, client, hredis, store, hstore, h⟩
    obtain rfl := Except.ok.inj h
    exact ⟨hconfig, hprovider, hredis, hstore⟩
  · rintro ⟨hconfig, hprovider, hredis, hstore⟩
    exact ⟨t.env, hconfig, (), hprovider, t.redisClient, hredis, t.receiptStore, hstore, rfl⟩

/-- The environment is the same but for the recipient of payments. -/
def SameSettings (env env' : Env) : Prop :=
  ∀ key ≠ "RECIPIENT_ADDRESS", env' key = env key

/-- The recipient of payments is rewritten to its canonical form, and nothing else is. -/
theorem normalizeRecipientAddress_eq_ok (hpk : pk.Lawful)
    (h : normalizeRecipientAddress pk env = .ok env') :
  SameSettings env env'
    ∧ ( env' "RECIPIENT_ADDRESS" = [] ∨ IsAddress ( env' "RECIPIENT_ADDRESS"))
    ∧ normalizeRecipientAddress pk env' = .ok env'
  := by
  simp only [normalizeRecipientAddress] at h
  split at h
  · rename_i hunset
    obtain rfl := Except.ok.inj h
    refine ⟨fun _ _ => rfl, .inl hunset, ?_⟩
    simp only [normalizeRecipientAddress, hunset, if_true]
  · split at h
    · rename_i hset hhex
      obtain rfl := Except.ok.inj h
      have haddress := hpk.isAddress _ hhex
      have hne : pk.canonicalAddress (env "RECIPIENT_ADDRESS") ≠ [] := by
        obtain ⟨digits, htext, -⟩ := haddress
        rw [htext, utf8_cons, utf8EncodeChar_of_lt (by decide)]
        exact List.cons_ne_nil _ _
      refine ⟨fun key hkey => Function.update_of_ne hkey _ _, .inr ?_, ?_⟩
      · rw [Function.update_self]
        exact haddress
      · simp only [normalizeRecipientAddress, Function.update_self, hne, if_false,
          hpk.isHexAddress _ haddress, if_true, hpk.canonical _ hhex, Function.update_idem]
    · cases h

variable (pk) in
/-- The checks do not read the recipient of payments. -/
theorem SameSettings.checks (h : SameSettings env env') :
  validateReceiptStoreMode env' = validateReceiptStoreMode env
    ∧ requireSettings env' = requireSettings env
    ∧ validateServerPrivateKey env' = validateServerPrivateKey env
    ∧ validateRedis pk env' = validateRedis pk env
  := by
  have hstore : env' "RECEIPT_STORE" = env "RECEIPT_STORE" := h _ (by decide)
  have hcache : env' "CACHE_ENABLED" = env "CACHE_ENABLED" := h _ (by decide)
  have hprovider : env' "AI_PROVIDER" = env "AI_PROVIDER" := h _ (by decide)
  have hkey : env' "SERVER_WALLET_PRIVATE_KEY" = env "SERVER_WALLET_PRIVATE_KEY" := h _ (by decide)
  have hurl : env' "REDIS_URL" = env "REDIS_URL" := h _ (by decide)
  have hmode : getReceiptStoreMode env' = getReceiptStoreMode env := by
    rw [getReceiptStoreMode, getReceiptStoreMode, hstore]
  have hredis : isRedisRequired env' = isRedisRequired env := by
    rw [isRedisRequired, isRedisRequired, getCacheEnabled, getCacheEnabled, hcache, hmode]
  have hrequired : requiredSettings env' = requiredSettings env := by
    rw [requiredSettings, requiredSettings, hprovider, hredis]
  refine ⟨?_, ?_, ?_, ?_⟩
  · rw [validateReceiptStoreMode, validateReceiptStoreMode, hmode]
  · have hmissing : (requiredSettings env').filter (fun key => env' key = [])
        = (requiredSettings env).filter fun key => env key = [] := by
      rw [hrequired]
      apply List.filter_congr
      intro key hmem
      have hne : key ≠ "RECIPIENT_ADDRESS" := by
        rintro rfl
        revert hmem
        rw [requiredSettings]
        split
        · split
          · decide
          · decide
        · split
          · decide
          · decide
      rw [h key hne]
    rw [requireSettings, requireSettings, hmissing]
  · rw [validateServerPrivateKey, validateServerPrivateKey, hkey]
  · rw [validateRedis, validateRedis, hredis, validateRedisURL, validateRedisURL, hurl]

/-- A gateway that has started has a Redis client wherever one is used: for the cache, if it is on,
and for receipts that are kept in Redis. -/
theorem redisClient_of_boot (h : boot pk env ping = .ok t) :
  (getCacheEnabled t.env = true → t.redisClient = true)
    ∧ (t.receiptStore = .redis → t.redisClient = true)
  := by
  obtain ⟨-, -, hredis, hstore⟩ := boot_eq_ok.mp h
  have hclient : isRedisRequired t.env = true → t.redisClient = true := by
    intro hrequired
    rw [initRedis, if_pos hrequired] at hredis
    split at hredis
    · cases hredis
    · exact (Except.ok.inj hredis).symm
  constructor
  · intro hcache
    apply hclient
    rw [isRedisRequired, hcache, Bool.true_or]
  · intro hmode
    rw [hmode, initReceiptStore] at hstore
    split at hstore
    · cases hstore
    · split at hstore
      · assumption
      · cases hstore
    · cases hstore

/-- A gateway that has started made nothing of its environment but the canonical form of the
recipient of payments, has the clients its settings need, and from the environment it left would
start again, and with the same. -/
theorem boot_again (hpk : pk.Lawful) (h : boot pk env ping = .ok t) :
  SameSettings env t.env
    ∧ (t.env "RECIPIENT_ADDRESS" = [] ∨ IsAddress (t.env "RECIPIENT_ADDRESS"))
    ∧ (getCacheEnabled t.env = true → t.redisClient = true)
    ∧ (t.receiptStore = .redis → t.redisClient = true)
    ∧ boot pk t.env ping = .ok t
  := by
  obtain ⟨hconfig, hprovider, hredis, hstore⟩ := boot_eq_ok.mp h
  obtain ⟨hmode, hrequired, hkey, hurl, hrecipient⟩ := validateConfig_eq_ok.mp hconfig
  obtain ⟨hsame, haddress, hagain⟩ := normalizeRecipientAddress_eq_ok hpk hrecipient
  obtain ⟨hmode', hrequired', hkey', hurl'⟩ := hsame.checks pk
  obtain ⟨hcache, hreceipts⟩ := redisClient_of_boot h
  refine ⟨hsame, haddress, hcache, hreceipts, boot_eq_ok.mpr ⟨?_, hprovider, hredis, hstore⟩⟩
  apply validateConfig_eq_ok.mpr
  rw [hmode', hrequired', hkey', hurl']
  exact ⟨hmode, hrequired, hkey, hurl, hagain⟩

end Boot

/-! ### A sample -/

/-- The canonical form of the default recipient of payments. -/
def defaultRecipient : String := "0x2cAF48b4BA1C58721a85dFADa5aC01C2DFa62219"

/-- Packages that know the canonical form of the default recipient, and take other addresses in lower
case for canonical. -/
def samplePackages : StartupPackages where
  isHexAddress text :=
    (latin1 text).length = 42 && (latin1 text).take 2 = "0x".toList
      && ((latin1 text).drop 2).all isHexDigit
  canonicalAddress text :=
    if ((latin1 text).drop 2).map Char.toLower = (defaultRecipient.toList.drop 2).map Char.toLower then
      bytes defaultRecipient
    else utf8 ('0' :: 'x' :: ((latin1 text).drop 2).map Char.toLower)
  urlHost _ := none
  readsRedisURL _ := false

theorem lawful_samplePackages : samplePackages.Lawful
  := by
  have hlower : ∀ c, isHexDigit c = true → isHexDigit c.toLower = true
      ∧ c.toLower.toLower = c.toLower ∧ c.toLower.toNat < 128 := by
    intro c hc
    have hall : ∀ c ∈ "0123456789abcdefABCDEF".toList, isHexDigit c.toLower = true
        ∧ c.toLower.toLower = c.toLower ∧ c.toLower.toNat < 128 := by
      decide
    exact hall c (of_decide_eq_true hc)
  have hascii : ∀ c, isHexDigit c = true → c.toNat < 128 := by
    intro c hc
    have hall : ∀ c ∈ "0123456789abcdefABCDEF".toList, c.toNat < 128 := by decide
    exact hall c (of_decide_eq_true hc)
  have hread : ∀ digits : List Char, (∀ c ∈ digits, isHexDigit c = true) →
      latin1 (utf8 ('0' :: 'x' :: digits)) = '0' :: 'x' :: digits := by
    intro digits hdigits
    apply latin1_utf8
    simp only [List.forall_mem_cons]
    exact ⟨by decide, by decide, fun c hc => hascii c (hdigits c hc)⟩
  constructor
  · intro raw hraw
    simp only [samplePackages, Bool.and_eq_true, decide_eq_true_eq, List.all_eq_true] at hraw ⊢
    split
    · exact ⟨_, rfl, by decide, by decide⟩
    · refine ⟨_, rfl, ?_, ?_⟩
      · rw [List.length_map, List.length_drop, hraw.1.1]
      · intro c hc
        obtain ⟨c', hc', rfl⟩ := List.mem_map.mp hc
        exact (hlower c' (hraw.2 c' hc')).1
  · rintro text ⟨digits, rfl, hlength, hdigits⟩
    simp only [samplePackages, hread digits hdigits, List.length_cons, hlength, List.take_succ_cons,
      List.take_zero, List.drop_succ_cons, List.drop_zero]
    exact List.all_eq_true.mpr hdigits
  · intro raw hraw
    simp only [samplePackages, Bool.and_eq_true, decide_eq_true_eq, List.all_eq_true] at hraw ⊢
    split
    · decide
    · rename_i hother
      have hdigits : ∀ c ∈ ((latin1 raw).drop 2).map Char.toLower, isHexDigit c = true := by
        intro c hc
        obtain ⟨c', hc', rfl⟩ := List.mem_map.mp hc
        exact (hlower c' (hraw.2 c' hc')).1
      have htwice : (((latin1 raw).drop 2).map Char.toLower).map Char.toLower
          = ((latin1 raw).drop 2).map Char.toLower := by
        rw [List.map_map]
        apply List.map_congr_left
        intro c hc
        exact (hlower c (hraw.2 c hc)).2.1
      simp only [hread _ hdigits, List.drop_succ_cons, List.drop_zero, htwice, if_neg hother]

/-- An environment with a cache, receipts in memory, and a recipient in lower case. -/
def startupEnv : Env := fun key =>
  if key = "SERVER_WALLET_PRIVATE_KEY" then List.replicate 64 0x31
  else if key = "VERIFIER_URL" then bytes "http://127.0.0.1:3002"
  else if key = "OPENROUTER_API_KEY" then bytes "key"
  else if key = "CACHE_ENABLED" then bytes "TRUE"
  else if key = "RECEIPT_STORE" then bytes " Memory"
  else if key = "REDIS_URL" then bytes "localhost:6379"
  else if key = "RECIPIENT_ADDRESS" then bytes "0x2caf48b4ba1c58721a85dfada5ac01c2dfa62219"
  else []

/-- What the gateway starts with there. -/
def sampleStarted : Started where
  env := Function.update startupEnv "RECIPIENT_ADDRESS" (bytes defaultRecipient)
  redisClient := true
  receiptStore := .memory

theorem boot_sample : boot samplePackages startupEnv true = .ok sampleStarted
  := by
  apply boot_eq_ok.mpr
  exact ⟨validateConfig_eq_ok.mpr ⟨rfl, rfl, rfl, rfl, rfl⟩, rfl, rfl, rfl⟩

/-- The gateway starts again from what it left. -/
theorem boot_again_sample :
  sampleStarted.env "RECIPIENT_ADDRESS" ≠ startupEnv "RECIPIENT_ADDRESS"
    ∧ sampleStarted.redisClient = true
    ∧ boot samplePackages sampleStarted.env true = .ok sampleStarted
  := by
  obtain ⟨-, -, hcache, -, hagain⟩ := boot_again lawful_samplePackages boot_sample
  exact ⟨by decide, hcache rfl, hagain⟩

end Paygate.Gateway
