import Paygate.Base.Machine
import Paygate.Verifier.Memory

/-!
# The Redis nonce store

Verifier replicas that share one Redis.  A request that passes the checks of a replica
waits for a connection, then for its `SET NX EX` to execute, then for the answer; each
of the two waits has the configured timeout.  Time passes between any two of these steps
and the requests of all replicas interleave.

Redis keeps a key for exactly the retention time after the `SET`.  If every `SET` executes
while the timestamp of its request is still fresh, the key of an accepted nonce outlives
the timestamp, and no two positive answers carry the same nonce and timestamp.  A `SET`
that executes after the timestamp has gone stale may find the key expired.
-/

namespace Paygate.Verifier

/-! ### Redis -/

/-- The settings of the Redis nonce store. -/
structure RedisNonceStore where
  keyPrefix : String
  timeout : Nat
  deriving DecidableEq, Repr

/-- The key under which a nonce is stored. -/
def redisNonceKey (eth : Ethers) (keyPrefix nonce : String) : String :=
  keyPrefix ++ String.ofList (hexEncode (nonceKey eth nonce).toList)

/-- The keys of the Redis, each with the time at which it expires. -/
abbrev Keyspace := AList fun _ : String => Nat

/-- Set the key for a number of seconds unless it is there and has not expired. -/
def setNxEx (keys : Keyspace) (key : String) (now ttlSeconds : Nat) : Bool × Keyspace :=
  match keys.lookup key with
  | some expiresAt =>
      if now < expiresAt then (false, keys)
      else (true, keys.insert key (now + ttlSeconds * nanosPerSecond))
  | none => (true, keys.insert key (now + ttlSeconds * nanosPerSecond))

/-- The expiry in seconds a claim asks for. -/
def redisTtlSeconds (state : AppState) : Nat :=
  max (nonceRetentionTtl state / nanosPerSecond) 1

/-- The expiry in seconds is the whole retention time. -/
theorem redisTtlSeconds_mul (state : AppState) :
  redisTtlSeconds state * nanosPerSecond = nonceRetentionTtl state
  := by
  unfold redisTtlSeconds nonceRetentionTtl durationFromSecs
  have hone : (1 : UInt64).toNat = 1 := rfl
  have hpos : 1 ≤ ((state.signatureExpirySeconds.saturatingAdd
      state.clockSkewSeconds).saturatingAdd 1).toNat := by
    rw [UInt64.toNat_saturatingAdd, hone]
    omega
  rw [Nat.mul_div_cancel _ (by decide), max_eq_left hpos]

/-- A `SET` that is executed leaves the key until its expiry. -/
theorem lookup_of_setNxEx {keys : Keyspace} {key : String} {now ttlSeconds : Nat}
    (h : (setNxEx keys key now ttlSeconds).1 = true) :
  (setNxEx keys key now ttlSeconds).2.lookup key = some (now + ttlSeconds * nanosPerSecond)
  := by
  unfold setNxEx at h ⊢
  split
  · split
    · simp_all
    · apply AList.lookup_insert
  · apply AList.lookup_insert

/-- A `SET` is executed only if the key has expired. -/
theorem le_of_setNxEx {keys : Keyspace} {key : String} {now ttlSeconds expiresAt : Nat}
    (h : (setNxEx keys key now ttlSeconds).1 = true) (hkey : keys.lookup key = some expiresAt) :
  expiresAt ≤ now
  := by
  by_contra hlt
  simp only [setNxEx, hkey, not_le.mp hlt, if_true] at h
  cases h

/-- A `SET` shortens the life of no key. -/
theorem exists_lookup_setNxEx {keys : Keyspace} {key key' : String} {now ttlSeconds expiresAt : Nat}
    (hkey : keys.lookup key' = some expiresAt) :
  ∃ e, (setNxEx keys key now ttlSeconds).2.lookup key' = some e ∧ expiresAt ≤ e
  := by
  have hkept : ∃ e, keys.lookup key' = some e ∧ expiresAt ≤ e := ⟨expiresAt, hkey, le_rfl⟩
  cases hset : (setNxEx keys key now ttlSeconds).1 with
  | true =>
      by_cases heq : key' = key
      · subst heq
        use now + ttlSeconds * nanosPerSecond, lookup_of_setNxEx hset
        have := le_of_setNxEx hset hkey
        omega
      · unfold setNxEx
        split
        · split
          · exact hkept
          · rwa [AList.lookup_insert_ne heq]
        · rwa [AList.lookup_insert_ne heq]
  | false =>
      unfold setNxEx at hset ⊢
      split
      · split
        · exact hkept
        · simp_all
      · simp_all

/-! ### Requests in flight -/

/-- A request some replica has received: the address recovered if it reached the claim,
the times at which its timestamp was checked and its connection acquired, the result of
its `SET` with the time at which it executed, and the answer given. -/
structure Flight where
  payload : Except JsonRejection VerifyRequest
  cid : String
  addr : Option Address
  checkedAt : Nat
  connectedAt : Option Nat
  claim : Option (Bool × Nat)
  reply : Option Reply

/-- The nonce and the timestamp a request carries. -/
def Flight.token (f : Flight) : Option (String × Option UInt64) :=
  match f.payload with
  | .ok req => some (req.context.nonce, req.context.timestamp)
  | .error _ => none

/-- The clock, the shared Redis and the requests of all replicas. -/
structure Replicas where
  now : Nat
  keys : Keyspace
  flights : Nat → Option Flight

/-- The start: an empty Redis and no request, at the given time. -/
def Replicas.init (now : Nat) : Replicas where
  now := now
  keys := ∅
  flights := fun _ => none

/-- Put the state of a request. -/
def Replicas.put (s : Replicas) (id : Nat) (f : Flight) : Replicas :=
  { s with flights := Function.update s.flights id (some f) }

/-- The requests after one was put. -/
theorem Replicas.eq_of_put {s : Replicas} {id id' : Nat} {f f' : Flight}
    (h : (s.put id f).flights id' = some f') :
  (id' = id ∧ f' = f) ∨ (id' ≠ id ∧ s.flights id' = some f')
  := by
  by_cases hid : id' = id
  · left
    subst hid
    simp only [put, Function.update_self, Option.some.injEq] at h
    exact ⟨rfl, h.symm⟩
  · right
    simp only [put, Function.update_of_ne hid] at h
    exact ⟨hid, h⟩

/-- Why a wait for Redis ends without a result. -/
inductive RedisFailure where
  | timeout
  | redisError (display : String)
  deriving DecidableEq, Repr

/-- The steps: time passes; a request arrives at a replica and is checked; its connection
is acquired; its `SET` executes; the result comes back; or one of the waits fails. -/
inductive ReplicaStep where
  | tick (nanos : Nat)
  | arrive (id : Nat) (correlationHeader : Option (List UInt8))
      (payload : Except JsonRejection VerifyRequest)
  | connect (id : Nat)
  | set (id : Nat)
  | answer (id : Nat)
  | fail (id : Nat) (cause : RedisFailure)

/-- A request after its checks: answered if they refuse it, else waiting for Redis. -/
def openFlight (eth : Ethers) (state : AppState) (now : Nat) (cid : String)
    (payload : Except JsonRejection VerifyRequest) : Flight :=
  match beforeClaim eth state (unixSeconds now) cid payload with
  | .error r => {
      payload := payload
      cid := cid
      addr := none
      checkedAt := now
      connectedAt := none
      claim := none
      reply := some r }
  | .ok (_, addr) => {
      payload := payload
      cid := cid
      addr := some addr
      checkedAt := now
      connectedAt := none
      claim := none
      reply := none }

/-- The message of a failed wait. -/
def RedisFailure.message (operation : String) : RedisFailure → String
  | .timeout => "redis nonce store timed out during " ++ operation
  | .redisError e => "redis nonce store unavailable: " ++ e

/-- The first time system time cannot tell: it counts seconds in a signed 64-bit integer. -/
def clockEnd : Nat := 2 ^ 63 * nanosPerSecond

/-- The steps of the replicas. -/
def replicas (eth : Ethers) (state : AppState) (store : RedisNonceStore) :
    Machine Replicas ReplicaStep where
  step s
    | .tick nanos =>
        if s.now + nanos < clockEnd then some { s with now := s.now + nanos } else none
    | .arrive id header payload =>
        if (s.flights id).isNone then
          some (s.put id (openFlight eth state s.now (correlationId header) payload))
        else none
    | .connect id => do
        let f ← s.flights id
        if f.reply.isNone ∧ f.connectedAt.isNone ∧ s.now ≤ f.checkedAt + store.timeout then
          some (s.put id { f with connectedAt := some s.now })
        else none
    | .set id => do
        let f ← s.flights id
        let req ← f.payload.toOption
        let connectedAt ← f.connectedAt
        if f.reply.isNone ∧ f.claim.isNone ∧ s.now ≤ connectedAt + store.timeout then
          let r := setNxEx s.keys (redisNonceKey eth store.keyPrefix req.context.nonce) s.now
            (redisTtlSeconds state)
          some ({ s with keys := r.2 }.put id { f with claim := some (r.1, s.now) })
        else none
    | .answer id => do
        let f ← s.flights id
        let addr ← f.addr
        let connectedAt ← f.connectedAt
        let claim ← f.claim
        if f.reply.isNone ∧ s.now ≤ connectedAt + store.timeout then
          some (s.put id { f with reply := some (afterClaim f.cid addr (.ok claim.1)) })
        else none
    | .fail id cause => do
        let f ← s.flights id
        let addr ← f.addr
        let since := f.connectedAt.getD f.checkedAt
        let operation :=
          if f.connectedAt.isNone then "connection acquisition" else "atomic nonce claim"
        if f.reply.isNone ∧ (cause = .timeout → since + store.timeout ≤ s.now) then
          some (s.put id { f with
            reply := some (afterClaim f.cid addr (.error (cause.message operation))) })
        else none

/-! ### What a step does -/

/-- A request that arrives has no claim. -/
theorem openFlight_claim (eth : Ethers) (state : AppState) (now : Nat) (cid : String)
    (payload : Except JsonRejection VerifyRequest) :
  (openFlight eth state now cid payload).claim = none
  := by
  unfold openFlight
  split
  · rfl
  · rfl

/-- A request that is answered when it arrives is refused. -/
theorem openFlight_reply {eth : Ethers} {state : AppState} {now : Nat} {cid : String}
    {payload : Except JsonRejection VerifyRequest} {r : Reply}
    (h : (openFlight eth state now cid payload).reply = some r) :
  r.body.isValid = false
  := by
  unfold openFlight at h
  split at h
  · rename_i hr
    obtain rfl := Option.some.inj h
    apply beforeClaim_error_isValid hr
  · cases h

/-- A step of the replicas lets time pass, lets a request arrive, answers or advances a request
without touching its claim, or executes a `SET`.  A positive answer is given only to a request
whose claim was granted. -/
theorem replicas_step_cases {eth : Ethers} {state : AppState} {store : RedisNonceStore}
    {s s' : Replicas} {a : ReplicaStep} (h : (replicas eth state store).step s a = some s') :
  (∃ nanos, s.now + nanos < clockEnd ∧ s' = { s with now := s.now + nanos })
    ∨ (∃ id header payload,
        s' = s.put id (openFlight eth state s.now (correlationId header) payload))
    ∨ (∃ id f f', s.flights id = some f ∧ s' = s.put id f' ∧ f'.payload = f.payload
        ∧ f'.checkedAt = f.checkedAt ∧ (f'.reply = none → f.reply = none) ∧ f'.claim = f.claim
        ∧ ∀ r, f'.reply = some r → r.body.isValid = true →
            f.reply = some r ∨ ∃ t, f.claim = some (true, t))
    ∨ ∃ id f req r, a = .set id ∧ s.flights id = some f ∧ f.payload = .ok req
        ∧ f.reply = none ∧ f.claim = none
        ∧ setNxEx s.keys (redisNonceKey eth store.keyPrefix req.context.nonce) s.now
            (redisTtlSeconds state) = r
        ∧ s' = { s with keys := r.2 }.put id { f with claim := some (r.1, s.now) }
  := by
  cases a with
  | tick nanos =>
      left
      simp only [replicas, Option.ite_none_right_eq_some, Option.some.injEq] at h
      obtain ⟨hlt, rfl⟩ := h
      use nanos
  | arrive id header payload =>
      right; left
      simp only [replicas, Option.ite_none_right_eq_some, Option.some.injEq] at h
      obtain ⟨-, rfl⟩ := h
      use id, header, payload
  | connect id =>
      right; right; left
      simp only [replicas, Option.bind_eq_bind, Option.bind_eq_some_iff,
        Option.ite_none_right_eq_some, Option.some.injEq] at h
      obtain ⟨f, hf, -, rfl⟩ := h
      use id, f, { f with connectedAt := some s.now }, hf, rfl, rfl, rfl, fun hr => hr, rfl
      intro r hr _
      left
      exact hr
  | set id =>
      right; right; right
      simp only [replicas, Option.bind_eq_bind, Option.bind_eq_some_iff,
        Option.ite_none_right_eq_some, Option.some.injEq] at h
      obtain ⟨f, hf, req, hreq, _, _, ⟨hreply, hclaim, -⟩, rfl⟩ := h
      refine ⟨id, f, req, _, rfl, hf, ?_, Option.isNone_iff_eq_none.mp hreply,
        Option.isNone_iff_eq_none.mp hclaim, rfl, rfl⟩
      cases hp : f.payload with
      | error e =>
          rw [hp] at hreq
          cases hreq
      | ok p =>
          rw [hp] at hreq
          cases hreq
          rfl
  | answer id =>
      right; right; left
      simp only [replicas, Option.bind_eq_bind, Option.bind_eq_some_iff,
        Option.ite_none_right_eq_some, Option.some.injEq] at h
      obtain ⟨f, hf, addr, -, _, -, ⟨granted, t⟩, hclaim, -, rfl⟩ := h
      refine ⟨id, f, _, hf, rfl, rfl, rfl, fun hr => absurd hr (Option.some_ne_none _), rfl, ?_⟩
      rintro r ⟨rfl⟩ hvalid
      right
      use t
      rw [afterClaim_isValid, Except.ok.injEq] at hvalid
      rw [hclaim, ← hvalid]
  | fail id cause =>
      right; right; left
      simp only [replicas, Option.bind_eq_bind, Option.bind_eq_some_iff,
        Option.ite_none_right_eq_some, Option.some.injEq] at h
      obtain ⟨f, hf, addr, -, -, rfl⟩ := h
      refine ⟨id, f, _, hf, rfl, rfl, rfl, fun hr => absurd hr (Option.some_ne_none _), rfl, ?_⟩
      rintro r ⟨rfl⟩ hvalid
      rw [afterClaim_isValid] at hvalid
      cases hvalid

/-! ### Replay safety -/

/-- A `SET` is executed only while the timestamp of its request is fresh. -/
def SetsFresh (state : AppState) (s : Replicas) : ReplicaStep → Prop
  | .set id => ∀ f ∈ s.flights id, ∀ req ∈ f.payload.toOption,
      validateTimestampInternal req.context.timestamp state.signatureExpirySeconds
        state.clockSkewSeconds (unixSeconds s.now) = .ok ()
  | _ => True

instance (state : AppState) (s : Replicas) : (a : ReplicaStep) → Decidable (SetsFresh state s a)
  | .set id => inferInstanceAs (Decidable (∀ f ∈ s.flights id, _))
  | .tick _ | .arrive _ _ _ | .connect _ | .answer _ | .fail _ _ => .isTrue trivial

/-- The `SET` of a request was executed at `t`, when its timestamp was fresh, and the key
lives until the retention time has passed. -/
def Flight.Granted (eth : Ethers) (state : AppState) (store : RedisNonceStore) (now : Nat)
    (keys : Keyspace) (f : Flight) (t : Nat) : Prop :=
  ∃ req, f.payload = .ok req ∧ t ≤ now
    ∧ validateTimestampInternal req.context.timestamp state.signatureExpirySeconds
        state.clockSkewSeconds (unixSeconds t) = .ok ()
    ∧ ∃ e, keys.lookup (redisNonceKey eth store.keyPrefix req.context.nonce) = some e
        ∧ t + nonceRetentionTtl state ≤ e

/-- A claim that was granted stays granted while time passes and keys live on. -/
theorem Flight.Granted.mono {eth : Ethers} {state : AppState} {store : RedisNonceStore}
    {now now' : Nat} {keys keys' : Keyspace} {f f' : Flight} {t : Nat}
    (h : f.Granted eth state store now keys t) (hpayload : f'.payload = f.payload)
    (hnow : now ≤ now')
    (hkeys : ∀ k e, keys.lookup k = some e → ∃ e', keys'.lookup k = some e' ∧ e ≤ e') :
  f'.Granted eth state store now' keys' t
  := by
  obtain ⟨req, hreq, ht, hfresh, e, hkey, he⟩ := h
  obtain ⟨e', hkey', he'⟩ := hkeys _ e hkey
  use req, hpayload.trans hreq, le_trans ht hnow, hfresh, e', hkey', le_trans he he'

/-- The invariant of the replicas: every granted claim is remembered by Redis, no two
granted claims carry the same nonce and timestamp, and positive answers are given to
granted claims only. -/
structure Replicas.Safe (eth : Ethers) (state : AppState) (store : RedisNonceStore)
    (s : Replicas) : Prop where
  clock : s.now < clockEnd
  granted : ∀ id f t, s.flights id = some f → f.claim = some (true, t) →
    f.Granted eth state store s.now s.keys t
  answered : ∀ id f r, s.flights id = some f → f.reply = some r → r.body.isValid = true →
    ∃ t, f.claim = some (true, t)
  distinct : ∀ id id' f f' t t', id ≠ id' → s.flights id = some f → s.flights id' = some f' →
    f.claim = some (true, t) → f'.claim = some (true, t') → f.token ≠ f'.token

/-- Putting a request keeps the invariant if its claim, once granted, is remembered and
carries a nonce and timestamp of its own, and its positive answer comes from the claim. -/
theorem Replicas.Safe.put {eth : Ethers} {state : AppState} {store : RedisNonceStore}
    {s : Replicas} {id : Nat} {f : Flight} (h : s.Safe eth state store)
    (hgranted : ∀ t, f.claim = some (true, t) → f.Granted eth state store s.now s.keys t)
    (hanswered : ∀ r, f.reply = some r → r.body.isValid = true → ∃ t, f.claim = some (true, t))
    (hdistinct : ∀ id' f' t t', id ≠ id' → s.flights id' = some f' → f.claim = some (true, t) →
      f'.claim = some (true, t') → f.token ≠ f'.token) :
  (s.put id f).Safe eth state store
  := by
  constructor
  · exact h.clock
  · intro id' f' t hf' hclaim
    obtain ⟨rfl, rfl⟩ | ⟨-, hf'⟩ := eq_of_put hf'
    · apply hgranted t hclaim
    · apply h.granted id' f' t hf' hclaim
  · intro id' f' r hf' hreply hvalid
    obtain ⟨rfl, rfl⟩ | ⟨-, hf'⟩ := eq_of_put hf'
    · apply hanswered r hreply hvalid
    · apply h.answered id' f' r hf' hreply hvalid
  · intro id₁ id₂ f₁ f₂ t₁ t₂ hne hf₁ hf₂ hclaim₁ hclaim₂
    obtain ⟨rfl, rfl⟩ | ⟨-, hold₁⟩ := eq_of_put hf₁
    · obtain ⟨rfl, rfl⟩ | ⟨-, hold₂⟩ := eq_of_put hf₂
      · exact absurd rfl hne
      · apply hdistinct id₂ f₂ t₁ t₂ hne hold₂ hclaim₁ hclaim₂
    · obtain ⟨rfl, rfl⟩ | ⟨-, hold₂⟩ := eq_of_put hf₂
      · apply (hdistinct id₁ f₁ t₂ t₁ hne.symm hold₁ hclaim₂ hclaim₁).symm
      · apply h.distinct id₁ id₂ f₁ f₂ t₁ t₂ hne hold₁ hold₂ hclaim₁ hclaim₂

/-- A `SET` executed for a fresh timestamp finds the key of every earlier claim with the
same nonce and timestamp. -/
theorem Flight.Granted.token_ne {eth : Ethers} {state : AppState} {store : RedisNonceStore}
    {now : Nat} {keys : Keyspace} {f f' : Flight} {req : VerifyRequest} {t : Nat}
    (h : f'.Granted eth state store now keys t) (hnow : now < clockEnd)
    (hreq : f.payload = .ok req)
    (hset : (setNxEx keys (redisNonceKey eth store.keyPrefix req.context.nonce) now
      (redisTtlSeconds state)).1 = true)
    (hfresh : validateTimestampInternal req.context.timestamp state.signatureExpirySeconds
      state.clockSkewSeconds (unixSeconds now) = .ok ()) :
  f.token ≠ f'.token
  := by
  intro htoken
  obtain ⟨req', hreq', ht, hfresh', e, hkey, he⟩ := h
  simp only [Flight.token, hreq, hreq', Option.some.injEq, Prod.mk.injEq] at htoken
  obtain ⟨hnonce, hts⟩ := htoken
  rw [← hnonce] at hkey
  rw [← hts] at hfresh'
  have hexpired := le_of_setNxEx hset hkey
  have hnear := lt_add_nonceRetentionTtl_of_fresh (lt_of_le_of_lt ht hnow) hnow hfresh' hfresh
  omega

/-- A step that executes a `SET` only for a fresh timestamp keeps the invariant. -/
theorem Replicas.Safe.step {eth : Ethers} {state : AppState} {store : RedisNonceStore}
    (s : Replicas) (a : ReplicaStep) (s' : Replicas) (hs : s.Safe eth state store)
    (hfresh : SetsFresh state s a) (h : (replicas eth state store).step s a = some s') :
  s'.Safe eth state store
  := by
  obtain ⟨nanos, hlt, rfl⟩ | ⟨id, header, payload, rfl⟩
    | ⟨id, f, f', hf, rfl, hpayload, -, -, hclaim, hreply⟩
    | ⟨id, f, req, r, rfl, hf, hreq, hreply, hclaim, hset, rfl⟩ := replicas_step_cases h
  · constructor
    · exact hlt
    · intro id f t hf hclaim
      apply (hs.granted id f t hf hclaim).mono rfl (Nat.le_add_right _ _)
      intro k e he
      use e, he
    · exact hs.answered
    · exact hs.distinct
  · apply hs.put
    · intro t ht
      rw [openFlight_claim] at ht
      cases ht
    · intro r hr hvalid
      rw [openFlight_reply hr] at hvalid
      cases hvalid
    · intro _ _ t _ _ _ ht
      rw [openFlight_claim] at ht
      cases ht
  · apply hs.put
    · intro t ht
      apply (hs.granted id f t hf (hclaim ▸ ht)).mono hpayload le_rfl
      intro k e he
      use e, he
    · intro r hr hvalid
      rw [hclaim]
      obtain hold | hnew := hreply r hr hvalid
      · apply hs.answered id f r hf hold hvalid
      · exact hnew
    · intro id' f₂ t t' hne hf₂ ht ht'
      have htoken : f'.token = f.token := by
        simp only [Flight.token, hpayload]
      rw [htoken]
      apply hs.distinct id id' f f₂ t t' hne hf hf₂ (hclaim ▸ ht) ht'
  · have hkeys : ({ s with keys := r.2 } : Replicas).Safe eth state store := by
      constructor
      · exact hs.clock
      · intro id' f' t hf' hclaim'
        apply (hs.granted id' f' t hf' hclaim').mono rfl le_rfl
        intro k e he
        rw [← hset]
        apply exists_lookup_setNxEx he
      · exact hs.answered
      · exact hs.distinct
    have hts := hfresh f hf req (by rw [hreq]; rfl)
    apply hkeys.put
    · intro t ht
      obtain ⟨hgranted, rfl⟩ := Prod.mk.inj (Option.some.inj ht)
      refine ⟨req, hreq, le_rfl, hts, _, ?_, le_rfl⟩
      rw [← redisTtlSeconds_mul, ← hset]
      rw [← hset] at hgranted
      apply lookup_of_setNxEx hgranted
    · intro r' hr'
      rw [hreply] at hr'
      cases hr'
    · intro id' f' t t' _ hf' ht ht'
      obtain ⟨hgranted, rfl⟩ := Prod.mk.inj (Option.some.inj ht)
      rw [← hset] at hgranted
      apply (hs.granted id' f' t' hf' ht').token_ne hs.clock hreq hgranted hts

/-- In every run of replicas that share one Redis, from an empty Redis, in which every
`SET` is executed while the timestamp of its request is fresh, no two positive answers
carry the same nonce and the same timestamp. -/
theorem redis_replay_safe (eth : Ethers) (state : AppState) (store : RedisNonceStore) (start : Nat)
    (steps : List ReplicaStep) (s : Replicas) (hstart : start < clockEnd)
    (hfresh : (replicas eth state store).Guarded (SetsFresh state) (.init start) steps)
    (hrun : (replicas eth state store).run (.init start) steps = some s) :
  ∀ id id' f f' r r', id ≠ id' → s.flights id = some f → s.flights id' = some f' →
    f.reply = some r → f'.reply = some r' → r.body.isValid = true → r'.body.isValid = true →
    f.token ≠ f'.token
  := by
  have hinit : (Replicas.init start).Safe eth state store := by
    constructor
    · exact hstart
    · intro _ _ _ hf
      cases hf
    · intro _ _ _ hf
      cases hf
    · intro _ _ _ _ _ _ _ hf
      cases hf
  have hsafe := Machine.run_invariant Replicas.Safe.step steps hinit hfresh hrun
  intro id id' f f' r r' hne hf hf' hr hr' hvalid hvalid'
  obtain ⟨t, ht⟩ := hsafe.answered id f r hf hr hvalid
  obtain ⟨t', ht'⟩ := hsafe.answered id' f' r' hf' hr' hvalid'
  apply hsafe.distinct id id' f f' t t' hne hf hf' ht ht'

/-- The default timeout of a Redis wait, with keys under the default prefix. -/
def sampleRedisStore : RedisNonceStore where
  keyPrefix := "microai:verifier:nonce:"
  timeout := 2 * nanosPerSecond

/-- Two requests with one nonce, stamped at second 1000: the first is checked and claimed
at second 940, the second is checked a tenth of a second before its timestamp goes stale
and claimed after a further wait. -/
def sampleClaims (wait : Nat) : List ReplicaStep :=
  [.arrive 0 none (sampleArrival 0 "a").payload, .connect 0, .set 0, .answer 0,
    .tick (1300 * nanosPerSecond + 900000000 - 940 * nanosPerSecond),
    .arrive 1 none (sampleArrival 0 "a").payload, .connect 1, .tick wait, .set 1, .answer 1]

/-- The nonce and timestamp of each of the two requests of a run, with whether it is
answered positively. -/
def sampleAnswers (steps : List ReplicaStep) : List (Option (String × Option UInt64) × Bool) :=
  match (replicas sampleEthers sampleState sampleRedisStore).run
      (.init (940 * nanosPerSecond)) steps with
  | some s => [0, 1].filterMap fun id => do
      let f ← s.flights id
      let r ← f.reply
      some (f.token, r.body.isValid)
  | none => []

/-- When the second claim is made at once it is refused. -/
theorem redis_replay_safe_sample :
  sampleAnswers (sampleClaims 0) = [(some ("a", some 1000), true), (some ("a", some 1000), false)]
    ∧ ∃ s, (replicas sampleEthers sampleState sampleRedisStore).run
          (.init (940 * nanosPerSecond)) (sampleClaims 0) = some s
        ∧ ∀ id id' f f' r r', id ≠ id' → s.flights id = some f → s.flights id' = some f' →
            f.reply = some r → f'.reply = some r' → r.body.isValid = true →
            r'.body.isValid = true → f.token ≠ f'.token
  := by
  constructor
  · decide +kernel
  · have hrun : ((replicas sampleEthers sampleState sampleRedisStore).run
        (.init (940 * nanosPerSecond)) (sampleClaims 0)).isSome = true := by
      decide
    obtain ⟨s, hs⟩ := Option.isSome_iff_exists.mp hrun
    use s, hs
    apply redis_replay_safe sampleEthers sampleState sampleRedisStore (940 * nanosPerSecond)
      (sampleClaims 0) s _ _ hs
    · decide
    · decide

/-- When the second claim is made a tenth of a second after its check, the key of the first
has expired and both requests are accepted. -/
theorem late_claim_accepted :
  sampleAnswers (sampleClaims 100000000)
    = [(some ("a", some 1000), true), (some ("a", some 1000), true)]
  := by
  decide +kernel

end Paygate.Verifier
