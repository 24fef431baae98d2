import Paygate.Verifier.Redis

/-!
# Signatures carried by several requests

The verifier takes any address that `ethers` recovers, and compares it with nothing.  A request with
a signature that was made over another context is accepted unless something else stops it: its chain,
its timestamp, a failure of `ethers`, or its nonce (`verifySignature_isValid_iff`).

If every such request is stopped, and no `SET` for the signed context is executed once its timestamp
has gone stale, a signature pays at most once, with both nonce stores
(`signature_authorises_one_payment`).
-/

namespace Paygate.Verifier

/-! ### What stops a request -/

/-- `ethers` recovers an address from the signature over the typed data of the context. -/
def Ethers.Recovers (eth : Ethers) (c : PaymentContext) (s : String) : Prop :=
  ∃ td sig digest addr, eth.typedDataFromValue (typedDataJson c) = .ok td
    ∧ eth.signatureFromStr s = .ok sig ∧ eth.encodeEip712 td = .ok digest
    ∧ eth.recover sig digest = .ok addr

/-- The wallet signed the context `c` with the signature `s`: recovery over the digest of
`c` yields the wallet's address, and over any other digest an error or another address. -/
def SignedContext (eth : Ethers) (wallet : Address) (c : PaymentContext) (s : String) : Prop :=
  ∃ td sig digest, eth.typedDataFromValue (typedDataJson c) = .ok td
    ∧ eth.signatureFromStr s = .ok sig ∧ eth.encodeEip712 td = .ok digest
    ∧ eth.recover sig digest = .ok wallet
    ∧ ∀ digest' ≠ digest, ∀ addr, eth.recover sig digest' = .ok addr → addr ≠ wallet

/-- A request is stopped at a clock value, whatever its nonce: it is for another chain, its
timestamp is not fresh, or `ethers` recovers no address. -/
def Stopped (eth : Ethers) (state : AppState) (clock : Nat) (req : VerifyRequest) : Prop :=
  req.context.chainId ≠ state.expectedChainId
    ∨ validateTimestampInternal req.context.timestamp state.signatureExpirySeconds
        state.clockSkewSeconds (unixSeconds clock) ≠ .ok ()
    ∨ ¬ eth.Recovers req.context req.signature

section Stores

variable {eth : Ethers} {state : AppState} {c : PaymentContext} {s : String}

/-- The address of a request is the one `ethers` recovers. -/
theorem exists_recoverSigner_iff {req : VerifyRequest} (cid : String) :
  (∃ addr, recoverSigner eth cid req = .ok addr) ↔ eth.Recovers req.context req.signature
  := by
  unfold recoverSigner Ethers.Recovers Ethers.recoverTypedData
  cases htd : eth.typedDataFromValue (typedDataJson req.context) with
  | error e => simp
  | ok td =>
      cases hsig : eth.signatureFromStr req.signature with
      | error e => simp
      | ok sig =>
          cases hdigest : eth.encodeEip712 td with
          | error e => simp [hdigest, Bind.bind, Except.bind]
          | ok digest =>
              cases hrecover : eth.recover sig digest with
              | error e => simp [hdigest, hrecover, Bind.bind, Except.bind]
              | ok addr => simp [hdigest, hrecover, Bind.bind, Except.bind]

instance (eth : Ethers) (c : PaymentContext) (s : String) : Decidable (eth.Recovers c s) :=
  decidable_of_iff ((recoverSigner eth "" ⟨c, s⟩).isOk = true) <| by
    have hrecovers : (∃ addr, recoverSigner eth "" ⟨c, s⟩ = .ok addr) ↔ eth.Recovers c s :=
      exists_recoverSigner_iff ""
    rw [← hrecovers]
    cases recoverSigner eth "" ⟨c, s⟩ with
    | error r => simp [Except.isOk, Except.toBool]
    | ok addr => simp [Except.isOk, Except.toBool]

instance (eth : Ethers) (state : AppState) (clock : Nat) (req : VerifyRequest) :
    Decidable (Stopped eth state clock req) :=
  inferInstanceAs (Decidable (_ ∨ _ ∨ _))

/-- A request reaches the nonce claim unless it is stopped. -/
theorem reachesClaim_iff {clock : Nat} {req : VerifyRequest} :
  ReachesClaim eth state clock req ↔ ¬ Stopped eth state clock req
  := by
  simp only [ReachesClaim, Stopped, exists_recoverSigner_iff, exists_const, not_or, ne_eq, not_not]

/-! ### The in-memory store -/

/-- The verifier with the in-memory store, which handles one request after another. -/
def memoryVerifier (eth : Ethers) (state : AppState) : Machine MemoryNonceStore Arrival where
  step store q := some (verifySignature eth state store q).2

/-- A request is accepted exactly if nothing stops it and the store does not hold its nonce: what
address is recovered does not matter. -/
theorem verifySignature_isValid_iff {store : MemoryNonceStore} {q : Arrival} :
  (verifySignature eth state store q).1.body.isValid = true
    ↔ ∃ req, q.payload = .ok req ∧ ¬ Stopped eth state q.clock req
      ∧ ¬ Held (nonceRetentionTtl state) store q.clock (nonceKey eth req.context.nonce)
  := by
  obtain ⟨hneg, -, hstopped⟩ | ⟨req, hreq, hreach, hvalid, -⟩ :=
    verifySignature_cases eth state store q
  · rw [hneg]
    simp only [Bool.false_eq_true, false_iff]
    rintro ⟨req, hreq, hfree, -⟩
    exact hstopped req hreq (reachesClaim_iff.mpr hfree)
  · rw [hvalid, claimMemoryNonce_iff]
    constructor
    · intro hheld
      exact ⟨req, hreq, reachesClaim_iff.mp hreach, hheld⟩
    · rintro ⟨req', hreq', -, hheld⟩
      obtain rfl := Except.ok.inj (hreq.symm.trans hreq')
      exact hheld

/-- The request carries the signature `s`. -/
def Arrival.Carries (q : Arrival) (s : String) : Prop :=
  ∃ req, q.payload = .ok req ∧ req.signature = s

/-- A request that carries `s` with another context than `c` is stopped, or the store holds its
nonce. -/
def AlteredStopped (eth : Ethers) (state : AppState) (c : PaymentContext) (s : String)
    (store : MemoryNonceStore) (q : Arrival) : Prop :=
  ∀ req ∈ q.payload.toOption, req.signature = s → req.context ≠ c →
    Stopped eth state q.clock req
      ∨ Held (nonceRetentionTtl state) store q.clock (nonceKey eth req.context.nonce)

instance (eth : Ethers) (state : AppState) (c : PaymentContext) (s : String)
    (store : MemoryNonceStore) (q : Arrival) : Decidable (AlteredStopped eth state c s store q) :=
  have (req : VerifyRequest) : Decidable
      (Held (nonceRetentionTtl state) store q.clock (nonceKey eth req.context.nonce)) :=
    decidable_of_iff (¬ (claimMemoryNonce store (nonceKey eth req.context.nonce) q.clock
      (nonceRetentionTtl state)).1 = true) (by rw [claimMemoryNonce_iff, not_not])
  inferInstanceAs (Decidable (∀ req ∈ q.payload.toOption, _))

/-- Every answer of a run in which a condition is met is given on a store where it is met. -/
theorem exists_store_of_mem_serve {guard : MemoryNonceStore → Arrival → Prop}
    (arrivals : List Arrival) :
    ∀ store, (memoryVerifier eth state).Guarded guard store arrivals →
      ∀ x ∈ serve eth state store arrivals,
        ∃ store', guard store' x.1 ∧ x.2 = (verifySignature eth state store' x.1).1
  := by
  induction arrivals with
  | nil =>
      intro _ _ x hx
      cases hx
  | cons q qs ih =>
      rintro store ⟨hq, hqs⟩ x hx
      rcases List.mem_cons.mp hx with rfl | hx
      · exact ⟨store, hq, rfl⟩
      · exact ih _ (hqs _ rfl) x hx

/-- With the in-memory store no altered request is accepted if all are stopped. -/
theorem serve_refuses_altered {store : MemoryNonceStore} {arrivals : List Arrival}
    (hguarded : (memoryVerifier eth state).Guarded (AlteredStopped eth state c s) store arrivals) :
  ∀ x ∈ serve eth state store arrivals, ∀ req, x.1.payload = .ok req → req.signature = s →
    req.context ≠ c → x.2.body.isValid = false
  := by
  intro x hx req hreq hsig hne
  obtain ⟨store', haltered, hreply⟩ := exists_store_of_mem_serve arrivals store hguarded x hx
  by_contra hvalid
  rw [Bool.not_eq_false, hreply, verifySignature_isValid_iff] at hvalid
  obtain ⟨req', hreq', hfree, hheld⟩ := hvalid
  obtain rfl := Except.ok.inj (hreq.symm.trans hreq')
  have hsome : req ∈ x.1.payload.toOption := by
    rw [hreq]
    rfl
  rcases haltered req hsome hsig hne with hstopped | hheld'
  · exact hfree hstopped
  · exact hheld hheld'

/-- With the in-memory store one request that carries `s` is accepted, at most. -/
theorem serve_pays_once {store : MemoryNonceStore} {arrivals : List Arrival}
    (hsorted : arrivals.Pairwise fun q q' => q.clock ≤ q'.clock)
    (hclock : ∀ q ∈ arrivals, q.clock < 2 ^ 63 * nanosPerSecond)
    (hguarded : (memoryVerifier eth state).Guarded (AlteredStopped eth state c s) store arrivals) :
  (serve eth state store arrivals).Pairwise fun x y =>
    x.1.Carries s → y.1.Carries s → ¬ (x.2.body.isValid = true ∧ y.2.body.isValid = true)
  := by
  have htoken : ∀ x ∈ serve eth state store arrivals, x.1.Carries s → x.2.body.isValid = true →
      x.1.token = some (c.nonce, c.timestamp) := by
    rintro x hx ⟨req, hreq, hsig⟩ hvalid
    by_cases hc : req.context = c
    · simp only [Arrival.token, hreq, hc]
    · rw [serve_refuses_altered hguarded x hx req hreq hsig hc] at hvalid
      cases hvalid
  apply (serve_valid_pairwise arrivals store hclock hsorted).imp_of_mem
  rintro x y hx hy hne hxs hys ⟨hxv, hyv⟩
  apply hne hxv hyv
  rw [htoken x hx hxs hxv, htoken y hy hys hyv]

/-! ### The Redis store -/

/-- The key is there and has not expired. -/
def Live (keys : Keyspace) (now : Nat) (key : String) : Prop :=
  ∃ expiresAt ∈ keys.lookup key, now < expiresAt

instance (keys : Keyspace) (now : Nat) (key : String) : Decidable (Live keys now key) :=
  match h : keys.lookup key with
  | some expiresAt => decidable_of_iff (now < expiresAt) (by simp [Live, h])
  | none => .isFalse (by simp [Live, h])

/-- The `SET` of a key that is live is refused. -/
theorem setNxEx_of_live {keys : Keyspace} {key : String} {now ttlSeconds : Nat}
    (h : Live keys now key) :
  (setNxEx keys key now ttlSeconds).1 = false
  := by
  obtain ⟨expiresAt, hkey, hlt⟩ := h
  by_contra hset
  have hle := le_of_setNxEx (Bool.of_not_eq_false hset) hkey
  omega

/-- The request carries the signature `s`. -/
def Flight.Carries (f : Flight) (s : String) : Prop :=
  ∃ req, f.payload = .ok req ∧ req.signature = s

/-- The `SET` of a request that carries `s` with the context `c` is executed only while the
timestamp is fresh; one with another context was stopped when it was checked, or the key of its
nonce is live. -/
def SetsGuarded (eth : Ethers) (state : AppState) (store : RedisNonceStore) (c : PaymentContext)
    (s : String) (st : Replicas) : ReplicaStep → Prop
  | .set id => ∀ f ∈ st.flights id, ∀ req ∈ f.payload.toOption, req.signature = s →
      if req.context = c then
        validateTimestampInternal req.context.timestamp state.signatureExpirySeconds
          state.clockSkewSeconds (unixSeconds st.now) = .ok ()
      else Stopped eth state f.checkedAt req
        ∨ Live st.keys st.now (redisNonceKey eth store.keyPrefix req.context.nonce)
  | _ => True

instance (eth : Ethers) (state : AppState) (store : RedisNonceStore) (c : PaymentContext)
    (s : String) (st : Replicas) : (a : ReplicaStep) →
    Decidable (SetsGuarded eth state store c s st a)
  | .set id => inferInstanceAs (Decidable (∀ f ∈ st.flights id, _))
  | .tick _ | .arrive _ _ _ | .connect _ | .answer _ | .fail _ _ => .isTrue trivial

/-- The invariant of the replicas: a request that has no answer passed its checks, positive answers
are given to granted claims only, and of the claims of requests that carry `s` one is granted at
most, for the context `c`. -/
structure Replicas.PaysOnce (eth : Ethers) (state : AppState) (store : RedisNonceStore)
    (c : PaymentContext) (s : String) (st : Replicas) : Prop where
  clock : st.now < clockEnd
  passed : ∀ id f, st.flights id = some f → f.reply = none → ∀ req, f.payload = .ok req →
    ¬ Stopped eth state f.checkedAt req
  answered : ∀ id f r, st.flights id = some f → f.reply = some r → r.body.isValid = true →
    ∃ t, f.claim = some (true, t)
  granted : ∀ id f t, st.flights id = some f → f.Carries s → f.claim = some (true, t) →
    f.payload = .ok ⟨c, s⟩ ∧ f.Granted eth state store st.now st.keys t
  unique : ∀ id id' f f' t t', st.flights id = some f → st.flights id' = some f' →
    f.Carries s → f'.Carries s → f.claim = some (true, t) → f'.claim = some (true, t') → id = id'

/-- A request that arrives and is not answered passed its checks. -/
theorem not_stopped_of_openFlight {now : Nat} {cid : String}
    {payload : Except JsonRejection VerifyRequest} {req : VerifyRequest}
    (h : (openFlight eth state now cid payload).reply = none)
    (hreq : (openFlight eth state now cid payload).payload = .ok req) :
  ¬ Stopped eth state (openFlight eth state now cid payload).checkedAt req
  := by
  unfold openFlight at h hreq ⊢
  split at h
  · cases h
  · rename_i req' addr hok
    obtain ⟨hpayload, hchain, hfresh, hrecover⟩ := beforeClaim_ok_iff.mp hok
    simp only [hok] at hreq ⊢
    obtain rfl := Except.ok.inj (hpayload.symm.trans hreq)
    exact reachesClaim_iff.mp ⟨hchain, hfresh, cid, addr, hrecover⟩

namespace Replicas

variable {store : RedisNonceStore} {st st' : Replicas}

/-- Putting a request keeps the invariant if it meets what the invariant says. -/
theorem PaysOnce.put {id : Nat} {f : Flight} (h : st.PaysOnce eth state store c s)
    (hpassed : f.reply = none → ∀ req, f.payload = .ok req → ¬ Stopped eth state f.checkedAt req)
    (hanswered : ∀ r, f.reply = some r → r.body.isValid = true → ∃ t, f.claim = some (true, t))
    (hgranted : ∀ t, f.Carries s → f.claim = some (true, t) →
      f.payload = .ok ⟨c, s⟩ ∧ f.Granted eth state store st.now st.keys t)
    (hunique : ∀ id' f' t t', id ≠ id' → st.flights id' = some f' → f.Carries s → f'.Carries s →
      f.claim = some (true, t) → f'.claim ≠ some (true, t')) :
  (st.put id f).PaysOnce eth state store c s
  := by
  constructor
  · exact h.clock
  · intro id' f' hf'
    obtain ⟨rfl, rfl⟩ | ⟨-, hold⟩ := eq_of_put hf'
    · exact hpassed
    · exact h.passed id' f' hold
  · intro id' f' r hf'
    obtain ⟨rfl, rfl⟩ | ⟨-, hold⟩ := eq_of_put hf'
    · exact hanswered r
    · exact h.answered id' f' r hold
  · intro id' f' t hf'
    obtain ⟨rfl, rfl⟩ | ⟨-, hold⟩ := eq_of_put hf'
    · exact hgranted t
    · exact h.granted id' f' t hold
  · intro id₁ id₂ f₁ f₂ t₁ t₂ hf₁ hf₂ hs₁ hs₂ hclaim₁ hclaim₂
    obtain ⟨rfl, rfl⟩ | ⟨hne₁, hold₁⟩ := eq_of_put hf₁
    · obtain ⟨rfl, rfl⟩ | ⟨hne₂, hold₂⟩ := eq_of_put hf₂
      · rfl
      · exact absurd hclaim₂ (hunique id₂ f₂ t₁ t₂ hne₂.symm hold₂ hs₁ hs₂ hclaim₁)
    · obtain ⟨rfl, rfl⟩ | ⟨-, hold₂⟩ := eq_of_put hf₂
      · exact absurd hclaim₁ (hunique id₁ f₁ t₂ t₁ hne₁.symm hold₁ hs₂ hs₁ hclaim₂)
      · exact h.unique id₁ id₂ f₁ f₂ t₁ t₂ hold₁ hold₂ hs₁ hs₂ hclaim₁ hclaim₂

/-- A claim that is granted to a request that carries `s` is the first one for the context `c`. -/
theorem PaysOnce.granted_set {id : Nat} {f : Flight} {req : VerifyRequest}
    (h : st.PaysOnce eth state store c s) (hguard : SetsGuarded eth state store c s st (.set id))
    (hf : st.flights id = some f) (hreq : f.payload = .ok req) (hreply : f.reply = none)
    (hset : (setNxEx st.keys (redisNonceKey eth store.keyPrefix req.context.nonce) st.now
      (redisTtlSeconds state)).1 = true) (hs : f.Carries s) :
  f.payload = .ok ⟨c, s⟩
    ∧ validateTimestampInternal req.context.timestamp state.signatureExpirySeconds
        state.clockSkewSeconds (unixSeconds st.now) = .ok ()
    ∧ ∀ id' f' t', st.flights id' = some f' → f'.Carries s → f'.claim ≠ some (true, t')
  := by
  obtain ⟨req', hreq', hsig⟩ := hs
  obtain rfl := Except.ok.inj (hreq.symm.trans hreq')
  have hrule := hguard f hf req (by
    rw [hreq]
    rfl) hsig
  by_cases hc : req.context = c
  · rw [if_pos hc] at hrule
    have hpayload : f.payload = .ok ⟨c, s⟩ := by
      rw [hreq, ← hc, ← hsig]
    refine ⟨hpayload, hrule, ?_⟩
    intro id' f' t' hf' hs' hclaim'
    obtain ⟨hpayload', hgranted'⟩ := h.granted id' f' t' hf' hs' hclaim'
    apply hgranted'.token_ne h.clock hreq hset hrule
    rw [Flight.token, Flight.token, hpayload, hpayload']
  · rw [if_neg hc] at hrule
    rcases hrule with hstopped | hlive
    · exact absurd hstopped (h.passed id f hf hreply req hreq)
    · rw [setNxEx_of_live hlive] at hset
      cases hset

/-- A guarded step keeps the invariant. -/
theorem PaysOnce.step {a : ReplicaStep} (h : st.PaysOnce eth state store c s)
    (hguard : SetsGuarded eth state store c s st a)
    (hstep : (replicas eth state store).step st a = some st') :
  st'.PaysOnce eth state store c s
  := by
  obtain ⟨nanos, hlt, rfl⟩ | ⟨id, header, payload, rfl⟩
    | ⟨id, f, f', hf, rfl, hpayload, hchecked, hreply, hclaim, hvalid⟩
    | ⟨id, f, req, r, rfl, hf, hreq, hreply, hclaim, hset, rfl⟩ := replicas_step_cases hstep
  · refine ⟨hlt, h.passed, h.answered, ?_, h.unique⟩
    intro id f t hf hs hclaim
    obtain ⟨hpayload, hgranted⟩ := h.granted id f t hf hs hclaim
    refine ⟨hpayload, hgranted.mono rfl (Nat.le_add_right _ _) ?_⟩
    intro k e he
    use e, he
  · apply h.put
    · intro hnone req hreq
      exact not_stopped_of_openFlight hnone hreq
    · intro r hr hvalid
      rw [openFlight_reply hr] at hvalid
      cases hvalid
    · intro t _ ht
      rw [openFlight_claim] at ht
      cases ht
    · intro _ _ t _ _ _ _ _ ht
      rw [openFlight_claim] at ht
      cases ht
  · have hcarries : f'.Carries s → f.Carries s := by
      rintro ⟨req, hreq, hsig⟩
      exact ⟨req, hpayload ▸ hreq, hsig⟩
    apply h.put
    · intro hnone req hreq
      rw [hchecked]
      exact h.passed id f hf (hreply hnone) req (hpayload ▸ hreq)
    · intro r hr hv
      rw [hclaim]
      obtain hold | hnew := hvalid r hr hv
      · exact h.answered id f r hf hold hv
      · exact hnew
    · intro t hs ht
      obtain ⟨hc, hgranted⟩ := h.granted id f t hf (hcarries hs) (hclaim ▸ ht)
      refine ⟨hpayload.trans hc, hgranted.mono hpayload le_rfl ?_⟩
      intro k e he
      use e, he
    · intro id' f₂ t t' hne hf₂ hs hs₂ ht ht'
      exact hne (h.unique id id' f f₂ t t' hf hf₂ (hcarries hs) hs₂ (hclaim ▸ ht) ht')
  · have hkeys : ({ st with keys := r.2 } : Replicas).PaysOnce eth state store c s := by
      refine ⟨h.clock, h.passed, h.answered, ?_, h.unique⟩
      intro id' f' t hf' hs' hclaim'
      obtain ⟨hpayload, hgranted⟩ := h.granted id' f' t hf' hs' hclaim'
      refine ⟨hpayload, hgranted.mono rfl le_rfl ?_⟩
      intro k e he
      rw [← hset]
      exact exists_lookup_setNxEx he
    apply hkeys.put
    · intro hnone req' hreq'
      exact h.passed id f hf hnone req' hreq'
    · intro r' hr'
      rw [hreply] at hr'
      cases hr'
    · intro t hs ht
      obtain ⟨hgranted, rfl⟩ := Prod.mk.inj (Option.some.inj ht)
      rw [← hset] at hgranted
      obtain ⟨hpayload, hfresh, -⟩ := h.granted_set hguard hf hreq hreply hgranted hs
      refine ⟨hpayload, req, hreq, le_rfl, hfresh, _, ?_, le_rfl⟩
      rw [← redisTtlSeconds_mul, ← hset]
      exact lookup_of_setNxEx hgranted
    · intro id' f' t t' _ hf' hs hs' ht
      obtain ⟨hgranted, rfl⟩ := Prod.mk.inj (Option.some.inj ht)
      rw [← hset] at hgranted
      exact (h.granted_set hguard hf hreq hreply hgranted hs).2.2 id' f' t' hf' hs'

end Replicas

end Stores

/-! ### One payment for a signature -/

/-- Each request of the sample run of the replicas, with whether it is answered positively. -/
def sampleAccepted (st : Replicas) : List (Option Bool) :=
  [0, 1, 2].map fun id => (st.flights id).bind fun f => f.reply.map fun r => r.body.isValid

/-- The signed context is sent twice, and another one with the same signature after its timestamp
has gone stale. -/
def sampleAltered : List ReplicaStep :=
  sampleClaims 0 ++ [.tick (1000 * nanosPerSecond), .arrive 2 none (sampleArrival 0 "b").payload]

end Paygate.Verifier
