import Paygate.Base.Assoc
import Paygate.Verifier.Basic

/-!
# The in-memory nonce store

The store of accepted nonces a single verifier keeps in memory, with its lazy expiry and
its periodic sweep, and the verifier serving requests one after another on top of it.

The store remembers every successful claim for as long as the retention time
(`Remembered`): two successful claims of one nonce are more than the retention time apart.
The retention time covers every moment at which a timestamp can be fresh, so no two
positive answers of a run carry the same nonce and timestamp.

What the store answers depends only on the nonces it holds (`Held`), which neither a sweep nor
a refused request changes.  Hence a run without some of its refused requests gives the same
answers to the others.
-/

namespace Paygate.Verifier

/-! ### The store -/

/-- The hashes of the nonces accepted so far, each with the time it was accepted, and the
time of the last sweep. -/
structure MemoryNonceStore where
  usedNonces : AList fun _ : Digest => Nat
  lastNonceSweep : Nat

/-- The empty store, made at the given time. -/
def memoryNonceStore (start : Nat) : MemoryNonceStore where
  usedNonces := ∅
  lastNonceSweep := start

/-- The shortest time between two sweeps. -/
def nonceSweepIntervalSeconds : UInt64 := 60

/-- Drop the nonces that were accepted longer ago than `ttl`. -/
def evictExpiredNonces (used : AList fun _ : Digest => Nat) (now ttl : Nat) :
    AList fun _ : Digest => Nat :=
  used.retain fun _ insertedAt => now - insertedAt ≤ ttl

/-- How long an accepted nonce is kept. -/
def nonceRetentionTtl (state : AppState) : Nat :=
  durationFromSecs
    ((state.signatureExpirySeconds.saturatingAdd state.clockSkewSeconds).saturatingAdd 1)

/-- Sweep the store unless it was swept less than the sweep interval ago. -/
def maybeEvictExpiredNonces (store : MemoryNonceStore) (now ttl : Nat) : MemoryNonceStore :=
  if now - store.lastNonceSweep < durationFromSecs nonceSweepIntervalSeconds then store
  else {
    usedNonces := evictExpiredNonces store.usedNonces now ttl
    lastNonceSweep := now }

/-- Claim the nonce with hash `key`: the claim succeeds if the nonce was not accepted
within the last `ttl`. -/
def claimMemoryNonce (store : MemoryNonceStore) (key : Digest) (now ttl : Nat) :
    Bool × MemoryNonceStore :=
  let store := maybeEvictExpiredNonces store now ttl
  match store.usedNonces.lookup key with
  | some insertedAt =>
      if ttl < now - insertedAt then
        (true, { store with usedNonces := store.usedNonces.insert key now })
      else (false, store)
  | none => (true, { store with usedNonces := store.usedNonces.insert key now })

/-! ### What the store remembers -/

/-- At time `now` the store remembers a claim of `key` made at time `t`: it holds an
insertion of `key` no older than `t`, or `t` is more than `ttl` ago. -/
def Remembered (ttl : Nat) (store : MemoryNonceStore) (now : Nat) (key : Digest) (t : Nat) : Prop :=
  (∃ insertedAt, store.usedNonces.lookup key = some insertedAt ∧ t ≤ insertedAt) ∨ t + ttl < now

/-- A remembered claim is remembered after time has passed. -/
theorem Remembered.later {ttl : Nat} {store : MemoryNonceStore} {now now' : Nat} {key : Digest}
    {t : Nat} (h : Remembered ttl store now key t) (hnow : now ≤ now') :
  Remembered ttl store now' key t
  := by
  rcases h with h | h
  · exact Or.inl h
  · exact Or.inr (by omega)

/-- A sweep forgets only claims that are more than `ttl` old. -/
theorem Remembered.maybeEvict {ttl : Nat} {store : MemoryNonceStore} {now : Nat} {key : Digest}
    {t : Nat} (h : Remembered ttl store now key t) :
  Remembered ttl (maybeEvictExpiredNonces store now ttl) now key t
  := by
  unfold maybeEvictExpiredNonces
  split
  · exact h
  · rcases h with ⟨e, he, hte⟩ | h
    · by_cases hkeep : now - e ≤ ttl
      · left
        use e
        constructor
        · apply AList.lookup_retain_eq_some.mpr
          exact ⟨he, decide_eq_true hkeep⟩
        · exact hte
      · right
        omega
    · exact Or.inr h

/-- Recording a nonce at `now` forgets no claim made by then. -/
theorem Remembered.insert {ttl : Nat} {store : MemoryNonceStore} {now : Nat} {key : Digest} {t : Nat}
    (h : Remembered ttl store now key t) (ht : t ≤ now) (key' : Digest) :
  Remembered ttl { store with usedNonces := store.usedNonces.insert key' now } now key t
  := by
  rcases h with ⟨e, he, hte⟩ | h
  · left
    by_cases hkey : key = key'
    · subst hkey
      exact ⟨now, AList.lookup_insert _, ht⟩
    · use e
      constructor
      · rw [AList.lookup_insert_ne hkey]
        apply he
      · exact hte
  · exact Or.inr h

/-- A claim leaves the swept store as it is, or records the nonce in it. -/
theorem claimMemoryNonce_cases (store : MemoryNonceStore) (key : Digest) (now ttl : Nat) :
  ((claimMemoryNonce store key now ttl).1 = false
      ∧ (claimMemoryNonce store key now ttl).2 = maybeEvictExpiredNonces store now ttl
      ∧ ∃ e, (maybeEvictExpiredNonces store now ttl).usedNonces.lookup key = some e
          ∧ now - e ≤ ttl)
    ∨ ((claimMemoryNonce store key now ttl).1 = true
      ∧ (claimMemoryNonce store key now ttl).2
          = { maybeEvictExpiredNonces store now ttl with
              usedNonces := (maybeEvictExpiredNonces store now ttl).usedNonces.insert key now }
      ∧ ∀ e, (maybeEvictExpiredNonces store now ttl).usedNonces.lookup key = some e
          → ttl < now - e)
  := by
  unfold claimMemoryNonce
  generalize maybeEvictExpiredNonces store now ttl = swept
  cases h : swept.usedNonces.lookup key with
  | none =>
      right
      simp [h]
  | some e =>
      by_cases hlate : ttl < now - e
      · right
        simp [h, hlate]
      · left
        simp only [h, hlate, if_false, Option.some.injEq, exists_eq_left', true_and]
        omega

/-- A claim at `now` forgets no claim made by then. -/
theorem Remembered.claim {ttl : Nat} {store : MemoryNonceStore} {now : Nat} {key : Digest} {t : Nat}
    (h : Remembered ttl store now key t) (ht : t ≤ now) (key' : Digest) :
  Remembered ttl (claimMemoryNonce store key' now ttl).2 now key t
  := by
  obtain ⟨-, hstore, -⟩ | ⟨-, hstore, -⟩ := claimMemoryNonce_cases store key' now ttl
  · rw [hstore]
    apply h.maybeEvict
  · rw [hstore]
    apply h.maybeEvict.insert ht

/-- A successful claim of a nonce is remembered. -/
theorem remembered_of_claim {ttl : Nat} {store : MemoryNonceStore} {now : Nat} {key : Digest}
    (h : (claimMemoryNonce store key now ttl).1 = true) :
  Remembered ttl (claimMemoryNonce store key now ttl).2 now key now
  := by
  obtain ⟨hfail, -⟩ | ⟨-, hstore, -⟩ := claimMemoryNonce_cases store key now ttl
  · rw [hfail] at h
    cases h
  · rw [hstore]
    left
    exact ⟨now, AList.lookup_insert _, le_refl now⟩

/-- A claim of a remembered nonce succeeds only more than `ttl` after the remembered
claim. -/
theorem Remembered.lt_of_claim {ttl : Nat} {store : MemoryNonceStore} {now : Nat} {key : Digest}
    {t : Nat} (h : Remembered ttl store now key t)
    (hclaim : (claimMemoryNonce store key now ttl).1 = true) :
  t + ttl < now
  := by
  obtain ⟨hfail, -⟩ | ⟨-, -, hlate⟩ := claimMemoryNonce_cases store key now ttl
  · rw [hfail] at hclaim
    cases hclaim
  · rcases h.maybeEvict with ⟨e, he, hte⟩ | h
    · have := hlate e he
      omega
    · exact h

/-! ### Serving requests one at a time -/

/-- A request, with the clock value at which it is handled. -/
structure Arrival where
  clock : Nat
  correlationHeader : Option (List UInt8)
  payload : Except JsonRejection VerifyRequest

/-- The nonce and the timestamp a request carries. -/
def Arrival.token (q : Arrival) : Option (String × Option UInt64) :=
  match q.payload with
  | .ok req => some (req.context.nonce, req.context.timestamp)
  | .error _ => none

/-- The hash under which a nonce is stored. -/
def nonceKey (eth : Ethers) (nonce : String) : Digest :=
  eth.keccak256 nonce.toUTF8.data.toList

/-- Handle one request with the in-memory store. -/
def verifySignature (eth : Ethers) (state : AppState) (store : MemoryNonceStore) (q : Arrival) :
    Reply × MemoryNonceStore :=
  let cid := correlationId q.correlationHeader
  match beforeClaim eth state (unixSeconds q.clock) cid q.payload with
  | .error r => (r, store)
  | .ok (req, addr) =>
      let claim := claimMemoryNonce store (nonceKey eth req.context.nonce) q.clock
        (nonceRetentionTtl state)
      (afterClaim cid addr (.ok claim.1), claim.2)

/-- The requests of a run, each with its answer. -/
def serve (eth : Ethers) (state : AppState) : MemoryNonceStore → List Arrival → List (Arrival × Reply)
  | _, [] => []
  | store, q :: qs =>
      (q, (verifySignature eth state store q).1)
        :: serve eth state (verifySignature eth state store q).2 qs

/-- A request reaches the nonce claim: its chain is the expected one, its timestamp is
fresh and an address is recovered from its signature. -/
def ReachesClaim (eth : Ethers) (state : AppState) (clock : Nat) (req : VerifyRequest) : Prop :=
  req.context.chainId = state.expectedChainId
    ∧ validateTimestampInternal req.context.timestamp state.signatureExpirySeconds
        state.clockSkewSeconds (unixSeconds clock) = .ok ()
    ∧ ∃ cid addr, recoverSigner eth cid req = .ok addr

/-- Recovering an address does not depend on the correlation id. -/
theorem recoverSigner_ok_of_ok {eth : Ethers} {cid : String} {req : VerifyRequest} {addr : Address}
    (h : recoverSigner eth cid req = .ok addr) (cid' : String) :
  recoverSigner eth cid' req = .ok addr
  := by
  unfold recoverSigner at h ⊢
  split at h
  · cases h
  · rename_i td htd
    split at h
    · cases h
    · rename_i sig hsig
      split at h
      · cases h
      · rename_i a ha
        exact h

/-- Handling a request answers negatively and leaves the store alone, or claims the nonce
of a request that reaches the claim and answers what the claim says. -/
theorem verifySignature_cases (eth : Ethers) (state : AppState) (store : MemoryNonceStore)
    (q : Arrival) :
  ((verifySignature eth state store q).1.body.isValid = false
      ∧ (verifySignature eth state store q).2 = store
      ∧ ∀ req, q.payload = .ok req → ¬ ReachesClaim eth state q.clock req)
    ∨ ∃ req, q.payload = .ok req ∧ ReachesClaim eth state q.clock req
      ∧ (verifySignature eth state store q).1.body.isValid
          = (claimMemoryNonce store (nonceKey eth req.context.nonce) q.clock
              (nonceRetentionTtl state)).1
      ∧ (verifySignature eth state store q).2
          = (claimMemoryNonce store (nonceKey eth req.context.nonce) q.clock
              (nonceRetentionTtl state)).2
  := by
  cases h : beforeClaim eth state (unixSeconds q.clock) (correlationId q.correlationHeader)
      q.payload with
  | error r =>
      left
      have hv : verifySignature eth state store q = (r, store) := by
        simp only [verifySignature, h]
      rw [hv]
      use beforeClaim_error_isValid h, rfl
      rintro req hreq ⟨hchain, hts, cid, addr, hrec⟩
      have hok := beforeClaim_ok_iff.mpr
        ⟨hreq, hchain, hts, recoverSigner_ok_of_ok hrec (correlationId q.correlationHeader)⟩
      rw [h] at hok
      cases hok
  | ok p =>
      right
      obtain ⟨req, addr⟩ := p
      obtain ⟨hreq, hchain, hts, hrec⟩ := beforeClaim_ok_iff.mp h
      use req, hreq, ⟨hchain, hts, _, addr, hrec⟩
      simp only [verifySignature, h, and_true]
      rw [Bool.eq_iff_iff, afterClaim_isValid, Except.ok.injEq]

/-- Two clock values at which one timestamp is fresh are less than the retention time
apart. -/
theorem lt_add_nonceRetentionTtl_of_fresh {state : AppState} {timestamp : Option UInt64} {a b : Nat}
    (ha : a < 2 ^ 63 * nanosPerSecond) (hb : b < 2 ^ 63 * nanosPerSecond)
    (hfresh : validateTimestampInternal timestamp state.signatureExpirySeconds
      state.clockSkewSeconds (unixSeconds a) = .ok ())
    (hfresh' : validateTimestampInternal timestamp state.signatureExpirySeconds
      state.clockSkewSeconds (unixSeconds b) = .ok ()) :
  b < a + nonceRetentionTtl state
  := by
  obtain ⟨ts, rfl, hts, -⟩ := validateTimestampInternal_ok_iff.mp hfresh
  obtain ⟨ts', hts', -, hage⟩ := validateTimestampInternal_ok_iff.mp hfresh'
  obtain rfl := Option.some.inj hts'
  rw [toNat_unixSeconds ha] at hts
  rw [toNat_unixSeconds hb] at hage
  have hsecs : b / nanosPerSecond < a / nanosPerSecond
      + ((state.signatureExpirySeconds.saturatingAdd state.clockSkewSeconds).saturatingAdd 1).toNat := by
    have hone : (1 : UInt64).toNat = 1 := rfl
    have hlt := Nat.div_lt_of_lt_mul (mul_comm (2 ^ 63) nanosPerSecond ▸ hb)
    rw [UInt64.toNat_saturatingAdd, UInt64.toNat_saturatingAdd, hone]
    clear ha hb hfresh hfresh'
    generalize a / nanosPerSecond = secs at hts ⊢
    generalize b / nanosPerSecond = secs' at hage hlt ⊢
    omega
  unfold nonceRetentionTtl durationFromSecs
  unfold nanosPerSecond at hsecs ⊢
  omega

/-- Handling a request forgets no claim made by then. -/
theorem Remembered.verifySignature {eth : Ethers} {state : AppState} {store : MemoryNonceStore}
    {q : Arrival} {key : Digest} {t : Nat}
    (h : Remembered (nonceRetentionTtl state) store q.clock key t) (ht : t ≤ q.clock) :
  Remembered (nonceRetentionTtl state) (Verifier.verifySignature eth state store q).2 q.clock key t
  := by
  obtain ⟨-, hstore, -⟩ | ⟨req, -, -, -, hstore⟩ := verifySignature_cases eth state store q
  · rw [hstore]
    apply h
  · rw [hstore]
    apply h.claim ht

/-- A positive answer is given to a request that reaches the claim, and its nonce is
remembered. -/
theorem verifySignature_valid {eth : Ethers} {state : AppState} {store : MemoryNonceStore}
    {q : Arrival} (h : (verifySignature eth state store q).1.body.isValid = true) :
  ∃ req, q.payload = .ok req ∧ ReachesClaim eth state q.clock req
    ∧ (claimMemoryNonce store (nonceKey eth req.context.nonce) q.clock
        (nonceRetentionTtl state)).1 = true
    ∧ Remembered (nonceRetentionTtl state) (verifySignature eth state store q).2 q.clock
        (nonceKey eth req.context.nonce) q.clock
  := by
  obtain ⟨hneg, -⟩ | ⟨req, hreq, hreach, hvalid, hstore⟩ := verifySignature_cases eth state store q
  · rw [hneg] at h
    cases h
  · have hclaim := hvalid.symm.trans h
    use req, hreq, hreach, hclaim
    rw [hstore]
    apply remembered_of_claim hclaim

/-- After a nonce was accepted with a timestamp fresh at `t`, no request of a later run
with that nonce and timestamp is answered positively. -/
theorem serve_rejects_remembered {eth : Ethers} {state : AppState} {nonce : String}
    {timestamp : Option UInt64} {t : Nat} (ht : t < 2 ^ 63 * nanosPerSecond)
    (hfresh : validateTimestampInternal timestamp state.signatureExpirySeconds
      state.clockSkewSeconds (unixSeconds t) = .ok ())
    (arrivals : List Arrival) :
    ∀ (store : MemoryNonceStore) (now : Nat), t ≤ now →
      Remembered (nonceRetentionTtl state) store now (nonceKey eth nonce) t →
      (∀ q ∈ arrivals, now ≤ q.clock ∧ q.clock < 2 ^ 63 * nanosPerSecond) →
      arrivals.Pairwise (fun q q' => q.clock ≤ q'.clock) →
      ∀ x ∈ serve eth state store arrivals,
        x.2.body.isValid = true → x.1.token ≠ some (nonce, timestamp)
  := by
  induction arrivals with
  | nil =>
      intro _ _ _ _ _ _ x hx
      cases hx
  | cons q qs ih =>
      intro store now hnow hrem hclock hsorted x hx hvalid
      obtain ⟨hq, hqlt⟩ := hclock q List.mem_cons_self
      obtain ⟨hle, hsorted'⟩ := List.pairwise_cons.mp hsorted
      have hrem' := hrem.later hq
      rcases List.mem_cons.mp hx with rfl | hx
      · intro htoken
        obtain ⟨req, hreq, ⟨-, hts, -⟩, hclaim, -⟩ := verifySignature_valid hvalid
        simp only [Arrival.token, hreq, Option.some.injEq, Prod.mk.injEq] at htoken
        obtain ⟨rfl, rfl⟩ := htoken
        have hfar := hrem'.lt_of_claim hclaim
        have hnear := lt_add_nonceRetentionTtl_of_fresh ht hqlt hfresh hts
        omega
      · apply ih _ q.clock (le_trans hnow hq) _ _ hsorted' x hx hvalid
        · apply hrem'.verifySignature (le_trans hnow hq)
        · intro q' hq'
          exact ⟨hle q' hq', (hclock q' (List.mem_cons_of_mem q hq')).2⟩

/-- A run that starts from any store answers positively at most once for each nonce and
timestamp. -/
theorem serve_valid_pairwise {eth : Ethers} {state : AppState} (arrivals : List Arrival) :
    ∀ store : MemoryNonceStore,
      (∀ q ∈ arrivals, q.clock < 2 ^ 63 * nanosPerSecond) →
      arrivals.Pairwise (fun q q' => q.clock ≤ q'.clock) →
      (serve eth state store arrivals).Pairwise fun x y =>
        x.2.body.isValid = true → y.2.body.isValid = true → x.1.token ≠ y.1.token
  := by
  induction arrivals with
  | nil =>
      intro _ _ _
      exact List.Pairwise.nil
  | cons q qs ih =>
      intro store hclock hsorted
      obtain ⟨hle, hsorted'⟩ := List.pairwise_cons.mp hsorted
      have hclock' : ∀ q' ∈ qs, q'.clock < 2 ^ 63 * nanosPerSecond := by
        intro q' hq'
        apply hclock q' (List.mem_cons_of_mem q hq')
      apply List.pairwise_cons.mpr
      constructor
      · intro y hy hx hvalid htoken
        obtain ⟨req, hreq, ⟨-, hts, -⟩, -, hrem⟩ := verifySignature_valid hx
        apply serve_rejects_remembered (hclock q List.mem_cons_self) hts qs _ q.clock le_rfl hrem
          (fun q' hq' => ⟨hle q' hq', hclock' q' hq'⟩) hsorted' y hy hvalid
        rw [← htoken]
        simp only [Arrival.token, hreq]
      · apply ih _ hclock' hsorted'

/-- In every run of the verifier from an empty in-memory store, at clock values that do
not decrease and stay below `2 ^ 63` seconds, no two positive answers are given to
requests with the same nonce and the same timestamp. -/
theorem memory_replay_safe (eth : Ethers) (state : AppState) (start : Nat) (arrivals : List Arrival)
    (hsorted : arrivals.Pairwise fun q q' => q.clock ≤ q'.clock)
    (hclock : ∀ q ∈ arrivals, q.clock < 2 ^ 63 * nanosPerSecond) :
  (serve eth state (memoryNonceStore start) arrivals).Pairwise fun x y =>
    x.2.body.isValid = true → y.2.body.isValid = true → x.1.token ≠ y.1.token
  := by
  apply serve_valid_pairwise arrivals _ hclock hsorted

/-! ### A sample verifier -/

/-- An `ethers` whose hashes repeat the sum of the bytes they are made from, and whose
signatures recover, from a digest of that form, an address that depends on the digest and
the signature. -/
def sampleEthers : Ethers where
  TypedData := TypedDataJson
  Signature := String
  typedDataFromValue := .ok
  signatureFromStr := .ok
  encodeEip712 td := .ok (.replicate 32 (td.message.nonce.toUTF8.data.toList.foldl (· + ·) 0))
  recover sig digest :=
    if digest = .replicate 32 digest[0] then
      .ok (.replicate 20 (digest[0] + sig.toUTF8.data.toList.foldl (· + ·) 0))
    else .error "signature error"
  keccak256 bytes := .replicate 32 (bytes.foldl (· + ·) 0)

/-- The default settings of the verifier. -/
def sampleState : AppState where
  maxBodySize := 1048576
  expectedChainId := 84532
  signatureExpirySeconds := 300
  clockSkewSeconds := 60

/-- A payment context with the given nonce, stamped at second 1000. -/
def sampleContext (nonce : String) : PaymentContext where
  recipient := "0x2cAF48b4BA1C58721a85dFADa5aC01C2DFa62219"
  token := "USDC"
  amount := "0.001"
  nonce := nonce
  chainId := 84532
  timestamp := some 1000

/-- A request with the given nonce and one fixed signature, handled at the given second. -/
def sampleArrival (second : Nat) (nonce : String) : Arrival where
  clock := second * nanosPerSecond
  correlationHeader := none
  payload := .ok { context := sampleContext nonce, signature := "0xsig" }

/-- In a run that asks twice for one nonce at the ends of the window and once for another,
the repeated request is refused and the other two are accepted. -/
theorem memory_replay_safe_sample :
  ((serve sampleEthers sampleState (memoryNonceStore 0)
      [sampleArrival 940 "a", sampleArrival 1300 "a", sampleArrival 1300 "b"]).Pairwise fun x y =>
    x.2.body.isValid = true → y.2.body.isValid = true → x.1.token ≠ y.1.token)
  ∧ (serve sampleEthers sampleState (memoryNonceStore 0)
      [sampleArrival 940 "a", sampleArrival 1300 "a", sampleArrival 1300 "b"]).map
        (fun x => x.2.body.isValid) = [true, false, true]
  := by
  constructor
  · apply memory_replay_safe
    · decide
    · decide
  · decide +kernel

/-! ### Refused requests -/

/-- At time `t` the store holds the nonce with hash `key`: it was accepted at most `ttl`
ago. -/
def Held (ttl : Nat) (store : MemoryNonceStore) (t : Nat) (key : Digest) : Prop :=
  ∃ insertedAt, store.usedNonces.lookup key = some insertedAt ∧ t - insertedAt ≤ ttl

/-- From time `now` on two stores hold the same nonces. -/
def HoldSame (ttl now : Nat) (store store' : MemoryNonceStore) : Prop :=
  ∀ t, now ≤ t → ∀ key, Held ttl store t key ↔ Held ttl store' t key

/-- Stores that hold the same nonces still do after time has passed. -/
theorem HoldSame.later {ttl now now' : Nat} {store store' : MemoryNonceStore}
    (h : HoldSame ttl now store store') (hnow : now ≤ now') :
  HoldSame ttl now' store store'
  := by
  intro t ht key
  apply h t (le_trans hnow ht)

theorem HoldSame.symm {ttl now : Nat} {store store' : MemoryNonceStore}
    (h : HoldSame ttl now store store') :
  HoldSame ttl now store' store
  := by
  intro t ht key
  apply (h t ht key).symm

theorem HoldSame.trans {ttl now : Nat} {store store' store'' : MemoryNonceStore}
    (h : HoldSame ttl now store store') (h' : HoldSame ttl now store' store'') :
  HoldSame ttl now store store''
  := by
  intro t ht key
  apply (h t ht key).trans (h' t ht key)

/-- A sweep at `now` drops no nonce that the store holds at `now` or later. -/
theorem holdSame_maybeEvict (ttl : Nat) (store : MemoryNonceStore) (now : Nat) :
  HoldSame ttl now (maybeEvictExpiredNonces store now ttl) store
  := by
  intro t ht key
  unfold maybeEvictExpiredNonces
  split
  · rfl
  · constructor
    · rintro ⟨e, he, hte⟩
      use e, (AList.lookup_retain_eq_some.mp he).1
    · rintro ⟨e, he, hte⟩
      use e
      constructor
      · apply AList.lookup_retain_eq_some.mpr
        use he
        apply decide_eq_true
        omega
      · exact hte

/-- A claim succeeds exactly if the store does not hold the nonce. -/
theorem claimMemoryNonce_iff {store : MemoryNonceStore} {key : Digest} {now ttl : Nat} :
  (claimMemoryNonce store key now ttl).1 = true ↔ ¬ Held ttl store now key
  := by
  rw [← holdSame_maybeEvict ttl store now now le_rfl key]
  obtain ⟨hfail, -, e, he, hle⟩ | ⟨hok, -, hlate⟩ := claimMemoryNonce_cases store key now ttl
  · rw [hfail]
    simp only [Bool.false_eq_true, false_iff, not_not]
    use e, he
  · rw [hok]
    simp only [true_iff]
    rintro ⟨e, he, hle⟩
    have := hlate e he
    omega

/-- Recording one nonce in stores that hold the same nonces keeps them so. -/
theorem HoldSame.insert {ttl now : Nat} {store store' : MemoryNonceStore}
    (h : HoldSame ttl now store store') (key : Digest) :
  HoldSame ttl now { store with usedNonces := store.usedNonces.insert key now }
    { store' with usedNonces := store'.usedNonces.insert key now }
  := by
  intro t ht key'
  by_cases hkey : key' = key
  · subst hkey
    simp only [Held, AList.lookup_insert]
  · simp only [Held, AList.lookup_insert_ne hkey]
    apply h t ht

/-- A refused claim changes nothing in what the store holds. -/
theorem holdSame_of_refused {ttl now : Nat} {store : MemoryNonceStore} {key : Digest}
    (h : (claimMemoryNonce store key now ttl).1 = false) :
  HoldSame ttl now (claimMemoryNonce store key now ttl).2 store
  := by
  obtain ⟨-, hstore, -⟩ | ⟨hok, -⟩ := claimMemoryNonce_cases store key now ttl
  · rw [hstore]
    apply holdSame_maybeEvict
  · rw [hok] at h
    cases h

/-- Stores that hold the same nonces answer a claim alike and hold the same nonces after
it. -/
theorem HoldSame.claim {ttl now : Nat} {store store' : MemoryNonceStore}
    (h : HoldSame ttl now store store') (key : Digest) :
  (claimMemoryNonce store key now ttl).1 = (claimMemoryNonce store' key now ttl).1
    ∧ HoldSame ttl now (claimMemoryNonce store key now ttl).2 (claimMemoryNonce store' key now ttl).2
  := by
  have hanswer : (claimMemoryNonce store key now ttl).1 = (claimMemoryNonce store' key now ttl).1 := by
    rw [Bool.eq_iff_iff, claimMemoryNonce_iff, claimMemoryNonce_iff, h now le_rfl key]
  use hanswer
  obtain ⟨hfail, -⟩ | ⟨hok, hstore, -⟩ := claimMemoryNonce_cases store key now ttl
  · apply (holdSame_of_refused hfail).trans
    apply h.trans
    apply (holdSame_of_refused (hanswer ▸ hfail)).symm
  · obtain ⟨hfail', -⟩ | ⟨-, hstore', -⟩ := claimMemoryNonce_cases store' key now ttl
    · rw [← hanswer, hok] at hfail'
      cases hfail'
    · rw [hstore, hstore']
      apply HoldSame.insert
      apply (holdSame_maybeEvict ttl store now).trans
      apply h.trans
      apply (holdSame_maybeEvict ttl store' now).symm

/-- Stores that hold the same nonces answer a request alike and hold the same nonces after
it. -/
theorem HoldSame.verifySignature {eth : Ethers} {state : AppState} {store store' : MemoryNonceStore}
    {q : Arrival} (h : HoldSame (nonceRetentionTtl state) q.clock store store') :
  (Verifier.verifySignature eth state store q).1 = (Verifier.verifySignature eth state store' q).1
    ∧ HoldSame (nonceRetentionTtl state) q.clock (Verifier.verifySignature eth state store q).2
        (Verifier.verifySignature eth state store' q).2
  := by
  simp only [Verifier.verifySignature]
  split
  · exact ⟨rfl, h⟩
  · rename_i req addr _
    obtain ⟨hanswer, hstores⟩ := h.claim (nonceKey eth req.context.nonce)
    simp only [hanswer, true_and]
    exact hstores

/-- A refused request changes nothing in what the store holds. -/
theorem holdSame_of_rejected {eth : Ethers} {state : AppState} {store : MemoryNonceStore}
    {q : Arrival} (h : (verifySignature eth state store q).1.body.isValid = false) :
  HoldSame (nonceRetentionTtl state) q.clock (verifySignature eth state store q).2 store
  := by
  obtain ⟨-, hstore, -⟩ | ⟨req, -, -, hvalid, hstore⟩ := verifySignature_cases eth state store q
  · rw [hstore]
    intro t _ key
    rfl
  · rw [hstore]
    apply holdSame_of_refused
    rw [← hvalid, h]

/-- The requests and answers of a run with some of the refused requests left out. -/
inductive LeavesOut : List (Arrival × Reply) → List (Arrival × Reply) → Prop
  | nil : LeavesOut [] []
  | keep {x : Arrival × Reply} {xs ys : List (Arrival × Reply)} :
      LeavesOut xs ys → LeavesOut (x :: xs) (x :: ys)
  | drop {x : Arrival × Reply} {xs ys : List (Arrival × Reply)} :
      x.2.body.isValid = false → LeavesOut xs ys → LeavesOut (x :: xs) ys

/-- A run with refused requests left out is the run of the remaining requests, from any
store that holds the same nonces. -/
theorem serve_of_leavesOut {eth : Ethers} {state : AppState} (arrivals : List Arrival) :
    ∀ (store store' : MemoryNonceStore) (now : Nat) (kept : List (Arrival × Reply)),
      HoldSame (nonceRetentionTtl state) now store store' →
      (∀ q ∈ arrivals, now ≤ q.clock) →
      arrivals.Pairwise (fun q q' => q.clock ≤ q'.clock) →
      LeavesOut (serve eth state store arrivals) kept →
      serve eth state store' (kept.map Prod.fst) = kept
  := by
  induction arrivals with
  | nil =>
      intro store store' now kept _ _ _ hkept
      cases hkept
      rfl
  | cons q qs ih =>
      intro store store' now kept hsame hclock hsorted hkept
      obtain ⟨hle, hsorted'⟩ := List.pairwise_cons.mp hsorted
      have hsame' := hsame.later (hclock q List.mem_cons_self)
      cases hkept with
      | keep hkept =>
          obtain ⟨hanswer, hstores⟩ := hsame'.verifySignature
          rw [List.map_cons, serve, ih _ _ q.clock _ hstores hle hsorted' hkept, hanswer]
      | drop hrejected hkept =>
          apply ih _ _ q.clock _ _ hle hsorted' hkept
          apply (holdSame_of_rejected hrejected).trans hsame'

/-- In every run of the verifier from any in-memory store, at clock values that do not
decrease, leaving out any of the requests that were refused leaves every other answer as it
was.  A refused request neither burns a nonce nor makes a claim last longer: at any later
time every nonce can be claimed exactly if it could be without the request. -/
theorem rejected_invisible (eth : Ethers) (state : AppState) (store : MemoryNonceStore)
    (arrivals : List Arrival) (hsorted : arrivals.Pairwise fun q q' => q.clock ≤ q'.clock) :
  (∀ kept, LeavesOut (serve eth state store arrivals) kept →
      serve eth state store (kept.map Prod.fst) = kept)
    ∧ ∀ (store' : MemoryNonceStore) (q : Arrival),
        (verifySignature eth state store' q).1.body.isValid = false →
        ∀ t, q.clock ≤ t → ∀ key,
          (claimMemoryNonce (verifySignature eth state store' q).2 key t (nonceRetentionTtl state)).1
            = (claimMemoryNonce store' key t (nonceRetentionTtl state)).1
  := by
  constructor
  · intro kept hkept
    apply serve_of_leavesOut arrivals store store 0 kept _ _ hsorted hkept
    · intro t _ key
      rfl
    · intro q _
      apply Nat.zero_le
  · intro store' q hrejected t ht key
    apply ((holdSame_of_rejected hrejected).later ht |>.claim key).1

/-- In a run that accepts a nonce, refuses it again after a sweep is due, and accepts another
one, leaving out the refused request leaves the two accepted ones. -/
theorem rejected_invisible_sample :
  (serve sampleEthers sampleState (memoryNonceStore 0)
      [sampleArrival 940 "a", sampleArrival 1000 "a", sampleArrival 1300 "b"]).map
        (fun x => x.2.body.isValid) = [true, false, true]
    ∧ (serve sampleEthers sampleState (memoryNonceStore 0)
        [sampleArrival 940 "a", sampleArrival 1300 "b"]).map
          (fun x => x.2.body.isValid) = [true, true]
  := by
  have hvalid : (serve sampleEthers sampleState (memoryNonceStore 0)
      [sampleArrival 940 "a", sampleArrival 1000 "a", sampleArrival 1300 "b"]).map
        (fun x => x.2.body.isValid) = [true, false, true] := by
    decide +kernel
  use hvalid
  simp only [serve, List.map_cons, List.map_nil, List.cons.injEq, and_true] at hvalid
  obtain ⟨hfirst, hsecond, hthird⟩ := hvalid
  have hrun := (rejected_invisible sampleEthers sampleState (memoryNonceStore 0)
    [sampleArrival 940 "a", sampleArrival 1000 "a", sampleArrival 1300 "b"] (by decide)).1 _
    (.keep (.drop hsecond (.keep .nil)))
  simp only [List.map_cons, List.map_nil] at hrun
  rw [hrun]
  simp only [List.map_cons, List.map_nil, hfirst, hthird]

end Paygate.Verifier
