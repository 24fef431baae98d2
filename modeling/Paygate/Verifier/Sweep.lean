import Mathlib.Data.Finset.Dedup
import Paygate.Base.Register
import Paygate.Verifier.Memory

/-!
# Sweeping the nonce store

Runs of claims on the in-memory nonce store, at instants that do not decrease.

An accepted nonce leaves the map in a sweep or is overwritten once it has expired.  Neither
shows: the answers are those of a register from which nothing is removed and in which a nonce
stays visible through `ttl` (`claimNonces_eq_setAll`), as a `SET NX EX` would answer.

The sweeps keep the map small.  The last sweep is less than the sweep interval ago after each
claim, and what it left was then at most `ttl` old, so every entry is at most `ttl` and one
sweep interval old (`Swept`).
-/

namespace Paygate.Verifier

/-! ### Runs of claims -/

/-- A claim of a nonce, with the instant at which it is made. -/
structure NonceClaim where
  nonce : String
  now : Nat
  deriving DecidableEq, Repr

/-- The claims of a run, each with its answer. -/
def claimNonces (eth : Ethers) (ttl : Nat) :
    MemoryNonceStore → List NonceClaim → List (NonceClaim × Bool)
  | _, [] => []
  | store, c :: claims =>
      let claim := claimMemoryNonce store (nonceKey eth c.nonce) c.now ttl
      (c, claim.1) :: claimNonces eth ttl claim.2 claims

/-- The store after a run. -/
def storeAfter (eth : Ethers) (ttl : Nat) (store : MemoryNonceStore) (claims : List NonceClaim) :
    MemoryNonceStore :=
  claims.foldl (fun s c => (claimMemoryNonce s (nonceKey eth c.nonce) c.now ttl).2) store

/-! ### Sweeping does not show -/

/-- After a claim succeeds at `now` its nonce is held through `ttl`, and the other nonces are
held as before. -/
theorem held_claim {ttl : Nat} {store : MemoryNonceStore} {key : Digest} {now : Nat}
    (h : (claimMemoryNonce store key now ttl).1 = true) {t : Nat} (ht : now ≤ t) {key' : Digest} :
  Held ttl (claimMemoryNonce store key now ttl).2 t key'
    ↔ if key' = key then t ≤ now + ttl else Held ttl store t key'
  := by
  obtain ⟨hfail, -⟩ | ⟨-, hstore, -⟩ := claimMemoryNonce_cases store key now ttl
  · rw [hfail] at h
    cases h
  · rw [hstore]
    by_cases hkey : key' = key
    · subst hkey
      simp only [Held, AList.lookup_insert, Option.some.injEq, exists_eq_left', if_true]
      omega
    · rw [if_neg hkey, ← holdSame_maybeEvict ttl store now t ht key']
      simp only [Held, AList.lookup_insert_ne hkey]

/-- From time `now` on the store holds those of the given nonces whose names are visible in the
register. -/
def Agree (eth : Ethers) {κ : Type} (name : String → κ) (nonces : List String) (ttl now : Nat)
    (store : MemoryNonceStore) (register : Register κ) : Prop :=
  ∀ t, now ≤ t → ∀ nonce ∈ nonces,
    (Held ttl store t (nonceKey eth nonce) ↔ register.Visible ttl t (name nonce))

section

variable {eth : Ethers} {κ : Type} [DecidableEq κ] {name : String → κ} {nonces : List String}
  {ttl now : Nat} {store : MemoryNonceStore} {register : Register κ}

/-- An agreeing store and register answer a claim alike and agree after it. -/
theorem Agree.claim (h : Agree eth name nonces ttl now store register)
    (hname : ∀ nonce ∈ nonces, ∀ nonce' ∈ nonces,
      nonceKey eth nonce = nonceKey eth nonce' ↔ name nonce = name nonce')
    {c : NonceClaim} (hc : c.nonce ∈ nonces) (hnow : now ≤ c.now) :
  (claimMemoryNonce store (nonceKey eth c.nonce) c.now ttl).1
      = (register.setNx ttl (name c.nonce) c.now).1
    ∧ Agree eth name nonces ttl c.now (claimMemoryNonce store (nonceKey eth c.nonce) c.now ttl).2
        (register.setNx ttl (name c.nonce) c.now).2
  := by
  have hanswer : (claimMemoryNonce store (nonceKey eth c.nonce) c.now ttl).1
      = (register.setNx ttl (name c.nonce) c.now).1 := by
    rw [Bool.eq_iff_iff, claimMemoryNonce_iff, Register.setNx_iff, h c.now hnow c.nonce hc]
  use hanswer
  intro t ht nonce hnonce
  have hbefore := h t (le_trans hnow ht) nonce hnonce
  by_cases hset : (register.setNx ttl (name c.nonce) c.now).1 = true
  · rw [held_claim (hanswer.trans hset) ht, Register.visible_setNx hset]
    simp only [hname nonce hnonce c.nonce hc, hbefore]
  · have hrefused := holdSame_of_refused (hanswer.trans (Bool.eq_false_iff.mpr hset))
    rw [hrefused t ht, hbefore]
    obtain ⟨-, heq⟩ | ⟨hvis, -⟩ := register.setNx_cases ttl (name c.nonce) c.now
    · rw [heq]
    · exact absurd (Register.setNx_iff.mpr hvis) hset

/-- An agreeing store and register answer a run alike. -/
theorem claimNonces_of_agree (claims : List NonceClaim)
    (hname : ∀ nonce ∈ nonces, ∀ nonce' ∈ nonces,
      nonceKey eth nonce = nonceKey eth nonce' ↔ name nonce = name nonce') :
    ∀ (store : MemoryNonceStore) (register : Register κ) (now : Nat),
      Agree eth name nonces ttl now store register →
      (∀ c ∈ claims, c.nonce ∈ nonces) → (∀ c ∈ claims, now ≤ c.now) →
      claims.Pairwise (fun c c' => c.now ≤ c'.now) →
      (claimNonces eth ttl store claims).map (fun x => ((name x.1.nonce, x.1.now), x.2))
        = register.setAll ttl (claims.map fun c => (name c.nonce, c.now))
  := by
  induction claims with
  | nil =>
      intros
      rfl
  | cons c claims ih =>
      intro store register now hagree hnonces hnow hsorted
      obtain ⟨hle, hsorted'⟩ := List.pairwise_cons.mp hsorted
      obtain ⟨hc, hnonces'⟩ := List.forall_mem_cons.mp hnonces
      obtain ⟨hanswer, hagree'⟩ := hagree.claim hname hc (hnow c List.mem_cons_self)
      simp only [claimNonces, List.map_cons, Register.setAll]
      rw [ih _ _ c.now hagree' hnonces' hle hsorted', hanswer]

end

/-- The empty store and the empty register agree. -/
theorem agree_empty (eth : Ethers) {κ : Type} (name : String → κ) (nonces : List String)
    (ttl lastSweep : Nat) :
  Agree eth name nonces ttl 0 ⟨∅, lastSweep⟩ Register.empty
  := by
  intro t _ nonce _
  constructor
  · rintro ⟨e, he, -⟩
    cases he
  · intro h
    exact absurd h Register.not_visible_empty

/-- The nonces of the claims have different hashes. -/
def NoCollision (eth : Ethers) (claims : List NonceClaim) : Prop :=
  ∀ c ∈ claims, ∀ c' ∈ claims, nonceKey eth c.nonce = nonceKey eth c'.nonce → c.nonce = c'.nonce

/-- The answers of a run that starts with an empty store are those of the register, for any
names that are as different as the hashes. -/
theorem claimNonces_eq_setAll_name {eth : Ethers} {κ : Type} [DecidableEq κ] {name : String → κ}
    (ttl lastSweep : Nat) {claims : List NonceClaim}
    (hname : ∀ c ∈ claims, ∀ c' ∈ claims,
      nonceKey eth c.nonce = nonceKey eth c'.nonce ↔ name c.nonce = name c'.nonce)
    (hsorted : claims.Pairwise fun c c' => c.now ≤ c'.now) :
  (claimNonces eth ttl ⟨∅, lastSweep⟩ claims).map (fun x => ((name x.1.nonce, x.1.now), x.2))
    = Register.setAll ttl Register.empty (claims.map fun c => (name c.nonce, c.now))
  := by
  have hname' : ∀ nonce ∈ claims.map NonceClaim.nonce, ∀ nonce' ∈ claims.map NonceClaim.nonce,
      nonceKey eth nonce = nonceKey eth nonce' ↔ name nonce = name nonce' := by
    simpa only [List.forall_mem_map] using hname
  apply claimNonces_of_agree claims hname' _ _ 0 (agree_empty eth name _ ttl lastSweep)
  · intro c hc
    exact List.mem_map_of_mem hc
  · intro c _
    apply Nat.zero_le
  · exact hsorted

/-- From an empty store, whenever it was last swept, claims at instants that do not decrease are
answered as by a register of the hashes of the nonces from which nothing is removed.  If the
nonces have different hashes, it may as well be a register of the nonces, and a claim succeeds
exactly if every earlier success with its nonce is more than `ttl` ago. -/
theorem claimNonces_eq_setAll (eth : Ethers) (ttl lastSweep : Nat) (claims : List NonceClaim)
    (hsorted : claims.Pairwise fun c c' => c.now ≤ c'.now) :
  (claimNonces eth ttl ⟨∅, lastSweep⟩ claims).map
        (fun x => ((nonceKey eth x.1.nonce, x.1.now), x.2))
      = Register.setAll ttl Register.empty (claims.map fun c => (nonceKey eth c.nonce, c.now))
    ∧ (NoCollision eth claims →
      (claimNonces eth ttl ⟨∅, lastSweep⟩ claims).map (fun x => ((x.1.nonce, x.1.now), x.2))
          = Register.setAll ttl Register.empty (claims.map fun c => (c.nonce, c.now))
        ∧ ∀ before c b after,
          claimNonces eth ttl ⟨∅, lastSweep⟩ claims = before ++ (c, b) :: after →
          (b = true ↔ ∀ c', (c', true) ∈ before → c'.nonce = c.nonce → c'.now + ttl < c.now))
  := by
  constructor
  · apply claimNonces_eq_setAll_name ttl lastSweep _ hsorted
    intro c _ c' _
    rfl
  · intro hcollision
    have hname : ∀ c ∈ claims, ∀ c' ∈ claims,
        nonceKey eth c.nonce = nonceKey eth c'.nonce ↔ id c.nonce = id c'.nonce := by
      intro c hc c' hc'
      exact ⟨hcollision c hc c' hc', fun h => congrArg _ h⟩
    have hanswers := claimNonces_eq_setAll_name ttl lastSweep hname hsorted
    use hanswers
    intro before c b after hsplit
    rw [hsplit, List.map_append, List.map_cons] at hanswers
    have hsorted' : (claims.map fun c => (c.nonce, c.now)).Pairwise fun p p' => p.2 ≤ p'.2 :=
      List.pairwise_map.mpr hsorted
    rw [Register.setAll_iff hsorted' hanswers.symm]
    constructor
    · intro h c' hc' hnonce
      apply h
      apply List.mem_map.mpr
      exact ⟨(c', true), hc', by rw [id, hnonce, id]⟩
    · intro h s hs
      obtain ⟨⟨c', b'⟩, hc', heq⟩ := List.mem_map.mp hs
      simp only [id, Prod.mk.injEq] at heq
      obtain ⟨⟨hnonce, rfl⟩, rfl⟩ := heq
      apply h c' hc' hnonce

/-- A claim of the given nonce at the given second. -/
def sampleClaim (second : Nat) (nonce : String) : NonceClaim where
  nonce := nonce
  now := second * nanosPerSecond

/-- With a retention time of 100 seconds, a nonce is refused at the end of it and accepted
again later, and a nonce that a sweep removed is accepted. -/
theorem claimNonces_eq_setAll_sample :
  (claimNonces sampleEthers (100 * nanosPerSecond) ⟨∅, 7⟩
      [sampleClaim 0 "a", sampleClaim 0 "b", sampleClaim 100 "a", sampleClaim 101 "a",
        sampleClaim 161 "b"]).map (fun x => x.2) = [true, true, false, true, true]
    ∧ ∀ before c b after,
      claimNonces sampleEthers (100 * nanosPerSecond) ⟨∅, 7⟩
          [sampleClaim 0 "a", sampleClaim 0 "b", sampleClaim 100 "a", sampleClaim 101 "a",
            sampleClaim 161 "b"] = before ++ (c, b) :: after →
      (b = true ↔ ∀ c', (c', true) ∈ before → c'.nonce = c.nonce →
        c'.now + 100 * nanosPerSecond < c.now)
  := by
  constructor
  · decide +kernel
  · apply ((claimNonces_eq_setAll sampleEthers (100 * nanosPerSecond) 7 _ (by decide)).2
      _).2
    intro c hc c' hc'
    revert c hc c' hc'
    decide +kernel

/-! ### The age of the entries -/

/-- The store at time `now`: the last sweep and the entries are not in the future, and no entry
was older than `ttl` at the last sweep. -/
structure Swept (ttl now : Nat) (store : MemoryNonceStore) : Prop where
  sweep_le : store.lastNonceSweep ≤ now
  entry : ∀ key insertedAt, store.usedNonces.lookup key = some insertedAt →
    insertedAt ≤ now ∧ store.lastNonceSweep ≤ insertedAt + ttl

/-- A new store was swept when it was made. -/
theorem swept_memoryNonceStore (ttl start : Nat) : Swept ttl start (memoryNonceStore start)
  := by
  constructor
  · exact le_refl start
  · intro key insertedAt h
    cases h

/-- Time passing changes nothing in what was swept. -/
theorem Swept.later {ttl now now' : Nat} {store : MemoryNonceStore} (h : Swept ttl now store)
    (hnow : now ≤ now') :
  Swept ttl now' store
  := by
  constructor
  · exact le_trans h.sweep_le hnow
  · intro key insertedAt hkey
    obtain ⟨hle, hsweep⟩ := h.entry key insertedAt hkey
    exact ⟨le_trans hle hnow, hsweep⟩

/-- After a sweep that may be skipped the last sweep is less than the sweep interval ago. -/
theorem Swept.maybeEvict {ttl now : Nat} {store : MemoryNonceStore} (h : Swept ttl now store) :
  Swept ttl now (maybeEvictExpiredNonces store now ttl)
    ∧ now - (maybeEvictExpiredNonces store now ttl).lastNonceSweep
        < durationFromSecs nonceSweepIntervalSeconds
  := by
  unfold maybeEvictExpiredNonces
  split
  · rename_i hrecent
    exact ⟨h, hrecent⟩
  · constructor
    · constructor
      · exact le_refl now
      · intro key insertedAt hkey
        obtain ⟨hheld, hkeep⟩ := AList.lookup_retain_eq_some.mp hkey
        have hage := of_decide_eq_true hkeep
        exact ⟨(h.entry key insertedAt hheld).1, by dsimp only; omega⟩
    · rw [Nat.sub_self]
      decide

/-- Recording a nonce at `now` keeps the store swept. -/
theorem Swept.insert {ttl now : Nat} {store : MemoryNonceStore} (h : Swept ttl now store)
    (key : Digest) :
  Swept ttl now { store with usedNonces := store.usedNonces.insert key now }
  := by
  constructor
  · exact h.sweep_le
  · intro key' insertedAt hkey
    have hsweep := h.sweep_le
    by_cases heq : key' = key
    · subst heq
      rw [AList.lookup_insert] at hkey
      obtain rfl := Option.some.inj hkey
      exact ⟨le_refl now, le_trans hsweep (Nat.le_add_right now ttl)⟩
    · rw [AList.lookup_insert_ne heq] at hkey
      exact h.entry key' insertedAt hkey

/-- A claim keeps the store swept, and after it the last sweep is less than the sweep interval
ago. -/
theorem Swept.claim {ttl now : Nat} {store : MemoryNonceStore} (h : Swept ttl now store)
    (key : Digest) :
  Swept ttl now (claimMemoryNonce store key now ttl).2
    ∧ now - (claimMemoryNonce store key now ttl).2.lastNonceSweep
        < durationFromSecs nonceSweepIntervalSeconds
  := by
  obtain ⟨hswept, hrecent⟩ := h.maybeEvict
  obtain ⟨-, hstore, -⟩ | ⟨-, hstore, -⟩ := claimMemoryNonce_cases store key now ttl
  · rw [hstore]
    exact ⟨hswept, hrecent⟩
  · rw [hstore]
    exact ⟨hswept.insert key, hrecent⟩

/-- A run keeps the store swept. -/
theorem Swept.storeAfter {eth : Ethers} {ttl : Nat} (claims : List NonceClaim) :
    ∀ (store : MemoryNonceStore) (now now' : Nat), Swept ttl now store → now ≤ now' →
      (∀ c ∈ claims, now ≤ c.now ∧ c.now ≤ now') →
      claims.Pairwise (fun c c' => c.now ≤ c'.now) →
      Swept ttl now' (Verifier.storeAfter eth ttl store claims)
  := by
  induction claims with
  | nil =>
      intro store now now' h hnow _ _
      exact h.later hnow
  | cons c claims ih =>
      intro store now now' h _ hclaims hsorted
      obtain ⟨hle, hsorted'⟩ := List.pairwise_cons.mp hsorted
      obtain ⟨⟨hc, hc'⟩, hclaims'⟩ := List.forall_mem_cons.mp hclaims
      apply ih _ c.now now' ((h.later hc).claim (nonceKey eth c.nonce)).1 hc'
      · intro x hx
        exact ⟨hle x hx, (hclaims' x hx).2⟩
      · exact hsorted'

/-- An entry in the store after a claim was there before, or is that of the successful
claim. -/
theorem lookup_claimMemoryNonce {store : MemoryNonceStore} {key key' : Digest}
    {now ttl insertedAt : Nat}
    (h : (claimMemoryNonce store key now ttl).2.usedNonces.lookup key' = some insertedAt) :
  store.usedNonces.lookup key' = some insertedAt
    ∨ ((claimMemoryNonce store key now ttl).1 = true ∧ key' = key ∧ insertedAt = now)
  := by
  have hevict : ∀ {k e}, (maybeEvictExpiredNonces store now ttl).usedNonces.lookup k = some e →
      store.usedNonces.lookup k = some e := by
    intro k e hk
    unfold maybeEvictExpiredNonces at hk
    split at hk
    · exact hk
    · exact (AList.lookup_retain_eq_some.mp hk).1
  obtain ⟨-, hstore, -⟩ | ⟨hok, hstore, -⟩ := claimMemoryNonce_cases store key now ttl
  · rw [hstore] at h
    exact Or.inl (hevict h)
  · rw [hstore] at h
    by_cases heq : key' = key
    · subst heq
      rw [AList.lookup_insert] at h
      exact Or.inr ⟨hok, rfl, (Option.some.inj h).symm⟩
    · rw [AList.lookup_insert_ne heq] at h
      exact Or.inl (hevict h)

/-- An entry in the store after a run was there before, or is that of a successful claim of the
run. -/
theorem lookup_storeAfter {eth : Ethers} {ttl : Nat} {key : Digest} {insertedAt : Nat}
    (claims : List NonceClaim) :
    ∀ store : MemoryNonceStore,
      (storeAfter eth ttl store claims).usedNonces.lookup key = some insertedAt →
      store.usedNonces.lookup key = some insertedAt
        ∨ ∃ c, (c, true) ∈ claimNonces eth ttl store claims ∧ nonceKey eth c.nonce = key
          ∧ c.now = insertedAt
  := by
  induction claims with
  | nil =>
      intro store h
      exact Or.inl h
  | cons c claims ih =>
      intro store h
      rcases ih _ h with h | ⟨c', hc', hkey, hnow⟩
      · rcases lookup_claimMemoryNonce h with h | ⟨hok, hkey, hnow⟩
        · exact Or.inl h
        · right
          use c
          simp only [claimNonces, hok]
          exact ⟨List.mem_cons_self, hkey.symm, hnow.symm⟩
      · right
        exact ⟨c', List.mem_cons_of_mem _ hc', hkey, hnow⟩

/-- In a run on a new store, every entry left after a claim was made within the last `ttl` and
one sweep interval. -/
theorem insertedAt_within {eth : Ethers} {ttl start : Nat} {claims : List NonceClaim}
    {c : NonceClaim} (hsorted : (claims ++ [c]).Pairwise fun c c' => c.now ≤ c'.now)
    (hstart : ∀ c' ∈ claims ++ [c], start ≤ c'.now) {key : Digest} {insertedAt : Nat}
    (hkey : (storeAfter eth ttl (memoryNonceStore start) (claims ++ [c])).usedNonces.lookup key
      = some insertedAt) :
  insertedAt ≤ c.now ∧ c.now - insertedAt ≤ ttl + durationFromSecs nonceSweepIntervalSeconds
  := by
  obtain ⟨hsorted', -, hlast⟩ := List.pairwise_append.mp hsorted
  have hle : ∀ x ∈ claims, start ≤ x.now ∧ x.now ≤ c.now := by
    intro x hx
    exact ⟨hstart x (List.mem_append_left _ hx), hlast x hx c (List.mem_singleton.mpr rfl)⟩
  have hc := hstart c (List.mem_append_right _ (List.mem_singleton.mpr rfl))
  have hbefore : Swept ttl c.now (Verifier.storeAfter eth ttl (memoryNonceStore start) claims) :=
    Swept.storeAfter claims _ start c.now (swept_memoryNonceStore ttl start) hc hle hsorted'
  obtain ⟨hswept, hrecent⟩ := hbefore.claim (nonceKey eth c.nonce)
  rw [storeAfter, List.foldl_append] at hkey
  obtain ⟨hpast, hsweep⟩ := hswept.entry key insertedAt hkey
  exact ⟨hpast, by omega⟩

/-- The nonces accepted in a run at most `age` before `now`, each once. -/
def acceptedWithin (age now : Nat) (answers : List (NonceClaim × Bool)) : List String :=
  ((answers.filter fun x => x.2 ∧ now - x.1.now ≤ age).map fun x => x.1.nonce).dedup

theorem mem_acceptedWithin {age now : Nat} {answers : List (NonceClaim × Bool)}
    {c : NonceClaim} (hc : (c, true) ∈ answers) (hage : now - c.now ≤ age) :
  c.nonce ∈ acceptedWithin age now answers
  := by
  rw [acceptedWithin, List.mem_dedup]
  apply List.mem_map.mpr
  use (c, true)
  simp only [List.mem_filter, hc, decide_eq_true_eq, hage, and_self]

/-- In every run of claims on a new store, at instants that do not decrease and not before the
store was made, every entry left after a claim was made within the last `ttl` and one sweep
interval, and the store has no more entries than nonces were accepted in that window. -/
theorem usedNonces_within (eth : Ethers) (ttl start : Nat) (claims : List NonceClaim)
    (c : NonceClaim) (hsorted : (claims ++ [c]).Pairwise fun c c' => c.now ≤ c'.now)
    (hstart : ∀ c' ∈ claims ++ [c], start ≤ c'.now) :
  (∀ key insertedAt,
      (storeAfter eth ttl (memoryNonceStore start) (claims ++ [c])).usedNonces.lookup key
          = some insertedAt →
        insertedAt ≤ c.now
          ∧ c.now - insertedAt ≤ ttl + durationFromSecs nonceSweepIntervalSeconds)
    ∧ (storeAfter eth ttl (memoryNonceStore start) (claims ++ [c])).usedNonces.entries.length
      ≤ (acceptedWithin (ttl + durationFromSecs nonceSweepIntervalSeconds) c.now
          (claimNonces eth ttl (memoryNonceStore start) (claims ++ [c]))).length
  := by
  constructor
  · intro key insertedAt hkey
    apply insertedAt_within hsorted hstart hkey
  · have hsubset : (storeAfter eth ttl (memoryNonceStore start) (claims ++ [c])).usedNonces.keys
        ⊆ (acceptedWithin (ttl + durationFromSecs nonceSweepIntervalSeconds) c.now
            (claimNonces eth ttl (memoryNonceStore start) (claims ++ [c]))).map (nonceKey eth) := by
      intro key hkey
      obtain ⟨insertedAt, hlookup⟩ :=
        Option.isSome_iff_exists.mp (AList.lookup_isSome.mpr (AList.mem_keys.mpr hkey))
      obtain ⟨-, hage⟩ := insertedAt_within hsorted hstart hlookup
      rcases lookup_storeAfter _ _ hlookup with hnew | ⟨c', hc', rfl, rfl⟩
      · cases hnew
      · exact List.mem_map_of_mem (mem_acceptedWithin hc' hage)
    have hlength := (List.subperm_of_subset (AList.keys_nodup _) hsubset).length_le
    rwa [AList.keys, List.keys, List.length_map, List.length_map] at hlength

/-- With a retention time of 30 seconds, the claim at second 90 sweeps away the three nonces
accepted before, and the store is left with two entries. -/
theorem usedNonces_within_sample :
  (storeAfter sampleEthers (30 * nanosPerSecond) (memoryNonceStore 0)
        [sampleClaim 0 "a", sampleClaim 10 "b", sampleClaim 50 "c", sampleClaim 90 "d",
          sampleClaim 111 "e"]).usedNonces.entries.length = 2
    ∧ (storeAfter sampleEthers (30 * nanosPerSecond) (memoryNonceStore 0)
        ([sampleClaim 0 "a", sampleClaim 10 "b", sampleClaim 50 "c", sampleClaim 90 "d"]
          ++ [sampleClaim 111 "e"])).usedNonces.entries.length
      ≤ (acceptedWithin (30 * nanosPerSecond + durationFromSecs nonceSweepIntervalSeconds)
          (111 * nanosPerSecond)
          (claimNonces sampleEthers (30 * nanosPerSecond) (memoryNonceStore 0)
            ([sampleClaim 0 "a", sampleClaim 10 "b", sampleClaim 50 "c", sampleClaim 90 "d"]
              ++ [sampleClaim 111 "e"]))).length
  := by
  constructor
  · decide
  · apply (usedNonces_within sampleEthers (30 * nanosPerSecond) 0 _ (sampleClaim 111 "e")
      (by decide) (by decide)).2

end Paygate.Verifier
