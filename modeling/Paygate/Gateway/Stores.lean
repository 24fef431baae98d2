import Paygate.Base.Expiry
import Paygate.Base.Moments
import Paygate.Gateway.ReceiptStore
import Paygate.Gateway.RedisStore

/-!
# The two receipt stores

`InMemoryReceiptStore` and `RedisReceiptStore` are given the same calls at the same times.  The
calls of the store in memory interleave at their steps; Redis takes a `Store` at once.  Both back
the shelf of the receipts that were stored last: memory holds a receipt in force up to and
including the time it expires, Redis before that time only.

What a `Get` of the store in memory returns is what the shelf has at some moment of the call,
and what Redis has at that moment, unless a receipt with the id is stored while the call is under
way and the call returns none.
-/

namespace Paygate.Gateway

open Text Json Program Machine

/-! ### The shelf of receipts -/

/-- An entry of the store in memory, as an item with a deadline. -/
def ReceiptEntry.dated (e : ReceiptEntry) : Dated SignedReceipt where
  item := e.receipt
  deadline := e.expiresAt

/-- An entry of Redis, as an item with a deadline. -/
def RedisEntry.dated (e : RedisEntry) : Dated (List UInt8) where
  item := e.value
  deadline := e.expiresAt

namespace ReceiptStore

/-- The receipts that were stored last under each id. -/
def shelf (s : ReceiptStore) : DatedShelf (List UInt8) SignedReceipt :=
  fun id => (latestStored id s.history).map ReceiptEntry.dated

/-- What the map holds. -/
def cells (s : ReceiptStore) : DatedShelf (List UInt8) SignedReceipt :=
  fun id => (s.receipts id).map ReceiptEntry.dated

/-- The receipt with an id that is in force now. -/
def inForce (s : ReceiptStore) (id : List UInt8) : Option SignedReceipt :=
  s.shelf.look .through s.now id

theorem through_dated {e : ReceiptEntry} {now : Int} :
  ForceRule.through now e.dated.deadline = true ↔ ¬ e.Expired now
  := by
  rw [ForceRule.through, decide_eq_true_iff]
  exact Int.not_lt.symm

/-- The map backs the shelf. -/
theorem Kept.backs {s : ReceiptStore} (h : s.Kept) :
  DatedShelf.Backs .through s.cells s.shelf s.now
  := by
  constructor
  · intro id d hd
    obtain ⟨e, he, rfl⟩ := Option.map_eq_some_iff.mp hd
    exact Option.map_eq_some_iff.mpr ⟨e, (h.own id e he).2.2, rfl⟩
  · intro id d hd hforce
    obtain ⟨e, he, rfl⟩ := Option.map_eq_some_iff.mp hd
    exact Option.map_eq_some_iff.mpr ⟨e, h.live id e he (through_dated.mp hforce), rfl⟩

/-- A receipt that is not in the map is not in force. -/
theorem Kept.inForce_of_none {s : ReceiptStore} (h : s.Kept) {id : List UInt8}
    (hnone : s.receipts id = none) :
  s.inForce id = none
  := by
  rw [inForce, ← h.backs.look_eq id]
  simp only [DatedShelf.look, cells, hnone, Option.map_none, Option.filter_none]

/-- The receipt stored last is in force until it is expired. -/
theorem inForce_of_latest {s : ReceiptStore} {id : List UInt8} {e : ReceiptEntry}
    (h : latestStored id s.history = some e) :
  s.inForce id = if e.Expired s.now then none else some e.receipt
  := by
  split
  · rename_i hexpired
    apply DatedShelf.look_eq_none.mpr
    intro d hd
    rw [shelf, h] at hd
    obtain rfl := Option.some.inj hd
    apply Bool.not_eq_true _ |>.mp
    rw [through_dated]
    exact not_not.mpr hexpired
  · rename_i hlive
    apply DatedShelf.look_eq_some.mpr
    refine ⟨e.dated, ?_, through_dated.mpr hlive, rfl⟩
    rw [shelf, h, Option.map_some]

/-- A receipt that is in force was stored last under its id. -/
theorem exists_latest_of_inForce {s : ReceiptStore} {id : List UInt8} {receipt : SignedReceipt}
    (h : s.inForce id = some receipt) :
  ∃ e, latestStored id s.history = some e ∧ e.receipt = receipt
  := by
  cases hlatest : latestStored id s.history with
  | none =>
      rw [inForce, DatedShelf.look, shelf, hlatest] at h
      cases h
  | some e =>
      rw [inForce_of_latest hlatest] at h
      split at h
      · cases h
      · exact ⟨e, rfl, Option.some.inj h⟩

end ReceiptStore

namespace Redis

/-- What Redis holds. -/
def cells (db : Redis) : DatedShelf (List UInt8) (List UInt8) :=
  fun key => (db key).map RedisEntry.dated

theorem get_eq_look (db : Redis) (now : Int) (key : List UInt8) :
  db.get now key = db.cells.look .before now key
  := by
  cases h : db key with
  | none => simp only [Redis.get, DatedShelf.look, cells, h, Option.map_none, Option.filter_none]
  | some e =>
      simp only [Redis.get, DatedShelf.look, cells, h, Option.map_some, Option.filter_some,
        ForceRule.before, RedisEntry.dated]
      cases decide (now < e.expiresAt) with
      | true => rfl
      | false => rfl

end Redis

/-! ### The two stores side by side -/

/-- What a step makes of Redis: a `Store` with a live context runs there, the other steps do not
reach it. -/
def Redis.take (world : (c : Call) → Answer c) (now : Int) (db : Redis) : StoreStep → Redis
  | .store _ none (some receipt) ttl =>
      ((storeInRedis receipt ttl).runIn (redisServer world now) db).2
  | _ => db

/-- Both stores, given the same calls at the same times. -/
def bothStores (world : (c : Call) → Answer c) : Machine (ReceiptStore × Redis) StoreStep where
  step p a := (receiptStore.step p.1 a).map fun s => (s, p.2.take world p.1.now a)

/-- Both stores when they are new. -/
def newStores (start : Int) : ReceiptStore × Redis :=
  (newReceiptStore start, fun _ => none)

theorem bothStores_step {world : (c : Call) → Answer c} {p p' : ReceiptStore × Redis}
    {a : StoreStep} :
  (bothStores world).step p a = some p'
    ↔ receiptStore.step p.1 a = some p'.1 ∧ p'.2 = p.2.take world p.1.now a
  := by
  rw [bothStores, Option.map_eq_some_iff]
  constructor
  · rintro ⟨s, hs, rfl⟩
    exact ⟨hs, rfl⟩
  · rintro ⟨hs, hdb⟩
    use p'.1, hs, Prod.ext rfl hdb.symm

/-- The text Redis holds for a receipt. -/
def redisText (receipt : SignedReceipt) : List UInt8 :=
  (receipt.json.map GoJson.marshal).getD []

/-- Reading the text of a valid receipt finds it. -/
theorem getFromRedis_redisText {receipt : SignedReceipt} (hvalid : validateReceipt receipt = .ok ())
    (hstorable : Storable receipt) (other : Pieces → Option Time) :
  getFromRedis other (.ok (some (redisText receipt))) = .ok (some receipt)
  := by
  obtain ⟨v, hv, hread⟩ := hstorable.unmarshal other
  have htext : redisText receipt = GoJson.marshal v := by
    rw [redisText, hv, Option.map_some, Option.getD_some]
  rw [htext, getFromRedis]
  simp only [hread, hvalid]

/-- The receipts stored last can be written and read, and Redis holds their texts. -/
structure Mirrored (p : ReceiptStore × Redis) : Prop where
  sound : p.1.Sound
  storable : ∀ id e, latestStored id p.1.history = some e → Storable e.receipt
  cells : ∀ id, p.2.cells (redisReceiptKey id)
    = (p.1.shelf id).map fun d => { item := redisText d.item, deadline := d.deadline }

/-- New stores hold the same. -/
theorem mirrored_new (start : Int) :
  Mirrored (newStores start)
  := by
  refine ⟨ReceiptStore.sound_new start, ?_, ?_⟩
  · intro id e he
    cases he
  · intro id
    rfl

theorem redisReceiptKey_inj {id id' : List UInt8} :
  redisReceiptKey id = redisReceiptKey id' ↔ id = id'
  := List.append_right_inj _

/-- A `Store` that fails in memory does not reach Redis, or fails there. -/
theorem Redis.take_of_error {ctxErr : Option String} {receipt : Option SignedReceipt} {ttl : Int}
    {err : String} (h : checkReceiptToStore ctxErr receipt ttl = .error err)
    (world : (c : Call) → Answer c) (now : Int) (db : Redis) (j : Nat) :
  db.take world now (.store j ctxErr receipt ttl) = db
  := by
  cases ctxErr with
  | some e => rfl
  | none =>
      cases receipt with
      | none => rfl
      | some receipt =>
          simp only [checkReceiptToStore] at h
          simp only [Redis.take, storeInRedis, checkStore]
          split at h
          · rename_i hinvalid
            simp only [hinvalid]
            rfl
          · rename_i hvalid
            split at h
            · rename_i httl
              simp only [hvalid, httl]
              rfl
            · cases h

/-- A `Store` of a receipt that passes the checks puts its text into Redis. -/
theorem Redis.take_of_valid {receipt : SignedReceipt} {ttl : Int}
    (hvalid : validateReceipt receipt = .ok ()) (hstorable : Storable receipt) (httl : 0 < ttl)
    (world : (c : Call) → Answer c) (now : Int) (db : Redis) (j : Nat) :
  db.take world now (.store j none (some receipt) ttl)
    = Function.update db (redisReceiptKey receipt.receipt.id)
        (some { value := redisText receipt, expiresAt := now + ttl })
  := by
  obtain ⟨v, hv, -⟩ := hstorable.unmarshal fun _ => none
  ext key
  rw [Redis.take, runIn_storeInRedis hvalid httl hv, Function.update_apply, redisText, hv]
  rfl

/-- What a step does to the receipts that were stored last: a `Store` that succeeds puts its
receipt there, and the other steps leave them as they are. -/
theorem latest_cases {s s' : ReceiptStore} {a : StoreStep} (h : receiptStore.step s a = some s') :
  (∃ j receipt ttl, a = .store j none (some receipt) ttl
      ∧ validateReceipt receipt = .ok () ∧ 0 < ttl
      ∧ s'.history = .stored { receipt := receipt, expiresAt := s.now + ttl } :: s.history)
    ∨ (∀ id, latestStored id s'.history = latestStored id s.history)
      ∧ ∀ world now db, Redis.take world now db a = db
  := by
  cases a with
  | elapse d =>
      obtain rfl := Option.some.inj h
      exact .inr ⟨fun _ => rfl, fun _ _ _ => rfl⟩
  | store j ctxErr receipt ttl =>
      simp only [receiptStore] at h
      split at h
      · split at h
        · rename_i err hcheck
          obtain rfl := Option.some.inj h
          refine .inr ⟨fun _ => rfl, ?_⟩
          intro world now db
          exact Redis.take_of_error hcheck world now db j
        · rename_i receipt' hcheck
          obtain rfl := Option.some.inj h
          obtain ⟨rfl, rfl, hvalid, httl⟩ := ReceiptStore.checkReceiptToStore_eq_ok.mp hcheck
          exact .inl ⟨j, receipt', ttl, rfl, hvalid, httl, rfl⟩
      · cases h
  | getRead j ctxErr id =>
      refine .inr ⟨?_, fun _ _ _ => rfl⟩
      intro id'
      simp only [receiptStore] at h
      split at h
      · split at h
        · obtain rfl := Option.some.inj h
          rfl
        · split at h
          · obtain rfl := Option.some.inj h
            rfl
          · obtain rfl := Option.some.inj h
            rfl
      · cases h
  | getCheck j =>
      refine .inr ⟨?_, fun _ _ _ => rfl⟩
      intro id'
      simp only [receiptStore] at h
      split at h
      · split at h
        · obtain rfl := Option.some.inj h
          rfl
        · obtain rfl := Option.some.inj h
          rfl
      · cases h
  | getDelete j =>
      refine .inr ⟨?_, fun _ _ _ => rfl⟩
      intro id'
      simp only [receiptStore] at h
      split at h
      · obtain rfl := Option.some.inj h
        simp only [ReceiptStore.setPhase, ReceiptStore.deleteExpired_history]
      · cases h
  | cleanupRead j ctxErr =>
      refine .inr ⟨?_, fun _ _ _ => rfl⟩
      intro id'
      simp only [receiptStore] at h
      split at h
      · split at h
        · obtain rfl := Option.some.inj h
          rfl
        · obtain rfl := Option.some.inj h
          rfl
      · cases h
  | cleanupSweep j =>
      refine .inr ⟨?_, fun _ _ _ => rfl⟩
      intro id'
      simp only [receiptStore] at h
      split at h
      · obtain rfl := Option.some.inj h
        rfl
      · cases h

/-- A step of both stores leaves them holding the same, if what it stores can be written. -/
theorem Mirrored.step {world : (c : Call) → Answer c} {p p' : ReceiptStore × Redis} {a : StoreStep}
    (hp : Mirrored p)
    (hstorable : ∀ j ctxErr receipt ttl, a = .store j ctxErr (some receipt) ttl → Storable receipt)
    (h : (bothStores world).step p a = some p') :
  Mirrored p'
  := by
  obtain ⟨hstep, hdb⟩ := bothStores_step.mp h
  refine ⟨hp.sound.step hstep, ?_, ?_⟩
  · rcases latest_cases hstep with ⟨j, receipt, ttl, ha, hvalid, httl, hhistory⟩ | ⟨hlatest, -⟩
    · intro id e he
      rw [hhistory, latestStored] at he
      split at he
      · obtain rfl := Option.some.inj he
        exact hstorable j none receipt ttl ha
      · exact hp.storable id e he
    · intro id e he
      rw [hlatest] at he
      exact hp.storable id e he
  · intro id
    rcases latest_cases hstep with ⟨j, receipt, ttl, rfl, hvalid, httl, hhistory⟩ | ⟨hlatest, htake⟩
    · rw [hdb, Redis.take_of_valid hvalid (hstorable j none receipt ttl rfl) httl,
        ReceiptStore.shelf, hhistory, latestStored]
      have hold := hp.cells id
      split
      · rename_i hid
        rw [Redis.cells, ← hid, Function.update_self]
        rfl
      · rename_i hid
        rw [Redis.cells, Function.update_of_ne]
        · exact hold
        · intro hkey
          exact hid (redisReceiptKey_inj.mp hkey).symm
    · rw [hdb, htake, ReceiptStore.shelf, hlatest]
      exact hp.cells id

/-- Redis has the receipt in force, unless this is the very time it expires. -/
theorem Mirrored.getFromRedis_eq {p : ReceiptStore × Redis} (hp : Mirrored p) {id : List UInt8}
    (hnow : ∀ e, latestStored id p.1.history = some e → e.expiresAt ≠ p.1.now)
    (other : Pieces → Option Time) :
  getFromRedis other (.ok (p.2.get p.1.now (redisReceiptKey id))) = .ok (p.1.inForce id)
  := by
  have hfound : p.2.get p.1.now (redisReceiptKey id) = (p.1.inForce id).map redisText := by
    rw [Redis.get_eq_look, DatedShelf.look_map (hp.cells id), ReceiptStore.inForce]
    congr 1
    apply DatedShelf.look_congr_rule
    intro d hd
    obtain ⟨e, he, rfl⟩ := Option.map_eq_some_iff.mp hd
    exact (ForceRule.through_eq_before (hnow e he)).symm
  rw [hfound]
  cases hforce : p.1.inForce id with
  | none => rfl
  | some r =>
      obtain ⟨d, hd, hlive, rfl⟩ := DatedShelf.look_eq_some.mp hforce
      obtain ⟨e, he, rfl⟩ := Option.map_eq_some_iff.mp hd
      have hheld := hp.sound.kept.live id e he (ReceiptStore.through_dated.mp hlive)
      exact getFromRedis_redisText (hp.sound.kept.own id e hheld).2.1 (hp.storable id e he) other

/-! ### The moments of a call -/

/-- A `Get` of the id has begun or begins with the next step, and has not returned. -/
def GetOpen (i : Nat) (id : List UInt8) (s : ReceiptStore) (next : Option StoreStep) : Prop :=
  (s.phase i = .idle ∧ next = some (.getRead i none id))
    ∨ (∃ e, s.phase i = .read id e) ∨ s.phase i = .expired id

/-- The next step stores a receipt with the id. -/
def StoresNext (id : List UInt8) (next : Option StoreStep) : Prop :=
  ∃ j receipt ttl, next = some (.store j none (some receipt) ttl) ∧ receipt.receipt.id = id

/-- A call that is no `Get`, or one that has failed. -/
def StorePhase.Aside : StorePhase → Prop
  | .read _ _ | .expired _ | .got (.ok _) => False
  | _ => True

/-- What a call comes to with a step: a `Get` finds no entry, reads one, finds it expired, returns
its receipt, or returns none after it has looked again; other calls are no `Get` or fail. -/
def Advances (s : ReceiptStore) (a : StoreStep) (j : Nat) (p : StorePhase) : Prop :=
  (∃ id, a = .getRead j none id ∧ s.phase j = .idle ∧ s.receipts id = none ∧ p = .got (.ok none))
    ∨ (∃ id e, a = .getRead j none id ∧ s.phase j = .idle ∧ s.receipts id = some e ∧ p = .read id e)
    ∨ (∃ id e, s.phase j = .read id e ∧ e.Expired s.now ∧ p = .expired id)
    ∨ (∃ id e, s.phase j = .read id e ∧ ¬ e.Expired s.now ∧ p = .got (.ok (some e.receipt)))
    ∨ (∃ id, s.phase j = .expired id ∧ p = .got (.ok none))
    ∨ p.Aside

/-- A step brings at most one call further. -/
theorem phase_cases {s s' : ReceiptStore} {a : StoreStep} (h : receiptStore.step s a = some s') :
  s'.phase = s.phase ∨ ∃ j p, s'.phase = Function.update s.phase j p ∧ Advances s a j p
  := by
  cases a with
  | elapse d =>
      obtain rfl := Option.some.inj h
      exact .inl rfl
  | store j ctxErr receipt ttl =>
      simp only [receiptStore] at h
      split at h
      · split at h
        · obtain rfl := Option.some.inj h
          exact .inr ⟨j, _, rfl, by simp [Advances, StorePhase.Aside]⟩
        · obtain rfl := Option.some.inj h
          exact .inr ⟨j, _, rfl, by simp [Advances, StorePhase.Aside]⟩
      · cases h
  | getRead j ctxErr id =>
      simp only [receiptStore] at h
      split at h
      · rename_i hidle
        split at h
        · obtain rfl := Option.some.inj h
          exact .inr ⟨j, _, rfl, by simp [Advances, StorePhase.Aside]⟩
        · split at h
          · rename_i hnone
            obtain rfl := Option.some.inj h
            exact .inr ⟨j, _, rfl, .inl ⟨id, rfl, hidle, hnone, rfl⟩⟩
          · rename_i e he
            obtain rfl := Option.some.inj h
            exact .inr ⟨j, _, rfl, .inr (.inl ⟨id, e, rfl, hidle, he, rfl⟩)⟩
      · cases h
  | getCheck j =>
      simp only [receiptStore] at h
      split at h
      · rename_i id e hread
        split at h
        · rename_i hexpired
          obtain rfl := Option.some.inj h
          exact .inr ⟨j, _, rfl, .inr (.inr (.inl ⟨id, e, hread, hexpired, rfl⟩))⟩
        · rename_i hlive
          obtain rfl := Option.some.inj h
          exact .inr ⟨j, _, rfl, .inr (.inr (.inr (.inl ⟨id, e, hread, hlive, rfl⟩)))⟩
      · cases h
  | getDelete j =>
      simp only [receiptStore] at h
      split at h
      · rename_i id hexpired
        obtain rfl := Option.some.inj h
        refine .inr ⟨j, .got (.ok none), ?_, .inr (.inr (.inr (.inr (.inl ⟨id, hexpired, rfl⟩))))⟩
        simp only [ReceiptStore.setPhase, ReceiptStore.deleteExpired_phase]
      · cases h
  | cleanupRead j ctxErr =>
      simp only [receiptStore] at h
      split at h
      · split at h
        · obtain rfl := Option.some.inj h
          exact .inr ⟨j, _, rfl, by simp [Advances, StorePhase.Aside]⟩
        · obtain rfl := Option.some.inj h
          exact .inr ⟨j, _, rfl, by simp [Advances, StorePhase.Aside]⟩
      · cases h
  | cleanupSweep j =>
      simp only [receiptStore] at h
      split at h
      · obtain rfl := Option.some.inj h
        exact .inr ⟨j, _, rfl, by simp [Advances, StorePhase.Aside]⟩
      · cases h

/-- Time does not run backwards. -/
theorem now_le {s s' : ReceiptStore} {a : StoreStep} (h : receiptStore.step s a = some s') :
  s.now ≤ s'.now
  := by
  rcases ReceiptStore.step_cases h with ⟨d, rfl⟩ | ⟨i, p, -, -, rfl⟩ | ⟨i, receipt, ttl, -, -, rfl⟩
    | ⟨i, id, entry, -, -, rfl⟩ | ⟨i, id, entry, -, -, rfl⟩ | ⟨i, id, entry, -, -, rfl⟩
    | ⟨i, id, -, rfl⟩ | ⟨i, now, -, rfl⟩
  · exact Int.le_add_of_nonneg_right (Int.natCast_nonneg d)
  · exact Int.le_refl _
  · exact Int.le_refl _
  · exact Int.le_refl _
  · exact Int.le_refl _
  · exact Int.le_refl _
  · exact Int.le_of_eq (s.deleteExpired_now id).symm
  · exact Int.le_refl _

/-! ### What a call returns -/

section Calls

variable (world : (c : Call) → Answer c) (start : Int) (i : Nat)

/-- At some moment of the `Get` the stores are as the predicate says. -/
def AtMoment (as : List StoreStep) (id : List UInt8) (P : ReceiptStore × Redis → Prop) : Prop :=
  (bothStores world).Passes (newStores start) as fun p next => GetOpen i id p.1 next ∧ P p

/-- A receipt with the id is stored while the `Get` is under way. -/
def StoredDuring (as : List StoreStep) (id : List UInt8) : Prop :=
  (bothStores world).Passes (newStores start) as fun p next =>
    GetOpen i id p.1 next ∧ StoresNext id next

/-- What is known of a call after the steps: the entry a `Get` has read was in force at a moment
of the call, and is still the one stored last unless another was stored during the call; what it
returns was in force at a moment of the call, unless another was stored and it returns none. -/
def Justified (as : List StoreStep) (s : ReceiptStore) : StorePhase → Prop
  | .read id e =>
      .getRead i none id ∈ as
        ∧ AtMoment world start i as id (fun p =>
            latestStored id p.1.history = some e ∧ p.1.now ≤ s.now)
        ∧ (latestStored id s.history = some e ∨ StoredDuring world start i as id)
  | .expired id =>
      .getRead i none id ∈ as
        ∧ (AtMoment world start i as id (fun p => p.1.inForce id = none)
          ∨ StoredDuring world start i as id)
  | .got (.ok r) =>
      ∃ id, .getRead i none id ∈ as
        ∧ (AtMoment world start i as id (fun p => p.1.inForce id = r)
          ∨ r = none ∧ StoredDuring world start i as id)
  | _ => True

variable {world start i}

theorem AtMoment.append {as : List StoreStep} {id : List UInt8} {P Q : ReceiptStore × Redis → Prop}
    (h : AtMoment world start i as id P) (hPQ : ∀ p, P p → Q p) (a : StoreStep) :
  AtMoment world start i (as ++ [a]) id Q
  := by
  apply (Passes.append h ?_ [a]).mono
  · rintro p next ⟨hopen, hp⟩
    exact ⟨hopen, hPQ p hp⟩
  · rintro p ⟨hopen, hp⟩ b
    rcases hopen with ⟨-, hnext⟩ | hopen
    · cases hnext
    · exact ⟨.inr hopen, hp⟩

theorem StoredDuring.append {as : List StoreStep} {id : List UInt8}
    (h : StoredDuring world start i as id) (a : StoreStep) :
  StoredDuring world start i (as ++ [a]) id
  := by
  apply Passes.append h
  rintro p ⟨-, j, receipt, ttl, hnext, -⟩
  cases hnext

/-- What is known of a call stays known when another call takes a step. -/
theorem Justified.append {as : List StoreStep} {p p' : ReceiptStore × Redis} {a : StoreStep}
    (hrun : (bothStores world).run (newStores start) as = some p)
    (hstep : receiptStore.step p.1 a = some p'.1) {ph : StorePhase} (hph : p.1.phase i = ph)
    (h : Justified world start i as p.1 ph) :
  Justified world start i (as ++ [a]) p'.1 ph
  := by
  have hmem : ∀ {b : StoreStep}, b ∈ as → b ∈ as ++ [a] := fun hb => List.mem_append_left [a] hb
  cases ph with
  | read id e =>
      obtain ⟨hget, hread, hlatest⟩ := h
      refine ⟨hmem hget, hread.append ?_ a, ?_⟩
      · rintro q ⟨hq, hnow⟩
        exact ⟨hq, Int.le_trans hnow (now_le hstep)⟩
      · rcases hlatest with hlatest | hduring
        · rcases latest_cases hstep with ⟨j, receipt, ttl, rfl, -, -, hhistory⟩ | ⟨hsame, -⟩
          · rw [hhistory, latestStored]
            split
            · rename_i hid
              right
              exact Passes.last hrun ⟨.inr (.inl ⟨e, hph⟩), j, receipt, ttl, rfl, hid⟩
            · exact .inl hlatest
          · rw [hsame id]
            exact .inl hlatest
        · exact .inr (hduring.append a)
  | expired id =>
      obtain ⟨hget, hnone | hduring⟩ := h
      · exact ⟨hmem hget, .inl (hnone.append (fun _ hq => hq) a)⟩
      · exact ⟨hmem hget, .inr (hduring.append a)⟩
  | got result =>
      cases result with
      | error e => trivial
      | ok r =>
          obtain ⟨id, hget, hforce | ⟨hr, hduring⟩⟩ := h
          · exact ⟨id, hmem hget, .inl (hforce.append (fun _ hq => hq) a)⟩
          · exact ⟨id, hmem hget, .inr ⟨hr, hduring.append a⟩⟩
  | idle => trivial
  | cleaning now => trivial
  | cleaned result => trivial
  | stored result => trivial

/-- A step of the call itself. -/
theorem Justified.advance {as : List StoreStep} {p p' : ReceiptStore × Redis} {a : StoreStep}
    (hsound : p.1.Sound) (hrun : (bothStores world).run (newStores start) as = some p)
    (hstep : receiptStore.step p.1 a = some p'.1) {ph : StorePhase}
    (hadvance : Advances p.1 a i ph) (h : Justified world start i as p.1 (p.1.phase i)) :
  Justified world start i (as ++ [a]) p'.1 ph
  := by
  have hmem : ∀ {b : StoreStep}, b ∈ as → b ∈ as ++ [a] := fun hb => List.mem_append_left [a] hb
  have hlast : a ∈ as ++ [a] := List.mem_append_right as List.mem_cons_self
  rcases hadvance with ⟨id, rfl, hidle, hnone, rfl⟩ | ⟨id, e, rfl, hidle, he, rfl⟩
    | ⟨id, e, hread, hexpired, rfl⟩ | ⟨id, e, hread, hlive, rfl⟩ | ⟨id, hexpired, rfl⟩ | haside
  · use id, hlast
    left
    exact Passes.last hrun ⟨.inl ⟨hidle, rfl⟩, hsound.kept.inForce_of_none hnone⟩
  · have hlatest := (hsound.kept.own id e he).2.2
    refine ⟨hlast, ?_, .inl ?_⟩
    · exact Passes.last hrun ⟨.inl ⟨hidle, rfl⟩, hlatest, now_le hstep⟩
    · rcases latest_cases hstep with ⟨j, receipt, ttl, ha, -⟩ | ⟨hsame, -⟩
      · cases ha
      · rw [hsame id, hlatest]
  · rw [hread] at h
    obtain ⟨hget, -, hlatest | hduring⟩ := h
    · refine ⟨hmem hget, .inl ?_⟩
      apply Passes.last hrun
      have hnone : p.1.inForce id = none := by
        rw [ReceiptStore.inForce_of_latest hlatest, if_pos hexpired]
      exact ⟨.inr (.inl ⟨e, hread⟩), hnone⟩
    · exact ⟨hmem hget, .inr (hduring.append a)⟩
  · rw [hread] at h
    obtain ⟨hget, hmoment, -⟩ := h
    use id, hmem hget
    left
    apply hmoment.append
    rintro q ⟨hq, hnow⟩
    have hlive' : ¬ e.Expired q.1.now := fun hexpired => hlive (Int.lt_of_lt_of_le hexpired hnow)
    rw [ReceiptStore.inForce_of_latest hq, if_neg hlive']
  · rw [hexpired] at h
    obtain ⟨hget, hnone | hduring⟩ := h
    · exact ⟨id, hmem hget, .inl (hnone.append (fun _ hq => hq) a)⟩
    · exact ⟨id, hmem hget, .inr ⟨rfl, hduring.append a⟩⟩
  · cases ph with
    | read id e => cases haside
    | expired id => cases haside
    | got result =>
        cases result with
        | error e => trivial
        | ok r => cases haside
    | idle => trivial
    | cleaning now => trivial
    | cleaned result => trivial
    | stored result => trivial

/-- After any steps of both stores, they hold the same, and what every call returns is known. -/
theorem answered_of_run {as : List StoreStep} {p : ReceiptStore × Redis}
    (hrun : (bothStores world).run (newStores start) as = some p)
    (hstorable : ∀ j ctxErr receipt ttl, .store j ctxErr (some receipt) ttl ∈ as → Storable receipt) :
  Mirrored p ∧ Justified world start i as p.1 (p.1.phase i)
  := by
  revert hstorable
  apply run_extend (P := fun as (p : ReceiptStore × Redis) =>
    (∀ j ctxErr receipt ttl, .store j ctxErr (some receipt) ttl ∈ as → Storable receipt) →
      Mirrored p ∧ Justified world start i as p.1 (p.1.phase i)) ?_ ?_ as p hrun
  · intro _
    exact ⟨mirrored_new start, trivial⟩
  · intro as p a p' hrun ih hstep hstorable
    obtain ⟨hp, hanswered⟩ := ih fun j ctxErr receipt ttl hmem =>
      hstorable j ctxErr receipt ttl (List.mem_append_left [a] hmem)
    have hstep' := (bothStores_step.mp hstep).1
    constructor
    · apply hp.step _ hstep
      rintro j ctxErr receipt ttl rfl
      exact hstorable j ctxErr receipt ttl (List.mem_append_right as List.mem_cons_self)
    · rcases phase_cases hstep' with hsame | ⟨j, ph, hupdate, hadvance⟩
      · rw [hsame]
        exact hanswered.append hrun hstep' rfl
      · rw [hupdate]
        rcases eq_or_ne i j with rfl | hne
        · rw [Function.update_self]
          exact Justified.advance hp.sound hrun hstep' hadvance hanswered
        · rw [Function.update_of_ne hne]
          exact hanswered.append hrun hstep' rfl

/-- At every moment of a call both stores hold the same. -/
theorem AtMoment.mirrored {as : List StoreStep} {id : List UInt8}
    {P : ReceiptStore × Redis → Prop} (h : AtMoment world start i as id P)
    (hstorable : ∀ j ctxErr receipt ttl, .store j ctxErr (some receipt) ttl ∈ as → Storable receipt) :
  AtMoment world start i as id fun q => P q ∧ Mirrored q
  := by
  have hmirrored : ∀ pre post q, as = pre ++ post →
      (bothStores world).run (newStores start) pre = some q → Mirrored q := by
    intro pre post q has hpre
    apply (answered_of_run (i := i) hpre _).1
    intro j ctxErr receipt ttl hmem
    exact hstorable j ctxErr receipt ttl (has ▸ List.mem_append_left post hmem)
  apply (Passes.and h hmirrored).mono
  rintro q next ⟨⟨hopen, hq⟩, hmirror⟩
  exact ⟨hopen, hq, hmirror⟩

end Calls

/-- Give both stores the same calls at the same times, those of the store in memory interleaved
in any way.  What a `Get` of the store in memory returns is the receipt in force at some moment
of the call, which is also what a `Get` of Redis at that moment returns unless the receipt expires
at that very time.  The only other case is that the call returns none while another receipt with
the id is stored. -/
theorem stores_agree (world : (c : Call) → Answer c) (start : Int) (as : List StoreStep)
    (p : ReceiptStore × Redis) (hrun : (bothStores world).run (newStores start) as = some p)
    (hstorable : ∀ j ctxErr receipt ttl, .store j ctxErr (some receipt) ttl ∈ as → Storable receipt)
    (other : Pieces → Option Time) (i : Nat) (r : Option SignedReceipt)
    (hgot : p.1.phase i = .got (.ok r)) :
  ∃ id, .getRead i none id ∈ as
    ∧ (AtMoment world start i as id (fun q => q.1.inForce id = r
          ∧ ((∀ e, latestStored id q.1.history = some e → e.expiresAt ≠ q.1.now) →
              getFromRedis other (.ok (q.2.get q.1.now (redisReceiptKey id))) = .ok r))
      ∨ r = none ∧ StoredDuring world start i as id)
  := by
  have hanswered := (answered_of_run (i := i) hrun hstorable).2
  rw [hgot] at hanswered
  obtain ⟨id, hget, hforce | hduring⟩ := hanswered
  · use id, hget
    left
    apply (hforce.mirrored hstorable).mono
    rintro q next ⟨hopen, hq, hmirrored⟩
    refine ⟨hopen, hq, ?_⟩
    intro hnow
    rw [hmirrored.getFromRedis_eq hnow other, hq]
  · exact ⟨id, hget, .inr hduring⟩

/-- A receipt is stored for ten seconds, a call reads it, and checks it after four. -/
def sampleBothSteps : List StoreStep :=
  [.store 0 none (some storedReceipt) 10000000000, .getRead 1 none storedReceipt.receipt.id,
    .elapse 4000000000, .getCheck 1]

theorem storable_sampleBothSteps :
  ∀ j ctxErr receipt ttl, .store j ctxErr (some receipt) ttl ∈ sampleBothSteps → Storable receipt
  := by
  intro j ctxErr receipt ttl hmem
  simp only [sampleBothSteps, List.mem_cons, StoreStep.store.injEq, Option.some.injEq, reduceCtorEq,
    List.not_mem_nil, or_false] at hmem
  obtain ⟨-, -, rfl, -⟩ := hmem
  exact storable_sample

/-- Both stores have the sample receipt at a moment of the call. -/
theorem stores_agree_sample :
  ∃ p, (bothStores cachedWorld).run (newStores 0) sampleBothSteps = some p
    ∧ ∃ id, .getRead 1 none id ∈ sampleBothSteps
    ∧ (AtMoment cachedWorld 0 1 sampleBothSteps id (fun q => q.1.inForce id = some storedReceipt
          ∧ ((∀ e, latestStored id q.1.history = some e → e.expiresAt ≠ q.1.now) →
              getFromRedis (fun _ => none) (.ok (q.2.get q.1.now (redisReceiptKey id)))
                = .ok (some storedReceipt)))
      ∨ some storedReceipt = none ∧ StoredDuring cachedWorld 0 1 sampleBothSteps id)
  := by
  have hphase : ((bothStores cachedWorld).run (newStores 0) sampleBothSteps).map
      (fun p => p.1.phase 1) = some (.got (.ok (some storedReceipt))) := by
    decide +kernel
  obtain ⟨p, hp, hgot⟩ := Option.map_eq_some_iff.mp hphase
  use p, hp
  exact stores_agree cachedWorld 0 sampleBothSteps p hp storable_sampleBothSteps (fun _ => none) 1
    (some storedReceipt) hgot

end Paygate.Gateway
