import Paygate.Base.Machine
import Paygate.Gateway.Receipt

/-!
# The in-memory receipt store

Receipts kept in a map with the times they expire.  `Store` is one locked section.  `Get` reads
an entry, then checks the clock, and if the entry is expired looks the id up again and deletes
what it finds if that is expired.  `CleanupExpired` reads the clock and then deletes what was
expired at that time.  The calls of a run interleave at these steps.

The latest receipt stored under an id stays in the map until it is expired
(`ReceiptStore.Sound.live`), whatever was read or cleaned up in between.
-/

namespace Paygate.Gateway

open Text

/-! ### The store -/

/-- A receipt in the store, with the time it expires. -/
structure ReceiptEntry where
  receipt : SignedReceipt
  expiresAt : Int
  deriving DecidableEq, Repr

/-- The receipt of an entry is expired at the given time. -/
def ReceiptEntry.Expired (e : ReceiptEntry) (now : Int) : Prop :=
  e.expiresAt < now

instance (e : ReceiptEntry) (now : Int) : Decidable (e.Expired now) :=
  inferInstanceAs (Decidable (_ < _))

/-- The checks of `Store`, in which a nil receipt has no value. -/
def checkReceiptToStore (ctxErr : Option String) (receipt : Option SignedReceipt) (ttl : Int) :
    Except String SignedReceipt :=
  match ctxErr with
  | some e => .error e
  | none =>
      match receipt with
      | none => .error "invalid receipt format: receipt is nil"
      | some receipt =>
          match validateReceipt receipt with
          | .error e => .error ("invalid receipt format: " ++ e)
          | .ok () =>
              if ttl ≤ 0 then .error "receipt ttl must be positive" else .ok receipt

/-- How far a call has come: it has not begun; a `Get` has read an entry, or has found the entry
it read expired, or has returned; a `CleanupExpired` has read the clock, or has returned; a
`Store` has returned. -/
inductive StorePhase where
  | idle
  | read (id : List UInt8) (entry : ReceiptEntry)
  | expired (id : List UInt8)
  | got (result : Except String (Option SignedReceipt))
  | cleaning (now : Int)
  | cleaned (result : Except String Unit)
  | stored (result : Except String Unit)
  deriving DecidableEq

/-- What has happened: a receipt was stored, a call has read an entry, or a call has checked the
entry it read at the given time. -/
inductive StoreEvent where
  | stored (entry : ReceiptEntry)
  | read (call : Nat) (id : List UInt8) (entry : ReceiptEntry)
  | checked (call : Nat) (id : List UInt8) (entry : ReceiptEntry) (time : Int)
      (result : Option SignedReceipt)
  deriving DecidableEq

/-- A store in use: the time, the entries, how far the calls have come, and what has happened,
the latest first. -/
structure ReceiptStore where
  now : Int
  receipts : List UInt8 → Option ReceiptEntry
  phase : Nat → StorePhase
  history : List StoreEvent

/-- A new store. -/
def newReceiptStore (now : Int) : ReceiptStore where
  now := now
  receipts _ := none
  phase _ := .idle
  history := []

/-- A step: time passes, or a call takes one of its steps.  A call is given what the context of
its caller has as its error. -/
inductive StoreStep where
  | elapse (d : Nat)
  | store (call : Nat) (ctxErr : Option String) (receipt : Option SignedReceipt) (ttl : Int)
  | getRead (call : Nat) (ctxErr : Option String) (id : List UInt8)
  | getCheck (call : Nat)
  | getDelete (call : Nat)
  | cleanupRead (call : Nat) (ctxErr : Option String)
  | cleanupSweep (call : Nat)

namespace ReceiptStore

/-- The store after a call has come to the given point. -/
def setPhase (s : ReceiptStore) (i : Nat) (p : StorePhase) : ReceiptStore :=
  { s with phase := Function.update s.phase i p }

/-- The store without what is expired at the given time. -/
def sweep (s : ReceiptStore) (now : Int) : ReceiptStore :=
  { s with receipts := fun id => (s.receipts id).filter fun e => ¬ e.Expired now }

/-- The store without the entry of an id if it is expired. -/
def deleteExpired (s : ReceiptStore) (id : List UInt8) : ReceiptStore :=
  match s.receipts id with
  | some current =>
      if current.Expired s.now then { s with receipts := Function.update s.receipts id none } else s
  | none => s

/-- The locked section of `Store`. -/
def put (s : ReceiptStore) (receipt : SignedReceipt) (ttl : Int) : ReceiptStore :=
  let entry := { receipt := receipt, expiresAt := s.now + ttl }
  { s with
    receipts := Function.update s.receipts receipt.receipt.id (some entry)
    history := .stored entry :: s.history }

/-- Record an event. -/
def record (s : ReceiptStore) (e : StoreEvent) : ReceiptStore :=
  { s with history := e :: s.history }

end ReceiptStore

/-- The receipt store as a machine. -/
def receiptStore : Machine ReceiptStore StoreStep where
  step s
    | .elapse d => some { s with now := s.now + d }
    | .store i ctxErr receipt ttl =>
        match s.phase i with
        | .idle =>
            match checkReceiptToStore ctxErr receipt ttl with
            | .error e => some (s.setPhase i (.stored (.error e)))
            | .ok receipt => some ((s.put receipt ttl).setPhase i (.stored (.ok ())))
        | _ => none
    | .getRead i ctxErr id =>
        match s.phase i with
        | .idle =>
            match ctxErr with
            | some e => some (s.setPhase i (.got (.error e)))
            | none =>
                match s.receipts id with
                | none => some (s.setPhase i (.got (.ok none)))
                | some entry => some ((s.record (.read i id entry)).setPhase i (.read id entry))
        | _ => none
    | .getCheck i =>
        match s.phase i with
        | .read id entry =>
            if entry.Expired s.now then
              some ((s.record (.checked i id entry s.now none)).setPhase i (.expired id))
            else
              some ((s.record (.checked i id entry s.now (some entry.receipt))).setPhase i
                (.got (.ok (some entry.receipt))))
        | _ => none
    | .getDelete i =>
        match s.phase i with
        | .expired id => some ((s.deleteExpired id).setPhase i (.got (.ok none)))
        | _ => none
    | .cleanupRead i ctxErr =>
        match s.phase i with
        | .idle =>
            match ctxErr with
            | some e => some (s.setPhase i (.cleaned (.error e)))
            | none => some (s.setPhase i (.cleaning s.now))
        | _ => none
    | .cleanupSweep i =>
        match s.phase i with
        | .cleaning now => some ((s.sweep now).setPhase i (.cleaned (.ok ())))
        | _ => none

/-! ### What the store keeps -/

/-- The entry that was stored last under an id. -/
def latestStored (id : List UInt8) : List StoreEvent → Option ReceiptEntry
  | [] => none
  | .stored entry :: es => if entry.receipt.receipt.id = id then some entry else latestStored id es
  | .read _ _ _ :: es | .checked _ _ _ _ _ :: es => latestStored id es

namespace ReceiptStore

/-- What the map holds: only valid receipts stored last under their own ids, and every such
receipt that is not expired. -/
structure Kept (s : ReceiptStore) : Prop where
  own : ∀ id e, s.receipts id = some e →
    e.receipt.receipt.id = id ∧ validateReceipt e.receipt = .ok ()
      ∧ latestStored id s.history = some e
  live : ∀ id e, latestStored id s.history = some e → ¬ e.Expired s.now → s.receipts id = some e

/-- Every entry that is in the first store and not in the second is expired, and the second has
no entries of its own. -/
def Shrinks (s s' : ReceiptStore) : Prop :=
  ∀ id, s'.receipts id = s.receipts id
    ∨ s'.receipts id = none ∧ ∃ e, s.receipts id = some e ∧ e.Expired s.now

/-- A store that has lost only expired entries keeps what it must. -/
theorem Kept.of_shrinks {s s' : ReceiptStore} (h : s.Kept) (hshrinks : s.Shrinks s')
    (hnow : s.now ≤ s'.now)
    (hlatest : ∀ id, latestStored id s'.history = latestStored id s.history) :
  s'.Kept
  := by
  constructor
  · intro id e he
    rw [hlatest]
    rcases hshrinks id with hsame | ⟨hnone, -⟩
    · exact h.own id e (hsame.symm.trans he)
    · rw [hnone] at he
      cases he
  · intro id e he hlive
    rw [hlatest] at he
    have hlive' : ¬ e.Expired s.now := by
      intro hexpired
      apply hlive
      exact Int.lt_of_lt_of_le hexpired hnow
    have hs := h.live id e he hlive'
    rcases hshrinks id with hsame | ⟨-, e', he', hexpired⟩
    · rw [hsame, hs]
    · obtain rfl := Option.some.inj (he'.symm.trans hs)
      exact absurd hexpired hlive'

theorem shrinks_of_eq {s s' : ReceiptStore} (h : s'.receipts = s.receipts) :
  s.Shrinks s'
  := by
  intro id
  exact Or.inl (congrFun h id)

/-- A sweep with a time read earlier removes only expired entries. -/
theorem shrinks_sweep {s : ReceiptStore} {now : Int} (h : now ≤ s.now) :
  s.Shrinks (s.sweep now)
  := by
  intro id
  cases he : s.receipts id with
  | none =>
      left
      simp only [sweep, he, Option.filter_none]
  | some e =>
      by_cases hexpired : e.Expired now
      · right
        constructor
        · simp only [sweep, he, Option.filter_some, hexpired, not_true_eq_false, decide_false,
            Bool.false_eq_true, if_false]
        · use e, rfl
          exact Int.lt_of_lt_of_le hexpired h
      · left
        simp only [sweep, he, Option.filter_some, hexpired, not_false_eq_true, decide_true, if_true]

/-- The second look of `Get` removes only an expired entry. -/
theorem shrinks_deleteExpired (s : ReceiptStore) (id : List UInt8) :
  s.Shrinks (s.deleteExpired id)
  := by
  intro id'
  unfold deleteExpired
  split
  · rename_i current hcurrent
    split
    · rename_i hexpired
      by_cases hid : id' = id
      · subst hid
        right
        exact ⟨Function.update_self _ _ _, current, hcurrent, hexpired⟩
      · left
        exact Function.update_of_ne hid _ _
    · exact Or.inl rfl
  · exact Or.inl rfl

@[simp]
theorem deleteExpired_now (s : ReceiptStore) (id : List UInt8) :
  (s.deleteExpired id).now = s.now
  := by
  unfold deleteExpired
  split
  · split
    · rfl
    · rfl
  · rfl

@[simp]
theorem deleteExpired_history (s : ReceiptStore) (id : List UInt8) :
  (s.deleteExpired id).history = s.history
  := by
  unfold deleteExpired
  split
  · split
    · rfl
    · rfl
  · rfl

@[simp]
theorem deleteExpired_phase (s : ReceiptStore) (id : List UInt8) :
  (s.deleteExpired id).phase = s.phase
  := by
  unfold deleteExpired
  split
  · split
    · rfl
    · rfl
  · rfl

/-- Storing a valid receipt makes it the one to keep under its id. -/
theorem Kept.put {s : ReceiptStore} (h : s.Kept) {receipt : SignedReceipt} {ttl : Int}
    (hvalid : validateReceipt receipt = .ok ()) :
  (s.put receipt ttl).Kept
  := by
  constructor
  · intro id e he
    by_cases hid : id = receipt.receipt.id
    · subst hid
      simp only [ReceiptStore.put, Function.update_self, Option.some.injEq] at he
      subst he
      simp only [ReceiptStore.put, latestStored, if_true, true_and, and_true]
      exact hvalid
    · simp only [ReceiptStore.put, Function.update_of_ne hid] at he
      simp only [ReceiptStore.put, latestStored, if_neg (Ne.symm hid)]
      exact h.own id e he
  · intro id e he hlive
    by_cases hid : id = receipt.receipt.id
    · subst hid
      simp only [ReceiptStore.put, latestStored, if_true] at he
      simp only [ReceiptStore.put, Function.update_self, he]
    · simp only [ReceiptStore.put, latestStored, if_neg (Ne.symm hid)] at he
      simp only [ReceiptStore.put, Function.update_of_ne hid]
      exact h.live id e he hlive

end ReceiptStore

/-! ### What the calls return -/

/-- An entry that was read was the one stored last under the id, and a check of an entry that
was read finds its receipt unless it is expired. -/
def Explained : List StoreEvent → Prop
  | [] => True
  | .stored _ :: es => Explained es
  | .read _ id entry :: es => latestStored id es = some entry ∧ Explained es
  | .checked call id entry time result :: es =>
      .read call id entry ∈ es
        ∧ result = (if entry.Expired time then none else some entry.receipt) ∧ Explained es

/-- The call has not checked an entry. -/
def Unchecked (history : List StoreEvent) (i : Nat) : Prop :=
  ∀ id e t r, .checked i id e t r ∉ history

/-- What a call has come to agrees with what has happened. -/
def StorePhase.Explained (history : List StoreEvent) (now : Int) (i : Nat) : StorePhase → Prop
  | .idle | .cleaned _ | .stored _ => Unchecked history i
  | .read id entry => .read i id entry ∈ history ∧ Unchecked history i
  | .expired _ => ∀ id e t r, .checked i id e t r ∈ history → r = none
  | .got result =>
      (∀ id e t r, .checked i id e t r ∈ history → result = .ok r)
        ∧ ∀ r, result = .ok (some r) → ∃ id e t, .checked i id e t (some r) ∈ history
  | .cleaning t => t ≤ now ∧ Unchecked history i

/-- What a call comes to that looks at no entry: it fails, finds none, or has read the clock. -/
def StorePhase.Early (now : Int) : StorePhase → Prop
  | .stored (.error _) | .got (.error _) | .got (.ok none) | .cleaned (.error _) => True
  | .cleaning t => t = now
  | _ => False

theorem StorePhase.Early.explained {history : List StoreEvent} {now : Int} {i : Nat} {p : StorePhase}
    (hp : p.Early now) (h : Unchecked history i) :
  p.Explained history now i
  := by
  cases p with
  | idle | read | expired => exact hp.elim
  | got result =>
      constructor
      · intro id e t r hmem
        exact absurd hmem (h id e t r)
      · rintro r rfl
        exact hp.elim
  | cleaning t => exact ⟨Int.le_of_eq hp, h⟩
  | cleaned | stored => exact h

/-- The check of an entry is the only one of its call. -/
theorem Unchecked.of_checked {history : List StoreEvent} {i : Nat} (h : Unchecked history i)
    {id id' : List UInt8} {e e' : ReceiptEntry} {t t' : Int} {r r' : Option SignedReceipt}
    (hmem : .checked i id e t r ∈ StoreEvent.checked i id' e' t' r' :: history) :
  r = r'
  := by
  rcases List.mem_cons.mp hmem with heq | hmem
  · cases heq
    rfl
  · exact absurd hmem (h id e t r)

/-- Events of other calls and time do not change what a call has come to. -/
theorem StorePhase.Explained.mono {history history' : List StoreEvent} {now now' : Int} {i : Nat}
    {p : StorePhase} (h : p.Explained history now i) (hnow : now ≤ now')
    (hsub : ∀ x ∈ history, x ∈ history')
    (hchecked : ∀ id e t r, .checked i id e t r ∈ history' → .checked i id e t r ∈ history) :
  p.Explained history' now' i
  := by
  have hunchecked : Unchecked history i → Unchecked history' i := by
    intro h id e t r hmem
    exact h id e t r (hchecked id e t r hmem)
  cases p with
  | idle => exact hunchecked h
  | read id entry => exact ⟨hsub _ h.1, hunchecked h.2⟩
  | expired id =>
      intro id e t r hmem
      exact h id e t r (hchecked id e t r hmem)
  | got result =>
      constructor
      · intro id e t r hmem
        exact h.1 id e t r (hchecked id e t r hmem)
      · intro r hr
        obtain ⟨id, e, t, hmem⟩ := h.2 r hr
        exact ⟨id, e, t, hsub _ hmem⟩
  | cleaning t => exact ⟨Int.le_trans h.1 hnow, hunchecked h.2⟩
  | cleaned result => exact hunchecked h
  | stored result => exact hunchecked h

namespace ReceiptStore

/-- The invariant of the store. -/
structure Sound (s : ReceiptStore) : Prop where
  kept : s.Kept
  explained : Explained s.history
  phase : ∀ i, (s.phase i).Explained s.history s.now i

/-- A step of a call keeps the invariant if it keeps what the map must hold and what it records
is explained. -/
theorem Sound.setPhase {s t : ReceiptStore} (hs : s.Sound) (hphase : t.phase = s.phase)
    (hnow : s.now ≤ t.now) (hkept : t.Kept) (hexplained : Explained t.history)
    (hsub : ∀ x ∈ s.history, x ∈ t.history) {i : Nat}
    (hothers : ∀ j ≠ i, ∀ id e time r,
      .checked j id e time r ∈ t.history → .checked j id e time r ∈ s.history)
    {p : StorePhase} (hp : p.Explained t.history t.now i) :
  (t.setPhase i p).Sound
  := by
  refine ⟨⟨hkept.own, hkept.live⟩, hexplained, ?_⟩
  intro j
  by_cases hj : j = i
  · subst hj
    simp only [ReceiptStore.setPhase, Function.update_self]
    exact hp
  · simp only [ReceiptStore.setPhase, Function.update_of_ne hj, hphase]
    apply (hs.phase j).mono hnow hsub (hothers j hj)

/-- A step that records nothing keeps the invariant if it removes only expired entries. -/
theorem Sound.setPhase_of_shrinks {s t : ReceiptStore} (hs : s.Sound) (hphase : t.phase = s.phase)
    (hnow : t.now = s.now) (hhistory : t.history = s.history) (hshrinks : s.Shrinks t) {i : Nat}
    {p : StorePhase} (hp : p.Explained s.history s.now i) :
  (t.setPhase i p).Sound
  := by
  apply hs.setPhase hphase (Int.le_of_eq hnow.symm)
  · apply hs.kept.of_shrinks hshrinks (Int.le_of_eq hnow.symm)
    intro id
    rw [hhistory]
  · rw [hhistory]
    exact hs.explained
  · rw [hhistory]
    exact fun _ hx => hx
  · rw [hhistory]
    exact fun _ _ _ _ _ _ hx => hx
  · rw [hhistory, hnow]
    exact hp

/-- A step that changes no entry and records that an entry was read or checked keeps the
invariant if this is explained. -/
theorem Sound.setPhase_record {s : ReceiptStore} (hs : s.Sound) {e : StoreEvent}
    (hstored : ∀ entry, e ≠ .stored entry) (hexplained : Explained (e :: s.history)) {i : Nat}
    (howner : ∀ j id entry time r, e = .checked j id entry time r → j = i)
    {p : StorePhase} (hp : p.Explained (e :: s.history) s.now i) :
  ((s.record e).setPhase i p).Sound
  := by
  apply hs.setPhase
  · rfl
  · exact Int.le_refl _
  · apply hs.kept.of_shrinks
    · exact shrinks_of_eq rfl
    · exact Int.le_refl _
    · intro id
      cases e with
      | stored entry => exact absurd rfl (hstored entry)
      | read call id entry => rfl
      | checked call id entry time result => rfl
  · exact hexplained
  · intro x hx
    exact List.mem_cons_of_mem e hx
  · intro j hj id entry time r hmem
    rcases List.mem_cons.mp hmem with heq | hmem
    · exact absurd (howner j id entry time r heq.symm) hj
    · exact hmem
  · exact hp

theorem sound_new (now : Int) :
  (newReceiptStore now).Sound
  := by
  refine ⟨⟨?_, ?_⟩, trivial, ?_⟩
  · intro id e he
    cases he
  · intro id e he
    cases he
  · intro i id e t r hmem
    cases hmem

/-- What passes the checks of `Store` is a valid receipt. -/
theorem checkReceiptToStore_eq_ok {ctxErr : Option String} {receipt : Option SignedReceipt}
    {ttl : Int} {receipt' : SignedReceipt} :
  checkReceiptToStore ctxErr receipt ttl = .ok receipt'
    ↔ ctxErr = none ∧ receipt = some receipt' ∧ validateReceipt receipt' = .ok () ∧ 0 < ttl
  := by
  cases ctxErr with
  | some e => simp [checkReceiptToStore]
  | none =>
      cases receipt with
      | none => simp [checkReceiptToStore]
      | some r =>
          cases hvalid : validateReceipt r with
          | error e =>
              simp only [checkReceiptToStore, hvalid, reduceCtorEq, Option.some.injEq, true_and,
                false_iff]
              rintro ⟨rfl, hok, -⟩
              rw [hvalid] at hok
              cases hok
          | ok u =>
              simp only [checkReceiptToStore, hvalid, Option.some.injEq, true_and]
              split
              · rename_i httl
                simp only [reduceCtorEq, false_iff]
                rintro ⟨-, -, hpos⟩
                omega
              · rename_i httl
                simp only [Except.ok.injEq]
                constructor
                · rintro rfl
                  exact ⟨rfl, hvalid, by omega⟩
                · exact fun h => h.1

/-- What a step does to the store. -/
theorem step_cases {s s' : ReceiptStore} {a : StoreStep} (h : receiptStore.step s a = some s') :
  (∃ d : Nat, s' = { s with now := s.now + d })
    ∨ (∃ i p, s.phase i = .idle ∧ p.Early s.now ∧ s' = s.setPhase i p)
    ∨ (∃ i receipt ttl, s.phase i = .idle ∧ validateReceipt receipt = .ok ()
        ∧ s' = (s.put receipt ttl).setPhase i (.stored (.ok ())))
    ∨ (∃ i id entry, s.phase i = .idle ∧ s.receipts id = some entry
        ∧ s' = (s.record (.read i id entry)).setPhase i (.read id entry))
    ∨ (∃ i id entry, s.phase i = .read id entry ∧ entry.Expired s.now
        ∧ s' = (s.record (.checked i id entry s.now none)).setPhase i (.expired id))
    ∨ (∃ i id entry, s.phase i = .read id entry ∧ ¬ entry.Expired s.now
        ∧ s' = (s.record (.checked i id entry s.now (some entry.receipt))).setPhase i
            (.got (.ok (some entry.receipt))))
    ∨ (∃ i id, s.phase i = .expired id
        ∧ s' = (s.deleteExpired id).setPhase i (.got (.ok none)))
    ∨ ∃ i now, s.phase i = .cleaning now ∧ s' = (s.sweep now).setPhase i (.cleaned (.ok ()))
  := by
  cases a with
  | elapse d =>
      obtain rfl := Option.some.inj h
      exact Or.inl ⟨d, rfl⟩
  | store i ctxErr receipt ttl =>
      simp only [receiptStore] at h
      split at h
      · rename_i hidle
        split at h
        · obtain rfl := Option.some.inj h
          exact Or.inr (Or.inl ⟨i, .stored (.error _), hidle, trivial, rfl⟩)
        · rename_i receipt' hcheck
          obtain rfl := Option.some.inj h
          obtain ⟨-, -, hvalid, -⟩ := checkReceiptToStore_eq_ok.mp hcheck
          exact Or.inr (Or.inr (Or.inl ⟨i, receipt', ttl, hidle, hvalid, rfl⟩))
      · cases h
  | getRead i ctxErr id =>
      simp only [receiptStore] at h
      split at h
      · rename_i hidle
        split at h
        · obtain rfl := Option.some.inj h
          exact Or.inr (Or.inl ⟨i, .got (.error _), hidle, trivial, rfl⟩)
        · split at h
          · obtain rfl := Option.some.inj h
            exact Or.inr (Or.inl ⟨i, .got (.ok none), hidle, trivial, rfl⟩)
          · rename_i entry hentry
            obtain rfl := Option.some.inj h
            exact Or.inr (Or.inr (Or.inr (Or.inl ⟨i, id, entry, hidle, hentry, rfl⟩)))
      · cases h
  | getCheck i =>
      simp only [receiptStore] at h
      split at h
      · rename_i id entry hread
        split at h
        · rename_i hexpired
          obtain rfl := Option.some.inj h
          exact Or.inr (Or.inr (Or.inr (Or.inr (Or.inl ⟨i, id, entry, hread, hexpired, rfl⟩))))
        · rename_i hlive
          obtain rfl := Option.some.inj h
          exact Or.inr (Or.inr (Or.inr (Or.inr (Or.inr (Or.inl ⟨i, id, entry, hread, hlive, rfl⟩)))))
      · cases h
  | getDelete i =>
      simp only [receiptStore] at h
      split at h
      · rename_i id hexpired
        obtain rfl := Option.some.inj h
        exact Or.inr (Or.inr (Or.inr (Or.inr (Or.inr (Or.inr (Or.inl ⟨i, id, hexpired, rfl⟩))))))
      · cases h
  | cleanupRead i ctxErr =>
      simp only [receiptStore] at h
      split at h
      · rename_i hidle
        split at h
        · obtain rfl := Option.some.inj h
          exact Or.inr (Or.inl ⟨i, .cleaned (.error _), hidle, trivial, rfl⟩)
        · obtain rfl := Option.some.inj h
          exact Or.inr (Or.inl ⟨i, .cleaning s.now, hidle, rfl, rfl⟩)
      · cases h
  | cleanupSweep i =>
      simp only [receiptStore] at h
      split at h
      · rename_i now hcleaning
        obtain rfl := Option.some.inj h
        exact Or.inr (Or.inr (Or.inr (Or.inr (Or.inr (Or.inr (Or.inr ⟨i, now, hcleaning, rfl⟩))))))
      · cases h

/-- A step keeps the invariant. -/
theorem Sound.step {s s' : ReceiptStore} {a : StoreStep} (hs : s.Sound)
    (h : receiptStore.step s a = some s') :
  s'.Sound
  := by
  have hphase {i : Nat} {p : StorePhase} (hp : s.phase i = p) : p.Explained s.history s.now i :=
    hp ▸ hs.phase i
  obtain ⟨d, rfl⟩ | ⟨i, p, hidle, hearly, rfl⟩ | ⟨i, receipt, ttl, hidle, hvalid, rfl⟩
    | ⟨i, id, entry, hidle, hentry, rfl⟩ | ⟨i, id, entry, hread, hexpired, rfl⟩
    | ⟨i, id, entry, hread, hlive, rfl⟩ | ⟨i, id, hexpired, rfl⟩ | ⟨i, now, hcleaning, rfl⟩ := step_cases h
  · have hnow : s.now ≤ s.now + d := by omega
    refine ⟨?_, hs.explained, ?_⟩
    · apply hs.kept.of_shrinks
      · exact shrinks_of_eq rfl
      · exact hnow
      · intro id
        rfl
    · intro i
      apply (hs.phase i).mono hnow (fun _ hx => hx) (fun _ _ _ _ hx => hx)
  · exact hs.setPhase_of_shrinks rfl rfl rfl (shrinks_of_eq rfl) (hearly.explained (hphase hidle))
  · apply hs.setPhase
    · rfl
    · exact Int.le_refl _
    · exact hs.kept.put hvalid
    · exact hs.explained
    · intro x hx
      exact List.mem_cons_of_mem _ hx
    · intro j _ id e time r hmem
      rcases List.mem_cons.mp hmem with heq | hmem
      · cases heq
      · exact hmem
    · intro id e t r hmem
      rcases List.mem_cons.mp hmem with heq | hmem
      · cases heq
      · exact hphase hidle id e t r hmem
  · apply hs.setPhase_record
    · intro e he
      cases he
    · exact ⟨(hs.kept.own id entry hentry).2.2, hs.explained⟩
    · intro j id e time r he
      cases he
    · use List.mem_cons_self
      intro id e t r hmem
      rcases List.mem_cons.mp hmem with heq | hmem
      · cases heq
      · exact hphase hidle id e t r hmem
  · obtain ⟨hmem, hunchecked⟩ := hphase hread
    apply hs.setPhase_record
    · intro e he
      cases he
    · refine ⟨hmem, ?_, hs.explained⟩
      rw [if_pos hexpired]
    · intro j id e time r he
      cases he
      rfl
    · exact fun id e t r => hunchecked.of_checked
  · obtain ⟨hmem, hunchecked⟩ := hphase hread
    apply hs.setPhase_record
    · intro e he
      cases he
    · refine ⟨hmem, ?_, hs.explained⟩
      rw [if_neg hlive]
    · intro j id e time r he
      cases he
      rfl
    · constructor
      · intro id e t r hmem
        rw [hunchecked.of_checked hmem]
      · intro r hr
        cases hr
        exact ⟨id, entry, s.now, List.mem_cons_self⟩
  · apply hs.setPhase_of_shrinks _ (deleteExpired_now s id) (deleteExpired_history s id)
      (shrinks_deleteExpired s id)
    · constructor
      · intro id e t r hmem
        rw [hphase hexpired id e t r hmem]
      · intro r hr
        cases hr
    · exact deleteExpired_phase s id
  · obtain ⟨hnow, hunchecked⟩ := hphase hcleaning
    apply hs.setPhase_of_shrinks
    · rfl
    · rfl
    · rfl
    · exact shrinks_sweep hnow
    · exact hunchecked

/-- A step removes only entries that are expired. -/
theorem Sound.expired_of_removed {s s' : ReceiptStore} {a : StoreStep} (hs : s.Sound)
    (h : receiptStore.step s a = some s') {id : List UInt8} {e : ReceiptEntry}
    (he : s.receipts id = some e) (hnone : s'.receipts id = none) :
  e.Expired s.now
  := by
  have hshrinks : ∀ {t : ReceiptStore}, s.Shrinks t → t.receipts id = none → e.Expired s.now := by
    intro t ht hnone
    rcases ht id with hsame | ⟨-, e', he', hexpired⟩
    · rw [hsame, he] at hnone
      cases hnone
    · obtain rfl := Option.some.inj (he.symm.trans he')
      exact hexpired
  have hsame : s'.receipts = s.receipts → e.Expired s.now := by
    intro heq
    exact hshrinks (shrinks_of_eq heq) hnone
  obtain ⟨d, rfl⟩ | ⟨i, p, -, -, rfl⟩ | ⟨i, receipt, ttl, -, -, rfl⟩ | ⟨i, id, entry, -, -, rfl⟩
    | ⟨i, id, entry, -, -, rfl⟩ | ⟨i, id, entry, -, -, rfl⟩ | ⟨i, id', -, rfl⟩
    | ⟨i, now, hcleaning, rfl⟩ := step_cases h
  · exact hsame rfl
  · exact hsame rfl
  · by_cases hid : id = receipt.receipt.id
    · subst hid
      simp only [ReceiptStore.setPhase, put, Function.update_self] at hnone
      cases hnone
    · simp only [ReceiptStore.setPhase, put, Function.update_of_ne hid] at hnone
      rw [he] at hnone
      cases hnone
  · exact hsame rfl
  · exact hsame rfl
  · exact hsame rfl
  · exact hshrinks (shrinks_deleteExpired s id') hnone
  · have hphase := hs.phase i
    rw [hcleaning] at hphase
    exact hshrinks (shrinks_sweep hphase.1) hnone

/-- Every part of an explained history is explained. -/
theorem explained_of_append {history : List StoreEvent} (post : List StoreEvent)
    (h : Explained (post ++ history)) :
  Explained history
  := by
  induction post with
  | nil => exact h
  | cons e post ih =>
      cases e with
      | stored entry => exact ih h
      | read call id entry => exact ih h.2
      | checked call id entry time result => exact ih h.2.2

/-- What a call that has checked an entry has come to. -/
theorem Sound.phase_of_checked {s : ReceiptStore} (hs : s.Sound) {i : Nat} {id : List UInt8}
    {e : ReceiptEntry} {t : Int} {r : Option SignedReceipt}
    (h : .checked i id e t r ∈ s.history) :
  s.phase i = .got (.ok r) ∨ r = none ∧ ∃ id, s.phase i = .expired id
  := by
  have hphase := hs.phase i
  cases hi : s.phase i with
  | idle =>
      rw [hi] at hphase
      exact absurd h (hphase id e t r)
  | read id' e' =>
      rw [hi] at hphase
      exact absurd h (hphase.2 id e t r)
  | expired id' =>
      rw [hi] at hphase
      exact Or.inr ⟨hphase id e t r h, id', rfl⟩
  | got result =>
      rw [hi] at hphase
      exact Or.inl (congrArg _ (hphase.1 id e t r h))
  | cleaning t' =>
      rw [hi] at hphase
      exact absurd h (hphase.2 id e t r)
  | cleaned result =>
      rw [hi] at hphase
      exact absurd h (hphase id e t r)
  | stored result =>
      rw [hi] at hphase
      exact absurd h (hphase id e t r)

end ReceiptStore

/-- In every run of the in-memory store, with any calls at any times:

* the map holds only valid receipts under their own ids, each the one stored last under its
  id, and it holds every such receipt that is not expired;
* no step removes an entry that is not expired;
* a `Get` checks an entry that was the one stored last under its id when it was read, returns
  its receipt if the entry is not expired at the check, and no receipt if it is;
* a `Get` returns a receipt only after such a check;
* a `Store` with a cancelled context, without a valid receipt or with a ttl that is not
  positive returns an error and changes nothing. -/
theorem receipts_live (start : Int) (as : List StoreStep) (s : ReceiptStore)
    (hrun : receiptStore.run (newReceiptStore start) as = some s) :
  (∀ id e, s.receipts id = some e → e.receipt.receipt.id = id
      ∧ validateReceipt e.receipt = .ok () ∧ latestStored id s.history = some e)
    ∧ (∀ id e, latestStored id s.history = some e → s.now ≤ e.expiresAt → s.receipts id = some e)
    ∧ (∀ a s', receiptStore.step s a = some s' → ∀ id e, s.receipts id = some e →
        s'.receipts id = none → e.expiresAt < s.now)
    ∧ (∀ post i id e t r pre, s.history = post ++ .checked i id e t r :: pre →
        (∃ mid pre', pre = mid ++ .read i id e :: pre' ∧ latestStored id pre' = some e)
          ∧ (t ≤ e.expiresAt → s.phase i = .got (.ok (some e.receipt)))
          ∧ (e.expiresAt < t → ∀ r, s.phase i ≠ .got (.ok (some r))))
    ∧ (∀ i r, s.phase i = .got (.ok (some r)) →
        ∃ id e t, .checked i id e t (some r) ∈ s.history ∧ e.receipt = r ∧ t ≤ e.expiresAt)
    ∧ ∀ i ctxErr receipt ttl s',
        receiptStore.step s (.store i ctxErr receipt ttl) = some s' →
        (ctxErr ≠ none ∨ (∀ r, receipt = some r → validateReceipt r ≠ .ok ()) ∨ ttl ≤ 0) →
        s'.receipts = s.receipts ∧ s'.history = s.history
          ∧ ∃ err, s'.phase i = .stored (.error err)
  := by
  have hs : s.Sound := Machine.run_keeps (fun _ _ _ hs h => hs.step h) as
    (ReceiptStore.sound_new start) hrun
  have hchecked : ∀ post i id e t r pre, s.history = post ++ .checked i id e t r :: pre →
      .read i id e ∈ pre ∧ r = (if e.Expired t then none else some e.receipt) ∧ Explained pre := by
    intro post i id e t r pre hhistory
    have hexplained := hs.explained
    rw [hhistory] at hexplained
    exact ReceiptStore.explained_of_append post hexplained
  refine ⟨hs.kept.own, ?_, ?_, ?_, ?_, ?_⟩
  · intro id e he hlive
    apply hs.kept.live id e he
    exact Int.not_lt.mpr hlive
  · intro a s' h id e he hnone
    exact hs.expired_of_removed h he hnone
  · intro post i id e t r pre hhistory
    obtain ⟨hread, hr, hpre⟩ := hchecked post i id e t r pre hhistory
    have hmem : .checked i id e t r ∈ s.history := by
      rw [hhistory]
      exact List.mem_append_right post List.mem_cons_self
    refine ⟨?_, ?_, ?_⟩
    · obtain ⟨mid, pre', hpre'⟩ := List.append_of_mem hread
      rw [hpre'] at hpre
      exact ⟨mid, pre', hpre', (ReceiptStore.explained_of_append mid hpre).1⟩
    · intro hlive
      have hlive' : ¬ e.Expired t := Int.not_lt.mpr hlive
      rw [if_neg hlive'] at hr
      subst hr
      rcases hs.phase_of_checked hmem with hphase | ⟨hnone, -⟩
      · exact hphase
      · cases hnone
    · intro hexpired r' hr'
      have hexpired' : e.Expired t := hexpired
      rw [if_pos hexpired'] at hr
      subst hr
      rcases hs.phase_of_checked hmem with hphase | ⟨-, id', hphase⟩
      · rw [hphase] at hr'
        cases hr'
      · rw [hphase] at hr'
        cases hr'
  · intro i r hphase
    have hi := hs.phase i
    rw [hphase] at hi
    obtain ⟨id, e, t, hmem⟩ := hi.2 r rfl
    obtain ⟨post, pre, hhistory⟩ := List.append_of_mem hmem
    obtain ⟨-, hr, -⟩ := hchecked post i id e t (some r) pre hhistory
    use id, e, t, hmem
    split at hr
    · cases hr
    · rename_i hlive
      exact ⟨(Option.some.inj hr).symm, Int.not_lt.mp hlive⟩
  · intro i ctxErr receipt ttl s' h hfails
    simp only [receiptStore] at h
    split at h
    · split at h
      · rename_i err _
        obtain rfl := Option.some.inj h
        exact ⟨rfl, rfl, err, Function.update_self _ _ _⟩
      · rename_i receipt' hcheck
        obtain ⟨hctx, hreceipt, hvalid, httl⟩ := ReceiptStore.checkReceiptToStore_eq_ok.mp hcheck
        rcases hfails with hctx' | hinvalid | httl'
        · exact absurd hctx hctx'
        · exact absurd hvalid (hinvalid receipt' hreceipt)
        · exact absurd httl (Int.not_lt.mpr httl')
    · cases h

/-- A valid receipt. -/
def sampleReceipt : SignedReceipt where
  receipt := {
    id := bytes "rcpt_123456789abc"
    version := bytes "1.0"
    timestamp := { unixNano := 1700000000000000000 }
    payment := {
      payer := bytes "0x742d35Cc6634C0532925a3b844Bc9e7595f8fE21"
      recipient := bytes "0x2cAF48b4BA1C58721a85dFADa5aC01C2DFa62219"
      amount := bytes "0.001"
      token := bytes "USDC"
      chainId := 8453
      nonce := bytes "test-nonce" }
    service := {
      endpoint := bytes "/api/ai/summarize"
      requestHash := bytes "sha256:test"
      responseHash := bytes "sha256:response" } }
  signature := bytes "0x1234567890abcdef"
  serverPublicKey := bytes "0xabcdef1234567890"

/-- A call reads the entry of a receipt, which is expired at the check and stored again before
the call looks a second time; a later call looks the receipt up. -/
def sampleStoreSteps : List StoreStep :=
  [.store 0 none (some sampleReceipt) 10, .getRead 1 none (bytes "rcpt_123456789abc"), .elapse 11,
    .getCheck 1, .store 2 none (some sampleReceipt) 10, .getDelete 1,
    .getRead 3 none (bytes "rcpt_123456789abc"), .elapse 10, .getCheck 3]

/-- The first call does not find the receipt and does not delete the one that was stored again,
which the later call returns after a check at the very time it expires. -/
theorem receipts_live_sample :
  ∃ s, receiptStore.run (newReceiptStore 0) sampleStoreSteps = some s
    ∧ s.phase 1 = .got (.ok none)
    ∧ ∃ id e t, .checked 3 id e t (some sampleReceipt) ∈ s.history
        ∧ e.receipt = sampleReceipt ∧ t ≤ e.expiresAt
  := by
  have hphases : (receiptStore.run (newReceiptStore 0) sampleStoreSteps).map
      (fun s => (s.phase 1, s.phase 3))
        = some (.got (.ok none), .got (.ok (some sampleReceipt))) := by
    decide +kernel
  obtain ⟨s, hs, hphases'⟩ := Option.map_eq_some_iff.mp hphases
  obtain ⟨hfirst, hthird⟩ := Prod.mk.inj hphases'
  use s, hs, hfirst
  apply (receipts_live 0 sampleStoreSteps s hs).2.2.2.2.1 3 sampleReceipt hthird

end Paygate.Gateway
