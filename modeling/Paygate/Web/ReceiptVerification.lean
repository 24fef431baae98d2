import Paygate.Base.Machine
import Paygate.Web.Accepted

/-!
# The verification badge

The hook that verifies the receipt on the screen.  An effect starts a verification for each receipt
that is passed, and cancels the one before; the result of a verification that was not cancelled is
kept with the key of its receipt, and is shown only for a receipt with this key.

Verifications end in any order, and between any two steps the hook may be rendered with another
receipt.  A verdict that is shown is the verdict of a verification whose receipt has the same key
(`Backed`), and the key determines all that the verification looks at (`sameContent_of_key`).
-/

namespace Paygate.Web

open Text Json

/-! ### Receipts and their keys -/

/-- A signed receipt: a value with a receipt that is an object, and a signature and a key that are
strings. -/
structure SignedReceipt where
  value : Json (List UInt16)
  receipt : Members
  signature : List UInt16
  serverPublicKey : List UInt16
  get_receipt : JsJson.get value "receipt" = some (.obj receipt)
  get_signature : JsJson.get value "signature" = some (.str signature)
  get_serverPublicKey : JsJson.get value "server_public_key" = some (.str serverPublicKey)

/-- What identifies the content of a receipt. -/
def getReceiptVerificationKey : Option SignedReceipt → Option (List Char)
  | none => none
  | some r => some (stringify jsNumbers (.obj [
      (units "receipt", .obj r.receipt),
      (units "signature", .str r.signature),
      (units "server_public_key", .str r.serverPublicKey)]))

/-- The content of two receipts is written alike. -/
structure SameContent (r r' : SignedReceipt) : Prop where
  receipt : stringify jsNumbers (.obj r.receipt) = stringify jsNumbers (.obj r'.receipt)
  signature : r.signature = r'.signature
  serverPublicKey : r.serverPublicKey = r'.serverPublicKey

/-- Receipts with the same key have the same content. -/
theorem sameContent_of_key {r r' : SignedReceipt}
    (h : getReceiptVerificationKey (some r) = getReceiptVerificationKey (some r')) :
  SameContent r r'
  := by
  have hwritten : ∀ {v w : Json (List UInt16)}, stringify jsNumbers v = stringify jsNumbers w →
      written v = written w := by
    intro v w hvw
    have hparse := parse_stringify v
    rw [hvw, parse_stringify] at hparse
    exact (Option.some.inj hparse).symm
  have hget := fun name => congrArg (fun v => JsJson.get v name) (hwritten (Option.some.inj h))
  simp only [get_written] at hget
  constructor
  · rw [stringify_eq, stringify_eq]
    exact congrArg JsJson.stringify (Option.some.inj (hget "receipt"))
  · exact Json.str.inj (Option.some.inj (hget "signature"))
  · exact Json.str.inj (Option.some.inj (hget "server_public_key"))

/-- Verifying receipts with the same content gives the same result. -/
theorem SameContent.verifyReceipt_eq {r r' : SignedReceipt} (h : SameContent r r')
    (eth : Sdk.Ethers) :
  verifyReceipt eth jsNumbers r.value = verifyReceipt eth jsNumbers r'.value
  := by
  simp only [verifyReceipt, r.get_receipt, r.get_signature, r.get_serverPublicKey,
    r'.get_receipt, r'.get_signature, r'.get_serverPublicKey, h.receipt, h.signature,
    h.serverPublicKey]
  rfl

/-! ### The hook -/

/-- What the hook returns. -/
inductive ReceiptVerifyState where
  | missing
  | verifying
  | valid
  | invalid
  deriving DecidableEq, Repr

/-- The verdict on the receipt with a key; at the start there is no such receipt. -/
structure VerificationResult where
  key : Option (List Char)
  valid : Bool

/-- A verification of a receipt: whether it was cancelled, and how its promise ended, which is
with an error if it was rejected. -/
structure Verification where
  receipt : SignedReceipt
  cancelled : Bool
  outcome : Option (Except Unit Bool)

/-- The object that is passed to the hook. -/
structure PassedReceipt where
  identity : Nat
  receipt : SignedReceipt

/-- The key of the receipt that is passed. -/
def receiptKey (passed : Option PassedReceipt) : Option (List Char) :=
  getReceiptVerificationKey (passed.map PassedReceipt.receipt)

/-- The hook: what was passed to it when it was last rendered, its state and the updates of the
state that were not rendered yet, the dependencies of its effect when it last ran, the verification
which the cleanup of the effect cancels, and all verifications that were started. -/
structure VerificationHook where
  passed : Option PassedReceipt
  result : VerificationResult
  updates : List VerificationResult
  deps : Option (Option Nat × Option (List Char))
  running : Option Nat
  verifications : List Verification

namespace VerificationHook

/-- The hook before it is rendered. -/
def start : VerificationHook where
  passed := none
  result := { key := none, valid := false }
  updates := []
  deps := none
  running := none
  verifications := []

/-- The state after some of the updates. -/
def resultAfter (s : VerificationHook) (n : Nat) : VerificationResult :=
  (s.updates.take n).getLastD s.result

/-- What the hook returns for a receipt, in a render that sees some of the updates. -/
def useReceiptVerification (s : VerificationHook) (passed : Option PassedReceipt) (n : Nat) :
    ReceiptVerifyState :=
  if passed.isNone then .missing
  else if (s.resultAfter n).key ≠ receiptKey passed then .verifying
  else if (s.resultAfter n).valid then .valid
  else .invalid

/-- The cleanup of the effect. -/
def cancel (s : VerificationHook) : VerificationHook where
  passed := s.passed
  result := s.result
  updates := s.updates
  deps := none
  running := none
  verifications :=
    match s.running with
    | none => s.verifications
    | some i => s.verifications.modify i fun v => { v with cancelled := true }

/-- The effect. -/
def startVerification (s : VerificationHook) : VerificationHook :=
  let s := { s with deps := some (s.passed.map PassedReceipt.identity, receiptKey s.passed) }
  match s.passed, receiptKey s.passed with
  | some passed, some (_ :: _) =>
      { s with
        running := some s.verifications.length
        verifications := s.verifications ++ [{
          receipt := passed.receipt
          cancelled := false
          outcome := none }] }
  | _, _ => s

/-- What can happen: the hook is rendered with a receipt and some of the updates, the effects of
the last render run, the effects are cleaned up, or a verification ends. -/
inductive Event where
  | render (passed : Option PassedReceipt) (n : Nat)
  | effects
  | cleanup
  | settle (i : Nat) (outcome : Except Unit Bool)

/-- The hook after an event.  The effect runs again if its dependencies have changed, after its
cleanup.  A verification that was not cancelled updates the state when it ends. -/
def step (s : VerificationHook) : Event → Option VerificationHook
  | .render passed n =>
      some { s with passed := passed, result := s.resultAfter n, updates := s.updates.drop n }
  | .effects =>
      if s.deps = some (s.passed.map PassedReceipt.identity, receiptKey s.passed) then some s
      else some s.cancel.startVerification
  | .cleanup => some s.cancel
  | .settle i outcome =>
      match s.verifications[i]? with
      | some v =>
          if v.outcome.isSome then none
          else some { s with
            verifications := s.verifications.set i { v with outcome := some outcome }
            updates :=
              if v.cancelled then s.updates
              else s.updates ++ [{
                key := getReceiptVerificationKey (some v.receipt)
                valid := outcome.toOption = some true }] }
      | none => none

/-- The hook as a machine. -/
def machine : Machine VerificationHook Event where
  step := step

/-! ### Verdicts -/

/-- A verdict is that of a verification that ended, of a receipt with the key. -/
def Backed (verifications : List Verification) (result : VerificationResult) : Prop :=
  ∃ (i : Nat) (v : Verification) (outcome : Except Unit Bool),
    verifications[i]? = some v ∧ v.outcome = some outcome
      ∧ result.key = getReceiptVerificationKey (some v.receipt)
      ∧ result.valid = decide (outcome.toOption = some true)

/-- The verifications of one list are in the other, and have ended there if they had ended. -/
def Kept (vs vs' : List Verification) : Prop :=
  ∀ (i : Nat) (v : Verification), vs[i]? = some v →
    ∃ v', vs'[i]? = some v' ∧ v'.receipt = v.receipt
      ∧ ∀ outcome, v.outcome = some outcome → v'.outcome = some outcome

/-- A verdict stays that of a verification. -/
theorem Backed.kept {vs vs' : List Verification} {result : VerificationResult}
    (h : Backed vs result) (hkept : Kept vs vs') :
  Backed vs' result
  := by
  obtain ⟨i, v, outcome, hv, houtcome, hkey, hvalid⟩ := h
  obtain ⟨v', hv', hreceipt, hended⟩ := hkept i v hv
  refine ⟨i, v', outcome, hv', hended outcome houtcome, ?_, hvalid⟩
  rw [hreceipt, hkey]

theorem Kept.refl (vs : List Verification) : Kept vs vs
  := by
  intro i v hv
  exact ⟨v, hv, rfl, fun _ h => h⟩

theorem Kept.trans {vs vs' vs'' : List Verification} (h : Kept vs vs') (h' : Kept vs' vs'') :
  Kept vs vs''
  := by
  intro i v hv
  obtain ⟨v', hv', hreceipt, hended⟩ := h i v hv
  obtain ⟨v'', hv'', hreceipt', hended'⟩ := h' i v' hv'
  exact ⟨v'', hv'', hreceipt'.trans hreceipt, fun outcome ho => hended' outcome (hended outcome ho)⟩

/-- Cancelling keeps the verifications. -/
theorem kept_cancel (s : VerificationHook) : Kept s.verifications s.cancel.verifications
  := by
  unfold cancel
  cases s.running with
  | none => exact Kept.refl _
  | some j =>
      intro i v hv
      simp only [List.getElem?_modify, hv]
      split
      · exact ⟨_, rfl, rfl, fun _ h => h⟩
      · exact ⟨_, rfl, rfl, fun _ h => h⟩

/-- Starting a verification keeps the others. -/
theorem kept_startVerification (s : VerificationHook) :
  Kept s.verifications s.startVerification.verifications
  := by
  unfold startVerification
  dsimp only
  split
  · intro i v hv
    refine ⟨v, ?_, rfl, fun _ h => h⟩
    rw [List.getElem?_append_left (List.getElem?_eq_some_iff.mp hv).1, hv]
  · exact Kept.refl _

/-- The effect leaves the state and its updates as they are. -/
theorem startVerification_state (s : VerificationHook) :
  s.startVerification.result = s.result ∧ s.startVerification.updates = s.updates
  := by
  unfold startVerification
  dsimp only
  split
  · exact ⟨rfl, rfl⟩
  · exact ⟨rfl, rfl⟩

/-- Ending a verification that is pending keeps the verifications. -/
theorem kept_set {vs : List Verification} {i : Nat} {v : Verification} (hv : vs[i]? = some v)
    (hpending : ¬ v.outcome.isSome) (outcome : Except Unit Bool) :
  Kept vs (vs.set i { v with outcome := some outcome })
  := by
  intro j w hw
  by_cases hj : i = j
  · subst hj
    obtain rfl := Option.some.inj (hv.symm.trans hw)
    refine ⟨_, List.getElem?_set_self (List.getElem?_eq_some_iff.mp hv).1, rfl, ?_⟩
    intro o ho
    rw [ho] at hpending
    exact absurd rfl hpending
  · refine ⟨w, ?_, rfl, fun _ h => h⟩
    rw [List.getElem?_set_ne hj, hw]

/-- The state after some of the updates is the state or one of the updates. -/
theorem resultAfter_mem (s : VerificationHook) (n : Nat) : s.resultAfter n ∈ s.result :: s.updates
  := by
  unfold resultAfter
  rw [List.getLastD_eq_getLast?]
  cases hlast : (s.updates.take n).getLast? with
  | none => exact List.mem_cons_self
  | some result => exact List.mem_cons_of_mem _ (List.mem_of_mem_take (List.mem_of_getLast? hlast))

/-- Only a pending verification ends, and its verdict joins the updates unless it was cancelled. -/
theorem settle_cases {s s' : VerificationHook} {i : Nat} {outcome : Except Unit Bool}
    (hstep : s.step (.settle i outcome) = some s') :
  ∃ v, s.verifications[i]? = some v ∧ ¬ v.outcome.isSome
    ∧ s'.verifications = s.verifications.set i { v with outcome := some outcome }
    ∧ s'.result = s.result
    ∧ (s'.updates = s.updates ∨ s'.updates = s.updates ++ [{
        key := getReceiptVerificationKey (some v.receipt)
        valid := outcome.toOption = some true }])
  := by
  simp only [step] at hstep
  split at hstep
  · rename_i v hv
    split at hstep
    · cases hstep
    · rename_i hpending
      obtain rfl := Option.some.inj hstep
      refine ⟨v, hv, hpending, rfl, rfl, ?_⟩
      cases v.cancelled with
      | true => exact Or.inl rfl
      | false => exact Or.inr rfl
  · cases hstep

/-- Every event keeps the verifications. -/
theorem kept_step {s s' : VerificationHook} {e : Event} (hstep : s.step e = some s') :
  Kept s.verifications s'.verifications
  := by
  cases e with
  | render passed n =>
      obtain rfl := Option.some.inj hstep
      exact Kept.refl _
  | effects =>
      simp only [step] at hstep
      split at hstep
      · obtain rfl := Option.some.inj hstep
        exact Kept.refl _
      · obtain rfl := Option.some.inj hstep
        exact s.kept_cancel.trans s.cancel.kept_startVerification
  | cleanup =>
      obtain rfl := Option.some.inj hstep
      exact s.kept_cancel
  | settle i outcome =>
      obtain ⟨v, hv, hpending, hverifications, -⟩ := settle_cases hstep
      rw [hverifications]
      exact kept_set hv hpending outcome

/-- A verdict in the state or its updates after an event was there before, or is that of a
verification that ended. -/
theorem verdict_of_step {s s' : VerificationHook} {e : Event} (hstep : s.step e = some s')
    {result : VerificationResult} (hresult : result ∈ s'.result :: s'.updates) :
  result ∈ s.result :: s.updates ∨ Backed s'.verifications result
  := by
  cases e with
  | render passed n =>
      obtain rfl := Option.some.inj hstep
      left
      rcases List.mem_cons.mp hresult with rfl | hresult
      · exact s.resultAfter_mem n
      · exact List.mem_cons_of_mem _ (List.mem_of_mem_drop hresult)
  | effects =>
      left
      simp only [step] at hstep
      split at hstep
      · obtain rfl := Option.some.inj hstep
        exact hresult
      · obtain rfl := Option.some.inj hstep
        obtain ⟨hstate, hupdates⟩ := s.cancel.startVerification_state
        rwa [hstate, hupdates] at hresult
  | cleanup =>
      obtain rfl := Option.some.inj hstep
      exact Or.inl hresult
  | settle i outcome =>
      obtain ⟨v, hv, -, hverifications, hstate, hupdates | hupdates⟩ := settle_cases hstep
      · rw [hstate, hupdates] at hresult
        exact Or.inl hresult
      · rw [hstate, hupdates, ← List.cons_append, List.mem_append, List.mem_singleton] at hresult
        rcases hresult with hresult | rfl
        · exact Or.inl hresult
        · right
          have hlt := (List.getElem?_eq_some_iff.mp hv).1
          rw [hverifications]
          exact ⟨i, _, outcome, List.getElem?_set_self hlt, rfl, rfl, rfl⟩

/-- Every verdict in the state and its updates is that of a verification. -/
def Inv (s : VerificationHook) : Prop :=
  ∀ result ∈ s.result :: s.updates, result.key = none ∨ Backed s.verifications result

theorem inv_start : start.Inv
  := by
  intro result hresult
  left
  obtain rfl := List.mem_singleton.mp hresult
  rfl

/-- Every event keeps the invariant. -/
theorem Inv.step {s s' : VerificationHook} {e : Event} (h : s.Inv) (hstep : s.step e = some s') :
  s'.Inv
  := by
  intro result hresult
  rcases verdict_of_step hstep hresult with hbefore | hbacked
  · rcases h result hbefore with hnone | hbacked
    · exact Or.inl hnone
    · exact Or.inr (hbacked.kept (kept_step hstep))
  · exact Or.inr hbacked

theorem inv_run {events : List Event} {s : VerificationHook}
    (hrun : machine.run start events = some s) :
  s.Inv
  := by
  apply Machine.run_keeps _ events inv_start hrun
  intro s e s' h hstep
  exact h.step hstep

/-- A verdict that the hook returns is that of a verification of a receipt with the same
content. -/
theorem Inv.shown {s : VerificationHook} (h : s.Inv) {p : PassedReceipt} {n : Nat}
    (hshown : s.useReceiptVerification (some p) n ≠ .verifying) :
  ∃ (i : Nat) (v : Verification) (outcome : Except Unit Bool),
    s.verifications[i]? = some v ∧ v.outcome = some outcome ∧ SameContent v.receipt p.receipt
      ∧ s.useReceiptVerification (some p) n
        = if outcome.toOption = some true then .valid else .invalid
  := by
  have hkey : (s.resultAfter n).key = receiptKey (some p) := by
    by_contra hne
    apply hshown
    simp [useReceiptVerification, hne]
  rcases h _ (s.resultAfter_mem n) with hnone | ⟨i, v, outcome, hv, houtcome, hkey', hvalid⟩
  · rw [hnone] at hkey
    cases hkey
  · refine ⟨i, v, outcome, hv, houtcome, sameContent_of_key (hkey'.symm.trans hkey), ?_⟩
    simp [useReceiptVerification, hkey, hvalid]

/-- In every run of the hook, with any receipts passed to it and verifications ending in any order,
a render returns `missing` exactly if no receipt is passed.  If it returns `valid`, a verification
of a receipt with the content of the one passed has ended with true, and if it returns `invalid`,
such a verification has ended with false or was rejected.  Verifying receipts with the same content
gives the same result. -/
theorem verdict_of_content {events : List Event} {s : VerificationHook}
    (hrun : machine.run start events = some s) (passed : Option PassedReceipt) (n : Nat) :
  (s.useReceiptVerification passed n = .missing ↔ passed = none)
    ∧ ∀ p, passed = some p →
      (s.useReceiptVerification passed n = .valid →
        ∃ (i : Nat) (v : Verification), s.verifications[i]? = some v
          ∧ v.outcome = some (.ok true) ∧ SameContent v.receipt p.receipt
          ∧ ∀ eth, verifyReceipt eth jsNumbers v.receipt.value
            = verifyReceipt eth jsNumbers p.receipt.value)
      ∧ (s.useReceiptVerification passed n = .invalid →
        ∃ (i : Nat) (v : Verification), s.verifications[i]? = some v
          ∧ (v.outcome = some (.ok false) ∨ v.outcome = some (.error ()))
          ∧ SameContent v.receipt p.receipt
          ∧ ∀ eth, verifyReceipt eth jsNumbers v.receipt.value
            = verifyReceipt eth jsNumbers p.receipt.value)
  := by
  have hinv := inv_run hrun
  constructor
  · cases passed with
    | none => simp [useReceiptVerification]
    | some p =>
        simp only [useReceiptVerification, reduceCtorEq, iff_false]
        simp only [Option.isNone_some, Bool.false_eq_true, if_false]
        split
        · simp
        · split
          · simp
          · simp
  · rintro p rfl
    constructor
    · intro hvalid
      obtain ⟨i, v, outcome, hv, houtcome, hsame, hverdict⟩ := hinv.shown (p := p) (n := n)
        (by rw [hvalid]; decide)
      refine ⟨i, v, hv, ?_, hsame, hsame.verifyReceipt_eq⟩
      rw [hvalid] at hverdict
      rcases outcome with ⟨⟩ | _ | _
      · cases hverdict
      · cases hverdict
      · exact houtcome
    · intro hinvalid
      obtain ⟨i, v, outcome, hv, houtcome, hsame, hverdict⟩ := hinv.shown (p := p) (n := n)
        (by rw [hinvalid]; decide)
      refine ⟨i, v, hv, ?_, hsame, hsame.verifyReceipt_eq⟩
      rw [hinvalid] at hverdict
      rcases outcome with ⟨⟩ | _ | _
      · exact Or.inr houtcome
      · exact Or.inl houtcome
      · cases hverdict

/-- A receipt with an identifier, as the object with the given identity. -/
def samplePassed (identity : Nat) (id : String) : PassedReceipt where
  identity := identity
  receipt := {
    value := .obj [
      (units "receipt", .obj [(units "id", .str (units id))]),
      (units "signature", .str (units "0xaa")),
      (units "server_public_key", .str (units "0xbb"))]
    receipt := [(units "id", .str (units id))]
    signature := units "0xaa"
    serverPublicKey := units "0xbb"
    get_receipt := rfl
    get_signature := rfl
    get_serverPublicKey := rfl }

/-- One receipt is passed and then another one, whose verification ends with true before that of
the first one is rejected.  The other one is shown as valid, also as another object with the same
content, and the first one is not. -/
theorem verdict_of_content_sample :
  ∃ s, machine.run start [
      .render (some (samplePassed 0 "rcpt_1")) 0, .effects,
      .render (some (samplePassed 1 "rcpt_2")) 0, .effects,
      .settle 1 (.ok true), .settle 0 (.error ()),
      .render (some (samplePassed 1 "rcpt_2")) 1] = some s
    ∧ s.useReceiptVerification (some (samplePassed 2 "rcpt_2")) 0 = .valid
    ∧ s.useReceiptVerification (some (samplePassed 0 "rcpt_1")) 0 = .verifying
    ∧ ∃ (i : Nat) (v : Verification), s.verifications[i]? = some v ∧ v.outcome = some (.ok true)
      ∧ SameContent v.receipt (samplePassed 2 "rcpt_2").receipt
  := by
  obtain ⟨s, hrun⟩ := Option.isSome_iff_exists.mp (show (machine.run start [
      .render (some (samplePassed 0 "rcpt_1")) 0, .effects,
      .render (some (samplePassed 1 "rcpt_2")) 0, .effects,
      .settle 1 (.ok true), .settle 0 (.error ()),
      .render (some (samplePassed 1 "rcpt_2")) 1]).isSome = true by decide)
  have hshown : (machine.run start [
      .render (some (samplePassed 0 "rcpt_1")) 0, .effects,
      .render (some (samplePassed 1 "rcpt_2")) 0, .effects,
      .settle 1 (.ok true), .settle 0 (.error ()),
      .render (some (samplePassed 1 "rcpt_2")) 1]).map (fun s =>
        (s.useReceiptVerification (some (samplePassed 2 "rcpt_2")) 0,
          s.useReceiptVerification (some (samplePassed 0 "rcpt_1")) 0))
      = some (.valid, .verifying) := by
    decide +kernel
  rw [hrun, Option.map_some, Option.some.injEq, Prod.mk.injEq] at hshown
  obtain ⟨i, v, hv, houtcome, hsame, -⟩ :=
    ((verdict_of_content hrun (some (samplePassed 2 "rcpt_2")) 0).2 _ rfl).1 hshown.1
  exact ⟨s, hrun, hshown.1, hshown.2, i, v, hv, houtcome, hsame⟩

end VerificationHook

end Paygate.Web
