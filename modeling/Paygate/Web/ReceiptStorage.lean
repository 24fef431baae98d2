import Paygate.Base.Recency
import Paygate.Web.Values

/-!
# The receipt history of the web client

The receipts the web client keeps in the local storage of the browser: a text that is written
by `JSON.stringify`, and read again and checked before each use.  Whatever the storage allows,
the entries that are listed are the most recent ones that were saved.
-/

namespace Paygate.Web

open Text Json

namespace ReceiptStorage

/-! ### The checks of an entry -/

/-- Whether a value is an object, and not null. -/
def isObject : Option (Json (List UInt16)) → Bool
  | some (.arr _) | some (.obj _) => true
  | _ => false

/-- Whether a value is a string. -/
def isString : Option (Json (List UInt16)) → Bool
  | some (.str _) => true
  | _ => false

/-- Whether a value is a number. -/
def isNumber : Option (Json (List UInt16)) → Bool
  | some (.num _) => true
  | _ => false

/-- Whether a value is a number that is not infinite. -/
def isFiniteNumber : Option (Json (List UInt16)) → Bool
  | some (.num l) => isFinite l
  | _ => false

/-- Whether a value is a string that starts with `0x`. -/
def isHexString : Option (Json (List UInt16)) → Bool
  | some (.str s) => units "0x" <+: s
  | _ => false

/-- The check of the receipt in an entry. -/
def isSignedReceipt (sr : Option (Json (List UInt16))) : Bool :=
  let r := get? sr "receipt"
  let p := get? r "payment"
  let s := get? r "service"
  isObject sr
    && isHexString (get? sr "signature")
    && isHexString (get? sr "server_public_key")
    && isObject r
    && isString (get? r "id")
    && isObject p
    && isString (get? p "payer") && isString (get? p "recipient")
    && isString (get? p "amount") && isString (get? p "token")
    && isNumber (get? p "chainId")
    && isObject s
    && isString (get? s "endpoint")
    && isString (get? s "request_hash") && isString (get? s "response_hash")

/-- Whether a value that was read is an entry. -/
def isValidEntry (entry : Json (List UInt16)) : Bool :=
  isObject (some entry)
    && isFiniteNumber (JsJson.get entry "savedAt")
    && isSignedReceipt (JsJson.get entry "receipt")

/-! ### Reading -/

/-- The entries in the text that is kept. -/
def parse (raw : Option (List UInt16)) : List (Json (List UInt16)) :=
  match raw with
  | none | some [] => []
  | some raw =>
      match Web.parse raw with
      | some (.arr parsed) => parsed.filter isValidEntry
      | _ => []

/-- What the browser allows during a call. -/
structure Access where
  isBrowser : Bool
  readable : Bool
  writable : Bool

variable (access : Access)

/-- The text that is kept, if it can be read. -/
def readRaw (item : Option (List UInt16)) : Option (List UInt16) :=
  if access.isBrowser && access.readable then item else none

/-- The entries that are kept. -/
def listReceipts (item : Option (List UInt16)) : List (Json (List UInt16)) :=
  parse (readRaw access item)

/-! ### Writing

A call has the item of the storage and gives the item after it; it gives none where it throws. -/

/-- The most entries that are kept. -/
def MAX : Nat := 20

/-- A time in milliseconds, as `Date.now` gives it. -/
abbrev Time := {t : Int // t.natAbs ≤ 8640000000000000}

/-- Writing the item, which throws where the storage does not allow it. -/
def setItem (item : Option (List UInt16)) : Option (Option (List UInt16)) :=
  if access.writable then some item else none

/-- The entries with a check that may throw. -/
def filter? (check : Json (List UInt16) → Option Bool) :
    List (Json (List UInt16)) → Option (List (Json (List UInt16)))
  | [] => some []
  | e :: entries => do
      let kept ← check e
      let rest ← filter? check entries
      return if kept then e :: rest else rest

/-- The identifier of the receipt in an entry. -/
def entryId (e : Json (List UInt16)) : Option (Option (Json (List UInt16))) := do
  let receipt ← property (some e) "receipt"
  let r ← property receipt "receipt"
  property r "id"

/-- The entry for a receipt. -/
def entry (receipt : Json (List UInt16)) (promptPreview : List UInt16) (now : Time) :
    Json (List UInt16) :=
  .obj [(units "receipt", receipt),
    (units "savedAt", .num (decimalInt now.1)),
    (units "promptPreview", .str (promptPreview.take 80))]

/-- Whether an entry is that of another receipt. -/
def differs (receipt e : Json (List UInt16)) : Option Bool := do
  let id ← entryId e
  let r ← property (some receipt) "receipt"
  return !strictlyEqual id (← property r "id")

/-- A receipt is saved before the entries of other receipts. -/
def saveReceipt (receipt : Json (List UInt16)) (promptPreview : List UInt16) (now : Time)
    (item : Option (List UInt16)) : Option (Option (List UInt16)) :=
  if !access.isBrowser then some item
  else do
    let entries := listReceipts access item
    let filtered ← filter? (differs receipt) entries
    let next := entry receipt promptPreview now
    let trimmed := (next :: filtered).take MAX
    return (setItem access (some (utf16 (stringify jsNumbers (.arr trimmed))))).getD item

/-- Whether an entry has another identifier. -/
def differsFrom (id : List UInt16) (e : Json (List UInt16)) : Option Bool := do
  return !strictlyEqual (← entryId e) (some (.str id))

/-- The entries of a receipt are removed. -/
def removeReceipt (id : List UInt16) (item : Option (List UInt16)) :
    Option (Option (List UInt16)) :=
  if !access.isBrowser then some item
  else do
    let entries ← filter? (differsFrom id) (listReceipts access item)
    return (setItem access (some (utf16 (stringify jsNumbers (.arr entries))))).getD item

/-- All entries are removed. -/
def clearReceipts (item : Option (List UInt16)) : Option (Option (List UInt16)) :=
  if !access.isBrowser then some item
  else some ((setItem access none).getD item)

/-! ### What a value is after it is written -/

theorem get?_written (v : Option (Json (List UInt16))) (name : String) :
  get? (v.map written) name = (get? v name).map written
  := by
  cases v with
  | none => rfl
  | some v => exact get_written v name

/-- A number that is written stays a number, but an infinite one becomes null. -/
theorem written_num (l : List Char) :
  (isFinite l = true ∧ ∃ l', written (.num l) = .num l' ∧ isFinite l' = true)
    ∨ (isFinite l = false ∧ written (.num l) = .null)
  := by
  rw [written, resolve]
  cases hfinite : isFinite l with
  | true => exact Or.inl ⟨rfl, _, if_pos rfl, (isFinite_toString hfinite).1⟩
  | false => exact Or.inr ⟨rfl, if_neg Bool.false_ne_true⟩

/-- A check that takes neither a number nor null, and else looks at nothing that changes, comes to
the same of what is written. -/
theorem check_written {check : Option (Json (List UInt16)) → Bool}
    (hnum : ∀ l, check (some (.num l)) = false) (hnull : check (some .null) = false)
    (harr : ∀ vs ws, check (some (.arr vs)) = check (some (.arr ws)))
    (hobj : ∀ ms ns, check (some (.obj ms)) = check (some (.obj ns)))
    (v : Option (Json (List UInt16))) :
  check (v.map written) = check v
  := by
  rcases v with _ | ⟨⟩ | b | l | s | vs | ms
  case some.num =>
    rw [Option.map_some, hnum]
    rcases written_num l with ⟨-, l', hl, -⟩ | ⟨-, hl⟩
    · rw [hl, hnum]
    · rw [hl, hnull]
  case some.arr => exact harr _ _
  case some.obj => exact hobj _ _
  all_goals rfl

theorem isObject_written (v : Option (Json (List UInt16))) : isObject (v.map written) = isObject v
  := check_written (fun _ => rfl) rfl (fun _ _ => rfl) (fun _ _ => rfl) v

theorem isString_written (v : Option (Json (List UInt16))) : isString (v.map written) = isString v
  := check_written (fun _ => rfl) rfl (fun _ _ => rfl) (fun _ _ => rfl) v

theorem isHexString_written (v : Option (Json (List UInt16))) :
  isHexString (v.map written) = isHexString v
  := check_written (fun _ => rfl) rfl (fun _ _ => rfl) (fun _ _ => rfl) v

/-- A number is still a number only if it is not infinite. -/
theorem isNumber_written (v : Option (Json (List UInt16))) :
  isNumber (v.map written) = isFiniteNumber v
  := by
  rcases v with _ | ⟨⟩ | b | l | s | vs | ms
  case some.num =>
    rw [Option.map_some, isFiniteNumber]
    rcases written_num l with ⟨hfinite, l', hl, -⟩ | ⟨hinfinite, hl⟩
    · rw [hl, hfinite]
      rfl
    · rw [hl, hinfinite]
      rfl
  all_goals rfl

theorem isFiniteNumber_written (v : Option (Json (List UInt16))) :
  isFiniteNumber (v.map written) = isFiniteNumber v
  := by
  rcases v with _ | ⟨⟩ | b | l | s | vs | ms
  case some.num =>
    rw [Option.map_some, isFiniteNumber]
    rcases written_num l with ⟨hfinite, l', hl, hfinite'⟩ | ⟨hinfinite, hl⟩
    · rw [hl, hfinite]
      exact hfinite'
    · rw [hl, hinfinite]
      rfl
  all_goals rfl

theorem isNumber_of_isFiniteNumber {v : Option (Json (List UInt16))} (h : isFiniteNumber v = true) :
  isNumber v = true
  := by
  rcases v with _ | ⟨⟩ | b | l | s | vs | ms
  case some.num => rfl
  all_goals cases h

/-- The chain of the payment in a receipt. -/
def chainId (sr : Option (Json (List UInt16))) : Option (Json (List UInt16)) :=
  get? (get? (get? sr "receipt") "payment") "chainId"

/-- A receipt that is written passes the check again if its chain is a number that is not
infinite. -/
theorem isSignedReceipt_written (sr : Option (Json (List UInt16))) :
  isSignedReceipt (sr.map written) = (isSignedReceipt sr && isFiniteNumber (chainId sr))
  := by
  simp only [isSignedReceipt, chainId, get?_written, isObject_written, isHexString_written,
    isString_written, isNumber_written]
  cases hfinite : isFiniteNumber (get? (get? (get? sr "receipt") "payment") "chainId") with
  | false => simp only [Bool.and_false, Bool.false_and]
  | true => simp only [isNumber_of_isFiniteNumber hfinite, Bool.and_true]

/-- An entry that is written passes the check again if the chain in its receipt is not
infinite. -/
theorem isValidEntry_written (e : Json (List UInt16)) :
  isValidEntry (written e) = (isValidEntry e && isFiniteNumber (chainId (JsJson.get e "receipt")))
  := by
  have hobject := isObject_written (some e)
  rw [Option.map_some] at hobject
  simp only [isValidEntry, get_written, hobject, isFiniteNumber_written, isSignedReceipt_written,
    Bool.and_assoc]

/-! ### The entry of a receipt -/

section entry

variable (receipt : Json (List UInt16)) (promptPreview : List UInt16) (now : Time)

theorem get_entry_receipt : JsJson.get (entry receipt promptPreview now) "receipt" = some receipt
  := by
  simp [entry]

theorem get_entry_savedAt :
  JsJson.get (entry receipt promptPreview now) "savedAt" = some (.num (decimalInt now.1))
  := by
  simp [entry]

theorem get_entry_promptPreview :
  JsJson.get (entry receipt promptPreview now) "promptPreview" = some (.str (promptPreview.take 80))
  := by
  simp [entry]

/-- A time is a number that is not infinite. -/
theorem isFinite_time : isFinite (decimalInt now.1) = true
  := by
  obtain ⟨t, ht⟩ := now
  rw [isFinite, Option.isSome_iff_exists]
  cases t with
  | ofNat n =>
      use n
      rw [show decimalInt (.ofNat n) = decimal n from rfl, JsJson.literalValue_decimal,
        JsJson.roundDouble_natCast]
      simp only [Int.ofNat_eq_natCast, Int.natAbs_natCast] at ht
      omega
  | negSucc n =>
      use -((n + 1 : Nat) : ℚ)
      rw [JsJson.literalValue_negSucc]
      apply JsNumber.roundDouble_neg
      apply JsJson.roundDouble_natCast
      simp only [Int.natAbs_negSucc] at ht
      omega

theorem isValidEntry_entry :
  isValidEntry (entry receipt promptPreview now) = isSignedReceipt (some receipt)
  := by
  rw [isValidEntry, get_entry_receipt, get_entry_savedAt, isFiniteNumber, isFinite_time]
  rfl

end entry

/-! ### Identifiers -/

/-- The identifier of a receipt. -/
def receiptId (sr : Option (Json (List UInt16))) : Option (Json (List UInt16)) :=
  get? (get? sr "receipt") "id"

/-- The text of a value, if it is a string. -/
def text : Option (Json (List UInt16)) → List UInt16
  | some (.str s) => s
  | _ => []

/-- The text of the identifier in an entry. -/
def entryText (e : Json (List UInt16)) : List UInt16 :=
  text (receiptId (JsJson.get e "receipt"))

theorem property_eq {v : Option (Json (List UInt16))} {name : String} {w : Json (List UInt16)}
    (h : get? v name = some w) :
  property v name = some (some w)
  := by
  rcases v with _ | ⟨⟩ | b | l | s | vs | ms
  case none => cases h
  case some.null => cases h
  all_goals exact congrArg some h

/-- A receipt that passes the check has a string as its identifier. -/
theorem receiptId_eq {sr : Option (Json (List UInt16))} (h : isSignedReceipt sr = true) :
  receiptId sr = some (.str (text (receiptId sr)))
  := by
  have hstring : isString (receiptId sr) = true := by
    simp only [isSignedReceipt, Bool.and_eq_true] at h
    exact h.1.1.1.1.1.1.1.1.1.1.2
  rcases hid : receiptId sr with _ | ⟨⟩ | b | l | s | vs | ms
  case some.str => rfl
  all_goals
    rw [hid] at hstring
    cases hstring

theorem isSignedReceipt_of_isValidEntry {e : Json (List UInt16)} (h : isValidEntry e = true) :
  isSignedReceipt (JsJson.get e "receipt") = true
  := by
  rw [isValidEntry, Bool.and_eq_true] at h
  exact h.2

/-- The identifier in an entry that passes the check is read without a throw. -/
theorem entryId_eq {e : Json (List UInt16)} (h : isValidEntry e = true) :
  entryId e = some (some (.str (entryText e)))
  := by
  have hid := receiptId_eq (isSignedReceipt_of_isValidEntry h)
  obtain ⟨r, hr, hrid⟩ := Option.bind_eq_some_iff.mp hid
  obtain ⟨sr, hsr, hsrr⟩ := Option.bind_eq_some_iff.mp hr
  have hentry : get? (some e) "receipt" = some sr := hsr
  have hreceipt : get? (some sr) "receipt" = some r := hsrr
  have htext : get? (some r) "id" = some (.str (entryText e)) := hrid
  simp only [entryId, property_eq hentry, property_eq hreceipt, property_eq htext,
    Option.bind_eq_bind, Option.bind_some]

theorem filter?_eq {check : Json (List UInt16) → Option Bool} {kept : Json (List UInt16) → Bool}
    {es : List (Json (List UInt16))} (h : ∀ e ∈ es, check e = some (kept e)) :
  filter? check es = some (es.filter kept)
  := by
  induction es with
  | nil => rfl
  | cons e es ih =>
      obtain ⟨he, hes⟩ := List.forall_mem_cons.mp h
      rw [filter?, he, ih hes]
      cases hkept : kept e with
      | true => simp [hkept]
      | false => simp [hkept]

/-! ### What a call does -/

theorem isValidEntry_of_mem {access : Access} {item : Option (List UInt16)} {e : Json (List UInt16)}
    (h : e ∈ listReceipts access item) :
  isValidEntry e = true
  := by
  unfold listReceipts parse at h
  split at h
  · cases h
  · cases h
  · split at h
    · exact (List.mem_filter.mp h).2
    · cases h

/-- Entries that are written are read again and checked. -/
theorem parse_write (es : List (Json (List UInt16))) :
  parse (some (utf16 (stringify jsNumbers (.arr es)))) = (es.map written).filter isValidEntry
  := by
  have hparse := parse_stringify (.arr es)
  rw [written_arr] at hparse
  unfold parse
  split
  · rename_i heq
    cases heq
  · rename_i heq
    rw [Option.some.inj heq] at hparse
    cases hparse
  · rename_i raw _ heq
    rw [← Option.some.inj heq, hparse]

/-- Saving a receipt puts its entry before the others, and keeps the first. -/
theorem saveReceipt_eq {access : Access} (hbrowser : access.isBrowser = true)
    {receipt : Json (List UInt16)} {id : List UInt16}
    (hid : receiptId (some receipt) = some (.str id)) (promptPreview : List UInt16) (now : Time)
    (item : Option (List UInt16)) :
  saveReceipt access receipt promptPreview now item
    = some ((setItem access (some (utf16 (stringify jsNumbers (.arr
        ((Recency.push entryText (entry receipt promptPreview now) (listReceipts access item)).take
          MAX)))))).getD item)
  := by
  obtain ⟨r, hr, hrid⟩ := Option.bind_eq_some_iff.mp hid
  have hreceipt : get? (some receipt) "receipt" = some r := hr
  have htext : get? (some r) "id" = some (.str id) := hrid
  have hkey : entryText (entry receipt promptPreview now) = id := by
    rw [entryText, get_entry_receipt, hid]
    rfl
  have hdiffers : ∀ e ∈ listReceipts access item, differs receipt e = some (entryText e ≠ id : Bool) := by
    intro e he
    simp only [differs, entryId_eq (isValidEntry_of_mem he), property_eq hreceipt, property_eq htext,
      Option.bind_eq_bind, Option.bind_some, strictlyEqual, ne_eq, decide_not]
    rfl
  simp only [saveReceipt, hbrowser, filter?_eq hdiffers, Recency.push, Recency.remove, hkey]
  rfl

/-- Removing a receipt removes the entries with its identifier. -/
theorem removeReceipt_eq {access : Access} (hbrowser : access.isBrowser = true) (id : List UInt16)
    (item : Option (List UInt16)) :
  removeReceipt access id item
    = some ((setItem access (some (utf16 (stringify jsNumbers (.arr
        (Recency.remove entryText id (listReceipts access item))))))).getD item)
  := by
  have hdiffers : ∀ e ∈ listReceipts access item, differsFrom id e = some (entryText e ≠ id : Bool) := by
    intro e he
    simp only [differsFrom, entryId_eq (isValidEntry_of_mem he), Option.bind_eq_bind,
      Option.bind_some, strictlyEqual, ne_eq, decide_not]
    rfl
  simp only [removeReceipt, hbrowser, filter?_eq hdiffers, Recency.remove]
  rfl

/-! ### The history over a run -/

/-- A call of the functions that change the history. -/
inductive Call where
  | save (receipt : Json (List UInt16)) (promptPreview : List UInt16) (now : Time)
  | remove (id : List UInt16)
  | clear

/-- A call, and whether the storage can be written during the call. -/
structure Step where
  call : Call
  writable : Bool

/-- What the browser allows while the storage can be read. -/
def inBrowser (writable : Bool) : Access := ⟨true, true, writable⟩

/-- What a step does to the item of the storage. -/
def perform (item : Option (List UInt16)) (step : Step) : Option (Option (List UInt16)) :=
  match step.call with
  | .save receipt promptPreview now =>
      saveReceipt (inBrowser step.writable) receipt promptPreview now item
  | .remove id => removeReceipt (inBrowser step.writable) id item
  | .clear => clearReceipts (inBrowser step.writable) item

/-- What the steps of a run do to the item of the storage. -/
def run (item : Option (List UInt16)) (steps : List Step) : Option (Option (List UInt16)) :=
  steps.foldlM perform item

/-- What is listed while the storage can be read. -/
def listed (item : Option (List UInt16)) : List (Json (List UInt16)) :=
  listReceipts (inBrowser true) item

/-- What was saved by a call. -/
structure Saved where
  receipt : Json (List UInt16)
  promptPreview : List UInt16
  now : Time

/-- The identifier of the receipt that was saved. -/
def Saved.id (s : Saved) : List UInt16 :=
  text (receiptId (some s.receipt))

/-- The entry for what was saved. -/
def Saved.entry (s : Saved) : Json (List UInt16) :=
  ReceiptStorage.entry s.receipt s.promptPreview s.now

/-- What a step does to the list of all that was saved, the most recent first, without what was
replaced or removed. -/
def note (saved : List Saved) (step : Step) : List Saved :=
  if step.writable then
    match step.call with
    | .save receipt promptPreview now => Recency.push Saved.id ⟨receipt, promptPreview, now⟩ saved
    | .remove id => Recency.remove Saved.id id saved
    | .clear => []
  else saved

/-- All that was saved in a run: the latest of each identifier, the most recent first. -/
def recent (steps : List Step) : List Saved :=
  steps.foldl note []

/-- A receipt that can be stored: it passes the check, and its numbers are not infinite. -/
def Storable (receipt : Json (List UInt16)) : Prop :=
  isSignedReceipt (some receipt) = true ∧ Finite receipt

/-- The receipts that a step saves can be stored. -/
def Step.Storable (step : Step) : Prop :=
  ∀ receipt promptPreview now, step.call = .save receipt promptPreview now →
    ReceiptStorage.Storable receipt

/-- A step that is successful saves a receipt. -/
def Step.OnlySaves (step : Step) : Prop :=
  step.writable = true → ∃ receipt promptPreview now, step.call = .save receipt promptPreview now

/-- An entry holds what was saved: the receipt, and the first units of the prompt. -/
def Holds (s : Saved) (e : Json (List UInt16)) : Prop :=
  entryId e = some (some (.str s.id))
    ∧ (∃ receipt, JsJson.get e "receipt" = some receipt ∧ DeepEqual receipt s.receipt)
    ∧ JsJson.get e "promptPreview" = some (.str (s.promptPreview.take 80))

/-- The chain in a receipt that can be stored is not infinite. -/
theorem Storable.chainId {receipt : Json (List UInt16)} (h : Storable receipt) :
  isFiniteNumber (chainId (some receipt)) = true
  := by
  obtain ⟨hsigned, hfinite⟩ := h
  have hnumber : isNumber (ReceiptStorage.chainId (some receipt)) = true := by
    simp only [isSignedReceipt, Bool.and_eq_true] at hsigned
    exact hsigned.1.1.1.1.2
  rcases hchain : ReceiptStorage.chainId (some receipt) with _ | ⟨⟩ | b | l | s | vs | ms
  case some.num =>
    obtain ⟨p, hp, hpl⟩ := Option.bind_eq_some_iff.mp hchain
    obtain ⟨r, hr, hrp⟩ := Option.bind_eq_some_iff.mp hp
    exact ((hfinite.get hr).get hrp).get hpl
  all_goals
    rw [hchain] at hnumber
    cases hnumber

variable {s : Saved}

theorem entryText_entry (s : Saved) : entryText s.entry = s.id
  := by
  rw [entryText, Saved.entry, get_entry_receipt, Saved.id]

theorem entryText_written {e : Json (List UInt16)} (h : isValidEntry e = true) :
  entryText (written e) = entryText e
  := by
  have hid := receiptId_eq (isSignedReceipt_of_isValidEntry h)
  have hwritten : receiptId (JsJson.get (written e) "receipt")
      = (receiptId (JsJson.get e "receipt")).map written := by
    simp only [receiptId, get_written, get?_written]
  rw [entryText, hwritten, hid]
  rfl

/-- The entry for a receipt that can be stored passes the check, and does so again when it was
written and read. -/
theorem Storable.isValidEntry (h : Storable s.receipt) :
  isValidEntry s.entry = true ∧ isValidEntry (written s.entry) = true
  := by
  have hentry : ReceiptStorage.isValidEntry s.entry = true := by
    rw [Saved.entry, isValidEntry_entry, h.1]
  refine ⟨hentry, ?_⟩
  rw [isValidEntry_written, hentry, Saved.entry, get_entry_receipt, h.chainId]
  rfl

theorem Storable.entryText (h : Storable s.receipt) : entryText (written s.entry) = s.id
  := by
  rw [entryText_written h.isValidEntry.1, entryText_entry]

/-- The entry that is read holds what was saved. -/
theorem Storable.holds (h : Storable s.receipt) : Holds s (written s.entry)
  := by
  refine ⟨?_, ⟨written s.receipt, ?_, ?_⟩, ?_⟩
  · rw [entryId_eq h.isValidEntry.2, h.entryText]
  · rw [get_written, Saved.entry, get_entry_receipt, Option.map_some]
  · exact (deepEqual_written_iff s.receipt).mpr h.2
  · rw [get_written, Saved.entry, get_entry_promptPreview, Option.map_some]
    rfl

/-- The entries that are read for what was saved. -/
def entries (saved : List Saved) : List (Json (List UInt16)) :=
  saved.map fun s => written s.entry

/-- Among the entries for what can be stored, each passes the check. -/
theorem filter_entries {kept : List Saved} (h : ∀ s ∈ kept, Storable s.receipt) :
  (entries kept).filter isValidEntry = entries kept
  := by
  apply List.filter_eq_self.mpr
  intro e he
  obtain ⟨s, hs, rfl⟩ := List.mem_map.mp he
  exact (h s hs).isValidEntry.2

/-- Entries that were read are written as they are. -/
theorem map_written_entries (kept : List Saved) : (entries kept).map written = entries kept
  := by
  rw [entries, List.map_map]
  apply List.map_congr_left
  intro s _
  exact written_written s.entry

theorem entryText_written_of_mem {kept : List Saved} {e : Json (List UInt16)} (he : e ∈ entries kept) :
  entryText (written e) = entryText e
  := by
  obtain ⟨s, -, rfl⟩ := List.mem_map.mp he
  rw [written_written]

/-- The entries after a removal are those of what is left. -/
theorem entries_remove {kept : List Saved} (h : ∀ s ∈ kept, Storable s.receipt) (id : List UInt16) :
  (Recency.remove entryText id (entries kept)).map written = entries (Recency.remove Saved.id id kept)
  := by
  rw [Recency.map_remove fun e he => entryText_written_of_mem he, map_written_entries, entries,
    entries, Recency.map_remove fun s hs => (h s hs).entryText]

/-- The entries after a receipt is saved. -/
theorem entries_push {kept : List Saved} (h : ∀ x ∈ s :: kept, Storable x.receipt) :
  (Recency.push entryText s.entry (entries kept)).map written = entries (Recency.push Saved.id s kept)
  := by
  obtain ⟨hs, hkept⟩ := List.forall_mem_cons.mp h
  have hkeys : ∀ e ∈ s.entry :: entries kept, entryText (written e) = entryText e := by
    rw [List.forall_mem_cons]
    exact ⟨entryText_written hs.isValidEntry.1, fun e he => entryText_written_of_mem he⟩
  rw [Recency.map_push hkeys, map_written_entries, entries, entries,
    Recency.map_push fun x hx => (h x hx).entryText]

/-- The storage holds entries for some of what was saved. -/
structure Kept (item : Option (List UInt16)) (kept saved : List Saved) : Prop where
  listed : listed item = entries kept
  storable : ∀ s ∈ saved, Storable s.receipt
  nodup : (saved.map Saved.id).Nodup
  sublist : kept.Sublist saved
  length : kept.length ≤ MAX

variable {item : Option (List UInt16)} {kept saved : List Saved}

/-- What is listed after entries are written. -/
theorem listed_write {es : List (Json (List UInt16))} (hes : es.map written = entries kept)
    (h : ∀ s ∈ kept, Storable s.receipt) :
  listed (some (utf16 (stringify jsNumbers (.arr es)))) = entries kept
  := by
  have hparse := parse_write es
  rw [hes, filter_entries h] at hparse
  exact hparse

namespace Kept

theorem nil : Kept none [] [] where
  listed := rfl
  storable := by simp
  nodup := List.nodup_nil
  sublist := .slnil
  length := Nat.zero_le _

/-- The storage after a receipt is saved. -/
theorem save (h : Kept item kept saved) (hs : Storable s.receipt) :
  Kept (some (utf16 (stringify jsNumbers (.arr
      ((Recency.push entryText s.entry (entries kept)).take MAX)))))
    ((Recency.push Saved.id s kept).take MAX) (Recency.push Saved.id s saved)
  := by
  have hpush : ∀ x ∈ Recency.push Saved.id s saved, Storable x.receipt := by
    intro x hx
    rcases List.mem_cons.mp hx with rfl | hx
    · exact hs
    · exact h.storable x (Recency.mem_remove.mp hx).1
  have hkept : ∀ x ∈ s :: kept, Storable x.receipt := by
    rw [List.forall_mem_cons]
    exact ⟨hs, fun x hx => h.storable x (h.sublist.subset hx)⟩
  have hsublist : ((Recency.push Saved.id s kept).take MAX).Sublist (Recency.push Saved.id s saved) :=
    (List.take_sublist _ _).trans (Recency.push_sublist_push h.sublist s)
  refine ⟨listed_write ?_ fun x hx => hpush x (hsublist.subset hx), hpush,
    Recency.nodup_push h.nodup s, hsublist, List.length_take_le _ _⟩
  rw [List.map_take, entries_push hkept, entries, entries, List.map_take]

/-- The storage after a receipt is removed. -/
theorem remove (h : Kept item kept saved) (id : List UInt16) :
  Kept (some (utf16 (stringify jsNumbers (.arr (Recency.remove entryText id (entries kept))))))
    (Recency.remove Saved.id id kept) (Recency.remove Saved.id id saved)
  := by
  have hkept : ∀ s ∈ kept, Storable s.receipt := fun s hs => h.storable s (h.sublist.subset hs)
  have hremove : ∀ {l : List Saved}, (∀ s ∈ l, Storable s.receipt) →
      ∀ s ∈ Recency.remove Saved.id id l, Storable s.receipt :=
    fun hl s hs => hl s (Recency.mem_remove.mp hs).1
  refine ⟨listed_write (entries_remove hkept id) (hremove hkept), hremove h.storable,
    Recency.nodup_remove h.nodup id, Recency.remove_sublist_remove h.sublist id, ?_⟩
  exact (Recency.remove_sublist id kept).length_le.trans h.length

/-- The step lemma: a step does to the storage what it does to the list of all that was saved; if
it cannot write, it does nothing, and if it only saves, the first of that list are kept. -/
theorem step (h : Kept item kept saved) {step : Step} (hstep : step.Storable) :
  ∃ item' kept', perform item step = some item' ∧ Kept item' kept' (note saved step)
    ∧ (step.writable = false → item' = item)
    ∧ (step.OnlySaves → kept = saved.take MAX → kept' = (note saved step).take MAX)
  := by
  obtain ⟨call, writable⟩ := step
  have hread : listReceipts (inBrowser writable) item = entries kept := h.listed
  cases writable with
  | false =>
      refine ⟨item, kept, ?_, h, fun _ => rfl, fun _ hkept => hkept⟩
      cases call with
      | save receipt promptPreview now =>
          have hid := receiptId_eq (hstep receipt promptPreview now rfl).1
          exact saveReceipt_eq rfl hid promptPreview now item
      | remove id => exact removeReceipt_eq rfl id item
      | clear => rfl
  | true =>
      cases call with
      | save receipt promptPreview now =>
          have hs := hstep receipt promptPreview now rfl
          have hsave := saveReceipt_eq (show (inBrowser true).isBrowser = true from rfl)
            (receiptId_eq hs.1) promptPreview now item
          rw [hread] at hsave
          refine ⟨_, _, hsave, h.save (s := ⟨receipt, promptPreview, now⟩) hs, by simp, ?_⟩
          rintro - rfl
          exact Recency.take_push_take h.nodup _ MAX
      | remove id =>
          have hremove := removeReceipt_eq (show (inBrowser true).isBrowser = true from rfl) id item
          rw [hread] at hremove
          refine ⟨_, _, hremove, h.remove id, by simp, ?_⟩
          intro honly
          obtain ⟨receipt, promptPreview, now, hcall⟩ := honly rfl
          cases hcall
      | clear =>
          refine ⟨none, [], rfl, nil, by simp, ?_⟩
          rintro - -
          rfl

/-- The run lemma. -/
theorem run (h : Kept item kept saved) {steps : List Step} (hsteps : ∀ step ∈ steps, step.Storable) :
  ∃ item' kept', run item steps = some item' ∧ Kept item' kept' (steps.foldl note saved)
    ∧ ((∀ step ∈ steps, step.OnlySaves) → kept = saved.take MAX →
        kept' = (steps.foldl note saved).take MAX)
  := by
  induction steps generalizing item kept saved with
  | nil => exact ⟨item, kept, rfl, h, fun _ hkept => hkept⟩
  | cons step steps ih =>
      obtain ⟨hstep, hsteps⟩ := List.forall_mem_cons.mp hsteps
      obtain ⟨item₁, kept₁, hperform, h₁, -, htake₁⟩ := h.step hstep
      obtain ⟨item', kept', hrun, h', htake⟩ := ih h₁ hsteps
      refine ⟨item', kept', ?_, h', ?_⟩
      · rw [ReceiptStorage.run, List.foldlM_cons, hperform]
        exact hrun
      · intro honly hkept
        obtain ⟨honly₁, honly⟩ := List.forall_mem_cons.mp honly
        exact htake honly (htake₁ honly₁ hkept)

/-- The entries that are listed hold what is kept. -/
theorem forall₂_holds (h : Kept item kept saved) :
  List.Forall₂ Holds kept (ReceiptStorage.listed item)
  := by
  have hkept : ∀ s ∈ kept, Storable s.receipt := fun s hs => h.storable s (h.sublist.subset hs)
  rw [h.listed, entries, List.forall₂_map_right_iff, List.forall₂_same]
  intro s hs
  exact (hkept s hs).holds

/-- The identifiers in the entries that are listed are different. -/
theorem nodup_entryId (h : Kept item kept saved) :
  ((ReceiptStorage.listed item).map entryId).Nodup
  := by
  have hids : (ReceiptStorage.listed item).map entryId
      = (kept.map Saved.id).map fun id => some (some (.str id)) := by
    rw [h.listed, entries, List.map_map, List.map_map]
    apply List.map_congr_left
    intro s hs
    exact (h.storable s (h.sublist.subset hs)).holds.1
  rw [hids]
  apply (h.nodup.sublist (h.sublist.map Saved.id)).map
  intro id id' heq
  exact Json.str.inj (Option.some.inj (Option.some.inj heq))

end Kept

/-- What is on the list of all that was saved was saved by the latest successful call with its
identifier. -/
theorem exists_of_mem_recent {steps : List Step} (hs : s ∈ recent steps) :
  ∃ before after, steps = before ++ ⟨.save s.receipt s.promptPreview s.now, true⟩ :: after
    ∧ ∀ s' : Saved, ⟨.save s'.receipt s'.promptPreview s'.now, true⟩ ∈ after → s'.id ≠ s.id
  := by
  induction steps using List.reverseRecOn with
  | nil => cases hs
  | append_singleton steps step ih =>
      have hlast : recent (steps ++ [step]) = note (recent steps) step := by
        rw [recent, List.foldl_append]
        rfl
      rw [hlast] at hs
      have holder : s ∈ recent steps →
          (∀ s' : Saved, step = ⟨.save s'.receipt s'.promptPreview s'.now, true⟩ → s'.id ≠ s.id) →
          ∃ before after, steps ++ [step]
            = before ++ ⟨.save s.receipt s.promptPreview s.now, true⟩ :: after
            ∧ ∀ s' : Saved, ⟨.save s'.receipt s'.promptPreview s'.now, true⟩ ∈ after → s'.id ≠ s.id := by
        intro hmem hdiffers
        obtain ⟨before, after, rfl, hafter⟩ := ih hmem
        refine ⟨before, after ++ [step], by simp, ?_⟩
        intro s' hs'
        rcases List.mem_append.mp hs' with hs' | hs'
        · exact hafter s' hs'
        · exact hdiffers s' (List.mem_singleton.mp hs').symm
      obtain ⟨call, writable⟩ := step
      cases writable with
      | false => exact holder hs (by simp)
      | true =>
          cases call with
          | save receipt promptPreview now =>
              rcases List.mem_cons.mp hs with rfl | hs
              · exact ⟨steps, [], rfl, by simp⟩
              · obtain ⟨hmem, hid⟩ := Recency.mem_remove.mp hs
                apply holder hmem
                rintro s' hstep heq
                cases hstep
                exact hid heq.symm
          | remove id => exact holder (Recency.mem_remove.mp hs).1 (by simp)
          | clear => cases hs

/-- The history after any run of calls, from an empty storage: the calls return, and at most the
maximum of entries is listed, with different identifiers, in the order in which their receipts were
last saved, each with what was saved last.  If receipts are only saved, these are the most recent
ones.  A call that cannot write changes nothing. -/
theorem history_recent (steps : List Step) (hsteps : ∀ step ∈ steps, step.Storable) :
  ∃ item, run none steps = some item
    ∧ (listed item).length ≤ MAX
    ∧ ((listed item).map entryId).Nodup
    ∧ (∃ kept, kept.Sublist (recent steps) ∧ List.Forall₂ Holds kept (listed item)
        ∧ ((∀ step ∈ steps, step.OnlySaves) → kept = (recent steps).take MAX))
    ∧ ∀ step : Step, step.Storable → step.writable = false →
        ∃ item', perform item step = some item' ∧ listed item' = listed item
  := by
  obtain ⟨item, kept, hrun, h, htake⟩ := Kept.nil.run hsteps
  refine ⟨item, hrun, ?_, h.nodup_entryId, ⟨kept, h.sublist, h.forall₂_holds, ?_⟩, ?_⟩
  · rw [← h.forall₂_holds.length_eq]
    exact h.length
  · exact fun honly => htake honly rfl
  · intro step hstep hwritable
    obtain ⟨item', -, hperform, -, hsame, -⟩ := h.step hstep
    exact ⟨item', hperform, by rw [hsame hwritable]⟩

/-- A receipt with a payer and a chain. -/
def mockReceipt (payer : Json (List UInt16)) (chainId : String) : Json (List UInt16) :=
  .obj [
    (units "receipt", .obj [
      (units "id", .str (units "rcpt_123")),
      (units "version", .str (units "1.0")),
      (units "timestamp", .str (units "2026-06-19T00:00:00Z")),
      (units "payment", .obj [
        (units "payer", payer),
        (units "recipient", .str (units "0x22")),
        (units "amount", .str (units "100")),
        (units "token", .str (units "USDC")),
        (units "chainId", .num chainId.toList),
        (units "nonce", .str (units "nonce-1"))]),
      (units "service", .obj [
        (units "endpoint", .str (units "/api/test")),
        (units "request_hash", .str (units "req-hash")),
        (units "response_hash", .str (units "res-hash"))])]),
    (units "signature", .str (units "0xaa")),
    (units "server_public_key", .str (units "0xbb"))]

theorem storable_mockReceipt {payer : List UInt16} {chainId : String}
    (h : isFinite chainId.toList = true) :
  Storable (mockReceipt (.str payer) chainId)
  := by
  refine ⟨by rfl, finite_of_every _ ?_⟩
  simpa [mockReceipt, Every, EveryMember] using h

/-- A receipt is saved, saved again while the storage cannot be written, and removed. -/
theorem history_recent_sample :
  ∃ item, run none
      [⟨.save (mockReceipt (.str (units "0x11")) "84532") (units "first") ⟨1, by decide⟩, true⟩,
        ⟨.save (mockReceipt (.str (units "0x11")) "84532") (units "second") ⟨2, by decide⟩, false⟩,
        ⟨.remove (units "rcpt_123"), true⟩] = some item
    ∧ (listed item).length ≤ MAX
  := by
  have hsteps : ∀ step ∈ [
      (⟨.save (mockReceipt (.str (units "0x11")) "84532") (units "first") ⟨1, by decide⟩, true⟩ : Step),
      ⟨.save (mockReceipt (.str (units "0x11")) "84532") (units "second") ⟨2, by decide⟩, false⟩,
      ⟨.remove (units "rcpt_123"), true⟩], step.Storable := by
    have hmock : Storable (mockReceipt (.str (units "0x11")) "84532") := storable_mockReceipt (by decide +kernel)
    simp only [List.mem_cons, List.not_mem_nil, or_false, forall_eq_or_imp, forall_eq]
    refine ⟨?_, ?_, ?_⟩
    · rintro receipt promptPreview now ⟨⟩
      exact hmock
    · rintro receipt promptPreview now ⟨⟩
      exact hmock
    · rintro receipt promptPreview now ⟨⟩
  obtain ⟨item, hrun, hlength, -⟩ := history_recent _ hsteps
  exact ⟨item, hrun, hlength⟩

/-- A receipt with an infinite chain passes the check, but its entry is lost. -/
theorem infinite_chain_lost :
  isSignedReceipt (some (mockReceipt (.str (units "0x11")) "1e999")) = true
    ∧ (run none [⟨.save (mockReceipt (.str (units "0x11")) "1e999") (units "first") ⟨1, by decide⟩, true⟩]).map listed
        = some []
  := by
  have hsave : perform none ⟨.save (mockReceipt (.str (units "0x11")) "1e999") (units "first") ⟨1, by decide⟩, true⟩
      = some (some (utf16 (stringify jsNumbers (.arr
        [entry (mockReceipt (.str (units "0x11")) "1e999") (units "first") ⟨1, by decide⟩])))) :=
    saveReceipt_eq (show (inBrowser true).isBrowser = true from rfl)
      (show receiptId (some (mockReceipt (.str (units "0x11")) "1e999")) = some (.str (units "rcpt_123")) from rfl) _ _ none
  have hlisted := parse_write [entry (mockReceipt (.str (units "0x11")) "1e999") (units "first") ⟨1, by decide⟩]
  have hinvalid : isValidEntry (written (entry (mockReceipt (.str (units "0x11")) "1e999") (units "first") ⟨1, by decide⟩))
      = false := by
    rw [isValidEntry_written, get_entry_receipt]
    have hchain : isFiniteNumber (chainId (some (mockReceipt (.str (units "0x11")) "1e999"))) = false := by decide +kernel
    rw [hchain, Bool.and_false]
  refine ⟨by rfl, ?_⟩
  rw [run, List.foldlM_cons, hsave]
  rw [List.map_singleton, List.filter_cons_of_neg (by simp [hinvalid])] at hlisted
  exact congrArg some hlisted

end ReceiptStorage

end Paygate.Web
