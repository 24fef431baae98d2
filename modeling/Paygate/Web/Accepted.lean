import Paygate.Web.ReceiptStorage

/-!
# Receipts that the web client accepts

A receipt header is decoded with other checks than those of the history: fields are only checked
to count as true, which numbers and objects do too.  A receipt that is accepted is the first in the
history after it was saved exactly if the fields the history looks at have the types it wants, and
no number is infinite; else its entry is lost when it is read.
-/

namespace Paygate.Web

open Text Json

namespace ReceiptStorage

/-! ### What the decoder checks -/

/-- Checks that end with true all passed. -/
theorem of_andThen {checks : List (Option Bool)} (h : andThen checks = some true) :
  ∀ check ∈ checks, check = some true
  := by
  induction checks with
  | nil => simp
  | cons check checks ih =>
      rw [andThen] at h
      obtain ⟨b, rfl, hrest⟩ := Option.bind_eq_some_iff.mp h
      cases b with
      | false => cases hrest
      | true => exact List.forall_mem_cons.mpr ⟨rfl, ih hrest⟩

/-- A value that starts with a string is a string. -/
theorem of_startsWith? {v : Option (Json (List UInt16))} {start : String}
    (h : startsWith? v start = some true) :
  ∃ s, v = some (.str s) ∧ units start <+: s
  := by
  rcases v with _ | ⟨⟩ | b | l | s | vs | ms
  case some.str => exact ⟨s, rfl, by simpa [startsWith?] using h⟩
  all_goals cases h

/-- A value with a property is an object. -/
theorem isObject_of_get? {v : Option (Json (List UInt16))} {name : String}
    (h : isString (get? v name) = true) :
  isObject v = true
  := by
  rcases v with _ | ⟨⟩ | b | l | s | vs | ms
  case some.obj => rfl
  all_goals cases h

/-- What the history wants of a receipt and the decoder checks. -/
structure Decoded (r : Json (List UInt16)) : Prop where
  id : ∃ id, receiptId (some r) = some (.str id)
  signature : isHexString (JsJson.get r "signature") = true
  serverPublicKey : isHexString (JsJson.get r "server_public_key") = true

theorem decoded_of_safeDecode {header : List Char} {r : Json (List UInt16)}
    (h : safeDecodeReceiptHeader jsNumbers header = some r) :
  Decoded r
  := by
  have hvalid : validateReceiptFormat jsNumbers r = some true := by
    unfold safeDecodeReceiptHeader at h
    split at h
    · cases h
    · split at h
      · rename_i hvalid
        rw [← Option.some.inj h, hvalid]
      · cases h
  unfold validateReceiptFormat at hvalid
  dsimp only at hvalid
  split at hvalid
  · cases hvalid
  · have hchecks := of_andThen hvalid
    obtain ⟨id, hid, -⟩ :=
      of_startsWith? (hchecks (startsWith? (get? (JsJson.get r "receipt") "id") "rcpt_") (by simp))
    obtain ⟨signature, hsignature, hhex⟩ :=
      of_startsWith? (hchecks (startsWith? (JsJson.get r "signature") "0x") (by simp))
    obtain ⟨key, hkey, hkeyhex⟩ :=
      of_startsWith? (hchecks (startsWith? (JsJson.get r "server_public_key") "0x") (by simp))
    refine ⟨⟨id, hid⟩, ?_, ?_⟩
    · rw [hsignature, isHexString, decide_eq_true hhex]
    · rw [hkey, isHexString, decide_eq_true hkeyhex]

/-! ### What it does not check -/

/-- The fields whose types the decoder does not check have those the history wants. -/
structure Typed (r : Json (List UInt16)) : Prop where
  payment : ∀ name ∈ ["payer", "recipient", "amount", "token"],
    isString (get? (get? (JsJson.get r "receipt") "payment") name) = true
  chainId : isNumber (get? (get? (JsJson.get r "receipt") "payment") "chainId") = true
  service : ∀ name ∈ ["endpoint", "request_hash", "response_hash"],
    isString (get? (get? (JsJson.get r "receipt") "service") name) = true

theorem isSignedReceipt_iff {r : Json (List UInt16)} (h : Decoded r) :
  isSignedReceipt (some r) = true ↔ Typed r
  := by
  obtain ⟨id, hid⟩ := h.id
  have hstring : isString (get? (get? (some r) "receipt") "id") = true := by
    rw [show get? (get? (some r) "receipt") "id" = some (.str id) from hid]
    rfl
  have hreceipt : isObject (get? (some r) "receipt") = true := isObject_of_get? hstring
  have hobject : isObject (some r) = true := by
    cases r with
    | obj ms => rfl
    | null | bool | num | str | arr => cases hreceipt
  have hsignature : isHexString (get? (some r) "signature") = true := h.signature
  have hkey : isHexString (get? (some r) "server_public_key") = true := h.serverPublicKey
  simp only [isSignedReceipt, Bool.and_eq_true, hobject, hreceipt, hsignature, hkey, hstring, true_and,
    and_assoc]
  constructor
  · rintro ⟨-, hpayer, hrecipient, hamount, htoken, hchain, -, hendpoint, hrequest, hresponse⟩
    refine ⟨?_, hchain, ?_⟩
    · simpa using ⟨hpayer, hrecipient, hamount, htoken⟩
    · simpa using ⟨hendpoint, hrequest, hresponse⟩
  · rintro ⟨hpayment, hchain, hservice⟩
    simp only [List.forall_mem_cons] at hpayment hservice
    obtain ⟨hpayer, hrecipient, hamount, htoken, -⟩ := hpayment
    obtain ⟨hendpoint, hrequest, hresponse, -⟩ := hservice
    exact ⟨isObject_of_get? hpayer, hpayer, hrecipient, hamount, htoken, hchain,
      isObject_of_get? hendpoint, hendpoint, hrequest, hresponse⟩

/-! ### Equal receipts -/

theorem get?_canonical (v : Option (Json (List UInt16))) (name : String) :
  get? (v.map canonical) name = (get? v name).map canonical
  := by
  cases v with
  | none => rfl
  | some v => exact get_canonical v name

/-- Equal receipts have the same identifier. -/
theorem receiptId_of_deepEqual {v w : Json (List UInt16)} (h : DeepEqual v w) {id : List UInt16}
    (hid : receiptId (some w) = some (.str id)) :
  text (receiptId (some v)) = id
  := by
  have hsame : (receiptId (some v)).map canonical = (receiptId (some w)).map canonical := by
    rw [receiptId, receiptId, ← get?_canonical, ← get?_canonical, ← get?_canonical, ← get?_canonical,
      Option.map_some, Option.map_some, h]
  rw [hid] at hsame
  rcases hv : receiptId (some v) with _ | ⟨⟩ | b | l | s | vs | ms
  case some.str =>
    rw [hv] at hsame
    exact Json.str.inj (Option.some.inj hsame)
  all_goals
    rw [hv] at hsame
    cases hsame

/-! ### The first entry after a receipt was saved -/

/-- The first entry is that of the receipt that was saved, if this passes the check when it is read,
and else that of another receipt. -/
theorem head_receipt {access access' : Access} (hbrowser : access.isBrowser = true)
    (hwritable : access.writable = true) (hread : access'.isBrowser && access'.readable)
    {r : Json (List UInt16)} {id : List UInt16} (hid : receiptId (some r) = some (.str id))
    (promptPreview : List UInt16) (now : Time) (item : Option (List UInt16)) :
  ∃ item', saveReceipt access r promptPreview now item = some item'
    ∧ (isValidEntry (written (entry r promptPreview now)) = true →
        (listReceipts access' item').head? = some (written (entry r promptPreview now)))
    ∧ (isValidEntry (written (entry r promptPreview now)) = false →
        ∀ e ∈ listReceipts access' item', entryText e ≠ id)
  := by
  have hsave := saveReceipt_eq hbrowser hid promptPreview now item
  rw [setItem, hwritable, Recency.push, show MAX = 19 + 1 from rfl, List.take_succ_cons] at hsave
  have hothers : ∀ e ∈ ((Recency.remove entryText (entryText (entry r promptPreview now))
      (listReceipts access item)).take 19).map written, entryText e ≠ id := by
    intro e he
    obtain ⟨e, hmem, rfl⟩ := List.mem_map.mp he
    obtain ⟨hlisted, hdiffers⟩ := Recency.mem_remove.mp (List.mem_of_mem_take hmem)
    have hkey : entryText (entry r promptPreview now) = id := by
      rw [entryText, get_entry_receipt, hid]
      rfl
    rw [hkey] at hdiffers
    rw [entryText_written (isValidEntry_of_mem hlisted)]
    exact hdiffers
  refine ⟨_, hsave, ?_, ?_⟩
  · intro hvalid
    rw [listReceipts, readRaw, if_pos hread]
    simp only [if_true, Option.getD_some]
    rw [parse_write, List.map_cons, List.filter_cons_of_pos hvalid]
    rfl
  · intro hinvalid e he
    rw [listReceipts, readRaw, if_pos hread] at he
    simp only [if_true, Option.getD_some] at he
    rw [parse_write, List.map_cons, List.filter_cons_of_neg (by simp [hinvalid])] at he
    exact hothers e (List.mem_filter.mp he).1

/-- A receipt that is decoded and saved is the first that is listed exactly if the fields that the
history wants have their types and no number is infinite. -/
theorem accepted_kept_iff {header : List Char} {r : Json (List UInt16)}
    (hdecode : safeDecodeReceiptHeader jsNumbers header = some r) {access access' : Access}
    (hbrowser : access.isBrowser = true) (hwritable : access.writable = true)
    (hread : access'.isBrowser && access'.readable)
    (promptPreview : List UInt16) (now : Time) (item : Option (List UInt16)) :
  ∃ item', saveReceipt access r promptPreview now item = some item'
    ∧ ((∃ e receipt, (listReceipts access' item').head? = some e
          ∧ JsJson.get e "receipt" = some receipt ∧ DeepEqual receipt r)
        ↔ Typed r ∧ Finite r)
  := by
  have hdecoded := decoded_of_safeDecode hdecode
  obtain ⟨id, hid⟩ := hdecoded.id
  obtain ⟨item', hsave, hhead, hothers⟩ :=
    head_receipt hbrowser hwritable hread hid promptPreview now item
  refine ⟨item', hsave, ?_⟩
  have hreceipt : JsJson.get (written (entry r promptPreview now)) "receipt" = some (written r) := by
    rw [get_written, get_entry_receipt, Option.map_some]
  constructor
  · rintro ⟨e, receipt, he, hget, hequal⟩
    cases hvalid : isValidEntry (written (entry r promptPreview now)) with
    | true =>
        rw [hhead hvalid, Option.some.injEq] at he
        rw [← he, hreceipt, Option.some.injEq] at hget
        rw [← hget] at hequal
        refine ⟨(isSignedReceipt_iff hdecoded).mp ?_, (deepEqual_written_iff r).mp hequal⟩
        rw [isValidEntry_written, isValidEntry_entry, Bool.and_eq_true] at hvalid
        exact hvalid.1
    | false =>
        have hdiffers := hothers hvalid e (List.mem_of_mem_head? he)
        rw [entryText, hget, receiptId_of_deepEqual hequal hid] at hdiffers
        exact absurd rfl hdiffers
  · rintro ⟨htyped, hfinite⟩
    have hstorable : Storable r := ⟨(isSignedReceipt_iff hdecoded).mpr htyped, hfinite⟩
    have hvalid := (Storable.isValidEntry (s := ⟨r, promptPreview, now⟩) hstorable).2
    exact ⟨_, _, hhead hvalid, hreceipt, (deepEqual_written_iff r).mpr hfinite⟩

/-- The header that a receipt is sent in. -/
def headerOf (v : Json (List UInt16)) : List Char :=
  Base64.encode (utf8 (JsJson.stringify v))

/-- A receipt in a header is decoded if it has the form. -/
theorem safeDecode_headerOf {v : Json (List UInt16)} (hvalid : v.Valid)
    (hascii : ∀ c ∈ JsJson.stringify v, c.toNat < 128)
    (hformat : validateReceiptFormat jsNumbers v = some true) :
  safeDecodeReceiptHeader jsNumbers (headerOf v) = some v
  := by
  have hatob : (atob (headerOf v)).bind JsJson.parse = some v := by
    rw [atob, headerOf, Base64.forgivingDecode_encode, Option.map_some, latin1_utf8 hascii,
      Option.bind_some, JsJson.parse_stringify hvalid]
  rw [safeDecodeReceiptHeader, hatob]
  dsimp only
  rw [hformat]

theorem valid_mockReceipt {payer : Json (List UInt16)} (h : payer.Valid) :
  (mockReceipt payer "84532").Valid
  := by
  have hchain : IsNumber "84532".toList := isNumber_decimal 84532
  simpa [mockReceipt, Valid, ValidMembers, h] using hchain

/-- A receipt is decoded, and saved where nothing was saved before. -/
theorem accepted_kept_sample :
  ∃ item', saveReceipt (inBrowser true) (mockReceipt (.str (units "0x11")) "84532") (units "first")
      ⟨1, by decide⟩ none = some item'
    ∧ ((∃ e receipt, (listed item').head? = some e ∧ JsJson.get e "receipt" = some receipt
          ∧ DeepEqual receipt (mockReceipt (.str (units "0x11")) "84532"))
        ↔ Typed (mockReceipt (.str (units "0x11")) "84532")
          ∧ Finite (mockReceipt (.str (units "0x11")) "84532"))
  := by
  have hdecode : safeDecodeReceiptHeader jsNumbers (headerOf (mockReceipt (.str (units "0x11")) "84532"))
      = some (mockReceipt (.str (units "0x11")) "84532") := by
    apply safeDecode_headerOf
    · exact valid_mockReceipt trivial
    · decide +kernel
    · decide +kernel
  have hbrowser : (inBrowser true).isBrowser = true := rfl
  have hwritable : (inBrowser true).writable = true := rfl
  have hread : (inBrowser true).isBrowser && (inBrowser true).readable := rfl
  exact accepted_kept_iff hdecode hbrowser hwritable hread (units "first") ⟨1, by decide⟩ none

/-- A receipt whose payer is a number is accepted, but after it is saved nothing is listed. -/
theorem untyped_payer_lost :
  ∃ item', safeDecodeReceiptHeader jsNumbers (headerOf (mockReceipt (.num (decimal 17)) "84532"))
      = some (mockReceipt (.num (decimal 17)) "84532")
    ∧ saveReceipt (inBrowser true) (mockReceipt (.num (decimal 17)) "84532") (units "first") ⟨1, by decide⟩ none
        = some item'
    ∧ listed item' = []
  := by
  have hdecode : safeDecodeReceiptHeader jsNumbers (headerOf (mockReceipt (.num (decimal 17)) "84532"))
      = some (mockReceipt (.num (decimal 17)) "84532") := by
    apply safeDecode_headerOf
    · exact valid_mockReceipt (isNumber_decimal 17)
    · decide +kernel
    · decide +kernel
  have hsave := saveReceipt_eq (show (inBrowser true).isBrowser = true from rfl)
    (show receiptId (some (mockReceipt (.num (decimal 17)) "84532")) = some (.str (units "rcpt_123")) from rfl)
    (units "first") ⟨1, by decide⟩ none
  have hlisted := parse_write [entry (mockReceipt (.num (decimal 17)) "84532") (units "first") ⟨1, by decide⟩]
  have hlost : isValidEntry (written (entry (mockReceipt (.num (decimal 17)) "84532") (units "first")
      ⟨1, by decide⟩)) = false := by
    rw [isValidEntry_written, isValidEntry_entry,
      show isSignedReceipt (some (mockReceipt (.num (decimal 17)) "84532")) = false from rfl, Bool.false_and]
  rw [List.map_singleton, List.filter_cons_of_neg (by simp [hlost])] at hlisted
  exact ⟨_, hdecode, hsave, hlisted⟩

end ReceiptStorage

end Paygate.Web
