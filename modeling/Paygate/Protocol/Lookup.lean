import Paygate.Base.JsLatin1
import Paygate.Gateway.Lookup
import Paygate.Gateway.Stores
import Paygate.Protocol.ReceiptCodec
import Paygate.Sdk.Lookup

/-!
# Receipts by their ids

The SDK asks the gateway for the receipt with an id, and the gateway asks its store.  Whatever the
id is, the gateway is asked for the very text the SDK was given, or for no receipt at all.  What the
SDK finds in the answer is what it finds in the header with which the receipt was sent.
-/

namespace Paygate

open Text Json JsJson

/-! ### The way to the gateway -/

/-- The path that is asked for when the id is written as the given segment of a URL: a segment of
dots is removed, and escapes are replaced. -/
def lookupPath (segment : List Char) : Option (List UInt8) :=
  if segment = ['.'] then some (bytes "/api/receipts/")
  else if segment = ['.', '.'] then some (bytes "/api/")
  else (Uri.unescape segment).map (bytes "/api/receipts/" ++ ·)

/-- The status and the body the gateway comes to for a path, when at most the given number of
redirects is followed. -/
def followRedirects (get : List UInt8 → Except String (Option Gateway.SignedReceipt))
    (redirects : Nat) (path : List UInt8) : Option (Nat × List UInt8) :=
  match Gateway.serveReceipts get path with
  | none => none
  | some (.answered status body) => some (status, body)
  | some (.movedPermanently location) =>
      match redirects with
      | 0 => none
      | n + 1 => followRedirects get n location

/-- How a gateway answers the SDK, given what `Get` of its store returns.  The platform follows up to
20 redirects. -/
def lookupFetcher (gatewayUrl : List UInt16)
    (get : List UInt8 → Except String (Option Gateway.SignedReceipt)) (url : List UInt16) :
    Option Sdk.Response :=
  if Sdk.receiptsUrl gatewayUrl <+: url then do
    let segment ← Uri.textOf (points (url.drop (Sdk.receiptsUrl gatewayUrl).length))
    let path ← lookupPath segment
    let answer ← followRedirects get 20 path
    some { status := answer.1, headers := fun _ => none, body := some answer.2 }
  else none

/-- The text is no segment of a path. -/
def NoSegment (x : List Char) : Prop :=
  x = [] ∨ x = ['.'] ∨ x = ['.', '.'] ∨ '/' ∈ x

instance (x : List Char) : Decidable (NoSegment x) :=
  inferInstanceAs (Decidable (_ ∨ _ ∨ _ ∨ _))

/-- The text the gateway is asked for in the end, if any, when the SDK is asked for a text: a slash
after a segment is removed by a redirect. -/
def lookedUp (x : List Char) : Option (List Char) :=
  let y := if x.getLast? = some '/' then x.dropLast else x
  if NoSegment y then none else some y

/-- The answer to a lookup of a text. -/
def lookupAnswer (get : List UInt8 → Except String (Option Gateway.SignedReceipt)) (x : List Char) :
    Option (Nat × List UInt8) :=
  match lookedUp x with
  | none => some (404, bytes "404 page not found")
  | some y => Gateway.handleGetReceipt get (utf8 y)

/-! ### Slashes -/

/-- Only a slash is encoded with the byte of a slash. -/
theorem slash_mem_utf8EncodeChar {c : Char} : 0x2F ∈ String.utf8EncodeChar c ↔ c = '/'
  := by
  by_cases hc : c.toNat < 128
  · rw [utf8EncodeChar_of_lt hc, List.mem_singleton]
    constructor
    · intro h
      have hnat := congrArg UInt8.toNat h
      have hmod : c.toNat % 256 = c.toNat := Nat.mod_eq_of_lt (by omega)
      simp only [UInt8.toNat_ofNat', hmod] at hnat
      rw [← Char.ofNat_toNat c, ← hnat]
      rfl
    · rintro rfl
      rfl
  · constructor
    · intro h
      exact absurd (le_of_mem_utf8EncodeChar hc h) (by decide)
    · rintro rfl
      exact absurd (by decide) hc

/-- A slash in bytes is a slash in the text. -/
theorem slash_mem_utf8 {x : List Char} : 0x2F ∈ utf8 x ↔ '/' ∈ x
  := by
  rw [utf8, List.mem_flatMap]
  constructor
  · rintro ⟨c, hc, h⟩
    rw [← slash_mem_utf8EncodeChar.mp h]
    exact hc
  · intro h
    exact ⟨_, h, slash_mem_utf8EncodeChar.mpr rfl⟩

/-- A slash is encoded as its byte. -/
theorem utf8_append_slash (x : List Char) : utf8 (x ++ ['/']) = utf8 x ++ [0x2F] := utf8_append _ _

/-- If the bytes end with a slash, so does the text. -/
theorem getLast?_of_utf8 {x : List Char} (h : (utf8 x).getLast? = some 0x2F) :
  x.getLast? = some '/'
  := by
  cases x using List.reverseRecOn with
  | nil => simp [utf8] at h
  | append_singleton y c =>
      have hmem : 0x2F ∈ String.utf8EncodeChar c := by
        rw [utf8_append, utf8_cons, utf8_nil, List.append_nil,
          List.getLast?_append_of_ne_nil _ String.utf8EncodeChar_ne_nil] at h
        exact List.mem_of_getLast? h
      rw [List.getLast?_concat, slash_mem_utf8EncodeChar.mp hmem]

/-- Texts are determined by their encodings. -/
theorem encodeText_injective : Function.Injective Uri.encodeText
  := by
  intro x y h
  have hbytes := congrArg Uri.unescape h
  rw [Uri.unescape_encodeText, Uri.unescape_encodeText, Option.some.injEq] at hbytes
  exact utf8_injective hbytes

/-- Only dots are encoded as dots. -/
theorem encodeText_eq_iff {x d : List Char} (hd : ∀ c ∈ d, Uri.isUnreserved c = true) :
  Uri.encodeText x = d ↔ x = d
  := by
  have hself := Uri.encodeText_eq_self hd
  constructor
  · intro h
    exact encodeText_injective (h.trans hself.symm)
  · rintro rfl
    exact hself

/-! ### What the gateway comes to -/

section Follow

variable {get : List UInt8 → Except String (Option Gateway.SignedReceipt)} {path : List UInt8}

/-- An answer is passed on. -/
theorem followRedirects_of_answered {status : Nat} {body : List UInt8}
    (h : Gateway.serveReceipts get path = some (.answered status body)) (redirects : Nat) :
  followRedirects get redirects path = some (status, body)
  := by
  rw [followRedirects, h]

/-- A redirect is followed. -/
theorem followRedirects_of_moved {location : List UInt8}
    (h : Gateway.serveReceipts get path = some (.movedPermanently location)) (redirects : Nat) :
  followRedirects get (redirects + 1) path = followRedirects get redirects location
  := by
  rw [followRedirects, h]

/-- A segment is looked up. -/
theorem followRedirects_append {id : List UInt8} (hne : id ≠ []) (hslash : 0x2F ∉ id)
    (redirects : Nat) :
  followRedirects get redirects (bytes "/api/receipts/" ++ id) = Gateway.handleGetReceipt get id
  := by
  rw [followRedirects, Gateway.serveReceipts_append hne hslash]
  cases Gateway.handleGetReceipt get id <;> rfl

/-- What is no segment of dots is looked up, if it is a segment at all. -/
theorem followRedirects_utf8 {y : List Char} (hslash : '/' ∉ y) (hone : y ≠ ['.'])
    (htwo : y ≠ ['.', '.']) (redirects : Nat) :
  followRedirects get redirects (bytes "/api/receipts/" ++ utf8 y)
    = if NoSegment y then some (404, bytes "404 page not found")
      else Gateway.handleGetReceipt get (utf8 y)
  := by
  by_cases hnil : y = []
  · subst hnil
    exact followRedirects_of_answered (Gateway.serveReceipts_append_of_not (Or.inl rfl) (by simp)) _
  · have hno : ¬ NoSegment y := by simp [NoSegment, hnil, hone, htwo, hslash]
    have hne : utf8 y ≠ [] := fun h => hnil (utf8_injective (h.trans utf8_nil.symm))
    rw [if_neg hno, followRedirects_append hne (mt slash_mem_utf8.mp hslash)]

/-- A segment with a slash after it is looked up as the segment. -/
theorem followRedirects_utf8_slash {y : List Char} (hslash : '/' ∉ y) (redirects : Nat) :
  followRedirects get (redirects + 1) (bytes "/api/receipts/" ++ utf8 (y ++ ['/']))
    = if NoSegment y then some (404, bytes "404 page not found")
      else Gateway.handleGetReceipt get (utf8 y)
  := by
  have hmoved : Gateway.serveReceipts get (bytes "/api/receipts/" ++ (utf8 y ++ [0x2F])) = _ :=
    Gateway.serveReceipts_append_slash (mt slash_mem_utf8.mp hslash)
  have hdots : utf8 y = bytes "." ↔ y = ['.'] := utf8_injective.eq_iff (b := ['.'])
  have hdots' : utf8 y = bytes ".." ↔ y = ['.', '.'] := utf8_injective.eq_iff (b := ['.', '.'])
  rw [utf8_append_slash, followRedirects_of_moved hmoved]
  by_cases hone : y = ['.']
  · have hno : NoSegment y := Or.inr (Or.inl hone)
    rw [if_pos (hdots.mpr hone), if_pos hno]
    exact followRedirects_of_answered rfl _
  by_cases htwo : y = ['.', '.']
  · have hno : NoSegment y := Or.inr (Or.inr (Or.inl htwo))
    rw [if_neg (mt hdots.mp hone), if_pos (hdots'.mpr htwo), if_pos hno]
    exact followRedirects_of_answered rfl _
  rw [if_neg (mt hdots.mp hone), if_neg (mt hdots'.mp htwo), followRedirects_utf8 hslash hone htwo]

/-- More slashes than one after a segment are not redirected. -/
theorem followRedirects_of_slashes {x : List Char} (hmem : '/' ∈ x)
    (hlast : x.getLast? = some '/' → '/' ∈ x.dropLast) (redirects : Nat) :
  followRedirects get redirects (bytes "/api/receipts/" ++ utf8 x)
    = some (404, bytes "404 page not found")
  := by
  apply followRedirects_of_answered
  apply Gateway.serveReceipts_append_of_not (Or.inr (slash_mem_utf8.mpr hmem))
  rintro ⟨hbyte, hinner⟩
  have hchar := getLast?_of_utf8 hbyte
  obtain ⟨y, rfl⟩ := List.getLast?_eq_some_iff.mp hchar
  rw [List.dropLast_concat] at hlast
  rw [utf8_append_slash, List.dropLast_concat] at hinner
  exact hinner (slash_mem_utf8.mpr (hlast hchar))

/-- What the gateway comes to when the SDK is asked for a text. -/
theorem followRedirects_lookupPath (x : List Char) (redirects : Nat) :
  (lookupPath (Uri.encodeText x)).bind (followRedirects get (redirects + 1)) = lookupAnswer get x
  := by
  have hone : Uri.encodeText x = ['.'] ↔ x = ['.'] := encodeText_eq_iff (by decide)
  have htwo : Uri.encodeText x = ['.', '.'] ↔ x = ['.', '.'] := encodeText_eq_iff (by decide)
  unfold lookupPath
  by_cases h1 : x = ['.']
  · subst h1
    rfl
  by_cases h2 : x = ['.', '.']
  · subst h2
    rfl
  rw [if_neg (mt hone.mp h1), if_neg (mt htwo.mp h2), Uri.unescape_encodeText, Option.map_some,
    Option.bind_some, lookupAnswer, lookedUp]
  by_cases hlast : x.getLast? = some '/'
  · obtain ⟨y, rfl⟩ := List.getLast?_eq_some_iff.mp hlast
    rw [if_pos hlast, List.dropLast_concat]
    by_cases hslash : '/' ∈ y
    · have hno : NoSegment y := Or.inr (Or.inr (Or.inr hslash))
      rw [if_pos hno]
      exact followRedirects_of_slashes (by simp) (fun _ => by simpa using hslash) _
    · rw [followRedirects_utf8_slash hslash]
      by_cases hno : NoSegment y
      · rw [if_pos hno, if_pos hno]
      · rw [if_neg hno, if_neg hno]
  · rw [if_neg hlast]
    by_cases hslash : '/' ∈ x
    · have hno : NoSegment x := Or.inr (Or.inr (Or.inr hslash))
      rw [if_pos hno]
      exact followRedirects_of_slashes hslash (fun h => absurd h hlast) _
    · rw [followRedirects_utf8 hslash h1 h2]
      by_cases hno : NoSegment x
      · rw [if_pos hno, if_pos hno]
      · rw [if_neg hno, if_neg hno]

end Follow

/-- How the gateway answers when the SDK is asked for a text. -/
theorem lookupFetcher_encodeText (gatewayUrl : List UInt16)
    (get : List UInt8 → Except String (Option Gateway.SignedReceipt)) (x : List Char) :
  lookupFetcher gatewayUrl get (Sdk.receiptsUrl gatewayUrl ++ utf16 (Uri.encodeText x))
    = (lookupAnswer get x).map fun answer =>
        { status := answer.1, headers := fun _ => none, body := some answer.2 }
  := by
  rw [lookupFetcher, if_pos (List.prefix_append _ _), List.drop_left, points_utf16, Uri.textOf_map_inl,
    Option.map_eq_bind, ← followRedirects_lookupPath x 19, Option.bind_assoc]
  rfl

/-- A segment without slashes is looked up itself. -/
theorem lookedUp_of_segment {x : List Char} (h : ¬ NoSegment x) : lookedUp x = some x
  := by
  have hlast : x.getLast? ≠ some '/' := fun hlast =>
    h (Or.inr (Or.inr (Or.inr (List.mem_of_getLast? hlast))))
  rw [lookedUp, if_neg hlast, if_neg h]

/-- A segment with a slash after it is looked up without the slash. -/
theorem lookedUp_append_slash {x : List Char} (h : ¬ NoSegment x) : lookedUp (x ++ ['/']) = some x
  := by
  rw [lookedUp, if_pos List.getLast?_concat, List.dropLast_concat, if_neg h]

/-- What is looked up is the text but for a slash after it. -/
theorem eq_of_lookedUp {x y : List Char} (h : lookedUp x = some y) : x = y ∨ x = y ++ ['/']
  := by
  simp only [lookedUp, Option.ite_none_left_eq_some, Option.some.injEq] at h
  obtain ⟨-, h⟩ := h
  by_cases hlast : x.getLast? = some '/'
  · obtain ⟨z, rfl⟩ := List.getLast?_eq_some_iff.mp hlast
    rw [if_pos hlast, List.dropLast_concat] at h
    exact Or.inr (by rw [h])
  · rw [if_neg hlast] at h
    exact Or.inl h

/-! ### What the SDK finds -/

/-- What the SDK makes of a receipt that was found: what it makes of its header, or an error if the
header cannot be decoded. -/
def foundReceipt (header : List Char) : Except Sdk.Thrown (Option Sdk.SignedReceipt) :=
  match Sdk.decodeReceiptHeader header with
  | some receipt => .ok (some receipt)
  | none =>
      .error (.sdk .receiptDecodeFailed "Receipt lookup response did not match SignedReceipt shape"
        (some 200) none)

/-- The SDK reads the body of a lookup as it reads the header of the receipt. -/
theorem readFields_lookupJson {s : Gateway.SignedReceipt} {v w : Json (List UInt8)}
    (hv : s.json = some v) (hw : s.lookupJson = some w) :
  Sdk.readFields (w.map received) = Sdk.readFields (v.map received)
  := by
  obtain ⟨r, hr, rfl⟩ := Option.map_eq_some_iff.mp hv
  rw [Gateway.SignedReceipt.lookupJson, hr, Option.map_some, Option.some.injEq] at hw
  subst hw
  simp [Json.map, mapMembers, Sdk.readFields, Sdk.getString]

/-- A receipt with a header is found with a body that is read like the header. -/
theorem lookupJson_of_receiptHeader {s : Gateway.SignedReceipt} {header : List Char}
    (h : Gateway.receiptHeader s = some header) :
  ∃ w value, s.lookupJson = some w ∧ JsJson.parse (textDecode (GoJson.marshal w)) = some value
    ∧ Sdk.validateReceiptFormat value = Sdk.decodeReceiptHeader header
  := by
  obtain ⟨v, hv, -, hdecode⟩ := decodeReceiptHeader_receiptHeader h
  obtain ⟨r, hr, -⟩ := Option.map_eq_some_iff.mp hv
  have hvalid : (Json.obj [
      (bytes "receipt", r), (bytes "server_public_key", .str s.serverPublicKey),
      (bytes "signature", .str s.signature), (bytes "status", .str (bytes "valid"))]).Valid := by
    simp [Json.Valid, Json.ValidMembers, Gateway.Receipt.valid_json hr]
  have hw := congrArg (Option.map fun receipt => Json.obj [
      (bytes "receipt", receipt), (bytes "server_public_key", .str s.serverPublicKey),
      (bytes "signature", .str s.signature), (bytes "status", .str (bytes "valid"))]) hr
  refine ⟨_, _, hw, parse_textDecode_marshal hvalid, ?_⟩
  rw [map_unquote_pieces, hdecode, Sdk.validateReceiptFormat, Sdk.validateReceiptFormat,
    readFields_lookupJson hv hw]

section Fetch

variable {get : List UInt8 → Except String (Option Gateway.SignedReceipt)} {x : List Char}

/-- The response of a gateway. -/
def lookupResponse (answer : Nat × List UInt8) : Sdk.Response where
  status := answer.1
  headers _ := none
  body := some answer.2

/-- The SDK reads what the gateway answers. -/
theorem tryFetchReceipt_eq (gatewayUrl : List UInt16)
    (get : List UInt8 → Except String (Option Gateway.SignedReceipt)) (x : List Char) :
  Sdk.tryFetchReceipt (utf16 x) gatewayUrl (lookupFetcher gatewayUrl get)
    = Sdk.orThrow ((lookupAnswer get x).map lookupResponse) >>= Sdk.readLookup
  := by
  rw [Sdk.tryFetchReceipt, Uri.encodeURIComponent_utf16, Sdk.orThrow]
  change Sdk.orThrow (lookupFetcher gatewayUrl get _) >>= _ = _
  rw [lookupFetcher_encodeText]
  rfl

/-- The SDK reads an answer of the gateway. -/
theorem tryFetchReceipt_of_answer {answer : Nat × List UInt8} (h : lookupAnswer get x = some answer)
    (gatewayUrl : List UInt16) :
  Sdk.tryFetchReceipt (utf16 x) gatewayUrl (lookupFetcher gatewayUrl get)
    = Sdk.readLookup (lookupResponse answer)
  := by
  rw [tryFetchReceipt_eq, h]
  rfl

/-- What has the form of a receipt id is a segment of a path. -/
theorem not_noSegment_of_valid (h : Gateway.isValidReceiptID (utf8 x) = true) : ¬ NoSegment x
  := by
  simp only [Gateway.isValidReceiptID, Bool.and_eq_true, decide_eq_true_eq, List.all_eq_true] at h
  obtain ⟨⟨hhead, hlength⟩, hdigits⟩ := h
  rintro (rfl | rfl | rfl | hslash)
  · revert hhead
    decide
  · revert hhead
    decide
  · revert hhead
    decide
  · rw [← slash_mem_utf8, ← List.take_append_drop 5 (utf8 x), List.mem_append] at hslash
    obtain hslash | hslash := hslash
    · rw [hhead] at hslash
      revert hslash
      decide
    · exact absurd (hdigits _ hslash) (by decide)

/-- The store is asked for the text that is looked up only. -/
theorem fetchReceipt_congr {get' : List UInt8 → Except String (Option Gateway.SignedReceipt)}
    (h : ∀ y, lookedUp x = some y → get (utf8 y) = get' (utf8 y)) (gatewayUrl : List UInt16) :
  Sdk.fetchReceipt (utf16 x) gatewayUrl (lookupFetcher gatewayUrl get)
    = Sdk.fetchReceipt (utf16 x) gatewayUrl (lookupFetcher gatewayUrl get')
  := by
  have hanswer : lookupAnswer get x = lookupAnswer get' x := by
    unfold lookupAnswer
    cases hup : lookedUp x with
    | none => rfl
    | some y => simp only [Gateway.handleGetReceipt, h y hup]
  rw [Sdk.fetchReceipt, Sdk.fetchReceipt, tryFetchReceipt_eq, tryFetchReceipt_eq, hanswer]

/-- A receipt that is found is read as its header is. -/
theorem fetchReceipt_of_found {s : Gateway.SignedReceipt} {header : List Char}
    (hid : Gateway.isValidReceiptID (utf8 x) = true) (hget : get (utf8 x) = .ok (some s))
    (hheader : Gateway.receiptHeader s = some header) (gatewayUrl : List UInt16) :
  Sdk.fetchReceipt (utf16 x) gatewayUrl (lookupFetcher gatewayUrl get) = foundReceipt header
  := by
  obtain ⟨w, value, hw, hparse, hread⟩ := lookupJson_of_receiptHeader hheader
  have hanswer : lookupAnswer get x = some (200, GoJson.marshal w) := by
    rw [lookupAnswer, lookedUp_of_segment (not_noSegment_of_valid hid)]
    simp only [Gateway.handleGetReceipt, hid, Bool.not_true, Bool.false_eq_true, if_false, hget, hw, Option.map_some]
  have hlookup : Sdk.readLookup (lookupResponse (200, GoJson.marshal w)) = foundReceipt header := by
    rw [foundReceipt, ← hread]
    simp only [Sdk.readLookup, lookupResponse, Sdk.Response.ok, Sdk.Response.text, Except.toOption,
      Option.bind_some, hparse]
    cases Sdk.validateReceiptFormat value <;> rfl
  rw [Sdk.fetchReceipt, tryFetchReceipt_of_answer hanswer, hlookup, foundReceipt]
  cases Sdk.decodeReceiptHeader header <;> rfl

/-- If there is no receipt, the SDK finds none. -/
theorem fetchReceipt_of_none (hid : Gateway.isValidReceiptID (utf8 x) = true)
    (hget : get (utf8 x) = .ok none) (gatewayUrl : List UInt16) :
  Sdk.fetchReceipt (utf16 x) gatewayUrl (lookupFetcher gatewayUrl get) = .ok none
  := by
  have hanswer : ∃ body, lookupAnswer get x = some (404, body) := by
    rw [lookupAnswer, lookedUp_of_segment (not_noSegment_of_valid hid)]
    simp only [Gateway.handleGetReceipt, hid, Bool.not_true, Bool.false_eq_true, if_false, hget, Option.some.injEq, Prod.mk.injEq,
      true_and, exists_eq']
  obtain ⟨body, hanswer⟩ := hanswer
  rw [Sdk.fetchReceipt, tryFetchReceipt_of_answer hanswer]
  rfl

end Fetch

/-- A valid id with a slash after it is looked up as the id. -/
theorem fetchReceipt_append_slash {x : List Char} (hid : Gateway.isValidReceiptID (utf8 x) = true)
    (gatewayUrl : List UInt16) (get : List UInt8 → Except String (Option Gateway.SignedReceipt)) :
  Sdk.fetchReceipt (utf16 (x ++ ['/'])) gatewayUrl (lookupFetcher gatewayUrl get)
    = Sdk.fetchReceipt (utf16 x) gatewayUrl (lookupFetcher gatewayUrl get)
  := by
  have hsegment := not_noSegment_of_valid hid
  have hanswer : lookupAnswer get (x ++ ['/']) = lookupAnswer get x := by
    rw [lookupAnswer, lookupAnswer, lookedUp_append_slash hsegment, lookedUp_of_segment hsegment]
  rw [Sdk.fetchReceipt, Sdk.fetchReceipt, tryFetchReceipt_eq, tryFetchReceipt_eq, hanswer]

/-- Let the SDK be asked for any string that is not the text of a valid id.  Either the string is a
valid id with one slash after it, and the SDK finds what it finds for the id.  Or the store is not
asked, and the SDK finds none or fails with a network error. -/
theorem malformed_id_not_looked_up (receiptId gatewayUrl : List UInt16)
    (h : ∀ x, receiptId = utf16 x → Gateway.isValidReceiptID (utf8 x) = false) :
  (∃ x, receiptId = utf16 (x ++ ['/']) ∧ Gateway.isValidReceiptID (utf8 x) = true
    ∧ ∀ get, Sdk.fetchReceipt receiptId gatewayUrl (lookupFetcher gatewayUrl get)
      = Sdk.fetchReceipt (utf16 x) gatewayUrl (lookupFetcher gatewayUrl get))
  ∨ ∃ result, (∀ get, Sdk.fetchReceipt receiptId gatewayUrl (lookupFetcher gatewayUrl get) = result)
    ∧ (result = .ok none
      ∨ ∃ message status bodyText, result = .error (.sdk .networkError message status bodyText))
  := by
  cases hencoded : Uri.encodeURIComponent receiptId with
  | none =>
      refine Or.inr ⟨_, ?_, Or.inr ⟨"Network error while fetching receipt", none, none, rfl⟩⟩
      intro get
      rw [Sdk.fetchReceipt, Sdk.tryFetchReceipt, hencoded, Sdk.orThrow]
      rfl
  | some t =>
      obtain ⟨x, rfl, -⟩ := Uri.eq_utf16_of_encodeURIComponent hencoded
      have hid := h x rfl
      cases hup : lookedUp x with
      | none =>
          refine Or.inr ⟨_, ?_, Or.inl rfl⟩
          intro get
          have hanswer : lookupAnswer get x = some (404, bytes "404 page not found") := by
            rw [lookupAnswer, hup]
          rw [Sdk.fetchReceipt, tryFetchReceipt_of_answer hanswer]
          rfl
      | some y =>
          cases hvalid : Gateway.isValidReceiptID (utf8 y) with
          | true =>
              obtain rfl | rfl := eq_of_lookedUp hup
              · rw [hid] at hvalid
                cases hvalid
              · exact Or.inl ⟨y, rfl, hvalid, fetchReceipt_append_slash hvalid gatewayUrl⟩
          | false =>
              refine Or.inr ⟨_, ?_, Or.inr ⟨"Failed to fetch receipt", some 400,
                some (textDecode Gateway.malformedIdBody), rfl⟩⟩
              intro get
              have hanswer : lookupAnswer get x = some (400, Gateway.malformedIdBody) := by
                rw [lookupAnswer, hup]
                simp only [Gateway.handleGetReceipt, hvalid, Bool.not_false, if_true]
              rw [Sdk.fetchReceipt, tryFetchReceipt_of_answer hanswer]
              rfl

/-- An id with capital letters is malformed, and the receipt of an id is found with a slash after
the id as well. -/
theorem malformed_id_not_looked_up_sample :
  (∃ result, (∀ get, Sdk.fetchReceipt (units "rcpt_0123456789AB") (units "http://localhost:3000")
      (lookupFetcher (units "http://localhost:3000") get) = result)
    ∧ (result = .ok none
      ∨ ∃ message status bodyText, result = .error (.sdk .networkError message status bodyText)))
  ∧ ∀ get, Sdk.fetchReceipt (units "rcpt_0123456789ab/") (units "http://localhost:3000")
        (lookupFetcher (units "http://localhost:3000") get)
      = Sdk.fetchReceipt (units "rcpt_0123456789ab") (units "http://localhost:3000")
        (lookupFetcher (units "http://localhost:3000") get)
  := by
  constructor
  · obtain ⟨x, hx, -⟩ | hresult := malformed_id_not_looked_up (units "rcpt_0123456789AB")
      (units "http://localhost:3000") (by
        intro x hx
        rw [← utf16_injective hx]
        decide)
    · have hlast := congrArg List.getLast? (utf16_injective hx)
      rw [List.getLast?_concat] at hlast
      exact absurd hlast (by decide)
    · exact hresult
  · exact fetchReceipt_append_slash (x := "rcpt_0123456789ab".toList) (by decide) _

/-! ### Receipts of the stores -/

section Stores

open Gateway (StoreStep ReceiptStore Redis bothStores newStores AtMoment StoredDuring latestStored
  getFromRedis redisReceiptKey)

/-- A receipt that can be stored has a header. -/
theorem exists_receiptHeader {s : Gateway.SignedReceipt} (h : Gateway.Storable s) :
  ∃ header, Gateway.receiptHeader s = some header
  := by
  have hjson := Gateway.Receipt.json_eq_some_iff.mpr ⟨h.year_nonneg, rfl⟩
  rw [Gateway.receiptHeader, Gateway.SignedReceipt.json, hjson]
  exact ⟨_, rfl⟩

/-- Give both stores the same calls at the same times, those of the store in memory interleaved
in any way, and let a `Get` serve a lookup of a valid id by the SDK.  The SDK finds what it makes
of the header of the receipt that is in force at some moment of the call, or none if there is none.
At that moment the SDK finds the same with Redis, unless the receipt expires at that very time.  The
only other case is that the SDK finds none while another receipt with the id is stored. -/
theorem receipt_by_id (world : (c : Gateway.Call) → Gateway.Answer c) (start : Int)
    (as : List StoreStep) (p : ReceiptStore × Redis)
    (hrun : (bothStores world).run (newStores start) as = some p)
    (hstorable : ∀ j ctxErr receipt ttl, .store j ctxErr (some receipt) ttl ∈ as →
      Gateway.Storable receipt)
    (other : Pieces → Option Gateway.Time) (gatewayUrl : List UInt16) (i : Nat)
    (r : Option Gateway.SignedReceipt) (hgot : p.1.phase i = .got (.ok r)) :
  ∃ id, .getRead i none id ∈ as
    ∧ ∀ x, id = utf8 x → Gateway.isValidReceiptID id = true →
      ∃ found, Sdk.fetchReceipt (utf16 x) gatewayUrl (lookupFetcher gatewayUrl fun _ => .ok r) = found
        ∧ (match r with
          | none => found = .ok none
          | some s => ∃ header, Gateway.receiptHeader s = some header ∧ found = foundReceipt header)
        ∧ (AtMoment world start i as id (fun q => q.1.inForce id = r
            ∧ ((∀ e, latestStored id q.1.history = some e → e.expiresAt ≠ q.1.now) →
              Sdk.fetchReceipt (utf16 x) gatewayUrl (lookupFetcher gatewayUrl fun id =>
                getFromRedis other (.ok (q.2.get q.1.now (redisReceiptKey id)))) = found))
          ∨ r = none ∧ StoredDuring world start i as id)
  := by
  have hanswered := (Gateway.answered_of_run (i := i) hrun hstorable).2
  rw [hgot] at hanswered
  obtain ⟨id, hread, hcase⟩ := hanswered
  refine ⟨id, hread, ?_⟩
  rintro x rfl hid
  refine ⟨_, rfl, ?_, ?_⟩
  · cases r with
    | none => exact fetchReceipt_of_none hid rfl gatewayUrl
    | some s =>
        -- A receipt that is returned was in force, so it can be written.
        obtain hforce | ⟨hnone, -⟩ := hcase
        · obtain ⟨_, _, q, -, -, -, hq, hmirrored⟩ := hforce.mirrored hstorable
          obtain ⟨e, hlatest, rfl⟩ := ReceiptStore.exists_latest_of_inForce hq
          obtain ⟨header, hheader⟩ := exists_receiptHeader (hmirrored.storable _ e hlatest)
          exact ⟨header, hheader, fetchReceipt_of_found hid rfl hheader gatewayUrl⟩
        · cases hnone
  · apply hcase.imp_left
    intro hforce
    apply (hforce.mirrored hstorable).mono
    rintro q next ⟨hopen, hq, hmirrored⟩
    refine ⟨hopen, hq, ?_⟩
    intro hnow
    apply fetchReceipt_congr
    intro y hy
    rw [lookedUp_of_segment (not_noSegment_of_valid hid), Option.some.injEq] at hy
    subst hy
    rw [hmirrored.getFromRedis_eq hnow other, hq]

/-- The sample receipt is found with its id, as its header is read. -/
theorem receipt_by_id_sample :
  ∃ header, Gateway.receiptHeader Gateway.storedReceipt = some header
    ∧ Sdk.fetchReceipt (units "rcpt_0123456789ab") (units "http://localhost:3000/")
        (lookupFetcher (units "http://localhost:3000/") fun _ => .ok (some Gateway.storedReceipt))
      = foundReceipt header
  := by
  have hphase : ((bothStores Gateway.cachedWorld).run (newStores 0) Gateway.sampleBothSteps).map
      (fun p => p.1.phase 1) = some (.got (.ok (some Gateway.storedReceipt))) := by
    decide +kernel
  obtain ⟨p, hp, hgot⟩ := Option.map_eq_some_iff.mp hphase
  obtain ⟨id, hread, hfound⟩ := receipt_by_id Gateway.cachedWorld 0 Gateway.sampleBothSteps p hp
    Gateway.storable_sampleBothSteps (fun _ => none) (units "http://localhost:3000/") 1
    (some Gateway.storedReceipt) hgot
  simp only [Gateway.sampleBothSteps, List.mem_cons, StoreStep.getRead.injEq, reduceCtorEq,
    List.not_mem_nil, true_and, or_false, false_or] at hread
  subst hread
  obtain ⟨found, rfl, hheader, -⟩ := hfound "rcpt_0123456789ab".toList rfl (by decide)
  exact hheader

end Stores

end Paygate
