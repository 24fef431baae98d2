import Mathlib.Algebra.Group.Nat.Defs
import Paygate.Base.GoJson

/-!
# JSON in Rust

How `serde_json` writes values whose strings are texts, and how derived deserialisers read
structs.  In a string literal a half of a pair that stands alone is an error, as are a key
that comes twice and a member that is missing, unless it is optional.

What Go writes is read as the text of its strings, and what `serde_json` writes is read by
Go as it was.
-/

namespace SerdeJson

open Json Text

/-! ### Writing -/

/-- The string literal of a text. -/
def quote (s : List Char) : List Char :=
  '"' :: s.flatMap (escapeChar fun _ => false) ++ ['"']

/-- The pieces the parser finds in the string literal of a text. -/
def pieces (s : List Char) : Pieces :=
  s.map (charPiece fun _ => false)

/-- The bytes of a value. -/
def toVec (v : Json (List Char)) : List UInt8 :=
  utf8 (v.print quote)

/-! ### Reading -/

/-- The text of bytes that are the encoding of one. -/
def decodeUtf8 (bs : List UInt8) : Option (List Char) :=
  (runes bs).mapM id

/-- The value the bytes consist of. -/
def fromSlice (bs : List UInt8) : Option (Json Pieces) :=
  (decodeUtf8 bs).bind parse

/-- The text of a string literal. -/
def unquote : Pieces → Option (List Char)
  | [] => some []
  | .inl c :: ps => (unquote ps).map (c :: ·)
  | [.inr u] => if isHigh u || isLow u then none else some [.ofNat u.toNat]
  | .inr u :: .inl c :: ps =>
      if isHigh u || isLow u then none
      else (unquote ps).map fun s => .ofNat u.toNat :: c :: s
  | .inr u :: .inr v :: ps =>
      if isHigh u && isLow v then (unquote ps).map (pairChar u v :: ·)
      else if isHigh u || isLow u then none
      else (unquote (.inr v :: ps)).map (.ofNat u.toNat :: ·)

/-- Read a string. -/
def readString : Json Pieces → Option (List Char)
  | .str ps => unquote ps
  | _ => none

/-- Read an unsigned integer of 64 bits. -/
def readU64 : Json Pieces → Option UInt64
  | .num l =>
      let n := Nat.ofDigitChars 10 l 0
      if l.all Char.isDigit ∧ n < 2 ^ 64 then some (.ofNat n) else none
  | _ => none

/-- Read a value that may be `null`. -/
def readOption {α : Type} (read : Json Pieces → Option α) : Json Pieces → Option (Option α)
  | .null => some none
  | v => (read v).map some

/-- The values of the members with a name. -/
def members (ms : List (Pieces × Json Pieces)) (name : String) : List (Json Pieces) :=
  (ms.filter fun m => unquote m.1 = some name.toList).map Prod.snd

/-- Read the member with a name, which there must be. -/
def requiredField {α : Type} (read : Json Pieces → Option α) (ms : List (Pieces × Json Pieces))
    (name : String) : Option α :=
  match members ms name with
  | [v] => read v
  | _ => none

/-- Read the member with a name, which may be missing. -/
def optionalField {α : Type} (read : Json Pieces → Option α) (ms : List (Pieces × Json Pieces))
    (name : String) : Option (Option α) :=
  match members ms name with
  | [] => some none
  | [v] => readOption read v
  | _ => none

/-- The members of an object all of whose keys are texts. -/
def asObject : Json Pieces → Option (List (Pieces × Json Pieces))
  | .obj ms => if ms.all fun m => (unquote m.1).isSome then some ms else none
  | _ => none

/-! ### Reading what Go wrote -/

theorem decodeUtf8_utf8 (s : List Char) : decodeUtf8 (utf8 s) = some s
  := by
  rw [decodeUtf8, runes_utf8]
  induction s with
  | nil => rfl
  | cons c s ih =>
      rw [List.map_cons, List.mapM_cons, ih]
      rfl

/-- A value Go wrote is read as it was parsed. -/
theorem fromSlice_marshal {v : Json (List UInt8)} (hv : v.Valid) :
  fromSlice (GoJson.marshal v) = some (v.map GoJson.pieces)
  := by
  rw [fromSlice, GoJson.marshal, decodeUtf8_utf8, Option.bind_some,
    parse_print GoJson.reads_quote hv]

/-- A unit that is no half of a pair is read as its character. -/
theorem unquote_unit {u : UInt16} (hhigh : isHigh u = false) (hlow : isLow u = false) (ps : Pieces) :
  unquote (.inr u :: ps) = (unquote ps).map (Char.ofNat u.toNat :: ·)
  := by
  rcases ps with _ | ⟨c | v, ps⟩
  · simp [unquote, hhigh, hlow]
  · simp only [unquote, hhigh, hlow, Bool.or_self, Bool.false_eq_true, if_false, Option.map_map]
    rfl
  · simp [unquote, hhigh, hlow]

/-- A character that is written as itself or by its number is read back. -/
theorem unquote_charPiece {named : Char → Bool} {c : Char}
    (h : named c = true → c.toNat < 0x10000) (ps : Pieces) :
  unquote (charPiece named c :: ps) = (unquote ps).map (c :: ·)
  := by
  obtain heq | ⟨heq, hlt⟩ := charPiece_unit h
  · rw [heq, unquote]
  · obtain ⟨hval, hhigh, hlow⟩ := toNat_unit hlt
    rw [heq, unquote_unit hhigh hlow, hval, Char.ofNat_toNat]

/-- A string Go wrote is read as its text. -/
@[simp]
theorem unquote_pieces (s : List UInt8) : unquote (GoJson.pieces s) = some (GoJson.text s)
  := by
  unfold GoJson.pieces GoJson.text
  induction runes s with
  | nil => rfl
  | cons r rs ih =>
      rw [List.map_cons, List.map_cons]
      cases r with
      | none =>
          rw [GoJson.runePiece, unquote_unit (by decide) (by decide), ih]
          rfl
      | some c =>
          rw [GoJson.runePiece, unquote_charPiece GoJson.toNat_lt_of_named, ih]
          rfl

@[simp]
theorem members_nil (name : String) : members [] name = []
  := rfl

/-- The members of an object Go wrote. -/
@[simp]
theorem members_cons (k name : String) (v : Json Pieces) (ms : List (Pieces × Json Pieces)) :
  members ((GoJson.pieces (bytes k), v) :: ms) name
    = if k = name then v :: members ms name else members ms name
  := by
  have hkey : unquote (GoJson.pieces (bytes k)) = some k.toList := by
    rw [unquote_pieces, bytes, GoJson.text_utf8]
  simp only [members, List.filter_cons, hkey, Option.some.injEq, String.toList_inj,
    decide_eq_true_eq]
  split <;> rfl

theorem readU64_decimal (n : UInt64) : readU64 (.num (decimal n.toNat)) = some n
  := by
  have hvalue : Nat.ofDigitChars 10 (decimal n.toNat) 0 = n.toNat := Nat.ofDigitChars_ten_toDigits
  have hdigits : (decimal n.toNat).all Char.isDigit = true :=
    List.all_eq_true.mpr fun c hc => isDigit_of_mem_decimal hc
  have hlt := n.toNat_lt
  rw [readU64]
  simp only [hvalue, hdigits, true_and, if_pos hlt, UInt64.ofNat_toNat]

/-! ### What Go reads of it -/

theorem reads_quote : Reads quote pieces
  := by
  intro s
  refine ⟨s.flatMap (escapeChar fun _ => false) ++ ['"'], rfl, ?_⟩
  intro rest
  rw [List.append_assoc, List.singleton_append]
  exact parseString_flatMap (parseString_escapeChar fun _ => false) s rest

/-- Go reads a string that was written as the string. -/
theorem unquote_pieces_go (s : List Char) : GoJson.unquote (pieces s) = s
  := by
  induction s with
  | nil => rfl
  | cons c s ih =>
      rw [pieces, List.map_cons, GoJson.unquote_charPiece (fun h => by cases h)]
      congr 1

end SerdeJson
