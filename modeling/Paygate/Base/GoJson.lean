import Paygate.Base.Json
import Paygate.Base.Text

/-!
# JSON in Go

How `encoding/json` writes and reads values whose strings are byte strings.  In a string
literal Go names `<`, `>`, `&` and the two line separators by their numbers and writes the
replacement character for bytes that encode no character.  Reading a string literal, it
joins the two halves of a pair and replaces a half that stands alone.
-/

namespace GoJson

open Json Text

/-! ### Writing -/

/-- The characters Go names by their number besides the control characters. -/
def named (c : Char) : Bool :=
  c = '<' || c = '>' || c = '&' || c = '\u2028' || c = '\u2029'

/-- The characters Go names by their number fit into one unit. -/
theorem toNat_lt_of_named {c : Char} (h : named c = true) : c.toNat < 0x10000
  := by
  simp only [named, Bool.or_eq_true, decide_eq_true_eq] at h
  rcases h with (((rfl | rfl) | rfl) | rfl) | rfl <;> decide

/-- A rune in a string literal. -/
def escapeRune : Option Char → List Char
  | some c => escapeChar named c
  | none => unicodeEscape 0xFFFD

/-- What the parser makes of a rune in a string literal. -/
def runePiece : Option Char → Char ⊕ UInt16
  | some c => charPiece named c
  | none => .inr 0xFFFD

/-- The string literal of a byte string. -/
def quote (s : List UInt8) : List Char :=
  '"' :: (runes s).flatMap escapeRune ++ ['"']

/-- The pieces the parser finds in the string literal of a byte string. -/
def pieces (s : List UInt8) : Pieces :=
  (runes s).map runePiece

/-- The bytes of a value. -/
def marshal (v : Json (List UInt8)) : List UInt8 :=
  utf8 (v.print quote)

/-! ### Reading -/

/-- The character a unit stands for, or the replacement character. -/
def unitRune (u : UInt16) : Char :=
  if isHigh u || isLow u then replacement else .ofNat u.toNat

/-- The text of a string literal. -/
def unquote : Pieces → List Char
  | [] => []
  | .inl c :: ps => c :: unquote ps
  | [.inr u] => [unitRune u]
  | .inr u :: .inl c :: ps => unitRune u :: c :: unquote ps
  | .inr u :: .inr v :: ps =>
      if isHigh u && isLow v then pairChar u v :: unquote ps
      else unitRune u :: unquote (.inr v :: ps)

/-- The text of bytes that are read as JSON. -/
def text (bs : List UInt8) : List Char :=
  (runes bs).map fun c => c.getD replacement

/-- How many arrays and objects may be nested in a value that is read. -/
def maxNestingDepth : Nat := 10000

/-- The value the bytes consist of, however deep it is nested. -/
def value (bs : List UInt8) : Option (Json (List UInt8)) :=
  (parse (text bs)).map (Json.map fun ps => utf8 (unquote ps))

/-- The value the bytes consist of, with its strings as pieces. -/
def scan (bs : List UInt8) : Option (Json Pieces) :=
  (parse (text bs)).filter fun v => v.depth ≤ maxNestingDepth

/-- The value the bytes consist of. -/
def unmarshal (bs : List UInt8) : Option (Json (List UInt8)) :=
  (scan bs).map (Json.map fun ps => utf8 (unquote ps))

/-- The value the bytes start with. -/
def decode (bs : List UInt8) : Option (Json (List UInt8)) :=
  ((parsePrefix (text bs)).filter fun r => r.1.depth ≤ maxNestingDepth).map fun r =>
    r.1.map fun ps => utf8 (unquote ps)

/-! ### Reading into structs -/

/-- The form in which names are compared when they are not equal. -/
def foldChar (c : Char) : Char :=
  if c.isUpper then c.toLower
  else if c = '\u212A' then 'k'
  else if c = '\u017F' then 's'
  else c

/-- The field a key names: the one with that very name, or else the first whose name
differs in case only. -/
def fieldOf (names : List String) (key : List UInt8) : Option String :=
  (names.find? fun n => utf8 n.toList = key).or
    (names.find? fun n => n.toList.map foldChar = (text key).map foldChar)

/-- A string for a field: `null` leaves the field as it is. -/
def setString (v : Json (List UInt8)) (old : List UInt8) : Option (List UInt8) :=
  match v with
  | .str s => some s
  | .null => some old
  | _ => none

/-- A truth value for a field. -/
def setBool (v : Json (List UInt8)) (old : Bool) : Option Bool :=
  match v with
  | .bool b => some b
  | .null => some old
  | _ => none

/-- Read the members of an object into a struct, with one setter for each field.  Keys that
name no field are skipped. -/
def readMembers {S : Type} (names : List String) (set : String → Json (List UInt8) → S → Option S) :
    List (List UInt8 × Json (List UInt8)) → S → Option S
  | [], s => some s
  | (k, v) :: ms, s =>
      match fieldOf names k with
      | some n => (set n v s).bind fun s => readMembers names set ms s
      | none => readMembers names set ms s

/-- Read a value into a struct. -/
def readStruct {S : Type} (names : List String) (set : String → Json (List UInt8) → S → Option S)
    (v : Json (List UInt8)) (s : S) : Option S :=
  match v with
  | .obj ms => readMembers names set ms s
  | .null => some s
  | _ => none

/-- Read the members of an object whose strings are kept as pieces into a struct. -/
def readPieceMembers {S : Type} (names : List String) (set : String → Json Pieces → S → Option S) :
    List (Pieces × Json Pieces) → S → Option S
  | [], s => some s
  | (k, v) :: ms, s =>
      match fieldOf names (utf8 (unquote k)) with
      | some n => (set n v s).bind fun s => readPieceMembers names set ms s
      | none => readPieceMembers names set ms s

/-- Read a value whose strings are kept as pieces into a struct. -/
def readPieceStruct {S : Type} (names : List String) (set : String → Json Pieces → S → Option S)
    (v : Json Pieces) (s : S) : Option S :=
  match v with
  | .obj ms => readPieceMembers names set ms s
  | .null => some s
  | _ => none

/-! ### What is read of what was written -/

theorem parseString_escapeRune (c : Option Char) (s : List Char) :
  parseString (escapeRune c ++ s) = (parseString s).map fun r => (runePiece c :: r.1, r.2)
  := by
  cases c with
  | none => exact parseString_hexUnit (hexUnit_hexDigit _) s
  | some c => apply parseString_escapeChar

/-- The parser reads the string literal of a byte string as its pieces. -/
theorem reads_quote : Reads quote pieces
  := by
  intro s
  refine ⟨(runes s).flatMap escapeRune ++ ['"'], rfl, ?_⟩
  intro rest
  rw [List.append_assoc, List.singleton_append]
  apply parseString_flatMap parseString_escapeRune

/-- The text of an encoding. -/
@[simp]
theorem text_utf8 (s : List Char) : text (utf8 s) = s
  := by
  rw [text, runes_utf8, List.map_map]
  simp

/-- A character that is written as itself or by its number is read back. -/
theorem unquote_charPiece {named : Char → Bool} {c : Char}
    (h : named c = true → c.toNat < 0x10000) (ps : Pieces) :
  unquote (charPiece named c :: ps) = c :: unquote ps
  := by
  obtain heq | ⟨heq, hlt⟩ := charPiece_unit h
  · rw [heq, unquote]
  · obtain ⟨hval, hhigh, hlow⟩ := toNat_unit hlt
    have hrune : unitRune (.ofNat c.toNat) = c := by
      simp [unitRune, hhigh, hlow, hval, Char.ofNat_toNat]
    rw [heq]
    rcases ps with _ | ⟨d | v, ps⟩
    · simp [unquote, hrune]
    · simp [unquote, hrune]
    · simp [unquote, hrune, hhigh]

/-- A text that was written is read back. -/
@[simp]
theorem unquote_pieces_utf8 (x : List Char) : unquote (pieces (utf8 x)) = x
  := by
  rw [pieces, runes_utf8, List.map_map]
  induction x with
  | nil => rfl
  | cons c x ih =>
      rw [List.map_cons, Function.comp_apply, runePiece, unquote_charPiece toNat_lt_of_named, ih]

/-- A key names the field with that very name. -/
theorem fieldOf_bytes {names : List String} {name : String} (h : name ∈ names) :
  fieldOf names (bytes name) = some name
  := by
  have hfind : names.find? (fun n => utf8 n.toList = bytes name) = some name := by
    induction names with
    | nil => cases h
    | cons n names ih =>
        by_cases hn : n = name
        · subst hn
          simp [bytes]
        · have hne : utf8 n.toList ≠ bytes name :=
            fun heq => hn (String.toList_inj.mp (utf8_injective heq))
          rw [List.find?_cons_of_neg (by simpa using hne)]
          apply ih
          obtain rfl | h := List.mem_cons.mp h
          · exact absurd rfl hn
          · exact h
  rw [fieldOf, hfind, Option.some_or]

/-- A member whose key is the name of a field is read into the field. -/
theorem readMembers_cons {S : Type} {names : List String}
    {set : String → Json (List UInt8) → S → Option S} {name : String} (h : name ∈ names)
    (v : Json (List UInt8)) (ms : List (List UInt8 × Json (List UInt8))) (s : S) :
  readMembers names set ((bytes name, v) :: ms) s
    = (set name v s).bind fun s => readMembers names set ms s
  := by
  rw [readMembers, fieldOf_bytes h]

@[simp]
theorem readPieceMembers_nil {S : Type} (names : List String)
    (set : String → Json Pieces → S → Option S) (s : S) :
  readPieceMembers names set [] s = some s
  := rfl

/-- A member whose key is the name of a field is read into the field. -/
theorem readPieceMembers_cons {S : Type} {names : List String}
    {set : String → Json Pieces → S → Option S} {name : String} (h : name ∈ names)
    (v : Json Pieces) (ms : List (Pieces × Json Pieces)) (s : S) :
  readPieceMembers names set ((pieces (bytes name), v) :: ms) s
    = (set name v s).bind fun s => readPieceMembers names set ms s
  := by
  rw [readPieceMembers, bytes, unquote_pieces_utf8, ← bytes, fieldOf_bytes h]

/-- What is read is the value, if it is not nested too deep. -/
theorem unmarshal_eq_filter (bs : List UInt8) :
  unmarshal bs = (value bs).filter fun v => v.depth ≤ maxNestingDepth
  := by
  simp only [value, unmarshal, scan, Option.filter_map, Function.comp_def, depth_map]

/-- A value that is parsed and not nested too deep is scanned. -/
theorem scan_of_parse {bs : List UInt8} {v : Json Pieces} (h : parse (text bs) = some v)
    (hdepth : v.depth ≤ maxNestingDepth) :
  scan bs = some v
  := by
  rw [scan, h]
  apply Option.filter_some_pos
  exact decide_eq_true hdepth

/-- A value that was written is parsed with the pieces of its strings. -/
theorem parse_text_marshal {v : Json (List UInt8)} (hv : v.Valid) :
  parse (text (marshal v)) = some (v.map pieces)
  := by
  rw [marshal, text_utf8, parse_print reads_quote hv]

/-- A value that was written is scanned with the pieces of its strings. -/
theorem scan_marshal {v : Json (List UInt8)} (hv : v.Valid) (hdepth : v.depth ≤ maxNestingDepth) :
  scan (marshal v) = some (v.map pieces)
  := by
  apply scan_of_parse (parse_text_marshal hv)
  rw [depth_map]
  exact hdepth

/-- A value that was written is one with its strings as texts. -/
theorem value_marshal {v : Json (List UInt8)} (hv : v.Valid) :
  value (marshal v) = some (v.map fun t => utf8 (unquote (pieces t)))
  := by
  rw [value, parse_text_marshal hv, Option.map_some, map_map]

/-- A value that was written and is not nested too deep is read with its strings as texts. -/
theorem unmarshal_marshal {v : Json (List UInt8)} (hv : v.Valid)
    (hdepth : v.depth ≤ maxNestingDepth) :
  unmarshal (marshal v) = some (v.map fun t => utf8 (unquote (pieces t)))
  := by
  rw [unmarshal, scan_marshal hv hdepth, Option.map_some, map_map]

end GoJson
