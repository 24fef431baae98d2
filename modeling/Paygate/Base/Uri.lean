import Paygate.Base.Hex
import Paygate.Base.Text

/-!
# Components of a URI

`encodeURIComponent` of JavaScript, and the bytes a server finds when it replaces the escapes of
a path.  A text is found as it was encoded (`Uri.unescape_encodeComponent`).
-/

namespace Uri

open Text

/-- Whether a character stands for itself. -/
def isUnreserved (c : Char) : Bool :=
  c.isAlphanum || c ∈ ['-', '_', '.', '!', '~', '*', '\'', '(', ')']

/-- The upper-case hexadecimal digit of a number below sixteen. -/
def upperDigit (n : Nat) : Char :=
  if n < 10 then Char.ofNat (48 + n) else Char.ofNat (55 + n)

/-- The escape of a byte. -/
def escapeByte (b : UInt8) : List Char :=
  ['%', upperDigit (b.toNat / 16), upperDigit (b.toNat % 16)]

/-- A character, or the escapes of its bytes. -/
def encodeChar (c : Char) : List Char :=
  if isUnreserved c then [c] else (String.utf8EncodeChar c).flatMap escapeByte

/-- A text with its characters escaped where they do not stand for themselves. -/
def encodeText (s : List Char) : List Char := s.flatMap encodeChar

/-- The texts in a list of points, if no half of a pair stands alone. -/
def textOf : List (Char ⊕ UInt16) → Option (List Char)
  | [] => some []
  | .inl c :: ps => (textOf ps).map (c :: ·)
  | .inr _ :: _ => none

/-- `encodeURIComponent`, which throws if half of a pair stands alone. -/
def encodeURIComponent (s : List UInt16) : Option (List UInt16) :=
  (textOf (points s)).map fun t => utf16 (encodeText t)

/-- The bytes of a text with its escapes replaced. -/
def unescape : List Char → Option (List UInt8)
  | [] => some []
  | '%' :: a :: b :: s => do
      let x ← hexValue a
      let y ← hexValue b
      let bs ← unescape s
      some (.ofNat (x * 16 + y) :: bs)
  | c :: s => if c = '%' then none else (unescape s).map (String.utf8EncodeChar c ++ ·)

theorem hexValue_upperDigit {n : Nat} (h : n < 16) : hexValue (upperDigit n) = some n
  := by
  decide +revert

/-- The escape of a byte is replaced by the byte. -/
theorem unescape_escapeByte (b : UInt8) (s : List Char) :
  unescape (escapeByte b ++ s) = (unescape s).map (b :: ·)
  := by
  have hlt := b.toNat_lt
  have hb : b.toNat / 16 * 16 + b.toNat % 16 = b.toNat := by omega
  rw [escapeByte, List.cons_append, List.cons_append, List.cons_append, List.nil_append, unescape,
    hexValue_upperDigit (by omega), hexValue_upperDigit (by omega)]
  simp only [Option.bind_eq_bind, Option.bind_some, hb, UInt8.ofNat_toNat]
  rw [Option.map_eq_bind]
  rfl

/-- The escapes of bytes are replaced by the bytes. -/
theorem unescape_escapeBytes (bs : List UInt8) (s : List Char) :
  unescape (bs.flatMap escapeByte ++ s) = (unescape s).map (bs ++ ·)
  := by
  induction bs with
  | nil => simp
  | cons b bs ih =>
      rw [List.flatMap_cons, List.append_assoc, unescape_escapeByte, ih, Option.map_map]
      rfl

/-- A character that is no percent sign is found as it is. -/
theorem unescape_cons {c : Char} (h : c ≠ '%') (s : List Char) :
  unescape (c :: s) = (unescape s).map (String.utf8EncodeChar c ++ ·)
  := by
  rw [unescape]
  · exact if_neg h
  · rintro a b s' rfl
    exact absurd rfl h

/-- The encoding of a character is found to be the character. -/
theorem unescape_encodeChar (c : Char) (s : List Char) :
  unescape (encodeChar c ++ s) = (unescape s).map (String.utf8EncodeChar c ++ ·)
  := by
  unfold encodeChar
  split
  · rename_i hc
    apply unescape_cons
    rintro rfl
    revert hc
    decide
  · exact unescape_escapeBytes _ s

/-- The text that was encoded is found. -/
theorem unescape_encodeText (s : List Char) : unescape (encodeText s) = some (utf8 s)
  := by
  induction s with
  | nil => rfl
  | cons c s ih =>
      rw [encodeText, List.flatMap_cons, unescape_encodeChar, ← encodeText, ih, Option.map_some,
        utf8_cons]

/-- The encoding of a text is the text only if no character of it is escaped. -/
theorem encodeText_eq_self {s : List Char} (h : ∀ c ∈ s, isUnreserved c = true) : encodeText s = s
  := by
  induction s with
  | nil => rfl
  | cons c s ih =>
      obtain ⟨hc, hs⟩ := List.forall_mem_cons.mp h
      rw [encodeText, List.flatMap_cons, encodeChar, if_pos hc, ← encodeText, ih hs, List.singleton_append]

theorem textOf_map_inl (s : List Char) : textOf (s.map .inl) = some s
  := by
  induction s with
  | nil => rfl
  | cons c s ih => rw [List.map_cons, textOf, ih, Option.map_some]

/-- A text is encoded. -/
theorem encodeURIComponent_utf16 (s : List Char) :
  encodeURIComponent (utf16 s) = some (utf16 (encodeText s))
  := by
  rw [encodeURIComponent, points_utf16, textOf_map_inl, Option.map_some]

/-- What is encoded is a text. -/
theorem eq_utf16_of_encodeURIComponent {s t : List UInt16} (h : encodeURIComponent s = some t) :
  ∃ x, s = utf16 x ∧ t = utf16 (encodeText x)
  := by
  obtain ⟨x, hx, rfl⟩ := Option.map_eq_some_iff.mp h
  refine ⟨x, ?_, rfl⟩
  apply eq_utf16_of_points
  have hmap : ∀ (ps : List (Char ⊕ UInt16)) y, textOf ps = some y → ps = y.map .inl := by
    intro ps
    induction ps with
    | nil =>
        intro y hy
        obtain rfl := Option.some.inj hy
        rfl
    | cons p ps ih =>
        intro y hy
        cases p with
        | inl c =>
            obtain ⟨z, hz, rfl⟩ := Option.map_eq_some_iff.mp hy
            rw [ih z hz, List.map_cons]
        | inr u => cases hy
  exact hmap _ _ hx

end Uri
