import Mathlib.Data.List.Basic
import Mathlib.Data.Option.Basic
import Mathlib.Tactic.Common

/-!
# Text in UTF-8 and UTF-16

A text is a list of characters.  A Go string is a list of bytes, usually but not always the
UTF-8 encoding of a text; a JavaScript string is a list of 16-bit units, usually but not
always the UTF-16 encoding of a text.  Both are read as a sequence of characters and of
units that belong to no character.
-/

namespace Text

/-- Whether the characters of a text have a property is decided by going through the text, not
through all characters. -/
instance decidableForallMem {p : Char → Prop} [DecidablePred p] (s : List Char) :
    Decidable (∀ c ∈ s, p c) :=
  List.decidableBAll p s

/-! ### UTF-8 -/

/-- The UTF-8 encoding of a text. -/
def utf8 (s : List Char) : List UInt8 :=
  s.flatMap String.utf8EncodeChar

/-- The bytes of a string. -/
def bytes (s : String) : List UInt8 :=
  utf8 s.toList

/-- The text of bytes that stand for one character each. -/
def latin1 (bs : List UInt8) : List Char :=
  bs.map fun b => .ofNat b.toNat

/-- The character the bytes start with, if they start with the encoding of one. -/
def decodeRune (bs : List UInt8) : Option Char :=
  ByteArray.utf8DecodeChar? ⟨bs.toArray⟩ 0

/-- The characters of a byte string, and for bytes that encode none a gap.  A gap covers as
many bytes as `skip` tells, and at least one. -/
def decodeWith (skip : List UInt8 → Nat) : Nat → List UInt8 → List (Option Char)
  | 0, _ => []
  | _ + 1, [] => []
  | n + 1, b :: bs =>
      match decodeRune (b :: bs) with
      | some c => some c :: decodeWith skip n ((b :: bs).drop c.utf8Size)
      | none => none :: decodeWith skip n (bs.drop (skip (b :: bs) - 1))

/-- The characters of a byte string as Go goes through it: a byte that starts no encoding
is a gap of its own. -/
def runes (bs : List UInt8) : List (Option Char) :=
  decodeWith (fun _ => 1) bs.length bs

/-- The continuation bytes that may follow a leading byte: their number, and the range of
the first. -/
def continuations (b : UInt8) : Option (Nat × UInt8 × UInt8) :=
  if 0xC2 ≤ b ∧ b ≤ 0xDF then some (1, 0x80, 0xBF)
  else if b = 0xE0 then some (2, 0xA0, 0xBF)
  else if b = 0xED then some (2, 0x80, 0x9F)
  else if 0xE1 ≤ b ∧ b ≤ 0xEF then some (2, 0x80, 0xBF)
  else if b = 0xF0 then some (3, 0x90, 0xBF)
  else if 0xF1 ≤ b ∧ b ≤ 0xF3 then some (3, 0x80, 0xBF)
  else if b = 0xF4 then some (3, 0x80, 0x8F)
  else none

/-- The length of the longest initial part of the bytes that could be continued to the
encoding of a character, and one if there is none. -/
def maximalSubpart : List UInt8 → Nat
  | [] => 0
  | b :: bs =>
      match continuations b with
      | none => 1
      | some (n, lo, hi) =>
          match bs with
          | [] => 1
          | b₁ :: bs =>
              if lo ≤ b₁ ∧ b₁ ≤ hi then
                2 + ((bs.take (n - 1)).takeWhile fun b => 0x80 ≤ b ∧ b ≤ 0xBF).length
              else 1

/-- The replacement character. -/
def replacement : Char := '\uFFFD'

/-- Drop a byte order mark. -/
def dropBom : List UInt8 → List UInt8
  | 0xEF :: 0xBB :: 0xBF :: bs => bs
  | bs => bs

/-- The text a `TextDecoder` makes of bytes. -/
def textDecode (bs : List UInt8) : List Char :=
  (decodeWith maximalSubpart (dropBom bs).length (dropBom bs)).map fun c => c.getD replacement

@[simp]
theorem utf8_nil : utf8 [] = []
  := rfl

@[simp]
theorem utf8_cons (c : Char) (s : List Char) : utf8 (c :: s) = String.utf8EncodeChar c ++ utf8 s
  := rfl

@[simp]
theorem utf8_append (s t : List Char) : utf8 (s ++ t) = utf8 s ++ utf8 t
  := List.flatMap_append

theorem utf8EncodeChar_of_lt {c : Char} (h : c.toNat < 128) :
  String.utf8EncodeChar c = [.ofNat c.toNat]
  := by
  have hle : c.val.toNat ≤ 127 := Nat.le_of_lt_succ h
  rw [String.utf8EncodeChar, if_pos hle]
  rfl

/-- The encoding of characters below 128 has one byte for each. -/
theorem utf8_eq_map {s : List Char} (h : ∀ c ∈ s, c.toNat < 128) :
  utf8 s = s.map fun c => .ofNat c.toNat
  := by
  induction s with
  | nil => rfl
  | cons c s ih =>
      obtain ⟨hc, hs⟩ := List.forall_mem_cons.mp h
      rw [utf8_cons, utf8EncodeChar_of_lt hc, ih hs, List.singleton_append, List.map_cons]

theorem latin1_utf8 {s : List Char} (h : ∀ c ∈ s, c.toNat < 128) : latin1 (utf8 s) = s
  := by
  rw [utf8_eq_map h, latin1, List.map_map]
  conv_rhs => rw [← List.map_id s]
  apply List.map_congr_left
  intro c hc
  have hlt := h c hc
  rw [Function.comp_apply, UInt8.toNat_ofNat', Nat.mod_eq_of_lt (by omega), Char.ofNat_toNat, id]

/-- The encoding of a character is read back. -/
theorem decodeRune_utf8EncodeChar (c : Char) (bs : List UInt8) :
  decodeRune (String.utf8EncodeChar c ++ bs) = some c
  := by
  unfold decodeRune
  have h := @ByteArray.utf8DecodeChar?_utf8EncodeChar_append ⟨bs.toArray⟩ c
  convert h using 2
  apply ByteArray.ext
  simp

/-- Bytes that start with a character start with its encoding. -/
theorem eq_of_decodeRune {bs : List UInt8} {c : Char} (h : decodeRune bs = some c) :
  bs = String.utf8EncodeChar c ++ bs.drop c.utf8Size
  := by
  have heq := congrArg (fun b => b.data.toList) (ByteArray.eq_of_utf8DecodeChar?_eq_some h)
  have hsize : (⟨bs.toArray⟩ : ByteArray).size = bs.length := by
    simp [ByteArray.size]
  simp only [ByteArray.data_append, ByteArray.data_extract, hsize, Array.toList_append,
    List.data_toByteArray, Array.toList_extract, List.extract_eq_take_drop] at heq
  rwa [List.take_of_length_le (by simp)] at heq

/-- A number of steps as large as the number of bytes is enough. -/
theorem decodeWith_eq (skip : List UInt8 → Nat) :
    ∀ n m bs, bs.length ≤ n → bs.length ≤ m → decodeWith skip n bs = decodeWith skip m bs
  | 0, 0, _, _, _ => rfl
  | 0, _ + 1, [], _, _ => rfl
  | _ + 1, 0, [], _, _ => rfl
  | _ + 1, _ + 1, [], _, _ => rfl
  | n + 1, m + 1, b :: bs, hn, hm => by
      rw [List.length_cons] at hn hm
      rw [decodeWith, decodeWith]
      split
      · rename_i c _
        have hpos := c.utf8Size_pos
        rw [decodeWith_eq skip n m]
        · simp
          omega
        · simp
          omega
      · rw [decodeWith_eq skip n m]
        · simp
          omega
        · simp
          omega

/-- The encoding of a character is read as the character. -/
theorem decodeWith_utf8EncodeChar (skip : List UInt8 → Nat) (c : Char) (bs : List UInt8) {n : Nat}
    (hn : (String.utf8EncodeChar c ++ bs).length ≤ n) :
  decodeWith skip n (String.utf8EncodeChar c ++ bs) = some c :: decodeWith skip bs.length bs
  := by
  have hpos := c.utf8Size_pos
  rw [List.length_append, String.length_utf8EncodeChar] at hn
  obtain ⟨m, rfl⟩ : ∃ m, n = m + 1 := ⟨n - 1, by omega⟩
  have hdrop : (String.utf8EncodeChar c ++ bs).drop c.utf8Size = bs := by
    rw [← String.length_utf8EncodeChar c, List.drop_left]
  have hdecode := decodeRune_utf8EncodeChar c bs
  obtain ⟨b, bs', hbs⟩ := List.exists_cons_of_ne_nil
    (List.append_ne_nil_of_left_ne_nil (String.utf8EncodeChar_ne_nil (c := c)) bs)
  rw [hbs] at hdecode hdrop
  rw [hbs, decodeWith, hdecode]
  dsimp only
  rw [hdrop, decodeWith_eq skip m bs.length bs (by omega) (Nat.le_refl _)]

/-- The encoding of a text is read as the text, whatever gaps cover. -/
theorem decodeWith_utf8 (skip : List UInt8 → Nat) (s : List Char) :
    ∀ n, (utf8 s).length ≤ n → decodeWith skip n (utf8 s) = s.map some
  := by
  induction s with
  | nil =>
      intro n _
      cases n with
      | zero => rfl
      | succ n => rfl
  | cons c s ih =>
      intro n hn
      rw [utf8_cons] at hn
      rw [utf8_cons, decodeWith_utf8EncodeChar skip c _ hn, ih _ (Nat.le_refl _), List.map_cons]

/-- Bytes read as a text without gaps are its encoding. -/
theorem eq_utf8_of_decodeWith {skip : List UInt8 → Nat} (s : List Char) :
    ∀ n bs, bs.length ≤ n → decodeWith skip n bs = s.map some → bs = utf8 s
  := by
  induction s with
  | nil =>
      intro n bs hn h
      cases bs with
      | nil => rfl
      | cons b bs =>
          obtain ⟨m, rfl⟩ : ∃ m, n = m + 1 := ⟨n - 1, by simp at hn; omega⟩
          rw [decodeWith] at h
          split at h
          · cases h
          · cases h
  | cons c s ih =>
      intro n bs hn h
      cases bs with
      | nil =>
          cases n with
          | zero => cases h
          | succ n => cases h
      | cons b bs =>
          obtain ⟨m, rfl⟩ : ∃ m, n = m + 1 := ⟨n - 1, by simp at hn; omega⟩
          rw [decodeWith] at h
          split at h
          · rename_i c' hc'
            simp only [List.map_cons, List.cons.injEq, Option.some.injEq] at h
            obtain ⟨rfl, h⟩ := h
            have hlen : ((b :: bs).drop c'.utf8Size).length ≤ m := by
              have := c'.utf8Size_pos
              simp only [List.length_drop]
              omega
            rw [utf8_cons, ← ih m _ hlen h]
            apply eq_of_decodeRune hc'
          · simp at h

/-- The encoding of a text has its characters as runes. -/
@[simp]
theorem runes_utf8 (s : List Char) : runes (utf8 s) = s.map some
  := decodeWith_utf8 _ s _ (Nat.le_refl _)

/-- There are runes in a string that is not empty. -/
theorem runes_ne_nil {bs : List UInt8} (h : bs ≠ []) : runes bs ≠ []
  := by
  cases bs with
  | nil => exact absurd rfl h
  | cons b bs =>
      rw [runes, List.length_cons, decodeWith]
      split
      · exact List.cons_ne_nil _ _
      · exact List.cons_ne_nil _ _

/-- A byte string whose runes are all characters is the encoding of a text. -/
theorem eq_utf8_of_runes {bs : List UInt8} {s : List Char} (h : runes bs = s.map some) :
  bs = utf8 s
  := eq_utf8_of_decodeWith s _ bs (Nat.le_refl _) h

/-- Encoding is injective. -/
theorem utf8_injective : Function.Injective utf8
  := by
  intro s t h
  have := congrArg runes h
  rw [runes_utf8, runes_utf8] at this
  exact List.map_injective_iff.mpr (Option.some_injective _) this

/-- A `TextDecoder` reads back the encoding of a text that does not start with the bytes of
a byte order mark. -/
theorem textDecode_utf8 {s : List Char} (h : (utf8 s).head? ≠ some 0xEF) :
  textDecode (utf8 s) = s
  := by
  have hbom : dropBom (utf8 s) = utf8 s := by
    unfold dropBom
    split
    · rename_i hbs
      rw [hbs] at h
      exact absurd rfl h
    · rfl
  unfold textDecode
  rw [hbom, decodeWith_utf8 _ s _ (Nat.le_refl _), List.map_map]
  apply List.map_id''
  intro c
  rfl

/-! ### UTF-16 -/

/-- The first and last of the units that stand for the upper half of a pair. -/
def isHigh (u : UInt16) : Bool :=
  0xD800 ≤ u && u ≤ 0xDBFF

/-- Whether the unit stands for the lower half of a pair. -/
def isLow (u : UInt16) : Bool :=
  0xDC00 ≤ u && u ≤ 0xDFFF

/-- The UTF-16 encoding of a character. -/
def utf16EncodeChar (c : Char) : List UInt16 :=
  if c.toNat < 0x10000 then [.ofNat c.toNat]
  else [.ofNat (0xD800 + (c.toNat - 0x10000) / 0x400),
    .ofNat (0xDC00 + (c.toNat - 0x10000) % 0x400)]

/-- The UTF-16 encoding of a text. -/
def utf16 (s : List Char) : List UInt16 :=
  s.flatMap utf16EncodeChar

/-- The units of a string. -/
def units (s : String) : List UInt16 :=
  utf16 s.toList

/-- The character of a pair of units. -/
def pairChar (high low : UInt16) : Char :=
  .ofNat (0x10000 + (high.toNat - 0xD800) * 0x400 + (low.toNat - 0xDC00))

/-- A unit that is no part of a pair: a character, or half of a pair that lacks the other
half. -/
def unitChar (u : UInt16) : Char ⊕ UInt16 :=
  if isHigh u || isLow u then .inr u else .inl (.ofNat u.toNat)

/-- The characters of a list of units, and the halves of pairs that stand alone. -/
def points : List UInt16 → List (Char ⊕ UInt16)
  | [] => []
  | [u] => [unitChar u]
  | u :: v :: us =>
      if isHigh u && isLow v then .inl (pairChar u v) :: points us
      else unitChar u :: points (v :: us)

@[simp]
theorem utf16_nil : utf16 [] = []
  := rfl

@[simp]
theorem utf16_cons (c : Char) (s : List Char) : utf16 (c :: s) = utf16EncodeChar c ++ utf16 s
  := rfl

@[simp]
theorem utf16_append (s t : List Char) : utf16 (s ++ t) = utf16 s ++ utf16 t
  := List.flatMap_append

/-- The units of a character or of a half that stands alone. -/
def encodePoint : Char ⊕ UInt16 → List UInt16
  | .inl c => utf16EncodeChar c
  | .inr u => [u]

theorem isHigh_iff {u : UInt16} : isHigh u = true ↔ 0xD800 ≤ u.toNat ∧ u.toNat ≤ 0xDBFF
  := by
  simp [isHigh, UInt16.le_iff_toNat_le]

theorem isLow_iff {u : UInt16} : isLow u = true ↔ 0xDC00 ≤ u.toNat ∧ u.toNat ≤ 0xDFFF
  := by
  simp [isLow, UInt16.le_iff_toNat_le]

/-- A number that is a code point and no half of a pair is that of its character. -/
theorem toNat_ofNat {n : Nat} (h : n < 0xD800 ∨ 0xDFFF < n ∧ n < 0x110000) :
  (Char.ofNat n).toNat = n
  := by
  have hvalid : n.isValidChar := h
  unfold Char.ofNat
  rw [dif_pos hvalid]
  rfl

/-- The number of a character is no half of a pair. -/
theorem toNat_char (c : Char) : c.toNat < 0xD800 ∨ 0xDFFF < c.toNat ∧ c.toNat < 0x110000
  := c.valid

/-- The number of a character is no half of a pair. -/
theorem toNat_unit {c : Char} (h : c.toNat < 0x10000) :
  (UInt16.ofNat c.toNat).toNat = c.toNat ∧ isHigh (.ofNat c.toNat) = false
    ∧ isLow (.ofNat c.toNat) = false
  := by
  have hval : (UInt16.ofNat c.toNat).toNat = c.toNat := by
    rw [UInt16.toNat_ofNat', Nat.mod_eq_of_lt h]
  have hvalid := toNat_char c
  refine ⟨hval, ?_, ?_⟩
  · rw [Bool.eq_false_iff, ne_eq, isHigh_iff, hval]
    omega
  · rw [Bool.eq_false_iff, ne_eq, isLow_iff, hval]
    omega

/-- The characters of an encoding are read back. -/
theorem points_utf16EncodeChar (c : Char) (us : List UInt16) :
  points (utf16EncodeChar c ++ us) = .inl c :: points us
  := by
  have hvalid := toNat_char c
  unfold utf16EncodeChar
  split
  · rename_i hsmall
    have hnat : (UInt16.ofNat c.toNat).toNat = c.toNat := by
      rw [UInt16.toNat_ofNat']
      omega
    have hhigh : isHigh (.ofNat c.toNat) = false := by
      rw [Bool.eq_false_iff, Ne, isHigh_iff, hnat]
      omega
    have hlow : isLow (.ofNat c.toNat) = false := by
      rw [Bool.eq_false_iff, Ne, isLow_iff, hnat]
      omega
    have hunit : unitChar (.ofNat c.toNat) = .inl c := by
      unfold unitChar
      rw [hhigh, hlow, hnat]
      simp
    cases us with
    | nil =>
        rw [List.append_nil, points, points, hunit]
    | cons v us =>
        rw [List.cons_append, List.nil_append, points, hhigh, hunit]
        rfl
  · rename_i hlarge
    have hhi : (UInt16.ofNat (0xD800 + (c.toNat - 0x10000) / 0x400)).toNat
        = 0xD800 + (c.toNat - 0x10000) / 0x400 := by
      rw [UInt16.toNat_ofNat']
      omega
    have hlo : (UInt16.ofNat (0xDC00 + (c.toNat - 0x10000) % 0x400)).toNat
        = 0xDC00 + (c.toNat - 0x10000) % 0x400 := by
      rw [UInt16.toNat_ofNat']
      omega
    have hhigh : isHigh (.ofNat (0xD800 + (c.toNat - 0x10000) / 0x400)) = true := by
      rw [isHigh_iff, hhi]
      omega
    have hlow : isLow (.ofNat (0xDC00 + (c.toNat - 0x10000) % 0x400)) = true := by
      rw [isLow_iff, hlo]
      omega
    rw [List.cons_append, List.cons_append, List.nil_append, points, hhigh, hlow]
    have hpair : pairChar (.ofNat (0xD800 + (c.toNat - 0x10000) / 0x400))
        (.ofNat (0xDC00 + (c.toNat - 0x10000) % 0x400)) = c := by
      unfold pairChar
      rw [hhi, hlo, ← Char.ofNat_toNat c]
      have hsum : 0x10000 + (0xD800 + (c.toNat - 0x10000) / 0x400 - 0xD800) * 0x400
          + (0xDC00 + (c.toNat - 0x10000) % 0x400 - 0xDC00) = c.toNat := by omega
      rw [Char.ofNat_toNat, hsum, Char.ofNat_toNat]
    rw [hpair]
    rfl

/-- The encoding of a text has its characters as points. -/
@[simp]
theorem points_utf16 (s : List Char) : points (utf16 s) = s.map .inl
  := by
  induction s with
  | nil => rfl
  | cons c s ih => rw [utf16_cons, points_utf16EncodeChar, ih, List.map_cons]

/-- The points of a list of units stand for these units. -/
theorem flatMap_points (us : List UInt16) : (points us).flatMap encodePoint = us
  := by
  have hunit : ∀ u, encodePoint (unitChar u) = [u] := by
    intro u
    unfold unitChar
    split
    · rfl
    · rename_i h
      rw [Bool.or_eq_true, isHigh_iff, isLow_iff] at h
      have hlt := u.toNat_lt
      have hnat : (Char.ofNat u.toNat).toNat = u.toNat := by
        apply toNat_ofNat
        omega
      simp only [encodePoint, utf16EncodeChar, hnat]
      rw [if_pos (by omega), UInt16.ofNat_toNat]
  induction us using points.induct with
  | case1 => rfl
  | case2 u => rw [points, List.flatMap_singleton, hunit]
  | case3 u v us hpair ih =>
      rw [points, if_pos hpair, List.flatMap_cons, ih]
      rw [Bool.and_eq_true, isHigh_iff, isLow_iff] at hpair
      have hnat : (pairChar u v).toNat
          = 0x10000 + (u.toNat - 0xD800) * 0x400 + (v.toNat - 0xDC00) := by
        apply toNat_ofNat
        omega
      simp only [encodePoint, utf16EncodeChar, hnat]
      rw [if_neg (by omega)]
      have hu : 0xD800 + (0x10000 + (u.toNat - 0xD800) * 0x400 + (v.toNat - 0xDC00) - 0x10000) / 0x400
          = u.toNat := by omega
      have hv : 0xDC00 + (0x10000 + (u.toNat - 0xD800) * 0x400 + (v.toNat - 0xDC00) - 0x10000) % 0x400
          = v.toNat := by omega
      rw [hu, hv, UInt16.ofNat_toNat, UInt16.ofNat_toNat]
      rfl
  | case4 u v us hpair ih =>
      rw [points, if_neg hpair, List.flatMap_cons, ih, hunit]
      rfl

/-- Units whose points are all characters are the encoding of a text. -/
theorem eq_utf16_of_points {us : List UInt16} {s : List Char} (h : points us = s.map .inl) :
  us = utf16 s
  := by
  rw [← flatMap_points us, h, List.flatMap_map]
  rfl

/-- Encoding is injective. -/
theorem utf16_injective : Function.Injective utf16
  := by
  intro s t h
  have := congrArg points h
  rw [points_utf16, points_utf16] at this
  exact List.map_injective_iff.mpr (fun _ _ h => Sum.inl.inj h) this

/-- A byte string and a list of units encode the same text. -/
def SameText (s : List UInt8) (t : List UInt16) : Prop :=
  ∃ x, s = utf8 x ∧ t = utf16 x

/-- Strings with the same units are the same. -/
@[simp]
theorem units_inj {s t : String} : units s = units t ↔ s = t
  := by
  constructor
  · intro h
    exact String.toList_injective (utf16_injective h)
  · rintro rfl
    rfl

/-- The units of characters below 128 are their numbers. -/
theorem map_utf16 {s : List Char} (h : ∀ c ∈ s, c.toNat < 128) :
  (utf16 s).map (fun u => Char.ofNat u.toNat) = s
  := by
  induction s with
  | nil => rfl
  | cons c s ih =>
      obtain ⟨hc, hs⟩ := List.forall_mem_cons.mp h
      have henc : utf16EncodeChar c = [.ofNat c.toNat] := by
        rw [utf16EncodeChar, if_pos (by omega)]
      have hval : (UInt16.ofNat c.toNat).toNat = c.toNat := by
        rw [UInt16.toNat_ofNat', Nat.mod_eq_of_lt (by omega)]
      rw [utf16_cons, henc, List.singleton_append, List.map_cons, hval, Char.ofNat_toNat, ih hs]

end Text
