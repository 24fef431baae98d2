import Paygate.Base.JsJson

/-!
# Bytes taken for characters

What JavaScript reads of JSON that Go wrote if it takes each byte for a character.  A
string is read as it should be exactly if none of its characters is written with a byte
above 127.
-/

namespace JsJson

open Json Text

/-! ### String literals -/

/-- The rune is written with characters below 128. -/
def Narrow (r : Option Char) : Prop :=
  ∀ c, r = some c → c.toNat < 128 ∨ GoJson.named c = true

/-- The pieces the parser finds for a rune in a string literal Go wrote, if it takes each
byte for a character. -/
def bytePieces (r : Option Char) : Pieces :=
  match r with
  | none => [.inr 0xFFFD]
  | some c =>
      if c.toNat < 128 ∨ GoJson.named c = true then [charPiece GoJson.named c]
      else (latin1 (String.utf8EncodeChar c)).map .inl

/-- The string JavaScript reads where Go wrote one, if it takes each byte for a character. -/
def misread (s : List UInt8) : List UInt16 :=
  unquote ((runes s).flatMap bytePieces)

theorem latin1_append (bs cs : List UInt8) : latin1 (bs ++ cs) = latin1 bs ++ latin1 cs
  := List.map_append

/-- A character below 128 is its byte. -/
theorem latin1_utf8_cons {c : Char} (hc : c.toNat < 128) (s : List Char) :
  latin1 (utf8 (c :: s)) = c :: latin1 (utf8 s)
  := by
  have hone : latin1 (utf8 [c]) = [c] := latin1_utf8 (List.forall_mem_singleton.mpr hc)
  rw [← List.singleton_append, utf8_append, latin1_append, hone, List.singleton_append]

theorem latin1_utf8_flatMap {α : Type} (l : List α) (f : α → List Char) :
  latin1 (utf8 (l.flatMap f)) = l.flatMap fun a => latin1 (utf8 (f a))
  := by
  induction l with
  | nil => rfl
  | cons a l ih => rw [List.flatMap_cons, utf8_append, latin1_append, ih, List.flatMap_cons]

theorem unicodeEscape_ascii (u : UInt16) : ∀ c ∈ unicodeEscape u, c.toNat < 128
  := by
  have hdigit : ∀ n < 16, (hexDigit n).toNat < 128 := by decide
  have hlt := u.toNat_lt
  intro c hc
  simp only [unicodeEscape, List.mem_cons, List.not_mem_nil, or_false] at hc
  rcases hc with rfl | rfl | rfl | rfl | rfl | rfl
  · decide
  · decide
  · apply hdigit
    omega
  · apply hdigit
    omega
  · apply hdigit
    omega
  · apply hdigit
    omega

theorem shortEscapeOf_ascii {c e : Char} (h : shortEscapeOf c = some e) :
  c.toNat < 128 ∧ e.toNat < 128
  := by
  unfold shortEscapeOf at h
  split_ifs at h
  all_goals
    obtain rfl := Option.some.inj h
    subst_vars
    decide

/-- A narrow rune is written with characters below 128. -/
theorem escapeRune_ascii {r : Option Char} (hr : Narrow r) : ∀ c ∈ GoJson.escapeRune r, c.toNat < 128
  := by
  cases r with
  | none => exact unicodeEscape_ascii _
  | some c =>
      have hc := hr c rfl
      rw [GoJson.escapeRune, escapeChar]
      split
      · rename_i e he
        have hback : '\\'.toNat < 128 := by decide
        exact List.forall_mem_cons.mpr
          ⟨hback, List.forall_mem_singleton.mpr (shortEscapeOf_ascii he).2⟩
      · split
        · exact unicodeEscape_ascii _
        · rename_i hnot
          have hlt : c.toNat < 128 := hc.resolve_right fun hnamed => hnot (Or.inr hnamed)
          exact List.forall_mem_singleton.mpr hlt

/-- The bytes of a character above 127 are above 127. -/
theorem le_of_mem_utf8EncodeChar {c : Char} (hc : ¬ c.toNat < 128) {b : UInt8}
    (hb : b ∈ String.utf8EncodeChar c) :
  128 ≤ b.toNat
  := by
  have hbyte : ∀ n, 128 ≤ n → n < 256 → b = UInt8.ofNat n → 128 ≤ b.toNat := by
    rintro n hle hlt rfl
    rw [UInt8.toNat_ofNat', Nat.mod_eq_of_lt hlt]
    exact hle
  have hnot : ¬ c.val.toNat ≤ 127 := fun hle => hc (Nat.lt_succ_of_le hle)
  unfold String.utf8EncodeChar at hb
  simp only [hnot, if_false] at hb
  split_ifs at hb
  all_goals
    simp only [List.mem_cons, List.not_mem_nil, or_false] at hb
  · rcases hb with hb | hb
    all_goals exact hbyte _ (by omega) (by omega) hb
  · rcases hb with hb | hb | hb
    all_goals exact hbyte _ (by omega) (by omega) hb
  · rcases hb with hb | hb | hb | hb
    all_goals exact hbyte _ (by omega) (by omega) hb

theorem toNat_ofNat_byte (b : UInt8) : (Char.ofNat b.toNat).toNat = b.toNat
  := by
  have hlt := b.toNat_lt
  apply toNat_ofNat
  omega

/-- Characters that need no escape are read as themselves. -/
theorem parseString_plains {l : List Char}
    (h : ∀ c ∈ l, c ≠ '"' ∧ c ≠ '\\' ∧ ¬ c.toNat < 0x20) (s : List Char) :
  parseString (l ++ s) = (parseString s).map fun r => (l.map .inl ++ r.1, r.2)
  := by
  induction l with
  | nil =>
      rw [List.nil_append]
      cases parseString s with
      | none => rfl
      | some r => rfl
  | cons c l ih =>
      obtain ⟨⟨hquote, hback, hlt⟩, hl⟩ := List.forall_mem_cons.mp h
      rw [List.cons_append, ← List.singleton_append, parseString_plain hquote hback hlt, ih hl,
        Option.map_map]
      rfl

/-- The bytes of a rune in a string literal are read as its pieces. -/
theorem parseString_latin1_escapeRune (r : Option Char) (s : List Char) :
  parseString (latin1 (utf8 (GoJson.escapeRune r)) ++ s)
    = (parseString s).map fun q => (bytePieces r ++ q.1, q.2)
  := by
  by_cases hr : Narrow r
  · have hpieces : bytePieces r = [GoJson.runePiece r] := by
      cases r with
      | none => rfl
      | some c => rw [bytePieces, if_pos (hr c rfl), GoJson.runePiece]
    rw [latin1_utf8 (escapeRune_ascii hr), GoJson.parseString_escapeRune, hpieces]
    rfl
  · obtain ⟨c, rfl, hc⟩ : ∃ c, r = some c ∧ ¬ (c.toNat < 128 ∨ GoJson.named c = true) := by
      simpa [Narrow] using hr
    have hlt : ¬ c.toNat < 128 := fun h => hc (Or.inl h)
    have hshort : shortEscapeOf c = none := by
      cases h : shortEscapeOf c with
      | none => rfl
      | some e => exact absurd (shortEscapeOf_ascii h).1 hlt
    have hescape : GoJson.escapeRune (some c) = [c] := by
      rw [GoJson.escapeRune, escapeChar, hshort]
      apply if_neg
      rintro (hcontrol | hnamed)
      · omega
      · exact hc (Or.inr hnamed)
    rw [hescape, bytePieces, if_neg hc, utf8_cons, utf8_nil, List.append_nil]
    apply parseString_plains
    intro d hd
    obtain ⟨b, hb, rfl⟩ := List.mem_map.mp hd
    have hle := le_of_mem_utf8EncodeChar hlt hb
    have hval := toNat_ofNat_byte b
    have hne : ∀ d : Char, d.toNat < 128 → Char.ofNat b.toNat ≠ d := by
      rintro d hd rfl
      omega
    exact ⟨hne _ (by decide), hne _ (by decide), by omega⟩

/-- The parser reads the bytes of a string literal as the pieces of its runes. -/
theorem reads_latin1_quote :
  Reads (fun s => latin1 (utf8 (GoJson.quote s))) fun s => (runes s).flatMap bytePieces
  := by
  intro s
  refine ⟨(runes s).flatMap (fun r => latin1 (utf8 (GoJson.escapeRune r))) ++ ['"'], ?_, ?_⟩
  · have hend : latin1 (utf8 ['"']) = ['"'] := by decide
    have hquote : GoJson.quote s = '"' :: ((runes s).flatMap GoJson.escapeRune ++ ['"']) := rfl
    dsimp only
    rw [hquote, latin1_utf8_cons (by decide), utf8_append, latin1_append, latin1_utf8_flatMap, hend]
  · intro rest
    rw [List.append_assoc, List.singleton_append]
    apply parseString_flatMap_pieces parseString_latin1_escapeRune

/-! ### What is misread -/

/-- Lists put together of parts, of which those that differ are longer on one side. -/
theorem flatMap_eq_iff {α β : Type} {f g : α → List β}
    (h : ∀ a, f a = g a ∨ (g a).length < (f a).length) {l : List α} :
  l.flatMap f = l.flatMap g ↔ ∀ a ∈ l, f a = g a
  := by
  have hle : ∀ l : List α, (l.flatMap g).length ≤ (l.flatMap f).length := by
    intro l
    induction l with
    | nil => exact le_refl _
    | cons a l ih =>
        simp only [List.flatMap_cons, List.length_append]
        obtain heq | hlt := h a
        · rw [heq]
          omega
        · omega
  constructor
  · intro heq
    induction l with
    | nil => exact List.forall_mem_nil _
    | cons a l ih =>
        simp only [List.flatMap_cons] at heq
        obtain hhead | hlt := h a
        · rw [hhead] at heq
          exact List.forall_mem_cons.mpr ⟨hhead, ih (List.append_cancel_left heq)⟩
        · have hlength := congrArg List.length heq
          have := hle l
          simp only [List.length_append] at hlength
          omega
  · intro heq
    exact List.flatMap_congr heq

/-- A character below `2 ^ 16` is one unit. -/
theorem length_utf16EncodeChar_le (c : Char) :
  (utf16EncodeChar c).length ≤ 2 ∧ (c.toNat < 0x10000 → (utf16EncodeChar c).length = 1)
  := by
  unfold utf16EncodeChar
  split
  · exact ⟨by simp, fun _ => rfl⟩
  · rename_i hge
    exact ⟨le_refl _, fun hlt => absurd hlt hge⟩

/-- A character above 127 has more bytes than units. -/
theorem length_lt_of_not_lt {c : Char} (hc : ¬ c.toNat < 128) :
  (utf16EncodeChar c).length < (String.utf8EncodeChar c).length
  := by
  obtain ⟨htwo, hone⟩ := length_utf16EncodeChar_le c
  have hval : c.val.toNat = c.toNat := rfl
  unfold String.utf8EncodeChar
  simp only [hval, show ¬ c.toNat ≤ 127 by omega, if_false]
  split_ifs with hsmall hbmp
  · have := hone (by omega)
    simp only [List.length_cons, List.length_nil]
    omega
  · have := hone (by omega)
    simp only [List.length_cons, List.length_nil]
    omega
  · simp only [List.length_cons, List.length_nil]
    omega

/-- Each character that stands for a byte is one unit. -/
theorem length_unquote_latin1 (bs : List UInt8) : (unquote ((latin1 bs).map .inl)).length = bs.length
  := by
  unfold unquote
  induction bs with
  | nil => rfl
  | cons b bs ih =>
      have hlt : (Char.ofNat b.toNat).toNat < 0x10000 := by
        have := b.toNat_lt
        rw [toNat_ofNat_byte]
        omega
      simp only [latin1, List.map_cons, List.flatMap_cons, List.length_append, encodePoint,
        (length_utf16EncodeChar_le _).2 hlt, List.length_cons] at ih ⊢
      omega

/-- A rune is read as it should be exactly if it is narrow. -/
theorem unquote_bytePieces (r : Option Char) :
  (Narrow r ∧ unquote (bytePieces r) = encodePoint (GoJson.runePiece r))
    ∨ ¬ Narrow r ∧ (encodePoint (GoJson.runePiece r)).length < (unquote (bytePieces r)).length
  := by
  by_cases hr : Narrow r
  · left
    refine ⟨hr, ?_⟩
    cases r with
    | none => rfl
    | some c => simp [bytePieces, if_pos (hr c rfl), GoJson.runePiece, unquote]
  · right
    refine ⟨hr, ?_⟩
    obtain ⟨c, rfl, hc⟩ : ∃ c, r = some c ∧ ¬ (c.toNat < 128 ∨ GoJson.named c = true) := by
      simpa [Narrow] using hr
    rw [bytePieces, if_neg hc, length_unquote_latin1, GoJson.runePiece,
      encodePoint_charPiece GoJson.toNat_lt_of_named]
    exact length_lt_of_not_lt fun h => hc (Or.inl h)

/-- A string is read as it should be exactly if all its runes are narrow. -/
theorem misread_eq_received_iff {s : List UInt8} :
  misread s = received s ↔ ∀ r ∈ runes s, Narrow r
  := by
  have hmisread : misread s = (runes s).flatMap fun r => unquote (bytePieces r) :=
    List.flatMap_assoc
  have hreceived : received s = (runes s).flatMap fun r => encodePoint (GoJson.runePiece r) := by
    rw [← unquote_pieces, unquote, GoJson.pieces, List.flatMap_map]
  rw [hmisread, hreceived, flatMap_eq_iff]
  · apply forall₂_congr
    intro r _
    obtain ⟨hr, heq⟩ | ⟨hr, hlt⟩ := unquote_bytePieces r
    · exact iff_of_true heq hr
    · exact iff_of_false (fun heq => absurd (heq ▸ hlt) (lt_irrefl _)) hr
  · intro r
    obtain ⟨-, heq⟩ | ⟨-, hlt⟩ := unquote_bytePieces r
    · exact Or.inl heq
    · exact Or.inr hlt

/-- A text below 128 is read as it should be. -/
theorem misread_utf8 {x : List Char} (hx : ∀ c ∈ x, c.toNat < 128) : misread (utf8 x) = utf16 x
  := by
  rw [← received_utf8, misread_eq_received_iff, runes_utf8]
  intro r hr c hc
  obtain ⟨d, hd, rfl⟩ := List.mem_map.mp hr
  exact Or.inl (Option.some.inj hc ▸ hx d hd)

end JsJson
