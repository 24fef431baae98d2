import Mathlib.Data.List.Infix
import Paygate.Base.JsLatin1
import Paygate.Base.SerdeJson

/-!
# Words in JSON texts

How long a string gets when it is written as a literal, and where a word may stand in a JSON text:
a word without quotation marks stands in a key, in a string or between them.
-/

namespace List

variable {α : Type*}

/-- A word without a letter stands before or after that letter. -/
theorem infix_append_cons_iff {w l r : List α} {c : α} (hc : c ∉ w) :
  w <:+: l ++ c :: r ↔ w <:+: l ∨ w <:+: r
  := by
  have hstart : ∀ l : List α, w <+: l ++ c :: r → w <+: l := by
    intro l h
    have hl : l ++ [c] <+: l ++ c :: r := ⟨r, by rw [append_assoc, singleton_append]⟩
    obtain hshort | ⟨t, rfl⟩ := prefix_or_prefix_of_prefix h hl
    · obtain rfl | hshort := prefix_concat_iff.mp hshort
      · exact (hc (mem_append_right l (mem_singleton_self c))).elim
      · exact hshort
    · exact (hc (mem_append_left t (mem_append_right l (mem_singleton_self c)))).elim
  constructor
  · induction l with
    | nil =>
        intro h
        obtain h | h := infix_cons_iff.mp h
        · exact .inl (hstart [] h).isInfix
        · exact .inr h
    | cons a l ih =>
        intro h
        obtain h | h := infix_cons_iff.mp h
        · exact .inl (hstart (a :: l) h).isInfix
        · apply (ih h).imp_left
          exact fun h => h.trans (suffix_cons a l).isInfix
  · rintro (h | h)
    · exact h.trans (prefix_append l _).isInfix
    · exact h.trans ((suffix_cons c r).trans (suffix_append l _)).isInfix

end List

namespace Json

open Text

/-! ### Lengths -/

theorem length_utf8_of_ascii {s : List Char} (h : ∀ c ∈ s, c.toNat < 128) :
  (utf8 s).length = s.length
  := by
  rw [utf8_eq_map h, List.length_map]

/-- A character takes six times its bytes at most. -/
theorem length_utf8_escapeChar (named : Char → Bool) (c : Char) :
  (utf8 (escapeChar named c)).length ≤ 6 * (utf8 [c]).length
  := by
  have hpos : 1 ≤ (utf8 [c]).length := by
    rw [utf8_cons, List.length_append, String.length_utf8EncodeChar]
    have := c.utf8Size_pos
    omega
  rw [escapeChar]
  split
  · rename_i e he
    rw [length_utf8_of_ascii]
    · simp only [List.length_cons, List.length_nil]
      omega
    · simp only [List.forall_mem_cons, List.not_mem_nil, false_implies, implies_true, and_true]
      exact ⟨by decide, (JsJson.shortEscapeOf_ascii he).2⟩
  · split
    · rw [length_utf8_of_ascii (JsJson.unicodeEscape_ascii _)]
      simp only [unicodeEscape, List.length_cons, List.length_nil]
      omega
    · omega

/-- A literal takes six times the bytes of its text at most, besides the quotation marks. -/
theorem length_utf8_quote (s : List Char) :
  (utf8 (SerdeJson.quote s)).length ≤ 6 * (utf8 s).length + 2
  := by
  have hmark : (utf8 ['"']).length = 1 := rfl
  have hlength : (utf8 (s.flatMap (escapeChar fun _ => false))).length ≤ 6 * (utf8 s).length := by
    induction s with
    | nil => exact Nat.le_refl 0
    | cons c s ih =>
        have hc := length_utf8_escapeChar (fun _ => false) c
        rw [← List.singleton_append, List.flatMap_append, utf8_append, utf8_append,
          List.length_append, List.length_append, List.flatMap_singleton]
        omega
  rw [SerdeJson.quote, ← List.singleton_append, utf8_append, utf8_append, List.length_append,
    List.length_append, hmark]
  omega

/-- A literal of characters that are written as they are takes their bytes, besides the quotation
marks. -/
theorem length_marshal_str {s : List Char}
    (h : ∀ c ∈ s, escapeChar GoJson.named c = [c] ∧ c.toNat < 128) :
  (GoJson.marshal (.str (utf8 s))).length = s.length + 2
  := by
  have hself : (s.map some).flatMap GoJson.escapeRune = s := by
    rw [List.flatMap_map]
    induction s with
    | nil => rfl
    | cons c s ih =>
        obtain ⟨hc, hs⟩ := List.forall_mem_cons.mp h
        rw [List.flatMap_cons, ih hs]
        exact congrArg (· ++ s) hc.1
  have hascii : ∀ c ∈ '"' :: s ++ ['"'], c.toNat < 128 := by
    simp only [List.forall_mem_append, List.forall_mem_cons, List.not_mem_nil, false_implies,
      implies_true, and_true]
    exact ⟨⟨by decide, fun c hc => (h c hc).2⟩, by decide⟩
  rw [GoJson.marshal, print, GoJson.quote, runes_utf8, hself, length_utf8_of_ascii hascii]
  simp only [List.length_append, List.length_cons, List.length_nil]

/-- A member takes the bytes of its key and its value, and two more at most. -/
theorem length_utf8_printMembers {σ : Type} (quote : σ → List Char) (k : σ) (v : Json σ)
    (ms : List (σ × Json σ)) :
  (utf8 (printMembers quote ((k, v) :: ms))).length
    ≤ (utf8 (quote k)).length + (utf8 (print quote v)).length + 2
      + (utf8 (printMembers quote ms)).length
  := by
  have hone : ∀ (c : Char) (s : List Char), c.toNat < 128 →
      (utf8 (c :: s)).length = 1 + (utf8 s).length := by
    intro c s hc
    rw [← List.singleton_append, utf8_append, List.length_append,
      length_utf8_of_ascii (List.forall_mem_singleton.mpr hc), List.length_singleton]
  have hcolon := fun s => hone ':' s (by decide)
  have hcomma := fun s => hone ',' s (by decide)
  cases ms with
  | nil =>
      have hclose : (utf8 (printMembers quote [])).length = 1 := rfl
      have hclose' : (utf8 ['\x7d']).length = 1 := rfl
      rw [hclose, printMembers, utf8_append, List.length_append, hcolon, utf8_append,
        List.length_append]
      omega
  | cons m ms =>
      rw [printMembers, utf8_append, List.length_append, hcolon, utf8_append, List.length_append,
        hcomma]
      · omega
      · exact nofun

/-! ### Characters -/

/-- The characters a string literal may have besides those of the string. -/
def escapeLetters : List Char :=
  "\\\"bfnrtu0123456789abcdef".toList

/-- A character is written as itself or with the characters of escapes. -/
theorem mem_escapeChar {named : Char → Bool} {c e : Char} (h : e ∈ escapeChar named c) :
  e = c ∨ e ∈ escapeLetters
  := by
  have hdigit : ∀ n < 16, hexDigit n ∈ escapeLetters := by decide
  rw [escapeChar] at h
  split at h
  · rename_i e' he'
    right
    simp only [List.mem_cons, List.not_mem_nil, or_false] at h
    obtain rfl | rfl := h
    · decide
    · rw [shortEscapeOf] at he'
      split_ifs at he'
      all_goals
        obtain rfl := Option.some.inj he'
        decide
  · split at h
    · right
      have hlt := UInt16.toNat_lt (.ofNat c.toNat)
      simp only [unicodeEscape, List.mem_cons, List.not_mem_nil, or_false] at h
      rcases h with rfl | rfl | rfl | rfl | rfl | rfl
      · decide
      · decide
      · apply hdigit
        omega
      · apply hdigit
        omega
      · apply hdigit
        omega
      · apply hdigit
        omega
    · exact .inl (List.mem_singleton.mp h)

/-- What Go writes of a rune has no other characters than those. -/
theorem mem_escapeRune {r : Option Char} {e : Char} (h : e ∈ GoJson.escapeRune r) :
  r = some e ∨ e ∈ escapeLetters
  := by
  cases r with
  | none =>
      right
      revert e
      decide
  | some c =>
      obtain rfl | he := mem_escapeChar h
      · exact .inl rfl
      · exact .inr he

/-! ### Words -/

/-- A unit that is no half of a pair stands for its character. -/
theorem mem_of_mem_utf16 {c : Char} (hc : c.toNat < 0xD800) {s : List Char}
    (h : .ofNat c.toNat ∈ utf16 s) :
  c ∈ s
  := by
  obtain ⟨e, he, hmem⟩ := List.mem_flatMap.mp h
  have hchar : e = c := by
    apply Char.toNat_inj.mp
    rw [utf16EncodeChar] at hmem
    split at hmem
    · have hnat := congrArg UInt16.toNat (List.mem_singleton.mp hmem)
      rw [UInt16.toNat_ofNat', UInt16.toNat_ofNat'] at hnat
      omega
    · simp only [List.mem_cons, List.not_mem_nil, or_false] at hmem
      have hchar := toNat_char e
      obtain hmem | hmem := hmem
      · have hnat := congrArg UInt16.toNat hmem
        rw [UInt16.toNat_ofNat', UInt16.toNat_ofNat'] at hnat
        omega
      · have hnat := congrArg UInt16.toNat hmem
        rw [UInt16.toNat_ofNat', UInt16.toNat_ofNat'] at hnat
        omega
  rwa [← hchar]

/-- A word without quotation marks stands before a literal, in it or after it. -/
theorem infix_quote_iff {w : List UInt16} (hw : 0x22 ∉ w) (l : List Char) (s : List UInt8)
    (r : List Char) :
  w <:+: utf16 (l ++ (GoJson.quote s ++ r))
    ↔ w <:+: utf16 l ∨ w <:+: utf16 ((runes s).flatMap GoJson.escapeRune) ∨ w <:+: utf16 r
  := by
  have hmark : utf16EncodeChar '"' = [0x22] := by decide
  rw [GoJson.quote, List.cons_append, List.cons_append, utf16_append, utf16_cons, hmark,
    List.singleton_append, List.infix_append_cons_iff hw, List.append_assoc, utf16_append,
    List.singleton_append, utf16_cons, hmark, List.singleton_append, List.infix_append_cons_iff hw]

end Json
