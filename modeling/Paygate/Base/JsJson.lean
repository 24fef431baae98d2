import Mathlib.Data.Int.Log
import Mathlib.Data.Rat.Floor
import Mathlib.Tactic.Positivity
import Mathlib.Tactic.FieldSimp
import Paygate.Base.GoJson

/-!
# JSON in JavaScript

How `JSON.stringify` writes and `JSON.parse` reads values whose strings are lists of 16-bit
units.  A number that was read is kept as it is written; its value is the double closest to
what is written.

What Go writes and JavaScript writes is read by one parser.  Hence a Go string and a
JavaScript string are written alike only if they are one text, in which Go names no
character by its number but control characters.
-/

namespace JsJson

open Json Text

/-! ### Writing -/

/-- A point in a string literal. -/
def escapePoint : Char ⊕ UInt16 → List Char
  | .inl c => escapeChar (fun _ => false) c
  | .inr u => unicodeEscape u

/-- What the parser makes of a point in a string literal. -/
def pointPiece : Char ⊕ UInt16 → Char ⊕ UInt16
  | .inl c => charPiece (fun _ => false) c
  | .inr u => .inr u

/-- The string literal of a list of units. -/
def quote (s : List UInt16) : List Char :=
  '"' :: (points s).flatMap escapePoint ++ ['"']

/-- The pieces the parser finds in the string literal of a list of units. -/
def pieces (s : List UInt16) : Pieces :=
  (points s).map pointPiece

/-- The text of a value. -/
def stringify (v : Json (List UInt16)) : List Char :=
  v.print quote

/-! ### Reading -/

/-- The units of a string literal. -/
def unquote (ps : Pieces) : List UInt16 :=
  ps.flatMap encodePoint

/-- The value a text consists of. -/
def parse (s : List Char) : Option (Json (List UInt16)) :=
  (Json.parse s).map (Json.map unquote)

/-- The property of a value: the last member of an object that has the name. -/
def get (v : Json (List UInt16)) (name : String) : Option (Json (List UInt16)) :=
  match v with
  | .obj ms => (ms.reverse.find? fun m => m.1 = units name).map Prod.snd
  | _ => none

@[simp]
theorem get_nil (name : String) : get (.obj []) name = none
  := rfl

/-- A property of an object: that of a later member, or else that of the first. -/
@[simp]
theorem get_cons (k name : String) (v : Json (List UInt16)) (ms : List (List UInt16 × Json (List UInt16))) :
  get (.obj ((units k, v) :: ms)) name
    = (get (.obj ms) name).or (if k = name then some v else none)
  := by
  simp only [get, List.reverse_cons, List.find?_append, Option.map_or, units_inj,
    List.find?_singleton]
  split
  · simp_all
  · simp_all

/-! ### Numbers -/

/-- The value of an exponent. -/
def exponentValue : List Char → Int
  | _ :: s =>
      let sign := parseSign ['+', '-'] s
      (if sign.1 = ['-'] then -1 else 1) * Nat.ofDigitChars 10 sign.2 0
  | [] => 0

/-- What the text of a number says. -/
def literalValue (l : List Char) : ℚ :=
  let sign := parseSign ['-'] l
  match parseInt sign.2 with
  | none => 0
  | some int =>
      match parseFraction int.2 with
      | none => 0
      | some frac =>
          (if sign.1 = ['-'] then -1 else 1)
            * (Nat.ofDigitChars 10 (int.1 ++ frac.1.drop 1) 0 : ℚ)
            * 10 ^ (exponentValue frac.2 - (frac.1.drop 1).length)

/-- The closest integer, the even one of two. -/
def roundEven (x : ℚ) : Int :=
  let f := ⌊x⌋
  if x - f < 1 / 2 then f
  else if 1 / 2 < x - f then f + 1
  else if f % 2 = 0 then f
  else f + 1

/-- The closest double, unless it is infinite. -/
def roundDouble (q : ℚ) : Option ℚ :=
  if q = 0 then some 0
  else
    let e := max (Int.log 2 |q| - 52) (-1074)
    let r := (roundEven (|q| / 2 ^ e) : ℚ) * 2 ^ e
    if 2 ^ 1024 ≤ r then none else some (if q < 0 then -r else r)

/-- The value of a number if it is a safe integer. -/
def safeInteger (l : List Char) : Option Int := do
  let q ← roundDouble (literalValue l)
  if q.den = 1 ∧ |q.num| ≤ 2 ^ 53 - 1 then some q.num else none

theorem roundEven_intCast (n : Int) : roundEven n = n
  := by
  simp [roundEven]

/-- Integers below `2 ^ 53` are doubles. -/
theorem roundDouble_natCast {n : Nat} (h : n < 2 ^ 53) : roundDouble n = some (n : ℚ)
  := by
  obtain rfl | hpos := Nat.eq_zero_or_pos n
  · simp [roundDouble]
  · have hlog : Nat.log 2 n < 53 := Nat.log_lt_of_lt_pow hpos.ne' h
    have he : max (Int.log 2 (n : ℚ) - 52) (-1074) = -((52 - Nat.log 2 n : Nat) : Int) := by
      rw [Int.log_natCast]
      omega
    have hscale : (n : ℚ) / 2 ^ (-((52 - Nat.log 2 n : Nat) : Int))
        = ((n * 2 ^ (52 - Nat.log 2 n) : Nat) : Int) := by
      rw [zpow_neg, zpow_natCast, div_inv_eq_mul]
      push_cast
      rfl
    have hround : (((n * 2 ^ (52 - Nat.log 2 n) : Nat) : Int) : ℚ)
        * 2 ^ (-((52 - Nat.log 2 n : Nat) : Int)) = n := by
      rw [zpow_neg, zpow_natCast]
      push_cast
      field_simp
    have hlt : ¬ (2 : ℚ) ^ 1024 ≤ n := by
      have : (n : ℚ) < 2 ^ 53 := by exact_mod_cast h
      have hle : (2 : ℚ) ^ 53 ≤ 2 ^ 1024 := pow_le_pow_right₀ (by norm_num) (by norm_num)
      exact not_le.mpr (lt_of_lt_of_le this hle)
    have hne : (n : ℚ) ≠ 0 := by positivity
    have hneg : ¬ (n : ℚ) < 0 := not_lt.mpr (by positivity)
    rw [roundDouble, if_neg hne]
    simp only [Nat.abs_cast, he, hscale, roundEven_intCast, hround]
    rw [if_neg hlt, if_neg hneg]

/-- The digits of a number say the number. -/
theorem literalValue_decimal (n : Nat) : literalValue (decimal n) = n
  := by
  have hfollow : Follow [] := by
    intro d hd
    cases hd
  have hint := parseInt_decimal n hfollow
  rw [List.append_nil] at hint
  have hsign := parseSign_decimal (show ['-'].all fun c => !c.isDigit from rfl) n []
  rw [List.append_nil] at hsign
  have hvalue : Nat.ofDigitChars 10 (decimal n) 0 = n := Nat.ofDigitChars_ten_toDigits
  simp [literalValue, hsign, hint, parseFraction, exponentValue, hvalue]

/-- The digits of a number below `2 ^ 53` are read as this number. -/
theorem safeInteger_decimal {n : Nat} (h : n < 2 ^ 53) : safeInteger (decimal n) = some (n : Int)
  := by
  rw [safeInteger, literalValue_decimal, roundDouble_natCast h]
  have hle : ((n : ℚ).num) = n := Rat.num_natCast n
  simp [hle]
  omega

/-- A positive integer below `2 ^ 53` is read as itself. -/
theorem safeInteger_decimalInt {i : Int} (hpos : 0 < i) (hlt : i < 2 ^ 53) :
  safeInteger (decimalInt i) = some i
  := by
  cases i with
  | ofNat n => exact safeInteger_decimal (Int.ofNat_lt.mp hlt)
  | negSucc n => omega

/-- An integer of at least `2 ^ 53` is not rounded to a smaller one. -/
theorem le_of_roundDouble_natCast {n : Nat} (h : 2 ^ 53 ≤ n) {q : ℚ}
    (hq : roundDouble n = some q) :
  2 ^ 53 ≤ q
  := by
  have hpos : 0 < n := lt_of_lt_of_le (by norm_num) h
  have hlog : 53 ≤ Nat.log 2 n := Nat.le_log_of_pow_le (by norm_num) h
  obtain ⟨k, hk⟩ : ∃ k, Nat.log 2 n = k + 52 := ⟨Nat.log 2 n - 52, by omega⟩
  have he : max (Int.log 2 (n : ℚ) - 52) (-1074) = (k : Int) := by
    rw [Int.log_natCast, hk]
    omega
  have hpow : 2 ^ 52 * 2 ^ k ≤ n := by
    rw [← pow_add, add_comm, ← hk]
    exact Nat.pow_log_le_self 2 hpos.ne'
  have hround : (2 ^ 52 : Int) ≤ roundEven ((n : ℚ) / 2 ^ (k : Int)) := by
    have hfloor : (2 ^ 52 : Int) ≤ ⌊(n : ℚ) / 2 ^ (k : Int)⌋ := by
      rw [Int.le_floor, zpow_natCast, le_div_iff₀ (by positivity)]
      exact_mod_cast hpow
    have hle : ⌊(n : ℚ) / 2 ^ (k : Int)⌋ ≤ roundEven ((n : ℚ) / 2 ^ (k : Int)) := by
      unfold roundEven
      dsimp only
      split_ifs <;> omega
    exact hfloor.trans hle
  have hbound : (2 : ℚ) ^ 53 ≤ (roundEven ((n : ℚ) / 2 ^ (k : Int)) : ℚ) * 2 ^ (k : Int) := by
    have hcast : (2 : ℚ) ^ 52 ≤ (roundEven ((n : ℚ) / 2 ^ (k : Int)) : ℚ) := by exact_mod_cast hround
    have htwo : (2 : ℚ) ≤ 2 ^ (k : Int) := by
      rw [zpow_natCast]
      exact le_self_pow₀ (by norm_num) (by omega)
    calc (2 : ℚ) ^ 53 = 2 ^ 52 * 2 := by norm_num
      _ ≤ _ := by gcongr
  have hne : (n : ℚ) ≠ 0 := by positivity
  have hneg : ¬ (n : ℚ) < 0 := not_lt.mpr (by positivity)
  rw [roundDouble, if_neg hne] at hq
  simp only [Nat.abs_cast, he, hneg, if_false] at hq
  split at hq
  · cases hq
  · rw [← Option.some.inj hq]
    exact hbound

/-- A negative number is not rounded to a positive one. -/
theorem roundDouble_nonpos {x q : ℚ} (hx : x ≤ 0) (hq : roundDouble x = some q) : q ≤ 0
  := by
  have hfloor : ∀ y : ℚ, 0 ≤ y → 0 ≤ roundEven y := by
    intro y hy
    have hle : 0 ≤ ⌊y⌋ := Int.floor_nonneg.mpr hy
    unfold roundEven
    dsimp only
    split_ifs <;> omega
  rw [roundDouble] at hq
  split at hq
  · rw [← Option.some.inj hq]
  · rename_i hne
    dsimp only at hq
    split at hq
    · cases hq
    · rw [if_pos (lt_of_le_of_ne hx hne)] at hq
      rw [← Option.some.inj hq, Left.neg_nonpos_iff]
      have hpow : (0 : ℚ) < 2 ^ max (Int.log 2 |x| - 52) (-1074) := zpow_pos (by norm_num) _
      have hround := hfloor (|x| / 2 ^ max (Int.log 2 |x| - 52) (-1074))
        (div_nonneg (abs_nonneg x) hpow.le)
      exact mul_nonneg (by exact_mod_cast hround) hpow.le

/-- The digits of a number with a sign say the number. -/
theorem literalValue_negSucc (n : Nat) : literalValue (decimalInt (.negSucc n)) = -(n + 1 : Nat)
  := by
  have hfollow : Follow [] := by
    intro d hd
    cases hd
  have hint := parseInt_decimal (n + 1) hfollow
  rw [List.append_nil] at hint
  have hsign : parseSign ['-'] (decimalInt (.negSucc n)) = (['-'], decimal (n + 1)) := rfl
  have hvalue : Nat.ofDigitChars 10 (decimal (n + 1)) 0 = n + 1 := Nat.ofDigitChars_ten_toDigits
  simp [literalValue, hsign, hint, parseFraction, exponentValue, hvalue]

/-- An integer is read as a positive safe integer only if it is one. -/
theorem lt_of_safeInteger_decimalInt {i j : Int} (h : safeInteger (decimalInt i) = some j)
    (hj : 0 < j) :
  0 < i ∧ i < 2 ^ 53
  := by
  obtain ⟨q, hq, hsafe⟩ := Option.bind_eq_some_iff.mp h
  split at hsafe
  · rename_i hint
    have hnum := Option.some.inj hsafe
    have hqj : q = j := by rw [← hnum, Rat.coe_int_num_of_den_eq_one hint.1]
    have hle : j ≤ 2 ^ 53 - 1 := by
      rw [← hnum]
      exact (abs_le.mp hint.2).2
    cases i with
    | ofNat n =>
        rw [decimalInt, literalValue_decimal] at hq
        have hlt : n < 2 ^ 53 := by
          by_contra hge
          have hbound := le_of_roundDouble_natCast (not_lt.mp hge) hq
          rw [hqj] at hbound
          have hcast : (2 ^ 53 : Int) ≤ j := by exact_mod_cast hbound
          omega
        have hpos : n ≠ 0 := by
          rintro rfl
          rw [roundDouble, if_pos (by simp)] at hq
          have hzero : (j : ℚ) = 0 := hqj.symm.trans (Option.some.inj hq).symm
          have : j = 0 := by exact_mod_cast hzero
          omega
        simp only [Int.ofNat_eq_natCast]
        omega
    | negSucc n =>
        rw [literalValue_negSucc] at hq
        have hneg := roundDouble_nonpos (neg_nonpos.mpr (Nat.cast_nonneg _)) hq
        rw [hqj] at hneg
        have : j ≤ 0 := by exact_mod_cast hneg
        omega
  · cases hsafe

/-! ### What is read of what was written -/

theorem parseString_escapePoint (p : Char ⊕ UInt16) (s : List Char) :
  parseString (escapePoint p ++ s) = (parseString s).map fun r => (pointPiece p :: r.1, r.2)
  := by
  cases p with
  | inl c => apply parseString_escapeChar
  | inr u => exact parseString_hexUnit (hexUnit_hexDigit _) s

/-- The parser reads the string literal of a list of units as its pieces. -/
theorem reads_quote : Reads quote pieces
  := by
  intro s
  refine ⟨(points s).flatMap escapePoint ++ ['"'], rfl, ?_⟩
  intro rest
  rw [List.append_assoc, List.singleton_append]
  apply parseString_flatMap parseString_escapePoint

/-! ### Between Go and JavaScript -/

/-- The units of a character that is written as itself or by its number. -/
theorem encodePoint_charPiece {named : Char → Bool} {c : Char}
    (h : named c = true → c.toNat < 0x10000) :
  encodePoint (charPiece named c) = utf16EncodeChar c
  := by
  unfold charPiece
  split
  · rename_i hnum
    have hlt : c.toNat < 0x10000 := by
      obtain hlt | hnamed := hnum.2
      · omega
      · exact h hnamed
    simp [encodePoint, utf16EncodeChar, hlt]
  · rfl

/-- The string JavaScript reads where Go wrote one. -/
def received (s : List UInt8) : List UInt16 :=
  utf16 (GoJson.text s)

@[simp]
theorem received_utf8 (x : List Char) : received (utf8 x) = utf16 x
  := by
  rw [received, GoJson.text_utf8]

@[simp]
theorem received_bytes (s : String) : received (bytes s) = units s
  := received_utf8 s.toList

@[simp]
theorem unquote_pieces (s : List UInt8) : unquote (GoJson.pieces s) = received s
  := by
  unfold unquote GoJson.pieces received GoJson.text utf16
  rw [List.flatMap_map, List.flatMap_map]
  apply List.flatMap_congr
  intro r _
  cases r with
  | none => rfl
  | some c => exact encodePoint_charPiece GoJson.toNat_lt_of_named

/-- JavaScript reads an object Go wrote. -/
theorem parse_textDecode_marshal {ms : List (List UInt8 × Json (List UInt8))}
    (hv : (Json.obj ms).Valid) :
  parse (textDecode (GoJson.marshal (.obj ms)))
    = some (((Json.obj ms).map GoJson.pieces).map unquote)
  := by
  have hhead : (utf8 ((Json.obj ms).print GoJson.quote)).head? ≠ some 0xEF := by
    simp [print, utf8EncodeChar_of_lt (show '{'.toNat < 128 by decide)]
  rw [GoJson.marshal, textDecode_utf8 hhead, parse, parse_print GoJson.reads_quote hv,
    Option.map_some]

/-- A text is plain if Go names no character of it but control characters. -/
def IsPlain (s : List Char) : Prop :=
  ∀ c ∈ s, GoJson.named c = false

/-- A half of a pair that stands alone is one. -/
theorem isHigh_or_isLow_of_mem_points {us : List UInt16} {u : UInt16} (h : .inr u ∈ points us) :
  isHigh u = true ∨ isLow u = true
  := by
  have hunit : ∀ v, unitChar v = .inr u → isHigh u = true ∨ isLow u = true := by
    intro v hv
    unfold unitChar at hv
    split at hv
    · rename_i hsurrogate
      obtain rfl := Sum.inr.inj hv
      exact Bool.or_eq_true _ _ ▸ hsurrogate
    · cases hv
  induction us using points.induct with
  | case1 => cases h
  | case2 v =>
      rw [points] at h
      exact hunit v (List.mem_singleton.mp h).symm
  | case3 v w us hpair ih =>
      rw [points, if_pos hpair] at h
      obtain h | h := List.mem_cons.mp h
      · cases h
      · exact ih h
  | case4 v w us hpair ih =>
      rw [points, if_neg hpair] at h
      obtain h | h := List.mem_cons.mp h
      · exact hunit v h.symm
      · exact ih h

/-- The characters Go names by their number are no control characters and have no short
escape. -/
theorem shortEscapeOf_of_named {c : Char} (h : GoJson.named c = true) :
  shortEscapeOf c = none ∧ 0x20 ≤ c.toNat
  := by
  simp only [GoJson.named, Bool.or_eq_true, decide_eq_true_eq] at h
  rcases h with (((rfl | rfl) | rfl) | rfl) | rfl <;> decide

/-- A character whose number is that of a unit. -/
theorem toNat_eq_of_unit_eq {c : Char} {u : UInt16} (hc : c.toNat < 0x10000)
    (h : UInt16.ofNat c.toNat = u) :
  c.toNat = u.toNat
  := by
  rw [← h, UInt16.toNat_ofNat', Nat.mod_eq_of_lt hc]

/-- A rune Go writes and a point JavaScript writes are read as one piece only if they are
one character, which Go does not name by its number. -/
theorem eq_of_runePiece_eq {r : Option Char} {p : Char ⊕ UInt16}
    (hp : ∀ u, p = .inr u → isHigh u = true ∨ isLow u = true)
    (h : GoJson.runePiece r = pointPiece p) :
  ∃ c, r = some c ∧ p = .inl c ∧ GoJson.named c = false
  := by
  have hhalf : ∀ u, p = .inr u → 0xD800 ≤ u.toNat ∧ u.toNat ≤ 0xDFFF := by
    intro u hu
    obtain hhigh | hlow := hp u hu
    · have := isHigh_iff.mp hhigh
      omega
    · have := isLow_iff.mp hlow
      omega
  cases r with
  | none =>
      cases p with
      | inl d =>
          obtain ⟨heq, -⟩ | ⟨heq, hd | hd⟩ := charPiece_cases (fun _ => false) d
          · exact absurd (h.trans heq) (by simp [GoJson.runePiece])
          · have := toNat_eq_of_unit_eq (by omega) (Sum.inr.inj (h.trans heq)).symm
            have hval : (0xFFFD : UInt16).toNat = 0xFFFD := rfl
            omega
          · cases hd
      | inr u =>
          have hu := hhalf u rfl
          obtain rfl := Sum.inr.inj h
          exact absurd hu (by decide)
  | some c =>
      have hlt : c.toNat < 0x20 ∨ GoJson.named c = true → c.toNat < 0x10000 := by
        rintro (hc | hc)
        · omega
        · exact GoJson.toNat_lt_of_named hc
      obtain ⟨hgo, hnamed⟩ | ⟨hgo, hnum⟩ := charPiece_cases GoJson.named c
      · cases p with
        | inl d =>
            obtain ⟨hjs, -⟩ | ⟨hjs, -⟩ := charPiece_cases (fun _ => false) d
            · obtain rfl := Sum.inl.inj (hgo.symm.trans (h.trans hjs))
              refine ⟨c, rfl, rfl, ?_⟩
              by_contra hcon
              have htrue := Bool.of_not_eq_false hcon
              have hsome := hnamed htrue
              rw [(shortEscapeOf_of_named htrue).1] at hsome
              cases hsome
            · cases hgo.symm.trans (h.trans hjs)
        | inr u => cases hgo.symm.trans h
      · cases p with
        | inl d =>
            obtain ⟨hjs, -⟩ | ⟨hjs, hd | hd⟩ := charPiece_cases (fun _ => false) d
            · cases hgo.symm.trans (h.trans hjs)
            · have hunit := Sum.inr.inj (hgo.symm.trans (h.trans hjs))
              have hcd : c.toNat = d.toNat := by
                rw [toNat_eq_of_unit_eq (hlt hnum) hunit, UInt16.toNat_ofNat',
                  Nat.mod_eq_of_lt (by omega)]
              obtain rfl := Char.toNat_inj.mp hcd
              refine ⟨c, rfl, rfl, ?_⟩
              by_contra hcon
              have := (shortEscapeOf_of_named (Bool.of_not_eq_false hcon)).2
              omega
            · cases hd
        | inr u =>
            have hunit := Sum.inr.inj (hgo.symm.trans h)
            have := toNat_eq_of_unit_eq (hlt hnum) hunit
            have := hhalf u rfl
            have := toNat_char c
            omega

/-- A Go string and a JavaScript string are the same plain text. -/
def SamePlainText (s : List UInt8) (t : List UInt16) : Prop :=
  ∃ x, IsPlain x ∧ s = utf8 x ∧ t = utf16 x

/-- A rune list and a point list that are read as the same pieces are one plain text. -/
theorem exists_text_of_map_eq {rs : List (Option Char)} {ps : List (Char ⊕ UInt16)}
    (hps : ∀ u, .inr u ∈ ps → isHigh u = true ∨ isLow u = true)
    (h : rs.map GoJson.runePiece = ps.map pointPiece) :
  ∃ x, IsPlain x ∧ rs = x.map some ∧ ps = x.map .inl
  := by
  induction rs generalizing ps with
  | nil =>
      refine ⟨[], List.forall_mem_nil _, rfl, ?_⟩
      simpa using h
  | cons r rs ih =>
      cases ps with
      | nil => cases h
      | cons p ps =>
          obtain ⟨hhead, htail⟩ := List.cons.inj h
          obtain ⟨c, rfl, rfl, hc⟩ := eq_of_runePiece_eq
            (fun u hu => hps u (hu ▸ List.mem_cons_self)) hhead
          obtain ⟨x, hx, rfl, rfl⟩ := ih
            (fun u hu => hps u (List.mem_cons_of_mem _ hu)) htail
          exact ⟨c :: x, List.forall_mem_cons.mpr ⟨hc, hx⟩, rfl, rfl⟩

/-- Strings that are read as the same pieces are one plain text. -/
theorem samePlainText_of_pieces_eq {s : List UInt8} {t : List UInt16}
    (h : GoJson.pieces s = pieces t) :
  SamePlainText s t
  := by
  obtain ⟨x, hx, hs, ht⟩ := exists_text_of_map_eq (fun u hu => isHigh_or_isLow_of_mem_points hu) h
  exact ⟨x, hx, eq_utf8_of_runes hs, eq_utf16_of_points ht⟩

/-- Strings that are one plain text are written alike. -/
theorem SamePlainText.quote_eq {s : List UInt8} {t : List UInt16} (h : SamePlainText s t) :
  GoJson.quote s = quote t
  := by
  obtain ⟨x, hx, rfl, rfl⟩ := h
  unfold GoJson.quote quote
  rw [runes_utf8, points_utf16, List.flatMap_map, List.flatMap_map]
  congr 2
  apply List.flatMap_congr
  intro c hc
  simp [GoJson.escapeRune, escapePoint, escapeChar, hx c hc]

/-- Values that are written alike are read alike. -/
theorem map_pieces_eq_of_marshal_eq {v : Json (List UInt8)} {w : Json (List UInt16)}
    (hv : v.Valid) (hw : w.Valid) (h : GoJson.marshal v = utf8 (stringify w)) :
  v.map GoJson.pieces = w.map pieces
  := by
  have hparse := congrArg Json.parse (utf8_injective h)
  rw [parse_print GoJson.reads_quote hv, stringify, parse_print reads_quote hw] at hparse
  exact Option.some.inj hparse

/-! ### What is read of what JavaScript wrote -/

/-- A string is read as it was written. -/
theorem unquote_pieces_self (s : List UInt16) : unquote (pieces s) = s
  := by
  nth_rewrite 2 [← flatMap_points s]
  rw [unquote, pieces, List.flatMap_map]
  apply List.flatMap_congr
  intro p _
  cases p with
  | inl c =>
      change encodePoint (charPiece (fun _ => false) c) = utf16EncodeChar c
      apply encodePoint_charPiece
      intro h
      cases h
  | inr u => rfl

/-- A value is read as it was written. -/
theorem parse_stringify {v : Json (List UInt16)} (hv : v.Valid) : parse (stringify v) = some v
  := by
  rw [parse, stringify, parse_print reads_quote hv, Option.map_some, map_map,
    map_id unquote_pieces_self]

end JsJson
