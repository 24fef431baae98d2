import Paygate.Base.JsJson

/-!
# Numbers in JavaScript

The text of a number has the fewest digits from which the number is read again, and among these
those of the closest decimal.  It is written as an integer, with a point, or with an exponent,
depending on its size.  A number is read again from its text.
-/

namespace JsNumber

open Json JsJson

/-! ### The text of a number -/

/-- The number is a double. -/
def IsDouble (q : ℚ) : Prop :=
  roundDouble q = some q

/-- The decimal with `k` digits that is closest to a positive number, of those the number is read
from: its digits and the power of ten of the last one. -/
def decimalOf (q : ℚ) (k : Nat) : Option (Nat × Int) :=
  let p := Int.log 10 q + 1 - k
  let f := ⌊q / 10 ^ p⌋
  let s := roundEven (q / 10 ^ p)
  let s' := if s = f then f + 1 else f
  ([s, s'].find? fun s : Int => roundDouble (s * 10 ^ p) = some q).map fun s : Int =>
    if s = 10 ^ k then (10 ^ (k - 1), p + 1) else (s.toNat, p)

/-- The decimal with the fewest digits a positive number is read from. -/
def shortest (q : ℚ) : Option (Nat × Int) :=
  (List.range' 1 2200).findSome? (decimalOf q)

/-- The exponent of a number. -/
def exponent (e : Int) : List Char :=
  'e' :: (if e < 0 then '-' else '+') :: decimal e.natAbs

/-- The text of a decimal. -/
def format (s : Nat) (p : Int) : List Char :=
  let digits := decimal s
  let k := digits.length
  let n := p + k
  if k ≤ n ∧ n ≤ 21 then digits ++ List.replicate (n - k).toNat '0'
  else if 0 < n ∧ n ≤ 21 then digits.take n.toNat ++ '.' :: digits.drop n.toNat
  else if -6 < n ∧ n ≤ 0 then '0' :: '.' :: (List.replicate (-n).toNat '0' ++ digits)
  else if k = 1 then digits ++ exponent (n - 1)
  else digits.take 1 ++ '.' :: digits.drop 1 ++ exponent (n - 1)

/-- The text of a number above zero. -/
def positiveToString (q : ℚ) : List Char :=
  match shortest q with
  | some (s, p) => format s p
  | none => []

/-- The text of a number. -/
def numberToString (q : ℚ) : List Char :=
  if q = 0 then ['0']
  else if q < 0 then '-' :: positiveToString (-q)
  else positiveToString q

/-- The text of a number that was read, given as it is written. -/
def toString (l : List Char) : List Char :=
  match roundDouble (literalValue l) with
  | some q => numberToString q
  | none => if literalValue l < 0 then "-Infinity".toList else "Infinity".toList

example : toString "1.10e2".toList = "110".toList := by decide +kernel

example : toString "0.1".toList = "0.1".toList := by decide +kernel

example : toString "-12345678901234567890123".toList = "-1.2345678901234568e+22".toList := by
  decide +kernel

/-! ### Literals -/

/-- One digit or more. -/
def Digits (l : List Char) : Prop :=
  l ≠ [] ∧ ∀ c ∈ l, c.isDigit = true

/-- The text does not go on with a digit. -/
def NoDigit (s : List Char) : Prop :=
  ∀ c ∈ s.head?, c.isDigit = false

/-- The integer, the fraction and the exponent of a number. -/
structure IsLiteral (int frac exp : List Char) : Prop where
  int : int = ['0'] ∨ Digits int ∧ ∀ c ∈ int.head?, c ≠ '0'
  frac : frac = [] ∨ ∃ digits, frac = '.' :: digits ∧ Digits digits
  exp : exp = [] ∨ ∃ sign digits, exp = 'e' :: sign :: digits ∧ sign ∈ ['+', '-'] ∧ Digits digits

/-- Digits are read up to where they end. -/
theorem parseDigits_append {l rest : List Char} (hl : Digits l) (hrest : NoDigit rest) :
  parseDigits (l ++ rest) = some (l, rest)
  := by
  have hstop : rest.takeWhile Char.isDigit = [] ∧ rest.dropWhile Char.isDigit = rest := by
    cases rest with
    | nil => simp
    | cons c s =>
        have hc := hrest c rfl
        simp [hc]
  have htake : (l ++ rest).takeWhile Char.isDigit = l := by
    rw [List.takeWhile_append_of_pos hl.2, hstop.1, List.append_nil]
  have hdrop : (l ++ rest).dropWhile Char.isDigit = rest := by
    rw [List.dropWhile_append_of_pos hl.2, hstop.2]
  rw [parseDigits, htake, hdrop]
  simp [hl.1]

/-- A sign that is one of those given is read. -/
theorem parseSign_of_mem {signs : List Char} {c : Char} (h : c ∈ signs) (s : List Char) :
  parseSign signs (c :: s) = ([c], s)
  := if_pos h

theorem noDigit_of_follow {rest : List Char} (h : Follow rest) : NoDigit rest
  := fun c hc => (h c hc).1

namespace IsLiteral

variable {int frac exp rest : List Char}

/-- The exponent is read. -/
theorem parseExponent_append (h : IsLiteral int frac exp) (hrest : Follow rest) :
  parseExponent (exp ++ rest) = some (exp, rest)
  := by
  obtain rfl | ⟨sign, digits, rfl, hsign, hdigits⟩ := h.exp
  · exact (parse_of_follow hrest).2
  · have hread := parseDigits_append hdigits (noDigit_of_follow hrest)
    simp only [List.cons_append, parseExponent, true_or, if_true, parseSign_of_mem hsign, hread,
      Option.map_some, List.nil_append]

/-- What follows the fraction does not continue it. -/
theorem noDigit_exp (h : IsLiteral int frac exp) (hrest : Follow rest) :
  NoDigit (exp ++ rest) ∧ ∀ c ∈ (exp ++ rest).head?, c ≠ '.'
  := by
  obtain rfl | ⟨sign, digits, rfl, -, -⟩ := h.exp
  · exact ⟨noDigit_of_follow hrest, fun c hc => (hrest c hc).2.1⟩
  · constructor
    · intro c hc
      obtain rfl : 'e' = c := by simpa using hc
      decide
    · intro c hc
      obtain rfl : 'e' = c := by simpa using hc
      decide

/-- The fraction is read. -/
theorem parseFraction_append (h : IsLiteral int frac exp) (hrest : Follow rest) :
  parseFraction (frac ++ (exp ++ rest)) = some (frac, exp ++ rest)
  := by
  obtain ⟨hdigit, hdot⟩ := h.noDigit_exp hrest
  obtain rfl | ⟨digits, rfl, hdigits⟩ := h.frac
  · rw [List.nil_append]
    cases hs : exp ++ rest with
    | nil => rfl
    | cons c s =>
        rw [hs] at hdot
        rw [parseFraction, if_neg (hdot c rfl)]
  · simp only [List.cons_append, parseFraction, if_true, parseDigits_append hdigits hdigit,
      Option.map_some]

/-- What follows the integer does not continue it. -/
theorem noDigit_frac (h : IsLiteral int frac exp) (hrest : Follow rest) :
  NoDigit (frac ++ (exp ++ rest))
  := by
  obtain rfl | ⟨digits, rfl, -⟩ := h.frac
  · exact (h.noDigit_exp hrest).1
  · intro c hc
    obtain rfl : '.' = c := by simpa using hc
    decide

/-- The integer is read. -/
theorem parseInt_append (h : IsLiteral int frac exp) (hrest : Follow rest) :
  parseInt (int ++ (frac ++ (exp ++ rest))) = some (int, frac ++ (exp ++ rest))
  := by
  obtain rfl | ⟨hdigits, hhead⟩ := h.int
  · simp [parseInt]
  · have hread := parseDigits_append hdigits (h.noDigit_frac hrest)
    cases int with
    | nil => exact absurd rfl hdigits.1
    | cons c l =>
        rw [List.cons_append] at hread ⊢
        rw [parseInt, if_neg (hhead c rfl), hread]

/-- A literal begins with a digit. -/
theorem exists_int_eq_cons (h : IsLiteral int frac exp) :
  ∃ c l, int = c :: l ∧ c.isDigit = true
  := by
  obtain rfl | ⟨hdigits, -⟩ := h.int
  · exact ⟨'0', [], rfl, by decide⟩
  · obtain ⟨c, l, rfl⟩ := List.exists_cons_of_ne_nil hdigits.1
    exact ⟨c, l, rfl, hdigits.2 c List.mem_cons_self⟩

/-- A literal has no sign. -/
theorem parseSign_append (h : IsLiteral int frac exp) (s : List Char) :
  parseSign ['-'] (int ++ s) = ([], int ++ s)
  := by
  obtain ⟨c, l, rfl, hc⟩ := h.exists_int_eq_cons
  rw [List.cons_append, parseSign_digit rfl hc]

/-- A literal is a number. -/
theorem isNumber (h : IsLiteral int frac exp) : IsNumber (int ++ (frac ++ exp))
  := by
  obtain ⟨c, l, hint, hc⟩ := h.exists_int_eq_cons
  constructor
  · exact ⟨c, l ++ (frac ++ exp), by rw [hint, List.cons_append], Or.inr hc⟩
  · intro rest hrest
    simp only [List.append_assoc, parseNumber, h.parseSign_append, h.parseInt_append hrest,
      h.parseFraction_append hrest, h.parseExponent_append hrest, Option.bind_eq_bind,
      Option.bind_some, List.nil_append]

/-- A literal with a minus is a number. -/
theorem isNumber_neg (h : IsLiteral int frac exp) : IsNumber ('-' :: (int ++ (frac ++ exp)))
  := by
  constructor
  · exact ⟨'-', _, rfl, Or.inl rfl⟩
  · intro rest hrest
    have hsign : parseSign ['-'] ('-' :: (int ++ (frac ++ (exp ++ rest))))
        = (['-'], int ++ (frac ++ (exp ++ rest))) := rfl
    simp only [List.append_assoc, List.cons_append, parseNumber, hsign, h.parseInt_append hrest,
      h.parseFraction_append hrest, h.parseExponent_append hrest, Option.bind_eq_bind,
      Option.bind_some, List.nil_append]

/-- What a literal says. -/
theorem literalValue_eq (h : IsLiteral int frac exp) :
  literalValue (int ++ (frac ++ exp))
    = (Nat.ofDigitChars 10 (int ++ frac.drop 1) 0 : ℚ)
      * 10 ^ (exponentValue exp - (frac.drop 1).length)
  := by
  have hfollow : Follow [] := by
    intro c hc
    cases hc
  have hint := h.parseInt_append hfollow
  have hfrac := h.parseFraction_append hfollow
  rw [List.append_nil] at hint hfrac
  simp [literalValue, h.parseSign_append, hint, hfrac]

/-- What it says with a minus. -/
theorem literalValue_neg (h : IsLiteral int frac exp) :
  literalValue ('-' :: (int ++ (frac ++ exp))) = -literalValue (int ++ (frac ++ exp))
  := by
  have hfollow : Follow [] := by
    intro c hc
    cases hc
  have hint := h.parseInt_append hfollow
  have hfrac := h.parseFraction_append hfollow
  rw [List.append_nil] at hint hfrac
  have hsign : parseSign ['-'] ('-' :: (int ++ (frac ++ exp))) = (['-'], int ++ (frac ++ exp)) := rfl
  rw [h.literalValue_eq]
  simp [literalValue, hsign, hint, hfrac]

end IsLiteral

/-! ### Decimals -/

theorem digits_decimal (n : Nat) : Digits (decimal n)
  := ⟨Nat.toDigits_ne_nil, fun _ hc => isDigit_of_mem_decimal hc⟩

theorem Digits.zeros_append {l : List Char} (h : Digits l) (j : Nat) :
  Digits (List.replicate j '0' ++ l)
  := by
  constructor
  · exact List.append_ne_nil_of_right_ne_nil _ h.1
  · intro c hc
    obtain hc | hc := List.mem_append.mp hc
    · rw [List.eq_of_mem_replicate hc]
      decide
    · exact h.2 c hc

theorem Digits.append_zeros {l : List Char} (h : Digits l) (j : Nat) :
  Digits (l ++ List.replicate j '0')
  := by
  constructor
  · exact List.append_ne_nil_of_left_ne_nil h.1 _
  · intro c hc
    obtain hc | hc := List.mem_append.mp hc
    · exact h.2 c hc
    · rw [List.eq_of_mem_replicate hc]
      decide

/-- The exponent is a part of a literal, and says its value. -/
theorem exponent_spec (e : Int) :
  (∃ sign digits, exponent e = 'e' :: sign :: digits ∧ sign ∈ ['+', '-'] ∧ Digits digits)
    ∧ exponentValue (exponent e) = e
  := by
  have hvalue : Nat.ofDigitChars 10 (decimal e.natAbs) 0 = e.natAbs := Nat.ofDigitChars_ten_toDigits
  constructor
  · refine ⟨_, _, rfl, ?_, digits_decimal _⟩
    split
    · simp
    · simp
  · unfold exponent
    split
    · rw [exponentValue, parseSign_of_mem (by simp)]
      simp only [if_true, hvalue]
      omega
    · rw [exponentValue, parseSign_of_mem (by simp)]
      simp only [List.cons.injEq, Char.reduceEq, false_and, if_false, hvalue]
      omega

/-- The first digit of a positive number is not zero. -/
theorem head_ne_zero {s : Nat} (hs : 0 < s) {l : List Char} (h : l.head? = (decimal s).head?) :
  ∀ c ∈ l.head?, c ≠ '0'
  := by
  obtain ⟨c, m, hm, hc⟩ := exists_decimal_eq_cons hs
  intro d hd
  rw [h, hm] at hd
  obtain rfl : c = d := by simpa using hd
  exact hc

/-- The digits of a number, split in two parts, are digits. -/
theorem digits_take_drop {s n : Nat} (hn : 0 < n) (hlt : n < (decimal s).length) :
  Digits ((decimal s).take n) ∧ Digits ((decimal s).drop n)
  := by
  obtain ⟨hne, hall⟩ := digits_decimal s
  refine ⟨⟨?_, fun c hc => hall c (List.mem_of_mem_take hc)⟩,
    ⟨?_, fun c hc => hall c (List.mem_of_mem_drop hc)⟩⟩
  · intro hnil
    obtain hzero | hnil := List.take_eq_nil_iff.mp hnil
    · omega
    · exact hne hnil
  · intro hnil
    have hle := List.drop_eq_nil_iff.mp hnil
    omega

/-- The text of a decimal is a literal that says it. -/
theorem exists_format_eq {s : Nat} (hs : 0 < s) (p : Int) :
  ∃ int frac exp, IsLiteral int frac exp ∧ format s p = int ++ (frac ++ exp)
    ∧ (Nat.ofDigitChars 10 (int ++ frac.drop 1) 0 : ℚ)
      * 10 ^ (exponentValue exp - (frac.drop 1).length) = s * 10 ^ p
  := by
  have hvalue : Nat.ofDigitChars 10 (decimal s) 0 = s := Nat.ofDigitChars_ten_toDigits
  have hdigits := digits_decimal s
  obtain ⟨⟨sign, es, hexp, hsign, hes⟩, hexponent⟩ := exponent_spec (p + (decimal s).length - 1)
  have hpos : 0 < (decimal s).length := List.length_pos_iff.mpr hdigits.1
  unfold format
  dsimp only
  split_ifs with hwhole hpoint hsmall hone
  · refine ⟨decimal s ++ List.replicate (p + (decimal s).length - (decimal s).length).toNat '0', [], [],
      ⟨Or.inr ⟨hdigits.append_zeros _, ?_⟩, Or.inl rfl, Or.inl rfl⟩, by simp, ?_⟩
    · apply head_ne_zero hs
      rw [List.head?_append_of_ne_nil _ hdigits.1]
    · obtain ⟨j, hj⟩ : ∃ j : Nat, p = j := Int.eq_ofNat_of_zero_le (by omega)
      have hzeros : (p + (decimal s).length - (decimal s).length).toNat = j := by omega
      rw [hzeros, hj, List.drop_nil, List.append_nil, Nat.ofDigitChars_append, hvalue,
        Nat.ofDigitChars_replicate_zero]
      simp [exponentValue, mul_comm]
  · obtain ⟨n, hn⟩ : ∃ n : Nat, p + (decimal s).length = n := Int.eq_ofNat_of_zero_le (by omega)
    have hlt : n < (decimal s).length := by omega
    obtain ⟨htake, hdrop⟩ := digits_take_drop (s := s) (n := n) (by omega) hlt
    rw [hn, Int.toNat_natCast]
    refine ⟨(decimal s).take n, '.' :: (decimal s).drop n, [], ⟨Or.inr ⟨htake, ?_⟩,
      Or.inr ⟨_, rfl, hdrop⟩, Or.inl rfl⟩, by simp, ?_⟩
    · apply head_ne_zero hs
      rw [List.head?_take, if_neg (by omega)]
    · have hp : exponentValue [] - (((decimal s).drop n).length : Int) = p := by
        rw [List.length_drop, exponentValue]
        omega
      rw [List.drop_one, List.tail_cons, List.take_append_drop, hvalue, hp]
  · refine ⟨['0'], '.' :: (List.replicate (-(p + (decimal s).length)).toNat '0' ++ decimal s), [],
      ⟨Or.inl rfl, Or.inr ⟨_, rfl, hdigits.zeros_append _⟩, Or.inl rfl⟩, by simp, ?_⟩
    have hp : exponentValue []
        - ((List.replicate (-(p + (decimal s).length)).toNat '0' ++ decimal s).length : Int) = p := by
      rw [List.length_append, List.length_replicate, exponentValue]
      omega
    have hdigit : Nat.ofDigitChars 10 ['0'] 0 = 0 := by decide
    rw [List.drop_one, List.tail_cons, hp, Nat.ofDigitChars_append, hdigit,
      Nat.ofDigitChars_append, Nat.ofDigitChars_replicate_zero, Nat.mul_zero, hvalue]
  · refine ⟨decimal s, [], exponent (p + (decimal s).length - 1), ⟨Or.inr ⟨hdigits, ?_⟩, Or.inl rfl,
      Or.inr ⟨sign, es, hexp, hsign, hes⟩⟩, by simp, ?_⟩
    · exact head_ne_zero hs rfl
    · rw [List.drop_nil, List.append_nil, hvalue, hexponent, hone]
      simp
  · obtain ⟨htake, hdrop⟩ := digits_take_drop (s := s) (n := 1) (by omega) (by omega)
    refine ⟨(decimal s).take 1, '.' :: (decimal s).drop 1, exponent (p + (decimal s).length - 1),
      ⟨Or.inr ⟨htake, ?_⟩, Or.inr ⟨_, rfl, hdrop⟩, Or.inr ⟨sign, es, hexp, hsign, hes⟩⟩, by simp, ?_⟩
    · apply head_ne_zero hs
      rw [List.head?_take, if_neg (by omega)]
    · have hp : exponentValue (exponent (p + (decimal s).length - 1))
          - (((decimal s).drop 1).length : Int) = p := by
        rw [List.length_drop, hexponent]
        omega
      rw [List.drop_one, List.tail_cons, List.take_append_drop, hvalue, hp]

/-! ### Doubles -/

/-- A double above zero is an integer when it is doubled often enough, and is below the largest
power of two. -/
theorem IsDouble.exists_mul_eq {q : ℚ} (h : IsDouble q) (hpos : 0 < q) :
  (∃ (m : Int) (j : Nat), j ≤ 1074 ∧ q * 2 ^ j = m) ∧ q < 2 ^ 1024
  := by
  rw [IsDouble, roundDouble, if_neg hpos.ne'] at h
  dsimp only at h
  split at h
  · cases h
  · rename_i hlt
    rw [if_neg (not_lt.mpr hpos.le)] at h
    have hq := Option.some.inj h
    rw [hq] at hlt
    refine ⟨?_, not_le.mp hlt⟩
    have hmin : -1074 ≤ max (Int.log 2 |q| - 52) (-1074) := le_max_right _ _
    generalize max (Int.log 2 |q| - 52) (-1074) = e at hq hmin
    generalize roundEven (|q| / 2 ^ e) = r at hq
    obtain ⟨i, rfl | rfl⟩ := Int.eq_nat_or_neg e
    · refine ⟨r * 2 ^ i, 0, Nat.zero_le _, ?_⟩
      rw [← hq]
      push_cast
      rw [pow_zero, mul_one, zpow_natCast]
    · refine ⟨r, i, by omega, ?_⟩
      rw [← hq, zpow_neg, zpow_natCast, mul_assoc, inv_mul_cancel₀ (by positivity), mul_one]

/-- The digits of a decimal a number is read from. -/
theorem decimalOf_spec {q : ℚ} (hpos : 0 < q) {k : Nat} (hk : 0 < k) {s : Nat} {p : Int}
    (h : decimalOf q k = some (s, p)) :
  0 < s ∧ roundDouble (s * 10 ^ p) = some q
  := by
  obtain ⟨x, hx, hsp⟩ := Option.map_eq_some_iff.mp h
  have hround : roundDouble (x * 10 ^ (Int.log 10 q + 1 - k)) = some q := by
    simpa using List.find?_some hx
  generalize Int.log 10 q + 1 - k = p' at hround hsp
  have hxpos : 0 < x := by
    by_contra hle
    have hnonpos : (x : ℚ) * 10 ^ p' ≤ 0 :=
      mul_nonpos_of_nonpos_of_nonneg (by exact_mod_cast not_lt.mp hle)
        (zpow_pos (by norm_num) _).le
    exact absurd (roundDouble_nonpos hnonpos hround) (not_le.mpr hpos)
  split at hsp
  · rename_i hx
    obtain ⟨rfl, rfl⟩ := Prod.mk.inj hsp
    use by positivity
    have hshift : ((10 ^ (k - 1) : Nat) : ℚ) * 10 ^ (p' + 1) = x * 10 ^ p' := by
      rw [hx, zpow_add₀ (by norm_num), zpow_one]
      obtain ⟨j, rfl⟩ := Nat.exists_eq_add_of_lt hk
      push_cast
      simp only [Nat.zero_add, pow_succ]
      ring
    rw [hshift, hround]
  · obtain ⟨rfl, rfl⟩ := Prod.mk.inj hsp
    have hcast : ((x.toNat : Nat) : ℚ) = x := by
      exact_mod_cast congrArg (Int.cast (R := ℚ)) (Int.toNat_of_nonneg hxpos.le)
    exact ⟨by omega, by rw [hcast, hround]⟩

/-- With enough digits, the decimal of a double is the double. -/
theorem IsDouble.exists_decimalOf {q : ℚ} (h : IsDouble q) (hpos : 0 < q) :
  ∃ k ∈ List.range' 1 2200, (decimalOf q k).isSome = true
  := by
  obtain ⟨⟨m, j, hj, hm⟩, hlt⟩ := h.exists_mul_eq hpos
  have hone : 1 ≤ m := by
    have hm' : (0 : ℚ) < m := by
      rw [← hm]
      positivity
    exact_mod_cast hm'
  have hlow : -(j : Int) ≤ Int.log 10 q := by
    apply (Int.zpow_le_iff_le_log (by norm_num) hpos).mp
    rw [zpow_neg, zpow_natCast, inv_le_iff_one_le_mul₀ (by positivity)]
    calc (1 : ℚ) ≤ m := by exact_mod_cast hone
      _ = q * 2 ^ j := hm.symm
      _ ≤ q * 10 ^ j := by
        apply mul_le_mul_of_nonneg_left _ hpos.le
        exact pow_le_pow_left₀ (by norm_num) (by norm_num) j
  have hhigh : Int.log 10 q < 1024 := by
    apply (Int.lt_zpow_iff_log_lt (by norm_num) hpos).mp
    exact lt_of_lt_of_le hlt (pow_le_pow_left₀ zero_le_two (by norm_num : (2 : ℚ) ≤ 10) _)
  obtain ⟨k, hk⟩ := Int.eq_ofNat_of_zero_le (show 0 ≤ Int.log 10 q + 1 + j by omega)
  have hp : Int.log 10 q + 1 - k = -(j : Int) := by omega
  have hwhole : q / 10 ^ (-(j : Int)) = ((m * 5 ^ j : Int) : ℚ) := by
    rw [zpow_neg, zpow_natCast, div_inv_eq_mul, show (10 : ℚ) = 2 * 5 by norm_num, mul_pow,
      ← mul_assoc, hm]
    push_cast
    rfl
  have hback : ((m * 5 ^ j : Int) : ℚ) * 10 ^ (-(j : Int)) = q := by
    rw [← hwhole, div_mul_cancel₀ _ (zpow_pos (by norm_num) _).ne']
  refine ⟨k, ?_, ?_⟩
  · rw [List.mem_range'_1]
    omega
  · rw [decimalOf, Option.isSome_map, hp, hwhole, roundEven_intCast, List.find?_cons_of_pos]
    · rfl
    · rw [hback]
      exact decide_eq_true h

/-- A double above zero is read from its shortest decimal. -/
theorem IsDouble.shortest_eq {q : ℚ} (h : IsDouble q) (hpos : 0 < q) :
  ∃ s p, shortest q = some (s, p) ∧ 0 < s ∧ roundDouble (s * 10 ^ p) = some q
  := by
  obtain ⟨k, hk, hsome⟩ := h.exists_decimalOf hpos
  have hfound : (shortest q).isSome = true := by
    rw [shortest, List.findSome?_isSome_iff]
    exact ⟨k, hk, hsome⟩
  obtain ⟨⟨s, p⟩, hsp⟩ := Option.isSome_iff_exists.mp hfound
  obtain ⟨k', hk', hdecimal⟩ := List.exists_of_findSome?_eq_some hsp
  have hpos' : 0 < k' := by
    rw [List.mem_range'_1] at hk'
    omega
  exact ⟨s, p, hsp, decimalOf_spec hpos hpos' hdecimal⟩

/-- What is below zero is rounded like what is above it. -/
theorem roundDouble_neg {x q : ℚ} (h : roundDouble x = some q) : roundDouble (-x) = some (-q)
  := by
  obtain rfl | hne := eq_or_ne x 0
  · rw [roundDouble, if_pos rfl] at h
    rw [← Option.some.inj h, neg_zero, roundDouble, if_pos rfl]
  · rw [roundDouble, if_neg hne] at h
    rw [roundDouble, if_neg (neg_ne_zero.mpr hne), abs_neg]
    dsimp only at h ⊢
    split at h
    · cases h
    · rename_i hlt
      rw [if_neg hlt, ← Option.some.inj h]
      obtain hneg | hpos := lt_or_gt_of_ne hne
      · rw [if_pos hneg, if_neg (by linarith), neg_neg]
      · rw [if_pos (neg_lt_zero.mpr hpos), if_neg (not_lt.mpr hpos.le)]

/-- A double is read again from its text, which is a number. -/
theorem IsDouble.numberToString {q : ℚ} (h : IsDouble q) :
  IsNumber (numberToString q) ∧ roundDouble (literalValue (numberToString q)) = some q
  := by
  have hpositive : ∀ {x : ℚ}, IsDouble x → 0 < x → ∃ int frac exp, IsLiteral int frac exp
      ∧ positiveToString x = int ++ (frac ++ exp)
      ∧ roundDouble (literalValue (int ++ (frac ++ exp))) = some x := by
    intro x hx hpos
    obtain ⟨s, p, hsp, hs, hround⟩ := hx.shortest_eq hpos
    obtain ⟨int, frac, exp, hlit, hformat, hvalue⟩ := exists_format_eq hs p
    refine ⟨int, frac, exp, hlit, ?_, ?_⟩
    · rw [positiveToString, hsp]
      exact hformat
    · rw [hlit.literalValue_eq, hvalue, hround]
  unfold JsNumber.numberToString
  obtain hneg | rfl | hpos := lt_trichotomy q 0
  · rw [if_neg hneg.ne, if_pos hneg]
    have hdouble : IsDouble (-q) := roundDouble_neg h
    obtain ⟨int, frac, exp, hlit, htext, hround⟩ := hpositive hdouble (by linarith)
    rw [htext]
    refine ⟨hlit.isNumber_neg, ?_⟩
    have hback := roundDouble_neg hround
    rw [neg_neg] at hback
    rw [hlit.literalValue_neg, hback]
  · rw [if_pos rfl]
    exact ⟨isNumber_decimal 0, by decide +kernel⟩
  · rw [if_neg hpos.ne', if_neg (not_lt.mpr hpos.le)]
    obtain ⟨int, frac, exp, hlit, htext, hround⟩ := hpositive h hpos
    rw [htext]
    exact ⟨hlit.isNumber, hround⟩

/-! ### What is read -/

/-- A multiple of a power of two that is not too small is a double, if the factor has no more than
the bits of one. -/
theorem isDouble_of_lt {m e : Int} (hpos : 0 < m) (hm : m < 2 ^ 53) (he : -1074 ≤ e)
    (hlt : (m : ℚ) * 2 ^ e < 2 ^ 1024) :
  IsDouble (m * 2 ^ e)
  := by
  have hmul : (0 : ℚ) < m * 2 ^ e := mul_pos (by exact_mod_cast hpos) (zpow_pos (by norm_num) _)
  have hlog : Int.log 2 ((m : ℚ) * 2 ^ e) < 53 + e := by
    apply (Int.lt_zpow_iff_log_lt (by norm_num) hmul).mp
    push_cast
    rw [zpow_add₀ (by norm_num)]
    apply mul_lt_mul_of_pos_right _ (zpow_pos (by norm_num) _)
    exact_mod_cast hm
  obtain ⟨j, hj⟩ : ∃ j : Nat, e = max (Int.log 2 ((m : ℚ) * 2 ^ e) - 52) (-1074) + j := by
    obtain ⟨j, hj⟩ := Int.eq_ofNat_of_zero_le
      (show 0 ≤ e - max (Int.log 2 ((m : ℚ) * 2 ^ e) - 52) (-1074) by omega)
    exact ⟨j, by omega⟩
  rw [IsDouble, roundDouble, if_neg hmul.ne', abs_of_pos hmul]
  generalize max (Int.log 2 ((m : ℚ) * 2 ^ e) - 52) (-1074) = e' at hj
  have hwhole : (m : ℚ) * 2 ^ e / 2 ^ e' = ((m * 2 ^ j : Int) : ℚ) := by
    rw [hj, zpow_add₀ (by norm_num), zpow_natCast, div_eq_iff (zpow_pos (by norm_num) _).ne']
    push_cast
    ring
  have hback : ((m * 2 ^ j : Int) : ℚ) * 2 ^ e' = m * 2 ^ e := by
    rw [← hwhole, div_mul_cancel₀ _ (zpow_pos (by norm_num) _).ne']
  simp only [hwhole, roundEven_intCast, hback]
  rw [if_neg (not_le.mpr hlt), if_neg (not_lt.mpr hmul.le)]

/-- What a number is read as is a double. -/
theorem isDouble_of_roundDouble {x q : ℚ} (h : roundDouble x = some q) : IsDouble q
  := by
  obtain rfl | hne := eq_or_ne x 0
  · rw [roundDouble, if_pos rfl] at h
    rw [← Option.some.inj h, IsDouble, roundDouble, if_pos rfl]
  have hmin : -1074 ≤ max (Int.log 2 |x| - 52) (-1074) := le_max_right _ _
  have hbelow : |x| / 2 ^ max (Int.log 2 |x| - 52) (-1074) < 2 ^ 53 := by
    rw [div_lt_iff₀ (zpow_pos (by norm_num) _)]
    apply lt_of_lt_of_le (Int.lt_zpow_succ_log_self (by norm_num : 1 < 2) |x|)
    push_cast
    rw [← zpow_natCast, ← zpow_add₀ (by norm_num)]
    apply zpow_le_zpow_right₀ (by norm_num)
    push_cast
    omega
  have hnonneg : 0 ≤ |x| / 2 ^ max (Int.log 2 |x| - 52) (-1074) :=
    div_nonneg (abs_nonneg x) (zpow_pos (by norm_num) _).le
  rw [roundDouble, if_neg hne] at h
  dsimp only at h
  generalize max (Int.log 2 |x| - 52) (-1074) = e at h hmin hbelow hnonneg
  generalize |x| / 2 ^ e = y at h hbelow hnonneg
  have hfloor : 0 ≤ ⌊y⌋ ∧ ⌊y⌋ < 2 ^ 53 := by
    use Int.floor_nonneg.mpr hnonneg
    apply Int.floor_lt.mpr
    exact_mod_cast hbelow
  have hround : 0 ≤ roundEven y ∧ roundEven y ≤ 2 ^ 53 := by
    unfold roundEven
    dsimp only
    split_ifs <;> omega
  generalize roundEven y = m at h hround
  split at h
  · cases h
  · rename_i hlt
    have hdouble : IsDouble (m * 2 ^ e) := by
      obtain hzero | hpos := hround.1.eq_or_lt
      · rw [← hzero, Int.cast_zero, zero_mul, IsDouble, roundDouble, if_pos rfl]
      · obtain hm | hm := hround.2.lt_or_eq
        · exact isDouble_of_lt hpos hm hmin (not_le.mp hlt)
        · have hhalf : (m : ℚ) * 2 ^ e = ((2 ^ 52 : Int) : ℚ) * 2 ^ (e + 1) := by
            rw [hm, zpow_add₀ (by norm_num), zpow_one]
            push_cast
            ring
          rw [hhalf] at hlt ⊢
          exact isDouble_of_lt (by norm_num) (by norm_num) (by omega) (not_le.mp hlt)
    have hq := Option.some.inj h
    split at hq
    · rw [← hq]
      exact roundDouble_neg hdouble
    · rw [← hq]
      exact hdouble

/-- A number that is not infinite is read again from its text, which is a number. -/
theorem toString_spec {l : List Char} {q : ℚ} (h : roundDouble (literalValue l) = some q) :
  toString l = numberToString q ∧ IsNumber (toString l)
    ∧ roundDouble (literalValue (toString l)) = some q
  := by
  have htext : toString l = numberToString q := by rw [toString, h]
  have hread := (isDouble_of_roundDouble h).numberToString
  rw [htext]
  exact ⟨rfl, hread⟩

/-- Its text is that of the number that is read from it. -/
theorem toString_toString {l : List Char} {q : ℚ} (h : roundDouble (literalValue l) = some q) :
  toString (toString l) = toString l
  := by
  obtain ⟨htext, -, hread⟩ := toString_spec h
  rw [(toString_spec hread).1, htext]

end JsNumber
