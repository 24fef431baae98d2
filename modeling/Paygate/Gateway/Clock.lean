import Mathlib.Tactic.IntervalCases
import Paygate.Gateway.Receipt

/-!
# Reading times

How Go reads the RFC 3339 form of a time.  Reading undoes writing, for every time in UTC
whose year has four digits: the calendar date of a day determines the day, and the fraction
of a second is read with the zeros it was written without.
-/

namespace Paygate.Gateway

open Text Json

/-! ### The calendar -/

/-- Whether a year has a 29th of February. -/
def isLeap (year : Int) : Bool :=
  year % 4 = 0 && (year % 100 ≠ 0 || year % 400 = 0)

/-- The number of days of a month. -/
def daysIn (month : Nat) (year : Int) : Nat :=
  if month = 2 then (if isLeap year then 29 else 28)
  else if month = 4 ∨ month = 6 ∨ month = 9 ∨ month = 11 then 30
  else 31

/-- The day of a calendar date, counted from the epoch. -/
def civilDay (year : Int) (month day : Nat) : Int :=
  let y := year - (if month ≤ 2 then 1 else 0)
  let yoe := (y % 400).toNat
  let mp := if 2 < month then month - 3 else month + 9
  let doy := (153 * mp + 2) / 5 + (day - 1)
  y / 400 * 146097 + ↑(365 * yoe + yoe / 4 - yoe / 100 + doy) - 719468

/-- The year of a day within its era of 400 years starts before the day and ends after it. -/
theorem yearOfEra_bounds {doe : Nat} (h : doe < 146097) :
  let yoe := (doe - doe / 1460 + doe / 36524 - doe / 146096) / 365
  yoe < 400 ∧ 365 * yoe + yoe / 4 - yoe / 100 ≤ doe
    ∧ doe < 365 * (yoe + 1) + (yoe + 1) / 4 - (yoe + 1) / 100 + (yoe + 1) / 400
  := by
  obtain hlt | rfl : doe < 146096 ∨ doe = 146096 := by omega
  · intro yoe
    obtain ⟨c, hc⟩ : ∃ c, doe / 36524 = c := ⟨_, rfl⟩
    obtain ⟨q, hq⟩ : ∃ q, doe / 1460 = q := ⟨_, rfl⟩
    have hyoe : yoe = (doe - q + c) / 365 := by
      have hzero : doe / 146096 = 0 := by omega
      simp only [yoe, hc, hq, hzero]
      omega
    clear_value yoe
    have hlow : 100 * c ≤ yoe := by omega
    have hhigh : yoe ≤ 100 * c + 99 := by omega
    have hcentury : yoe / 100 = c := by omega
    have hle : c ≤ 3 := by omega
    refine ⟨by omega, ?_, ?_⟩
    · rw [hcentury]
      omega
    · obtain hinner | rfl : yoe < 100 * c + 99 ∨ yoe = 100 * c + 99 := by omega
      · have hnext : (yoe + 1) / 100 = c := by omega
        have hera : (yoe + 1) / 400 = 0 := by omega
        obtain ⟨r, hr⟩ : ∃ r, doe - q + c = 365 * yoe + r := ⟨(doe - q + c) % 365, by omega⟩
        rw [hnext, hera]
        omega
      · omega
  · decide

/-- The last day of a year that starts in March is the 29th of February. -/
theorem dayOfYear_bounds {yoe doe doy : Nat} (hyoe : yoe < 400)
    (hge : 365 * yoe + yoe / 4 - yoe / 100 ≤ doe)
    (hlt : doe < 365 * (yoe + 1) + (yoe + 1) / 4 - (yoe + 1) / 100 + (yoe + 1) / 400)
    (hdoy : doe - (365 * yoe + yoe / 4 - yoe / 100) = doy) :
  doy ≤ 365 ∧ (doy = 365 →
    (yoe + 1) % 4 = 0 ∧ ((yoe + 1) % 100 ≠ 0 ∨ (yoe + 1) % 400 = 0))
  := by
  have hfour : (yoe + 1) / 4 = yoe / 4 + if (yoe + 1) % 4 = 0 then 1 else 0 := by
    split_ifs <;> omega
  have hhundred : (yoe + 1) / 100 = yoe / 100 + if (yoe + 1) % 100 = 0 then 1 else 0 := by
    split_ifs <;> omega
  have hera : (yoe + 1) / 400 = if (yoe + 1) % 400 = 0 then 1 else 0 := by
    split_ifs <;> omega
  rw [hfour, hhundred, hera] at hlt
  split_ifs at hlt <;> omega

/-- The month of a day in a year that starts in March. -/
theorem monthOfYear_bounds {doy : Nat} (h : doy ≤ 365) :
  let mp := (5 * doy + 2) / 153
  mp < 12 ∧ (153 * mp + 2) / 5 ≤ doy ∧ doy < (153 * (mp + 1) + 2) / 5
  := by
  intro mp
  have hmp : mp = (5 * doy + 2) / 153 := rfl
  clear_value mp
  omega

/-- A day of a month is one of its days. -/
theorem dayOfMonth_le {doy mp month : Nat} {year : Int} (h : doy ≤ 365)
    (hleap : doy = 365 → isLeap year = true) (hmp : mp < 12) (hge : (153 * mp + 2) / 5 ≤ doy)
    (hlt : doy < (153 * (mp + 1) + 2) / 5)
    (hmonth : (if mp < 10 then mp + 3 else mp - 9) = month) :
  doy - (153 * mp + 2) / 5 + 1 ≤ daysIn month year
  := by
  rw [daysIn]
  generalize isLeap year = leap at hleap ⊢
  interval_cases mp
  case «11» =>
    obtain rfl : 2 = month := hmonth
    cases leap with
    | true =>
        simp only [if_true]
        omega
    | false =>
        have hne : doy ≠ 365 := fun heq => absurd (hleap heq) Bool.false_ne_true
        simp only [if_true, Bool.false_eq_true, if_false]
        omega
  all_goals
    simp only [Nat.reduceLT, if_true, if_false, Nat.reduceAdd, Nat.reduceSub] at hmonth
    subst hmonth
    simp only [Nat.reduceEqDiff, if_false, or_self, or_true, true_or, if_true]
    omega

/-- The calendar date of a day is a date, and the date of that day only. -/
theorem civilDay_civilDate (day : Int) :
  civilDay (civilDate day).1 (civilDate day).2.1 (civilDate day).2.2 = day
    ∧ (1 ≤ (civilDate day).2.1 ∧ (civilDate day).2.1 ≤ 12)
    ∧ 1 ≤ (civilDate day).2.2
    ∧ (civilDate day).2.2 ≤ daysIn (civilDate day).2.1 (civilDate day).1
  := by
  simp only [civilDate]
  obtain ⟨era, hera⟩ : ∃ era, (day + 719468) / 146097 = era := ⟨_, rfl⟩
  obtain ⟨doe, hdoe⟩ : ∃ doe, ((day + 719468) % 146097).toNat = doe := ⟨_, rfl⟩
  have hday : day = era * 146097 + doe - 719468 := by omega
  rw [hera, hdoe]
  obtain ⟨hyoe, hstart, hend⟩ := yearOfEra_bounds (show doe < 146097 by omega)
  generalize (doe - doe / 1460 + doe / 36524 - doe / 146096) / 365 = yoe at hyoe hstart hend ⊢
  generalize hdoy : doe - (365 * yoe + yoe / 4 - yoe / 100) = doy
  obtain ⟨hle, hlast⟩ := dayOfYear_bounds hyoe hstart hend hdoy
  obtain ⟨hmp, hfirst, hnext⟩ := monthOfYear_bounds hle
  generalize (5 * doy + 2) / 153 = mp at hmp hfirst hnext ⊢
  generalize hmonth : (if mp < 10 then mp + 3 else mp - 9) = month
  refine ⟨?_, ?_, by omega, ?_⟩
  · have hback : (if 2 < month then month - 3 else month + 9) = mp := by
      rw [← hmonth]
      split_ifs <;> omega
    have hyear : (yoe : Int) + era * 400 + (if month ≤ 2 then 1 else 0)
        - (if month ≤ 2 then 1 else 0) = yoe + era * 400 := by omega
    have hdiv : ((yoe : Int) + era * 400) / 400 = era := by omega
    have hmod : (((yoe : Int) + era * 400) % 400).toNat = yoe := by omega
    have hrest : (153 * mp + 2) / 5 + (doy - (153 * mp + 2) / 5 + 1 - 1) = doy := by omega
    simp only [civilDay, hback, hyear, hdiv, hmod, hrest]
    omega
  · split_ifs at hmonth <;> omega
  · apply dayOfMonth_le hle _ hmp hfirst hnext hmonth
    intro heq
    have hfeb : (if month ≤ 2 then (1 : Int) else 0) = 1 := by
      apply if_pos
      split_ifs at hmonth <;> omega
    have hleap := hlast heq
    rw [hfeb, isLeap]
    simp only [Bool.and_eq_true, Bool.or_eq_true, decide_eq_true_eq]
    omega

/-! ### Reading -/

/-- A number of some digits in a range. -/
def timeField (width min max : Nat) (s : List Char) : Option (Nat × List Char) :=
  if (s.take width).length = width ∧ (s.take width).all Char.isDigit then
    let n := Nat.ofDigitChars 10 (s.take width) 0
    if min ≤ n ∧ n ≤ max then some (n, s.drop width) else none
  else none

/-- A mark between two numbers. -/
def timeMark (c : Char) : List Char → Option (List Char)
  | d :: s => if d = c then some s else none
  | [] => none

/-- The nanoseconds of a fraction, of which nine digits count. -/
def parseNanoseconds (s : List Char) : Nat × List Char :=
  match s with
  | '.' :: c :: rest =>
      if c.isDigit then
        let digits := (c :: rest).takeWhile Char.isDigit
        (Nat.ofDigitChars 10 (digits.take 9) 0 * 10 ^ (9 - digits.length),
          (c :: rest).dropWhile Char.isDigit)
      else (0, s)
  | _ => (0, s)

/-- The time of a date and a time of day in UTC. -/
def Time.ofDate (year : Int) (month day hour minute second nanosecond : Nat) : Time where
  unixNano := (civilDay year month day * 86400 + ↑(hour * 3600 + minute * 60 + second))
    * 1000000000 + nanosecond

/-- The time in UTC a text is the RFC 3339 form of. -/
def parseRFC3339 (s : List Char) : Option Time := do
  let (year, s) ← timeField 4 0 9999 s
  let s ← timeMark '-' s
  let (month, s) ← timeField 2 1 12 s
  let s ← timeMark '-' s
  let (day, s) ← timeField 2 1 (daysIn month year) s
  let s ← timeMark 'T' s
  let (hour, s) ← timeField 2 0 23 s
  let s ← timeMark ':' s
  let (minute, s) ← timeField 2 0 59 s
  let s ← timeMark ':' s
  let (second, s) ← timeField 2 0 59 s
  let (nanosecond, s) := parseNanoseconds s
  if s = ['Z'] then some (.ofDate year month day hour minute second nanosecond) else none

/-! ### Reading what was written -/

theorem length_padDecimal {width n : Nat} (hwidth : 0 < width) (h : n < 10 ^ width) :
  (padDecimal width n).length = width
  := by
  have hle : (decimal n).length ≤ width :=
    (Nat.length_toDigits_le_iff (by decide) hwidth).mpr h
  rw [padDecimal, List.length_append, List.length_replicate]
  omega

theorem ofDigitChars_padDecimal (width n : Nat) : Nat.ofDigitChars 10 (padDecimal width n) 0 = n
  := by
  rw [padDecimal, Nat.ofDigitChars_append, Nat.ofDigitChars_replicate_zero, Nat.mul_zero, decimal,
    Nat.ofDigitChars_ten_toDigits]

/-- A number that was filled with zeros is read. -/
theorem timeField_padDecimal {width min max n : Nat} (hwidth : 0 < width) (h : n < 10 ^ width)
    (hmin : min ≤ n) (hmax : n ≤ max) (rest : List Char) :
  timeField width min max (padDecimal width n ++ rest) = some (n, rest)
  := by
  have hlength := length_padDecimal hwidth h
  have htake : (padDecimal width n ++ rest).take width = padDecimal width n :=
    List.take_left' hlength
  have hdrop : (padDecimal width n ++ rest).drop width = rest := List.drop_left' hlength
  have hall : (padDecimal width n).all Char.isDigit = true :=
    List.all_eq_true.mpr fun c hc => isDigit_of_mem_padDecimal hc
  simp only [timeField, htake, hdrop, hlength, hall, ofDigitChars_padDecimal, hmin, hmax, and_self,
    if_true]

@[simp]
theorem timeMark_cons (c : Char) (s : List Char) : timeMark c (c :: s) = some s
  := if_pos rfl

/-- The digits of nanoseconds are those of the fraction and the zeros it was written without. -/
theorem exists_padDecimal_eq {n : Nat} (hn : n ≠ 0) (h : n < 1000000000) :
  ∃ digits k, fraction n = '.' :: digits ∧ padDecimal 9 n = digits ++ List.replicate k '0'
    ∧ digits ≠ [] ∧ digits.length + k = 9
  := by
  obtain ⟨k, hk⟩ : ∃ k, (padDecimal 9 n).reverse.takeWhile (· = '0') = List.replicate k '0' := by
    refine ⟨_, List.eq_replicate_of_mem fun c hc => ?_⟩
    exact of_decide_eq_true (List.all_eq_true.mp List.all_takeWhile c hc)
  have hsplit := List.takeWhile_append_dropWhile (p := (· = '0')) (l := (padDecimal 9 n).reverse)
  have hpad : padDecimal 9 n
      = ((padDecimal 9 n).reverse.dropWhile (· = '0')).reverse ++ List.replicate k '0' := by
    have hreverse := congrArg List.reverse hsplit
    rw [hk, List.reverse_append, List.reverse_reverse, List.reverse_replicate] at hreverse
    exact hreverse.symm
  have hlength : (padDecimal 9 n).length = 9 := length_padDecimal (by decide) h
  have hvalue := ofDigitChars_padDecimal 9 n
  refine ⟨((padDecimal 9 n).reverse.dropWhile (· = '0')).reverse, k, ?_, hpad, ?_, ?_⟩
  · rw [fraction, if_neg hn]
  · intro hnil
    rw [hpad, hnil, List.nil_append, Nat.ofDigitChars_replicate_zero, Nat.mul_zero] at hvalue
    exact hn hvalue.symm
  · rw [hpad, List.length_append, List.length_replicate] at hlength
    exact hlength

/-- The nanoseconds of the fraction that was written are read. -/
theorem parseNanoseconds_fraction {n : Nat} (h : n < 1000000000) :
  parseNanoseconds (fraction n ++ ['Z']) = (n, ['Z'])
  := by
  obtain rfl | hn := eq_or_ne n 0
  · rfl
  · obtain ⟨digits, k, hfraction, hpad, hne, hlength⟩ := exists_padDecimal_eq hn h
    obtain ⟨c, cs, rfl⟩ := List.exists_cons_of_ne_nil hne
    have hdigit : ∀ d ∈ c :: cs, d.isDigit = true := by
      intro d hd
      have hmem : d ∈ padDecimal 9 n := by
        rw [hpad]
        exact List.mem_append_left _ hd
      exact isDigit_of_mem_padDecimal hmem
    have htake : (c :: (cs ++ ['Z'])).takeWhile Char.isDigit = c :: cs := by
      rw [← List.cons_append, List.takeWhile_append_of_pos hdigit]
      exact List.append_nil _
    have hdrop : (c :: (cs ++ ['Z'])).dropWhile Char.isDigit = ['Z'] := by
      rw [← List.cons_append, List.dropWhile_append_of_pos hdigit]
      rfl
    have hnine : (c :: cs).take 9 = c :: cs := List.take_of_length_le (by omega)
    have hvalue := ofDigitChars_padDecimal 9 n
    rw [hpad, Nat.ofDigitChars_append, Nat.ofDigitChars_replicate_zero] at hvalue
    have hk : 9 - (c :: cs).length = k := by omega
    rw [hfraction, List.cons_append, List.cons_append, parseNanoseconds,
      if_pos (hdigit c List.mem_cons_self)]
    simp only [htake, hdrop, hnine, hk, Nat.mul_comm _ (10 ^ k), hvalue]

/-- The RFC 3339 form of a time in UTC is read as the time. -/
theorem parseRFC3339_format {t : Time} (h : 0 ≤ t.date.1 ∧ t.date.1 ≤ 9999) :
  parseRFC3339 t.format = some t
  := by
  obtain ⟨hday, ⟨hmonth, hmonth'⟩, hdom, hdom'⟩ := civilDay_civilDate (t.unix / 86400)
  change civilDay t.date.1 t.date.2.1 t.date.2.2 = t.unix / 86400 at hday
  change 1 ≤ t.date.2.1 at hmonth
  change t.date.2.1 ≤ 12 at hmonth'
  change 1 ≤ t.date.2.2 at hdom
  change t.date.2.2 ≤ daysIn t.date.2.1 t.date.1 at hdom'
  have hdays : daysIn t.date.2.1 t.date.1 ≤ 31 := by
    unfold daysIn
    split_ifs <;> omega
  have hyear : ((t.date.1.toNat : Nat) : Int) = t.date.1 := Int.toNat_of_nonneg h.1
  have hnano : (t.unixNano % 1000000000).toNat < 1000000000 := by omega
  have htime : Time.ofDate t.date.1 t.date.2.1 t.date.2.2 ((t.unix % 86400).toNat / 3600)
      ((t.unix % 86400).toNat / 60 % 60) ((t.unix % 86400).toNat % 60)
      (t.unixNano % 1000000000).toNat = t := by
    rw [Time.ofDate, hday]
    congr 1
    simp only [Time.unix]
    omega
  have hform : t.format = padDecimal 4 t.date.1.toNat ++ ('-' :: (padDecimal 2 t.date.2.1
      ++ ('-' :: (padDecimal 2 t.date.2.2 ++ ('T' :: (padDecimal 2 ((t.unix % 86400).toNat / 3600)
      ++ (':' :: (padDecimal 2 ((t.unix % 86400).toNat / 60 % 60)
      ++ (':' :: (padDecimal 2 ((t.unix % 86400).toNat % 60)
      ++ (fraction (t.unixNano % 1000000000).toNat ++ ['Z']))))))))))) := by
    simp only [Time.format, List.append_assoc, List.cons_append]
  rw [hform, parseRFC3339]
  simp only [timeField_padDecimal (show 0 < 4 by decide) (show t.date.1.toNat < 10 ^ 4 by omega)
      (Nat.zero_le _) (show t.date.1.toNat ≤ 9999 by omega),
    timeField_padDecimal (show 0 < 2 by decide) (show t.date.2.1 < 10 ^ 2 by omega) hmonth hmonth',
    hyear,
    timeField_padDecimal (show 0 < 2 by decide) (show t.date.2.2 < 10 ^ 2 by omega) hdom hdom',
    timeField_padDecimal (show 0 < 2 by decide)
      (show (t.unix % 86400).toNat / 3600 < 10 ^ 2 by omega) (Nat.zero_le _)
      (show (t.unix % 86400).toNat / 3600 ≤ 23 by omega),
    timeField_padDecimal (show 0 < 2 by decide)
      (show (t.unix % 86400).toNat / 60 % 60 < 10 ^ 2 by omega) (Nat.zero_le _)
      (show (t.unix % 86400).toNat / 60 % 60 ≤ 59 by omega),
    timeField_padDecimal (show 0 < 2 by decide)
      (show (t.unix % 86400).toNat % 60 < 10 ^ 2 by omega) (Nat.zero_le _)
      (show (t.unix % 86400).toNat % 60 ≤ 59 by omega),
    timeMark_cons, parseNanoseconds_fraction hnano, Option.bind_eq_bind, Option.bind_some, if_true,
    htime]

end Paygate.Gateway
