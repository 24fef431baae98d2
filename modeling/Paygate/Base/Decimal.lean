import Mathlib.Algebra.Order.Group.Nat
import Paygate.Base.GoJson

/-!
# Decimal numbers with a sign

The number that a text of digits denotes, however large it is.  Parsers for machine integers give
this number where it is in their range, so that two of them can be compared by their ranges.
-/

namespace Text

open Json

/-- The number a text denotes: digits, perhaps after a sign. -/
def signedNumber (s : List Char) : Option Int :=
  let sign := parseSign ['+', '-'] s
  if sign.2 ≠ [] ∧ sign.2.all Char.isDigit then
    some (if sign.1 = ['-'] then -Nat.ofDigitChars 10 sign.2 0 else Nat.ofDigitChars 10 sign.2 0)
  else none

/-- A digit is a character below 128. -/
theorem toNat_lt_of_isDigit {c : Char} (h : c.isDigit = true) : c.toNat < 128
  := by
  have hle : c ≤ '9' := of_decide_eq_true (Bool.and_eq_true_iff.mp h).2
  have hnine : c.toNat ≤ ('9').toNat := hle
  exact hnine.trans_lt (by decide)

/-- The text of a number is of characters below 128. -/
theorem signedNumber_ascii {s : List Char} {n : Int} (h : signedNumber s = some n) :
  ∀ c ∈ s, c.toNat < 128
  := by
  rw [signedNumber] at h
  split at h
  · rename_i hdigits
    have hall : ∀ c ∈ (parseSign ['+', '-'] s).2, c.toNat < 128 :=
      fun c hc => toNat_lt_of_isDigit (List.all_eq_true.mp hdigits.2 c hc)
    cases s with
    | nil => exact List.forall_mem_nil _
    | cons c s =>
        rw [parseSign] at hall
        split at hall
        · rename_i hsign
          apply List.forall_mem_cons.mpr ⟨_, hall⟩
          obtain rfl | hminus := List.mem_cons.mp hsign
          · decide
          · obtain rfl := List.mem_singleton.mp hminus
            decide
        · exact hall
  · cases h

/-- Bytes that are the text of a number are its encoding. -/
theorem eq_utf8_of_signedNumber {bs : List UInt8} {n : Int} (h : signedNumber (latin1 bs) = some n) :
  bs = utf8 (latin1 bs)
  := by
  symm
  rw [utf8_eq_map (signedNumber_ascii h), latin1, List.map_map]
  conv_rhs => rw [← List.map_id bs]
  apply List.map_congr_left
  intro b _
  have hb : b.toNat < 0xD800 := b.toNat_lt.trans (by decide)
  rw [Function.comp_apply, toNat_ofNat (.inl hb), UInt8.ofNat_toNat, id]

/-- The number of a text may be read off its bytes. -/
theorem signedNumber_latin1_utf8 (s : List Char) : signedNumber (latin1 (utf8 s)) = signedNumber s
  := by
  apply Option.ext
  intro n
  constructor
  · intro h
    rw [← utf8_injective (eq_utf8_of_signedNumber h)] at h
    exact h
  · intro h
    rw [latin1_utf8 (signedNumber_ascii h)]
    exact h

end Text
