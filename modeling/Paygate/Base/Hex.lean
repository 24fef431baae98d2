import Mathlib.Tactic.Common

/-!
# Hexadecimal text

`hexEncode` writes each byte as two lower-case hexadecimal digits, and `hexDecode` reads
such digits of either case back.
-/

/-- The lower-case hexadecimal digit of a number below sixteen. -/
def hexDigit (n : Nat) : Char :=
  if n < 10 then Char.ofNat (48 + n) else Char.ofNat (87 + n)

/-- Two lower-case hexadecimal digits for each byte. -/
def hexEncode (bytes : List UInt8) : List Char :=
  bytes.flatMap fun b => [hexDigit (b.toNat / 16), hexDigit (b.toNat % 16)]

@[simp]
theorem hexEncode_length (bytes : List UInt8) :
  (hexEncode bytes).length = 2 * bytes.length
  := by
  induction bytes with
  | nil => rfl
  | cons b bs ih =>
      simp only [hexEncode, List.flatMap_cons, List.length_append, List.length_cons,
        List.length_nil] at ih ⊢
      omega

/-- The value of a hexadecimal digit. -/
def hexValue (c : Char) : Option Nat :=
  if '0' ≤ c ∧ c ≤ '9' then some (c.toNat - 48)
  else if 'a' ≤ c ∧ c ≤ 'f' then some (c.toNat - 87)
  else if 'A' ≤ c ∧ c ≤ 'F' then some (c.toNat - 55)
  else none

/-- The bytes of pairs of hexadecimal digits. -/
def hexDecode : List Char → Option (List UInt8)
  | [] => some []
  | [_] => none
  | a :: b :: s => do
      let x ← hexValue a
      let y ← hexValue b
      let bs ← hexDecode s
      some (.ofNat (x * 16 + y) :: bs)

theorem hexValue_hexDigit {n : Nat} (h : n < 16) : hexValue (hexDigit n) = some n
  := by
  decide +revert

/-- The digits of bytes are read back. -/
theorem hexDecode_hexEncode (bytes : List UInt8) : hexDecode (hexEncode bytes) = some bytes
  := by
  induction bytes with
  | nil => rfl
  | cons b bs ih =>
      have hlt := b.toNat_lt
      have hb : b.toNat / 16 * 16 + b.toNat % 16 = b.toNat := by omega
      change hexDecode (hexDigit (b.toNat / 16) :: hexDigit (b.toNat % 16) :: hexEncode bs) = _
      rw [hexDecode, hexValue_hexDigit (by omega), hexValue_hexDigit (by omega), ih]
      simp only [Option.bind_eq_bind, Option.bind_some]
      rw [hb, UInt8.ofNat_toNat]

/-- Bytes are determined by their digits. -/
theorem hexEncode_injective : Function.Injective hexEncode
  := by
  intro x y h
  have hxy := congrArg hexDecode h
  rw [hexDecode_hexEncode, hexDecode_hexEncode] at hxy
  exact Option.some.inj hxy

/-- A property of the sixteen digits holds of all digits of bytes. -/
theorem forall_mem_hexEncode {p : Char → Prop} (h : ∀ n < 16, p (hexDigit n)) (bytes : List UInt8) :
    ∀ c ∈ hexEncode bytes, p c
  := by
  intro c hc
  obtain ⟨b, -, hc⟩ := List.mem_flatMap.mp hc
  have hlt := b.toNat_lt
  simp only [List.mem_cons, List.not_mem_nil, or_false] at hc
  obtain rfl | rfl := hc
  · exact h _ (by omega)
  · exact h _ (by omega)
