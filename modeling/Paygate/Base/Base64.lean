import Mathlib.Tactic.Common

/-!
# Base64

The standard encoding with padding: three bytes become four characters.  Decoding undoes
it, be it strict or forgiving, and everything that was encoded has the form a strict
decoder asks for.
-/

namespace Base64

/-- The character for six bits. -/
def encodeDigit (n : Nat) : Char :=
  if n < 26 then .ofNat (65 + n)
  else if n < 52 then .ofNat (71 + n)
  else if n < 62 then .ofNat (n - 4)
  else if n = 62 then '+'
  else '/'

/-- The six bits of a character. -/
def decodeDigit (c : Char) : Option Nat :=
  if 'A' ≤ c ∧ c ≤ 'Z' then some (c.toNat - 65)
  else if 'a' ≤ c ∧ c ≤ 'z' then some (c.toNat - 71)
  else if '0' ≤ c ∧ c ≤ '9' then some (c.toNat + 4)
  else if c = '+' then some 62
  else if c = '/' then some 63
  else none

/-- The encoding of bytes. -/
def encode : List UInt8 → List Char
  | [] => []
  | [a] => [encodeDigit (a.toNat / 4), encodeDigit (a.toNat % 4 * 16), '=', '=']
  | [a, b] =>
      [encodeDigit (a.toNat / 4), encodeDigit (a.toNat % 4 * 16 + b.toNat / 16),
        encodeDigit (b.toNat % 16 * 4), '=']
  | a :: b :: c :: bs =>
      encodeDigit (a.toNat / 4) :: encodeDigit (a.toNat % 4 * 16 + b.toNat / 16)
        :: encodeDigit (b.toNat % 16 * 4 + c.toNat / 64) :: encodeDigit (c.toNat % 64) :: encode bs

/-- The bytes of a last group of characters, with the bits beyond the last byte dropped. -/
def decodeLast (a b c d : Char) : Option (List UInt8) := do
  let x ← decodeDigit a
  let y ← decodeDigit b
  if c = '=' ∧ d = '=' then some [.ofNat (x * 4 + y / 16)]
  else
    let z ← decodeDigit c
    if d = '=' then some [.ofNat (x * 4 + y / 16), .ofNat (y % 16 * 16 + z / 4)]
    else
      let w ← decodeDigit d
      some [.ofNat (x * 4 + y / 16), .ofNat (y % 16 * 16 + z / 4), .ofNat (z % 4 * 64 + w)]

/-- The bytes of a text in groups of four characters, the last one possibly padded. -/
def decode : List Char → Option (List UInt8)
  | [] => some []
  | [a, b, c, d] => decodeLast a b c d
  | a :: b :: c :: d :: s => do
      let x ← decodeDigit a
      let y ← decodeDigit b
      let z ← decodeDigit c
      let w ← decodeDigit d
      let bs ← decode s
      some (.ofNat (x * 4 + y / 16) :: .ofNat (y % 16 * 16 + z / 4) :: .ofNat (z % 4 * 64 + w) :: bs)
  | _ => none

theorem decodeDigit_encodeDigit {n : Nat} (h : n < 64) : decodeDigit (encodeDigit n) = some n
  := by
  decide +revert

theorem encodeDigit_ne {n : Nat} (h : n < 64) : encodeDigit n ≠ '='
  := by
  decide +revert

/-- A group of four digits gives three bytes, whether or not it is the last. -/
theorem decode_group {x y z w : Nat} (hx : x < 64) (hy : y < 64) (hz : z < 64) (hw : w < 64)
    (s : List Char) :
  decode (encodeDigit x :: encodeDigit y :: encodeDigit z :: encodeDigit w :: s)
    = (decode s).map fun bs =>
        .ofNat (x * 4 + y / 16) :: .ofNat (y % 16 * 16 + z / 4) :: .ofNat (z % 4 * 64 + w) :: bs
  := by
  cases s with
  | nil =>
      simp only [decode, decodeLast, decodeDigit_encodeDigit hx, decodeDigit_encodeDigit hy,
        decodeDigit_encodeDigit hz, decodeDigit_encodeDigit hw, encodeDigit_ne hz,
        encodeDigit_ne hw, false_and, if_false, Option.bind_eq_bind, Option.bind_some,
        Option.map_some]
  | cons e s =>
      rw [decode]
      · simp only [decodeDigit_encodeDigit hx, decodeDigit_encodeDigit hy,
          decodeDigit_encodeDigit hz, decodeDigit_encodeDigit hw, Option.bind_eq_bind,
          Option.bind_some]
        cases decode (e :: s) with
        | none => rfl
        | some bs => rfl
      · simp

/-- Decoding undoes encoding. -/
theorem decode_encode (bs : List UInt8) : decode (encode bs) = some bs
  := by
  induction bs using encode.induct with
  | case1 => rfl
  | case2 a =>
      have ha := a.toNat_lt
      have hsum : a.toNat / 4 * 4 + a.toNat % 4 * 16 / 16 = a.toNat := by omega
      simp only [encode, decode, decodeLast,
        decodeDigit_encodeDigit (show a.toNat / 4 < 64 by omega),
        decodeDigit_encodeDigit (show a.toNat % 4 * 16 < 64 by omega), Option.bind_eq_bind,
        Option.bind_some, and_self, if_true, hsum, UInt8.ofNat_toNat]
  | case3 a b =>
      have ha := a.toNat_lt
      have hb := b.toNat_lt
      have hsum : a.toNat / 4 * 4 + (a.toNat % 4 * 16 + b.toNat / 16) / 16 = a.toNat := by omega
      have hsum' : (a.toNat % 4 * 16 + b.toNat / 16) % 16 * 16 + b.toNat % 16 * 4 / 4 = b.toNat := by
        omega
      simp only [encode, decode, decodeLast,
        decodeDigit_encodeDigit (show a.toNat / 4 < 64 by omega),
        decodeDigit_encodeDigit (show a.toNat % 4 * 16 + b.toNat / 16 < 64 by omega),
        decodeDigit_encodeDigit (show b.toNat % 16 * 4 < 64 by omega),
        encodeDigit_ne (show b.toNat % 16 * 4 < 64 by omega), false_and, if_false, if_true,
        Option.bind_eq_bind, Option.bind_some, hsum, hsum', UInt8.ofNat_toNat]
  | case4 a b c bs ih =>
      have ha := a.toNat_lt
      have hb := b.toNat_lt
      have hc := c.toNat_lt
      have hsum : a.toNat / 4 * 4 + (a.toNat % 4 * 16 + b.toNat / 16) / 16 = a.toNat := by omega
      have hsum' : (a.toNat % 4 * 16 + b.toNat / 16) % 16 * 16
          + (b.toNat % 16 * 4 + c.toNat / 64) / 4 = b.toNat := by omega
      have hsum'' : (b.toNat % 16 * 4 + c.toNat / 64) % 4 * 64 + c.toNat % 64 = c.toNat := by omega
      rw [encode, decode_group (by omega) (by omega) (by omega) (by omega), ih]
      simp only [Option.map_some, hsum, hsum', hsum'', UInt8.ofNat_toNat]

/-! ### The form of an encoding -/

/-- Whether a character is one of the sixty-four digits. -/
def isDigit (c : Char) : Bool :=
  (decodeDigit c).isSome

/-- Groups of four digits, the last one possibly with one or two of them replaced by
padding. -/
def isCanonical : List Char → Bool
  | [] => true
  | [a, b, c, d] =>
      isDigit a && isDigit b && (c = '=' && d = '=' || isDigit c && (d = '=' || isDigit d))
  | a :: b :: c :: d :: s => isDigit a && isDigit b && isDigit c && isDigit d && isCanonical s
  | _ => false

theorem isDigit_encodeDigit {n : Nat} (h : n < 64) : isDigit (encodeDigit n) = true
  := by
  rw [isDigit, decodeDigit_encodeDigit h]
  rfl

/-- An encoding has the form of one. -/
theorem isCanonical_encode (bs : List UInt8) : isCanonical (encode bs) = true
  := by
  induction bs using encode.induct with
  | case1 => rfl
  | case2 a =>
      have ha := a.toNat_lt
      simp [encode, isCanonical, isDigit_encodeDigit (show a.toNat / 4 < 64 by omega),
        isDigit_encodeDigit (show a.toNat % 4 * 16 < 64 by omega)]
  | case3 a b =>
      have ha := a.toNat_lt
      have hb := b.toNat_lt
      simp [encode, isCanonical, isDigit_encodeDigit (show a.toNat / 4 < 64 by omega),
        isDigit_encodeDigit (show a.toNat % 4 * 16 + b.toNat / 16 < 64 by omega),
        isDigit_encodeDigit (show b.toNat % 16 * 4 < 64 by omega)]
  | case4 a b c bs ih =>
      have ha := a.toNat_lt
      have hb := b.toNat_lt
      have hc := c.toNat_lt
      have h₁ := isDigit_encodeDigit (show a.toNat / 4 < 64 by omega)
      have h₂ := isDigit_encodeDigit (show a.toNat % 4 * 16 + b.toNat / 16 < 64 by omega)
      have h₃ := isDigit_encodeDigit (show b.toNat % 16 * 4 + c.toNat / 64 < 64 by omega)
      have h₄ := isDigit_encodeDigit (show c.toNat % 64 < 64 by omega)
      rw [encode]
      cases hs : encode bs with
      | nil => simp [isCanonical, h₁, h₂, h₃, h₄]
      | cons e s =>
          rw [hs] at ih
          rw [isCanonical, h₁, h₂, h₃, h₄, ih]
          · rfl
          · simp

/-! ### Forgiving decoding -/

/-- The white space a forgiving decoder skips. -/
def isWhitespace (c : Char) : Bool :=
  c = '\t' || c = '\n' || c = '\x0c' || c = '\r' || c = ' '

/-- The text without one or two characters of padding. -/
def dropPadding (s : List Char) : List Char :=
  match s.reverse with
  | '=' :: '=' :: t => t.reverse
  | '=' :: t => t.reverse
  | _ => s

/-- The bytes of a text that may have white space and lack its padding. -/
def forgivingDecode (value : List Char) : Option (List UInt8) :=
  let s := value.filter fun c => !isWhitespace c
  let s := if s.length % 4 = 0 then dropPadding s else s
  if s.length % 4 = 1 ∨ s.all isDigit = false then none
  else decode (s ++ List.replicate ((4 - s.length % 4) % 4) '=')

/-- An encoding consists of digits and the padding for them. -/
theorem exists_encode_eq (bs : List UInt8) :
  ∃ s k, encode bs = s ++ List.replicate k '=' ∧ s.all isDigit = true
    ∧ k < 3 ∧ (s.length + k) % 4 = 0
  := by
  induction bs using encode.induct with
  | case1 => exact ⟨[], 0, rfl, rfl, by decide, rfl⟩
  | case2 a =>
      have ha := a.toNat_lt
      refine ⟨[encodeDigit (a.toNat / 4), encodeDigit (a.toNat % 4 * 16)], 2, rfl, ?_, by decide,
        by simp⟩
      simp [isDigit_encodeDigit (show a.toNat / 4 < 64 by omega),
        isDigit_encodeDigit (show a.toNat % 4 * 16 < 64 by omega)]
  | case3 a b =>
      have ha := a.toNat_lt
      have hb := b.toNat_lt
      refine ⟨[encodeDigit (a.toNat / 4), encodeDigit (a.toNat % 4 * 16 + b.toNat / 16),
        encodeDigit (b.toNat % 16 * 4)], 1, rfl, ?_, by decide, by simp⟩
      simp [isDigit_encodeDigit (show a.toNat / 4 < 64 by omega),
        isDigit_encodeDigit (show a.toNat % 4 * 16 + b.toNat / 16 < 64 by omega),
        isDigit_encodeDigit (show b.toNat % 16 * 4 < 64 by omega)]
  | case4 a b c bs ih =>
      have ha := a.toNat_lt
      have hb := b.toNat_lt
      have hc := c.toNat_lt
      obtain ⟨s, k, hs, hall, hk, hlen⟩ := ih
      refine ⟨encodeDigit (a.toNat / 4) :: encodeDigit (a.toNat % 4 * 16 + b.toNat / 16)
        :: encodeDigit (b.toNat % 16 * 4 + c.toNat / 64) :: encodeDigit (c.toNat % 64) :: s, k,
        ?_, ?_, hk, ?_⟩
      · rw [encode, hs]
        rfl
      · simp only [List.all_cons, hall, Bool.and_true,
          isDigit_encodeDigit (show a.toNat / 4 < 64 by omega),
          isDigit_encodeDigit (show a.toNat % 4 * 16 + b.toNat / 16 < 64 by omega),
          isDigit_encodeDigit (show b.toNat % 16 * 4 + c.toNat / 64 < 64 by omega),
          isDigit_encodeDigit (show c.toNat % 64 < 64 by omega)]
      · simp only [List.length_cons]
        omega

/-- A digit is neither white space nor padding. -/
theorem ne_of_isDigit {c : Char} (h : isDigit c = true) : isWhitespace c = false ∧ c ≠ '='
  := by
  constructor
  · by_contra hws
    simp only [isWhitespace, Bool.not_eq_false, Bool.or_eq_true, decide_eq_true_eq] at hws
    rcases hws with (((rfl | rfl) | rfl) | rfl) | rfl
    all_goals exact absurd h (by decide)
  · rintro rfl
    exact absurd h (by decide)

/-- The padding of digits is dropped. -/
theorem dropPadding_append {s : List Char} (hs : s.all isDigit = true) {k : Nat} (hk : k < 3) :
  dropPadding (s ++ List.replicate k '=') = s
  := by
  have hhead : ∀ c t, s.reverse = c :: t → c ≠ '=' := by
    intro c t hrev
    have hmem : c ∈ s := List.mem_reverse.mp (hrev ▸ List.mem_cons_self)
    exact (ne_of_isDigit (List.all_eq_true.mp hs c hmem)).2
  have hone : ∀ t, s.reverse ≠ '=' :: t := fun t hrev => hhead '=' t hrev rfl
  unfold dropPadding
  rw [List.reverse_append, List.reverse_replicate]
  match k, hk with
  | 0, _ =>
      split
      · rename_i t hrev
        exact absurd hrev (hone _)
      · rename_i t _ hrev
        exact absurd hrev (hone _)
      · simp
  | 1, _ =>
      cases hrev : s.reverse with
      | nil => simpa using hrev.symm
      | cons c t =>
          have hne := hhead c t hrev
          have hs : s = (c :: t).reverse := by rw [← hrev, List.reverse_reverse]
          simp [List.replicate, hne, hs]
  | 2, _ => simp [List.replicate]

/-- Forgiving decoding undoes encoding. -/
theorem forgivingDecode_encode (bs : List UInt8) : forgivingDecode (encode bs) = some bs
  := by
  obtain ⟨s, k, hs, hall, hk, hlen⟩ := exists_encode_eq bs
  have hfilter : (encode bs).filter (fun c => !isWhitespace c) = encode bs := by
    apply List.filter_eq_self.mpr
    intro c hc
    rw [hs] at hc
    obtain hc | hc := List.mem_append.mp hc
    · rw [(ne_of_isDigit (List.all_eq_true.mp hall c hc)).1]
      rfl
    · rw [List.eq_of_mem_replicate hc]
      decide
  have hpad : (4 - s.length % 4) % 4 = k := by omega
  have hlen' : (encode bs).length % 4 = 0 := by
    rw [hs, List.length_append, List.length_replicate, hlen]
  have hdrop : dropPadding (encode bs) = s := by
    rw [hs, dropPadding_append hall hk]
  unfold forgivingDecode
  simp only [hfilter, hlen', if_true, hdrop, hpad, hall]
  rw [if_neg (by simp; omega), ← hs, decode_encode]

end Base64
