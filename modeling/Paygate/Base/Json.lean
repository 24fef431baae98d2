import Mathlib.Data.List.Basic
import Mathlib.Data.Option.Basic
import Mathlib.Tactic.Common
import Paygate.Base.Hex

/-!
# JSON texts

JSON values over a type `σ` of strings, their compact printing and their parsing.  The
parser reads a string literal as its characters and the 16-bit units its `\u` escapes name,
and keeps the text of a number; what these mean is up to the program that parses.

Printing with any way `quote` of writing strings is undone by parsing, if the parser reads
`quote s` as the pieces of `s`.
-/

/-- A JSON value with strings in `σ` and numbers as they are written. -/
inductive Json (σ : Type) where
  | null
  | bool (b : Bool)
  | num (literal : List Char)
  | str (s : σ)
  | arr (items : List (Json σ))
  | obj (members : List (σ × Json σ))

namespace Json

variable {σ : Type}

/-! ### Printing -/

mutual

/-- The compact text of a value. -/
def print (quote : σ → List Char) : Json σ → List Char
  | null => ['n', 'u', 'l', 'l']
  | bool true => ['t', 'r', 'u', 'e']
  | bool false => ['f', 'a', 'l', 's', 'e']
  | num l => l
  | str s => quote s
  | arr vs => '[' :: printItems quote vs
  | obj ms => '{' :: printMembers quote ms

/-- The text of the items of an array, with the closing bracket. -/
def printItems (quote : σ → List Char) : List (Json σ) → List Char
  | [] => [']']
  | [v] => print quote v ++ [']']
  | v :: vs => print quote v ++ ',' :: printItems quote vs

/-- The text of the members of an object, with the closing bracket. -/
def printMembers (quote : σ → List Char) : List (σ × Json σ) → List Char
  | [] => ['}']
  | [(k, v)] => quote k ++ ':' :: (print quote v ++ ['}'])
  | (k, v) :: ms => quote k ++ ':' :: (print quote v ++ ',' :: printMembers quote ms)

end

section Map

variable {τ : Type}

mutual

/-- The value with `f` applied to its strings. -/
def map (f : σ → τ) : Json σ → Json τ
  | null => null
  | bool b => bool b
  | num l => num l
  | str s => str (f s)
  | arr vs => arr (mapItems f vs)
  | obj ms => obj (mapMembers f ms)

/-- The items with `f` applied to their strings. -/
def mapItems (f : σ → τ) : List (Json σ) → List (Json τ)
  | [] => []
  | v :: vs => map f v :: mapItems f vs

/-- The members with `f` applied to their strings. -/
def mapMembers (f : σ → τ) : List (σ × Json σ) → List (τ × Json τ)
  | [] => []
  | (k, v) :: ms => (f k, map f v) :: mapMembers f ms

end

mutual

theorem map_map {υ : Type} (f : σ → τ) (g : τ → υ) :
    ∀ v : Json σ, (v.map f).map g = v.map fun s => g (f s)
  | null => rfl
  | bool _ => rfl
  | num _ => rfl
  | str _ => rfl
  | arr vs => by rw [map, map, map, mapItems_map]
  | obj ms => by rw [map, map, map, mapMembers_map]

theorem mapItems_map {υ : Type} (f : σ → τ) (g : τ → υ) :
    ∀ vs : List (Json σ), mapItems g (mapItems f vs) = mapItems (fun s => g (f s)) vs
  | [] => rfl
  | v :: vs => by rw [mapItems, mapItems, mapItems, map_map, mapItems_map]

theorem mapMembers_map {υ : Type} (f : σ → τ) (g : τ → υ) :
    ∀ ms : List (σ × Json σ), mapMembers g (mapMembers f ms) = mapMembers (fun s => g (f s)) ms
  | [] => rfl
  | (k, v) :: ms => by rw [mapMembers, mapMembers, mapMembers, map_map, mapMembers_map]

end

mutual

theorem map_id {f : σ → σ} (hf : ∀ s, f s = s) : ∀ v : Json σ, v.map f = v
  | null => rfl
  | bool _ => rfl
  | num _ => rfl
  | str s => by rw [map, hf]
  | arr vs => by rw [map, mapItems_id hf]
  | obj ms => by rw [map, mapMembers_id hf]

theorem mapItems_id {f : σ → σ} (hf : ∀ s, f s = s) : ∀ vs : List (Json σ), mapItems f vs = vs
  | [] => rfl
  | v :: vs => by rw [mapItems, map_id hf, mapItems_id hf]

theorem mapMembers_id {f : σ → σ} (hf : ∀ s, f s = s) :
    ∀ ms : List (σ × Json σ), mapMembers f ms = ms
  | [] => rfl
  | (k, v) :: ms => by rw [mapMembers, hf, map_id hf, mapMembers_id hf]

end

end Map

/-! ### Nesting -/

mutual

/-- How many arrays and objects are nested in a value. -/
def depth : Json σ → Nat
  | null => 0
  | bool _ => 0
  | num _ => 0
  | str _ => 0
  | arr vs => depthItems vs + 1
  | obj ms => depthMembers ms + 1

/-- How many arrays and objects are nested in one of the items. -/
def depthItems : List (Json σ) → Nat
  | [] => 0
  | v :: vs => max (depth v) (depthItems vs)

/-- How many arrays and objects are nested in one of the members. -/
def depthMembers : List (σ × Json σ) → Nat
  | [] => 0
  | (_, v) :: ms => max (depth v) (depthMembers ms)

end

mutual

/-- The strings of a value do not nest it. -/
@[simp]
theorem depth_map {τ : Type} (f : σ → τ) : ∀ v : Json σ, (v.map f).depth = v.depth
  | null => rfl
  | bool _ => rfl
  | num _ => rfl
  | str _ => rfl
  | arr vs => by rw [map, depth, depth, depthItems_map]
  | obj ms => by rw [map, depth, depth, depthMembers_map]

theorem depthItems_map {τ : Type} (f : σ → τ) :
    ∀ vs : List (Json σ), depthItems (mapItems f vs) = depthItems vs
  | [] => rfl
  | v :: vs => by rw [mapItems, depthItems, depthItems, depth_map, depthItems_map]

theorem depthMembers_map {τ : Type} (f : σ → τ) :
    ∀ ms : List (σ × Json σ), depthMembers (mapMembers f ms) = depthMembers ms
  | [] => rfl
  | (k, v) :: ms => by rw [mapMembers, depthMembers, depthMembers, depth_map, depthMembers_map]

end

/-! ### Parsing -/

/-- The strings the parser finds: characters, and units that were named by an escape. -/
abbrev Pieces := List (Char ⊕ UInt16)

/-- White space. -/
def isWs (c : Char) : Bool :=
  c = ' ' || c = '\t' || c = '\n' || c = '\r'

/-- The text without its leading white space. -/
def skipWs (s : List Char) : List Char :=
  s.dropWhile isWs

/-- The text after white space and the given character. -/
def expect (c : Char) (s : List Char) : Option (List Char) :=
  match skipWs s with
  | d :: s => if d = c then some s else none
  | [] => none

/-- The text after the given characters. -/
def keyword : List Char → List Char → Option (List Char)
  | [], s => some s
  | c :: cs, d :: s => if d = c then keyword cs s else none
  | _ :: _, [] => none

/-- The unit four hexadecimal digits name. -/
def hexUnit (a b c d : Char) : Option UInt16 := do
  let a ← hexValue a
  let b ← hexValue b
  let c ← hexValue c
  let d ← hexValue d
  some (.ofNat (((a * 16 + b) * 16 + c) * 16 + d))

/-- The character a short escape names. -/
def shortEscape (c : Char) : Option Char :=
  if c = '"' || c = '\\' || c = '/' then some c
  else if c = 'b' then some '\x08'
  else if c = 'f' then some '\x0c'
  else if c = 'n' then some '\n'
  else if c = 'r' then some '\r'
  else if c = 't' then some '\t'
  else none

/-- A string literal after its opening quote. -/
def parseString : List Char → Option (Pieces × List Char)
  | [] => none
  | c :: s =>
      if c = '"' then some ([], s)
      else if c = '\\' then
        match s with
        | 'u' :: h₁ :: h₂ :: h₃ :: h₄ :: s => do
            let u ← hexUnit h₁ h₂ h₃ h₄
            let r ← parseString s
            some (.inr u :: r.1, r.2)
        | e :: s => do
            let c ← shortEscape e
            let r ← parseString s
            some (.inl c :: r.1, r.2)
        | [] => none
      else if c.toNat < 0x20 then none
      else do
        let r ← parseString s
        some (.inl c :: r.1, r.2)

/-- One or more digits. -/
def parseDigits (s : List Char) : Option (List Char × List Char) :=
  if (s.takeWhile Char.isDigit).isEmpty then none
  else some (s.takeWhile Char.isDigit, s.dropWhile Char.isDigit)

/-- The sign of a number, if there is one of those given. -/
def parseSign (signs : List Char) : List Char → List Char × List Char
  | c :: s => if c ∈ signs then ([c], s) else ([], c :: s)
  | [] => ([], [])

/-- An integer without leading zeros. -/
def parseInt : List Char → Option (List Char × List Char)
  | c :: s => if c = '0' then some (['0'], s) else parseDigits (c :: s)
  | [] => none

/-- The fraction of a number, if there is one. -/
def parseFraction : List Char → Option (List Char × List Char)
  | c :: s =>
      if c = '.' then (parseDigits s).map fun r => ('.' :: r.1, r.2)
      else some ([], c :: s)
  | [] => some ([], [])

/-- The exponent of a number, if there is one. -/
def parseExponent : List Char → Option (List Char × List Char)
  | c :: s =>
      if c = 'e' ∨ c = 'E' then
        let sign := parseSign ['+', '-'] s
        (parseDigits sign.2).map fun r => (c :: sign.1 ++ r.1, r.2)
      else some ([], c :: s)
  | [] => some ([], [])

/-- A number: a sign, an integer, a fraction and an exponent, all but the integer
optional. -/
def parseNumber (s : List Char) : Option (List Char × List Char) := do
  let sign := parseSign ['-'] s
  let int ← parseInt sign.2
  let frac ← parseFraction int.2
  let exp ← parseExponent frac.2
  some (sign.1 ++ int.1 ++ frac.1 ++ exp.1, exp.2)

mutual

/-- A value at the start of the text, with at most `n` values nested or in sequence. -/
def parseValue : Nat → List Char → Option (Json Pieces × List Char)
  | 0, _ => none
  | n + 1, s =>
      match skipWs s with
      | [] => none
      | c :: s =>
          if c = '"' then do
            let r ← parseString s
            some (.str r.1, r.2)
          else if c = '{' then
            match expect '}' s with
            | some s => some (.obj [], s)
            | none => do
                let r ← parseMembers n s
                some (.obj r.1, r.2)
          else if c = '[' then
            match expect ']' s with
            | some s => some (.arr [], s)
            | none => do
                let r ← parseItems n s
                some (.arr r.1, r.2)
          else if c = 't' then do
            let s ← keyword ['r', 'u', 'e'] s
            some (.bool true, s)
          else if c = 'f' then do
            let s ← keyword ['a', 'l', 's', 'e'] s
            some (.bool false, s)
          else if c = 'n' then do
            let s ← keyword ['u', 'l', 'l'] s
            some (.null, s)
          else do
            let r ← parseNumber (c :: s)
            some (.num r.1, r.2)

/-- The items of an array and its closing bracket. -/
def parseItems : Nat → List Char → Option (List (Json Pieces) × List Char)
  | 0, _ => none
  | n + 1, s => do
      let v ← parseValue n s
      match expect ',' v.2 with
      | some s => do
          let r ← parseItems n s
          some (v.1 :: r.1, r.2)
      | none => do
          let s ← expect ']' v.2
          some ([v.1], s)

/-- The members of an object and its closing bracket. -/
def parseMembers : Nat → List Char → Option (List (Pieces × Json Pieces) × List Char)
  | 0, _ => none
  | n + 1, s => do
      let s ← expect '"' s
      let k ← parseString s
      let s ← expect ':' k.2
      let v ← parseValue n s
      match expect ',' v.2 with
      | some s => do
          let r ← parseMembers n s
          some ((k.1, v.1) :: r.1, r.2)
      | none => do
          let s ← expect '}' v.2
          some ([(k.1, v.1)], s)

end

/-- The first value of a text, with what follows it. -/
def parsePrefix (s : List Char) : Option (Json Pieces × List Char) :=
  parseValue (s.length + 1) s

/-- The value a text consists of. -/
def parse (s : List Char) : Option (Json Pieces) := do
  let r ← parsePrefix s
  if (skipWs r.2).isEmpty then some r.1 else none

/-! ### Parsing what was printed -/

/-- The parser reads `quote s` as the pieces of `s`. -/
def Reads (quote : σ → List Char) (pieces : σ → Pieces) : Prop :=
  ∀ s, ∃ body, quote s = '"' :: body ∧ ∀ rest, parseString (body ++ rest) = some (pieces s, rest)

/-- The text does not continue a number. -/
def Follow (s : List Char) : Prop :=
  ∀ c ∈ s.head?, c.isDigit = false ∧ c ≠ '.' ∧ c ≠ 'e' ∧ c ≠ 'E'

/-- The text is a number. -/
structure IsNumber (l : List Char) : Prop where
  head : ∃ c l', l = c :: l' ∧ (c = '-' ∨ c.isDigit = true)
  parse : ∀ rest, Follow rest → parseNumber (l ++ rest) = some (l, rest)

mutual

/-- The numbers in a value are numbers. -/
def Valid : Json σ → Prop
  | null | bool _ | str _ => True
  | num l => IsNumber l
  | arr vs => ValidItems vs
  | obj ms => ValidMembers ms

/-- The numbers in the items are numbers. -/
def ValidItems : List (Json σ) → Prop
  | [] => True
  | v :: vs => Valid v ∧ ValidItems vs

/-- The numbers in the members are numbers. -/
def ValidMembers : List (σ × Json σ) → Prop
  | [] => True
  | (_, v) :: ms => Valid v ∧ ValidMembers ms

end

theorem skipWs_cons {c : Char} (h : isWs c = false) (s : List Char) : skipWs (c :: s) = c :: s
  := by
  simp [skipWs, h]

theorem expect_cons {c : Char} (h : isWs c = false) (s : List Char) : expect c (c :: s) = some s
  := by
  simp [expect, skipWs_cons h]

theorem expect_cons_of_ne {c d : Char} (h : isWs c = false) (hne : c ≠ d) (s : List Char) :
  expect d (c :: s) = none
  := by
  simp [expect, skipWs_cons h, hne]

theorem follow_cons {c : Char} (h : c.isDigit = false ∧ c ≠ '.' ∧ c ≠ 'e' ∧ c ≠ 'E')
    (s : List Char) :
  Follow (c :: s)
  := by
  intro d hd
  obtain rfl := Option.some.inj hd
  exact h

/-- The character that starts the text of a value: no white space and no closing bracket. -/
theorem exists_print_eq_cons {quote : σ → List Char} {pieces : σ → Pieces}
    (hquote : Reads quote pieces) (v : Json σ) (hv : v.Valid) :
  ∃ c s, print quote v = c :: s ∧ isWs c = false ∧ c ≠ ']' ∧ c ≠ '}'
  := by
  cases v with
  | null => exact ⟨'n', _, rfl, by decide, by decide, by decide⟩
  | bool b =>
      cases b with
      | true => exact ⟨'t', _, rfl, by decide, by decide, by decide⟩
      | false => exact ⟨'f', _, rfl, by decide, by decide, by decide⟩
  | num l =>
      obtain ⟨c, l', rfl, hc⟩ := IsNumber.head hv
      refine ⟨c, l', rfl, ?_⟩
      obtain rfl | hc := hc
      · decide
      · refine ⟨?_, ?_, ?_⟩
        · by_contra hws
          simp only [isWs, Bool.not_eq_false, Bool.or_eq_true, decide_eq_true_eq] at hws
          rcases hws with ((rfl | rfl) | rfl) | rfl <;> exact absurd hc (by decide)
        · rintro rfl
          exact absurd hc (by decide)
        · rintro rfl
          exact absurd hc (by decide)
  | str s =>
      obtain ⟨body, hbody, -⟩ := hquote s
      exact ⟨'"', body, hbody, by decide, by decide, by decide⟩
  | arr vs => exact ⟨'[', _, rfl, by decide, by decide, by decide⟩
  | obj ms => exact ⟨'{', _, rfl, by decide, by decide, by decide⟩

/-- A number is parsed as such. -/
theorem parseValue_number {l : List Char} (hl : IsNumber l) {rest : List Char} (hrest : Follow rest)
    (n : Nat) :
  parseValue (n + 1) (l ++ rest) = some (.num l, rest)
  := by
  obtain ⟨c, l', rfl, hc⟩ := hl.head
  have hnot : ∀ d, d.isDigit = false → d ≠ '-' → c ≠ d := by
    rintro d hd hne rfl
    obtain rfl | hc := hc
    · exact hne rfl
    · rw [hd] at hc
      cases hc
  have hws : isWs c = false := by
    simp only [isWs, Bool.or_eq_false_iff, decide_eq_false_iff_not]
    exact ⟨⟨⟨hnot _ (by decide) (by decide), hnot _ (by decide) (by decide)⟩,
      hnot _ (by decide) (by decide)⟩, hnot _ (by decide) (by decide)⟩
  have hparse := hl.parse rest hrest
  rw [List.cons_append] at hparse ⊢
  rw [parseValue, skipWs_cons hws]
  simp only [hnot '"' (by decide) (by decide), hnot '{' (by decide) (by decide),
    hnot '[' (by decide) (by decide), hnot 't' (by decide) (by decide),
    hnot 'f' (by decide) (by decide), hnot 'n' (by decide) (by decide), if_false, hparse]
  rfl

mutual

/-- Parsing the text of a value gives back the value. -/
theorem parseValue_print {quote : σ → List Char} {pieces : σ → Pieces} (hquote : Reads quote pieces) :
    ∀ (v : Json σ), v.Valid → ∀ n rest, (print quote v).length < n → Follow rest →
      parseValue n (print quote v ++ rest) = some (v.map pieces, rest)
  | null, _, n + 1, rest, _, _ => by
      simp [parseValue, print, skipWs, isWs, keyword, map]
  | bool b, _, n + 1, rest, _, _ => by
      cases b with
      | true => simp [parseValue, print, skipWs, isWs, keyword, map]
      | false => simp [parseValue, print, skipWs, isWs, keyword, map]
  | num l, hv, n + 1, rest, _, hrest => by
      rw [print, parseValue_number hv hrest, map]
  | str s, _, n + 1, rest, _, _ => by
      obtain ⟨body, hbody, hread⟩ := hquote s
      rw [print, hbody, List.cons_append, parseValue, skipWs_cons (by decide), map]
      simp [hread rest]
  | arr [], _, n + 1, rest, _, _ => by
      rw [print, printItems, List.cons_append, parseValue, skipWs_cons (by decide), map, mapItems]
      simp [expect, skipWs, isWs]
  | arr (v :: vs), hv, n + 1, rest, hn, _ => by
      have hitems := parseItems_print hquote (v :: vs) (by simp) hv n rest (by
        rw [print, List.length_cons] at hn
        omega)
      obtain ⟨c, s, hc, hws, hne, -⟩ := exists_print_eq_cons hquote v hv.1
      have hnot : expect ']' (printItems quote (v :: vs) ++ rest) = none := by
        cases vs with
        | nil =>
            rw [printItems, hc, List.cons_append, List.cons_append, expect_cons_of_ne hws hne]
        | cons w vs =>
            rw [printItems, hc, List.cons_append, List.cons_append, expect_cons_of_ne hws hne]
            simp
      rw [print, List.cons_append, parseValue, skipWs_cons (by decide), map]
      simp [hnot, hitems]
  | obj [], _, n + 1, rest, _, _ => by
      rw [print, printMembers, List.cons_append, parseValue, skipWs_cons (by decide), map,
        mapMembers]
      simp [expect, skipWs, isWs]
  | obj ((k, v) :: ms), hv, n + 1, rest, hn, _ => by
      have hmembers := parseMembers_print hquote ((k, v) :: ms) (by simp) hv n rest (by
        rw [print, List.length_cons] at hn
        omega)
      obtain ⟨body, hbody, -⟩ := hquote k
      have hnot : expect '}' (printMembers quote ((k, v) :: ms) ++ rest) = none := by
        cases ms with
        | nil =>
            rw [printMembers, hbody, List.cons_append, List.cons_append,
              expect_cons_of_ne (by decide) (by decide)]
        | cons m ms =>
            rw [printMembers, hbody, List.cons_append, List.cons_append,
              expect_cons_of_ne (by decide) (by decide)]
            simp
      rw [print, List.cons_append, parseValue, skipWs_cons (by decide), map]
      simp [hnot, hmembers]

/-- Parsing the text of the items of an array gives back the items. -/
theorem parseItems_print {quote : σ → List Char} {pieces : σ → Pieces} (hquote : Reads quote pieces) :
    ∀ (vs : List (Json σ)), vs ≠ [] → ValidItems vs → ∀ n rest, (printItems quote vs).length < n →
      parseItems n (printItems quote vs ++ rest) = some (mapItems pieces vs, rest)
  | [v], _, hv, n, rest, hn => by
      rw [printItems, List.length_append, List.length_singleton] at hn
      obtain ⟨m, rfl⟩ : ∃ m, n = m + 1 := ⟨n - 1, by omega⟩
      have hvalue := parseValue_print hquote v hv.1 m (']' :: rest) (by omega)
        (follow_cons (by decide) rest)
      rw [printItems, List.append_assoc, List.singleton_append, parseItems, hvalue]
      simp [expect, skipWs, isWs, mapItems]
  | v :: w :: vs, _, hv, n, rest, hn => by
      rw [printItems, List.length_append, List.length_cons] at hn
      · obtain ⟨m, rfl⟩ : ∃ m, n = m + 1 := ⟨n - 1, by omega⟩
        have hvalue := parseValue_print hquote v hv.1 m
          (',' :: (printItems quote (w :: vs) ++ rest)) (by omega) (follow_cons (by decide) _)
        have hitems := parseItems_print hquote (w :: vs) (by simp) hv.2 m rest (by omega)
        rw [printItems, List.append_assoc, List.cons_append, parseItems, hvalue]
        · simp [expect_cons (show isWs ',' = false by decide), hitems, mapItems]
        · simp
      · simp

/-- Parsing the text of the members of an object gives back the members. -/
theorem parseMembers_print {quote : σ → List Char} {pieces : σ → Pieces} (hquote : Reads quote pieces) :
    ∀ (ms : List (σ × Json σ)), ms ≠ [] → ValidMembers ms → ∀ n rest,
      (printMembers quote ms).length < n →
      parseMembers n (printMembers quote ms ++ rest) = some (mapMembers pieces ms, rest)
  | [(k, v)], _, hv, n, rest, hn => by
      obtain ⟨body, hbody, hread⟩ := hquote k
      rw [printMembers, hbody] at hn
      simp only [List.length_append, List.length_cons, List.length_nil] at hn
      obtain ⟨m, rfl⟩ : ∃ m, n = m + 1 := ⟨n - 1, by omega⟩
      have hvalue := parseValue_print hquote v hv.1 m ('}' :: rest) (by omega)
        (follow_cons (by decide) rest)
      rw [printMembers, hbody, parseMembers]
      simp only [List.cons_append, List.append_assoc, List.nil_append, Option.bind_eq_bind,
        Option.bind_some, expect_cons (show isWs '"' = false by decide), hread,
        expect_cons (show isWs ':' = false by decide), hvalue,
        expect_cons (show isWs '}' = false by decide),
        expect_cons_of_ne (show isWs '}' = false by decide) (show '}' ≠ ',' by decide), mapMembers]
  | (k, v) :: m' :: ms, _, hv, n, rest, hn => by
      obtain ⟨body, hbody, hread⟩ := hquote k
      rw [printMembers, hbody] at hn
      · simp only [List.length_append, List.length_cons] at hn
        obtain ⟨m, rfl⟩ : ∃ m, n = m + 1 := ⟨n - 1, by omega⟩
        have hvalue := parseValue_print hquote v hv.1 m
          (',' :: (printMembers quote (m' :: ms) ++ rest)) (by omega) (follow_cons (by decide) _)
        have hmembers := parseMembers_print hquote (m' :: ms) (by simp) hv.2 m rest (by omega)
        rw [printMembers, hbody, parseMembers]
        · simp only [List.cons_append, List.append_assoc, Option.bind_eq_bind, Option.bind_some,
            expect_cons (show isWs '"' = false by decide), hread,
            expect_cons (show isWs ':' = false by decide), hvalue,
            expect_cons (show isWs ',' = false by decide), hmembers, mapMembers]
        · simp
      · simp

end

/-- Parsing a printed value gives back the value. -/
theorem parse_print {quote : σ → List Char} {pieces : σ → Pieces} (hquote : Reads quote pieces)
    {v : Json σ} (hv : v.Valid) :
  parse (print quote v) = some (v.map pieces)
  := by
  have h := parseValue_print hquote v hv ((print quote v).length + 1) [] (by omega) (by
    intro c hc
    cases hc)
  rw [List.append_nil] at h
  rw [parse, parsePrefix, h]
  rfl

/-! ### Decimal numbers -/

/-- The decimal digits of a number. -/
def decimal (n : Nat) : List Char :=
  Nat.toDigits 10 n

/-- The decimal digits of an integer, with a sign if it is negative. -/
def decimalInt : Int → List Char
  | .ofNat n => decimal n
  | .negSucc n => '-' :: decimal (n + 1)

theorem isDigit_of_mem_decimal {n : Nat} {c : Char} (h : c ∈ decimal n) : c.isDigit = true
  := Nat.isDigit_of_mem_toDigits (by decide) (by decide) h

theorem decimal_ascii (n : Nat) : ∀ c ∈ decimal n, c.toNat < 128
  := by
  intro c hc
  have hle := (Char.isDigit_iff_toNat.mp (isDigit_of_mem_decimal hc)).2
  exact Nat.lt_of_le_of_lt hle (by decide)

theorem decimalInt_ascii (i : Int) : ∀ c ∈ decimalInt i, c.toNat < 128
  := by
  cases i with
  | ofNat n => exact decimal_ascii n
  | negSucc n => exact List.forall_mem_cons.mpr ⟨by decide, decimal_ascii (n + 1)⟩

/-- A digit is no sign. -/
theorem parseSign_digit {signs : List Char} (h : signs.all fun c => !c.isDigit) {c : Char}
    (hc : c.isDigit = true) (s : List Char) :
  parseSign signs (c :: s) = ([], c :: s)
  := by
  rw [parseSign, if_neg]
  intro hmem
  have hno := List.all_eq_true.mp h c hmem
  rw [hc] at hno
  cases hno

theorem parseSign_decimal {signs : List Char} (h : signs.all fun c => !c.isDigit) (n : Nat)
    (rest : List Char) :
  parseSign signs (decimal n ++ rest) = ([], decimal n ++ rest)
  := by
  obtain ⟨c, l, hl⟩ := List.exists_cons_of_ne_nil (show decimal n ≠ [] from Nat.toDigits_ne_nil)
  have hc : c.isDigit = true := isDigit_of_mem_decimal (hl ▸ List.mem_cons_self)
  rw [hl, List.cons_append, parseSign_digit h hc]

/-- Numbers are determined by their digits. -/
theorem decimal_injective : Function.Injective decimal
  := by
  intro m n h
  have hvalue := congrArg (fun l => Nat.ofDigitChars 10 l 0) h
  simpa only [decimal, Nat.ofDigitChars_ten_toDigits] using hvalue

/-- Integers are determined by their digits and sign. -/
theorem decimalInt_injective : Function.Injective decimalInt
  := by
  have hsign : ∀ m n, decimal m ≠ '-' :: decimal n := by
    intro m n h
    have hdigit : '-'.isDigit = true := isDigit_of_mem_decimal (h ▸ List.mem_cons_self)
    exact absurd hdigit (by decide)
  intro i j h
  cases i with
  | ofNat m =>
      cases j with
      | ofNat n => rw [decimal_injective h]
      | negSucc n => exact absurd h (hsign m (n + 1))
  | negSucc m =>
      cases j with
      | ofNat n => exact absurd h.symm (hsign n (m + 1))
      | negSucc n => rw [Nat.succ.inj (decimal_injective (List.cons.inj h).2)]

/-- The first digit of a positive number is not zero. -/
theorem exists_decimal_eq_cons {n : Nat} (hn : 0 < n) :
  ∃ c l, decimal n = c :: l ∧ c ≠ '0'
  := by
  induction n using Nat.strongRecOn with
  | ind n ih =>
      by_cases hlt : n < 10
      · refine ⟨n.digitChar, [], Nat.toDigits_of_lt_base hlt, ?_⟩
        simp
        omega
      · obtain ⟨c, l, hl, hc⟩ := ih (n / 10) (by omega) (by omega)
        refine ⟨c, l ++ [(n % 10).digitChar], ?_, hc⟩
        have := Nat.toDigits_of_base_le (b := 10) (n := n) (by decide) (by omega)
        rw [decimal] at hl ⊢
        rw [this, hl, List.cons_append]

/-- The digits of a number end where the text does not continue it. -/
theorem span_decimal (n : Nat) {rest : List Char} (hrest : Follow rest) :
  (decimal n ++ rest).takeWhile Char.isDigit = decimal n
    ∧ (decimal n ++ rest).dropWhile Char.isDigit = rest
  := by
  have hall : ∀ c ∈ decimal n, c.isDigit = true := fun c hc => isDigit_of_mem_decimal hc
  have hstop : rest.takeWhile Char.isDigit = [] ∧ rest.dropWhile Char.isDigit = rest := by
    cases rest with
    | nil => simp
    | cons c s =>
        have := (hrest c rfl).1
        simp [this]
  rw [List.takeWhile_append_of_pos hall, List.dropWhile_append_of_pos hall, hstop.1, hstop.2,
    List.append_nil]
  simp

/-- A number has neither fraction nor exponent if the text does not continue it. -/
theorem parse_of_follow {rest : List Char} (hrest : Follow rest) :
  parseFraction rest = some ([], rest) ∧ parseExponent rest = some ([], rest)
  := by
  cases rest with
  | nil => exact ⟨rfl, rfl⟩
  | cons c s =>
      obtain ⟨-, hdot, he, hE⟩ := hrest c rfl
      simp [parseFraction, parseExponent, hdot, he, hE]

/-- The digits of a number are parsed as an integer. -/
theorem parseInt_decimal (n : Nat) {rest : List Char} (hrest : Follow rest) :
  parseInt (decimal n ++ rest) = some (decimal n, rest)
  := by
  obtain rfl | hn := Nat.eq_zero_or_pos n
  · have hzero : decimal 0 = ['0'] := Nat.toDigits_zero 10
    rw [hzero, List.singleton_append, parseInt, if_pos rfl]
  · obtain ⟨htake, hdrop⟩ := span_decimal n hrest
    obtain ⟨c, l, hl, hc⟩ := exists_decimal_eq_cons hn
    rw [hl] at htake hdrop ⊢
    rw [List.cons_append] at htake hdrop ⊢
    rw [parseInt, if_neg hc, parseDigits, htake, hdrop]
    simp

/-- The decimal digits of a number are a number. -/
theorem isNumber_decimal (n : Nat) : IsNumber (decimal n)
  := by
  obtain ⟨c, l, hl⟩ := List.exists_cons_of_ne_nil (Nat.toDigits_ne_nil (n := n) (b := 10))
  have hc : c.isDigit = true := by
    apply isDigit_of_mem_decimal (n := n)
    rw [decimal, hl]
    exact List.mem_cons_self
  constructor
  · exact ⟨c, l, hl, Or.inr hc⟩
  · intro rest hrest
    have hsign : parseSign ['-'] (decimal n ++ rest) = ([], decimal n ++ rest) :=
      parseSign_decimal rfl n rest
    obtain ⟨hfrac, hexp⟩ := parse_of_follow hrest
    simp [parseNumber, hsign, parseInt_decimal n hrest, hfrac, hexp]

/-- The decimal digits of an integer are a number. -/
theorem isNumber_decimalInt (i : Int) : IsNumber (decimalInt i)
  := by
  cases i with
  | ofNat n => exact isNumber_decimal n
  | negSucc n =>
      constructor
      · exact ⟨'-', decimal (n + 1), rfl, Or.inl rfl⟩
      · intro rest hrest
        obtain ⟨hfrac, hexp⟩ := parse_of_follow hrest
        have hsign : parseSign ['-'] ('-' :: (decimal (n + 1) ++ rest))
            = (['-'], decimal (n + 1) ++ rest) := rfl
        simp [parseNumber, hsign, parseInt_decimal (n + 1) hrest, hfrac, hexp, decimalInt]

/-! ### String literals -/

/-- The escape that names a unit by its number. -/
def unicodeEscape (u : UInt16) : List Char :=
  ['\\', 'u', hexDigit (u.toNat / 4096), hexDigit (u.toNat / 256 % 16),
    hexDigit (u.toNat / 16 % 16), hexDigit (u.toNat % 16)]

/-- The character written after a backslash for a character that has a short escape. -/
def shortEscapeOf (c : Char) : Option Char :=
  if c = '"' then some '"'
  else if c = '\\' then some '\\'
  else if c = '\x08' then some 'b'
  else if c = '\x0c' then some 'f'
  else if c = '\n' then some 'n'
  else if c = '\r' then some 'r'
  else if c = '\t' then some 't'
  else none

/-- A character in a string literal: by its short escape if it has one, by its number if it
is a control character or one of the `named`, and else as itself. -/
def escapeChar (named : Char → Bool) (c : Char) : List Char :=
  match shortEscapeOf c with
  | some e => ['\\', e]
  | none => if c.toNat < 0x20 ∨ named c then unicodeEscape (.ofNat c.toNat) else [c]

/-- What the parser makes of a character in a string literal. -/
def charPiece (named : Char → Bool) (c : Char) : Char ⊕ UInt16 :=
  if (shortEscapeOf c).isNone ∧ (c.toNat < 0x20 ∨ named c) then .inr (.ofNat c.toNat) else .inl c

theorem hexUnit_hexDigit (u : UInt16) :
  hexUnit (hexDigit (u.toNat / 4096)) (hexDigit (u.toNat / 256 % 16))
    (hexDigit (u.toNat / 16 % 16)) (hexDigit (u.toNat % 16)) = some u
  := by
  have hlt := u.toNat_lt
  simp only [hexUnit, hexValue_hexDigit (show u.toNat / 4096 < 16 by omega),
    hexValue_hexDigit (show u.toNat / 256 % 16 < 16 by omega),
    hexValue_hexDigit (show u.toNat / 16 % 16 < 16 by omega),
    hexValue_hexDigit (show u.toNat % 16 < 16 by omega), Option.bind_eq_bind, Option.bind_some]
  have hsum : ((u.toNat / 4096 * 16 + u.toNat / 256 % 16) * 16 + u.toNat / 16 % 16) * 16
      + u.toNat % 16 = u.toNat := by omega
  rw [hsum, UInt16.ofNat_toNat]

/-- An escape that names a unit is read as the unit. -/
theorem parseString_hexUnit {a b c d : Char} {u : UInt16} (h : hexUnit a b c d = some u)
    (s : List Char) :
  parseString (['\\', 'u', a, b, c, d] ++ s)
    = (parseString s).map fun r => (.inr u :: r.1, r.2)
  := by
  simp only [List.cons_append, List.nil_append]
  rw [parseString.eq_def]
  simp only [show ('\\' = '"') = False by decide, if_false, if_true, h]
  cases parseString s with
  | none => rfl
  | some r => rfl

/-- A short escape is read as the character it names. -/
theorem parseString_shortEscape {e c : Char} (h : shortEscape e = some c) (s : List Char) :
  parseString (['\\', e] ++ s) = (parseString s).map fun r => (.inl c :: r.1, r.2)
  := by
  have hne : e ≠ 'u' := by
    rintro rfl
    cases h
  simp only [List.cons_append, List.nil_append]
  rw [parseString.eq_def]
  simp only [show ('\\' = '"') = False by decide, if_false, if_true]
  split
  · rename_i heq
    exact absurd (List.cons.inj heq).1 hne
  · rename_i heq
    obtain ⟨rfl, rfl⟩ := List.cons.inj heq
    rw [h]
    cases parseString s with
    | none => simp
    | some r => simp
  · rename_i heq
    cases heq

/-- Another character is read as itself. -/
theorem parseString_plain {c : Char} (hquote : c ≠ '"') (hback : c ≠ '\\') (hlt : ¬ c.toNat < 0x20)
    (s : List Char) :
  parseString ([c] ++ s) = (parseString s).map fun r => (.inl c :: r.1, r.2)
  := by
  rw [List.singleton_append, parseString.eq_def]
  simp only [hquote, hback, hlt, if_false]
  cases parseString s with
  | none => rfl
  | some r => rfl

/-- A short escape is read as the character that has it. -/
theorem shortEscape_of_shortEscapeOf {c e : Char} (h : shortEscapeOf c = some e) :
  shortEscape e = some c
  := by
  unfold shortEscapeOf at h
  split_ifs at h with h₁ h₂ h₃ h₄ h₅ h₆ h₇
  all_goals
    obtain rfl := Option.some.inj h
    subst_vars
    decide

/-- A character in a string literal is read as its piece. -/
theorem parseString_escapeChar (named : Char → Bool) (c : Char) (s : List Char) :
  parseString (escapeChar named c ++ s)
    = (parseString s).map fun r => (charPiece named c :: r.1, r.2)
  := by
  unfold escapeChar charPiece
  cases h : shortEscapeOf c with
  | some e =>
      simp only [Option.isNone_some, Bool.false_eq_true, false_and, if_false]
      apply parseString_shortEscape (shortEscape_of_shortEscapeOf h)
  | none =>
      by_cases hnum : c.toNat < 0x20 ∨ named c = true
      · simp only [hnum, if_true, Option.isNone_none, and_self]
        apply parseString_hexUnit (hexUnit_hexDigit _)
      · have hquote : c ≠ '"' := by
          rintro rfl
          cases h
        have hback : c ≠ '\\' := by
          rintro rfl
          cases h
        simp only [hnum, if_false, and_false]
        exact parseString_plain hquote hback (fun hlt => hnum (Or.inl hlt)) s

/-- A character is read as itself, unless it is written by its number. -/
theorem charPiece_cases (named : Char → Bool) (c : Char) :
  charPiece named c = .inl c ∧ (named c = true → (shortEscapeOf c).isSome)
    ∨ charPiece named c = .inr (.ofNat c.toNat) ∧ (c.toNat < 0x20 ∨ named c = true)
  := by
  unfold charPiece
  split
  · rename_i hnum
    exact Or.inr ⟨rfl, hnum.2⟩
  · rename_i hnum
    refine Or.inl ⟨rfl, fun hnamed => ?_⟩
    simpa [hnamed, Option.isSome_iff_ne_none] using hnum

/-- A character is read as itself, or as its number if that fits into a unit. -/
theorem charPiece_unit {named : Char → Bool} {c : Char} (h : named c = true → c.toNat < 0x10000) :
  charPiece named c = .inl c
    ∨ charPiece named c = .inr (.ofNat c.toNat) ∧ c.toNat < 0x10000
  := by
  obtain ⟨heq, -⟩ | ⟨heq, hlt | hnamed⟩ := charPiece_cases named c
  · exact Or.inl heq
  · exact Or.inr ⟨heq, by omega⟩
  · exact Or.inr ⟨heq, h hnamed⟩

/-- A string literal made of parts that are each read as some pieces. -/
theorem parseString_flatMap_pieces {α : Type} {write : α → List Char} {pieces : α → Pieces}
    (h : ∀ a s, parseString (write a ++ s) = (parseString s).map fun r => (pieces a ++ r.1, r.2))
    (l : List α) (rest : List Char) :
  parseString (l.flatMap write ++ '"' :: rest) = some (l.flatMap pieces, rest)
  := by
  induction l with
  | nil =>
      rw [List.flatMap_nil, List.nil_append, parseString.eq_def]
      simp
  | cons a l ih =>
      rw [List.flatMap_cons, List.append_assoc, h, ih]
      rfl

/-- A string literal made of parts that are each read as one piece. -/
theorem parseString_flatMap {α : Type} {write : α → List Char} {piece : α → Char ⊕ UInt16}
    (h : ∀ a s, parseString (write a ++ s) = (parseString s).map fun r => (piece a :: r.1, r.2))
    (l : List α) (rest : List Char) :
  parseString (l.flatMap write ++ '"' :: rest) = some (l.map piece, rest)
  := by
  rw [List.map_eq_flatMap]
  exact parseString_flatMap_pieces h l rest

end Json
