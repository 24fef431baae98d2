import Paygate.Base.GoJson

/-!
# JSON texts that were cut short

What the parser reads depends on the text it consumes only.  So a text that was cut short
is either not parsed, or what is parsed was complete before the cut; only a number can be
cut to another number.
-/

namespace Text

/-! ### Cut encodings -/

/-- The characters in bytes from 128 on are from 128 on. -/
theorem le_toNat_of_mem_decodeWith {skip : List UInt8 → Nat} {c : Char} :
    ∀ n bs, (∀ b ∈ bs, 128 ≤ b.toNat) → some c ∈ decodeWith skip n bs → 128 ≤ c.toNat
  | 0, _, _, h => by cases h
  | n + 1, [], _, h => by cases h
  | n + 1, b :: bs, hbs, h => by
      rw [decodeWith] at h
      split at h
      · rename_i d hd
        obtain heq | h := List.mem_cons.mp h
        · obtain rfl := Option.some.inj heq
          by_contra hlt
          have henc := eq_of_decodeRune hd
          rw [utf8EncodeChar_of_lt (by omega), List.singleton_append] at henc
          have hb := hbs b List.mem_cons_self
          rw [(List.cons.inj henc).1, UInt8.toNat_ofNat', Nat.mod_eq_of_lt (by omega)] at hb
          omega
        · exact le_toNat_of_mem_decodeWith n _ (fun b hb => hbs b (List.mem_of_mem_drop hb)) h
      · obtain heq | h := List.mem_cons.mp h
        · cases heq
        · exact le_toNat_of_mem_decodeWith n _
            (fun b hb => hbs b (List.mem_cons_of_mem _ (List.mem_of_mem_drop hb))) h

/-- The encoding of a character of more than one byte has bytes from 128 on. -/
theorem le_toNat_of_mem_utf8EncodeChar {c : Char} (h : 1 < c.utf8Size) {b : UInt8}
    (hb : b ∈ String.utf8EncodeChar c) :
  128 ≤ b.toNat
  := by
  have hle : ¬ c.val.toNat ≤ 127 := by
    intro hle
    rw [← String.length_utf8EncodeChar, String.utf8EncodeChar, if_pos hle] at h
    simp at h
  have hbyte : ∀ n, 128 ≤ n → n < 256 → 128 ≤ (UInt8.ofNat n).toNat := by
    intro n hn hlt
    rwa [UInt8.toNat_ofNat', Nat.mod_eq_of_lt hlt]
  rw [String.utf8EncodeChar, if_neg hle] at hb
  split_ifs at hb
  · simp only [List.mem_cons, List.not_mem_nil, or_false] at hb
    rcases hb with rfl | rfl
    all_goals
      apply hbyte
      · omega
      · omega
  · simp only [List.mem_cons, List.not_mem_nil, or_false] at hb
    rcases hb with rfl | rfl | rfl
    all_goals
      apply hbyte
      · omega
      · omega
  · simp only [List.mem_cons, List.not_mem_nil, or_false] at hb
    rcases hb with rfl | rfl | rfl | rfl
    all_goals
      apply hbyte
      · omega
      · omega

/-- The runes of the first bytes of the encoding of a text: the start of the text, and for a
character that is cut gaps and characters from 128 on. -/
theorem runes_take_utf8 (s : List Char) (n : Nat) :
  ∃ p q, p <+: s ∧ runes ((utf8 s).take n) = p.map some ++ q
    ∧ ∀ c, some c ∈ q → 128 ≤ c.toNat
  := by
  induction s generalizing n with
  | nil =>
      refine ⟨[], [], List.nil_prefix, ?_, by simp⟩
      rw [utf8_nil, List.take_nil]
      rfl
  | cons c s ih =>
      by_cases hn : n < c.utf8Size
      · refine ⟨[], runes ((utf8 (c :: s)).take n), List.nil_prefix, rfl, ?_⟩
        intro d hd
        have htake : (utf8 (c :: s)).take n = (String.utf8EncodeChar c).take n := by
          rw [utf8_cons, List.take_append_of_le_length (by simp; omega)]
        rw [htake] at hd
        apply le_toNat_of_mem_decodeWith _ _ _ hd
        intro b hb
        have hn' : n ≠ 0 := by
          rintro rfl
          cases hb
        exact le_toNat_of_mem_utf8EncodeChar (by omega) (List.mem_of_mem_take hb)
      · obtain ⟨p, q, hp, hruns, hq⟩ := ih (n - c.utf8Size)
        refine ⟨c :: p, q, List.cons_prefix_cons.mpr ⟨rfl, hp⟩, ?_, hq⟩
        rw [utf8_cons, List.take_append, List.take_of_length_le (by simp; omega),
          String.length_utf8EncodeChar, runes,
          decodeWith_utf8EncodeChar _ c _ (Nat.le_refl _), ← runes, hruns]
        rfl

end Text

namespace Json

/-! ### Consumed texts -/

/-- The text consists of white space. -/
def IsSpace (s : List Char) : Prop :=
  ∀ c ∈ s, isWs c = true

/-- White space is skipped. -/
theorem skipWs_append {w : List Char} (hw : IsSpace w) {c : Char} (hc : isWs c = false)
    (s : List Char) :
  skipWs (w ++ c :: s) = c :: s
  := by
  rw [skipWs, List.dropWhile_append_of_pos hw, ← skipWs, skipWs_cons hc]

/-- What comes after white space. -/
theorem skipWs_eq_cons {s s' : List Char} {c : Char} (h : skipWs s = c :: s') :
  ∃ w, IsSpace w ∧ isWs c = false ∧ s = w ++ c :: s'
  := by
  refine ⟨s.takeWhile isWs, ?_, ?_, ?_⟩
  · intro d hd
    exact List.all_eq_true.mp List.all_takeWhile d hd
  · have hhead := List.head?_dropWhile_not isWs s
    rw [← skipWs, h] at hhead
    exact hhead
  · rw [← h, skipWs, List.takeWhile_append_dropWhile]

/-- A character that is expected and comes after white space. -/
theorem expect_append {w : List Char} (hw : IsSpace w) {c : Char} (hc : isWs c = false) (d : Char)
    (s : List Char) :
  expect d (w ++ c :: s) = if c = d then some s else none
  := by
  rw [expect, skipWs_append hw hc]

theorem expect_eq_some {c : Char} {s r : List Char} (h : expect c s = some r) :
  ∃ w, IsSpace w ∧ isWs c = false ∧ s = w ++ c :: r
  := by
  unfold expect at h
  split at h
  · rename_i d s' hs
    split at h
    · rename_i hd
      obtain rfl := Option.some.inj h
      subst hd
      exact skipWs_eq_cons hs
    · cases h
  · cases h

theorem keyword_append (cs s : List Char) : keyword cs (cs ++ s) = some s
  := by
  induction cs with
  | nil => rfl
  | cons c cs ih => simpa [keyword] using ih

theorem keyword_eq_some : ∀ {cs s r : List Char}, keyword cs s = some r → s = cs ++ r
  | [], s, r, h => Option.some.inj h
  | c :: cs, [], r, h => by cases h
  | c :: cs, d :: s, r, h => by
      rw [keyword] at h
      split at h
      · rename_i hd
        rw [hd, keyword_eq_some h, List.cons_append]
      · cases h

/-- The text is read as the pieces up to its first closing quote, whatever follows. -/
def Closes (s : List Char) (ps : Pieces) (r : List Char) : Prop :=
  ∃ w, s = w ++ '"' :: r ∧ ∀ t, parseString (w ++ '"' :: t) = some (ps, t)

/-- A part that is read as one piece may come before. -/
theorem Closes.part {x s r : List Char} {p : Char ⊕ UInt16} {ps : Pieces}
    (hx : ∀ s, parseString (x ++ s) = (parseString s).map fun r => (p :: r.1, r.2))
    (h : Closes s ps r) :
  Closes (x ++ s) (p :: ps) r
  := by
  obtain ⟨w, rfl, hw⟩ := h
  refine ⟨x ++ w, (List.append_assoc x w _).symm, ?_⟩
  intro t
  rw [List.append_assoc, hx, hw t]
  rfl

/-- A string literal is read up to its closing quote. -/
theorem parseString_eq_some {s : List Char} {ps : Pieces} {r : List Char}
    (h : parseString s = some (ps, r)) :
  Closes s ps r
  := by
  fun_induction parseString s generalizing ps with
  | case1 => cases h
  | case2 s =>
      obtain ⟨rfl, rfl⟩ := Prod.mk.inj (Option.some.inj h)
      refine ⟨[], rfl, ?_⟩
      intro t
      rw [List.nil_append, parseString.eq_def]
      simp
  | case3 a b c d s _ ih =>
      obtain ⟨u, hu, h⟩ := Option.bind_eq_some_iff.mp h
      obtain ⟨⟨ps', r'⟩, hs, h⟩ := Option.bind_eq_some_iff.mp h
      obtain ⟨rfl, rfl⟩ := Prod.mk.inj (Option.some.inj h)
      exact (ih hs).part (parseString_hexUnit hu)
  | case4 e s _ _ ih =>
      obtain ⟨c, hc, h⟩ := Option.bind_eq_some_iff.mp h
      obtain ⟨⟨ps', r'⟩, hs, h⟩ := Option.bind_eq_some_iff.mp h
      obtain ⟨rfl, rfl⟩ := Prod.mk.inj (Option.some.inj h)
      exact (ih hs).part (parseString_shortEscape hc)
  | case5 => cases h
  | case6 => cases h
  | case7 c s hquote hback hlt ih =>
      obtain ⟨⟨ps', r'⟩, hs, h⟩ := Option.bind_eq_some_iff.mp h
      obtain ⟨rfl, rfl⟩ := Prod.mk.inj (Option.some.inj h)
      exact (ih hs).part (parseString_plain hquote hback hlt)

/-! ### Numbers -/

/-- The text does not start with a digit. -/
def NoDigit (s : List Char) : Prop :=
  ∀ c ∈ s.head?, c.isDigit = false

theorem Follow.noDigit {s : List Char} (h : Follow s) : NoDigit s
  := fun c hc => (h c hc).1

/-- Digits are read up to a text that starts with none. -/
theorem parseDigits_eq_some {s l r : List Char} (h : parseDigits s = some (l, r)) :
  s = l ++ r ∧ l ≠ [] ∧ (∀ c ∈ l, c.isDigit = true)
    ∧ ∀ t, NoDigit t → parseDigits (l ++ t) = some (l, t)
  := by
  unfold parseDigits at h
  split at h
  · cases h
  · rename_i hne
    obtain ⟨rfl, rfl⟩ := Prod.mk.inj (Option.some.inj h)
    have hall : ∀ c ∈ s.takeWhile Char.isDigit, c.isDigit = true :=
      fun c hc => List.all_eq_true.mp List.all_takeWhile c hc
    refine ⟨List.takeWhile_append_dropWhile.symm, ?_, hall, ?_⟩
    · simpa using hne
    · intro t ht
      have hstop : t.takeWhile Char.isDigit = [] ∧ t.dropWhile Char.isDigit = t := by
        cases t with
        | nil => simp
        | cons c t => simp [ht c rfl]
      rw [parseDigits, List.takeWhile_append_of_pos hall, List.dropWhile_append_of_pos hall,
        hstop.1, hstop.2, List.append_nil, if_neg hne]

/-- An integer is read up to a text that starts with no digit. -/
theorem parseInt_eq_some {s l r : List Char} (h : parseInt s = some (l, r)) :
  s = l ++ r ∧ l ≠ [] ∧ (∀ c ∈ l, c.isDigit = true)
    ∧ ∀ t, NoDigit t → parseInt (l ++ t) = some (l, t)
  := by
  cases s with
  | nil => cases h
  | cons c s =>
      rw [parseInt] at h
      split at h
      · rename_i hc
        obtain ⟨rfl, rfl⟩ := Prod.mk.inj (Option.some.inj h)
        subst hc
        refine ⟨rfl, List.cons_ne_nil _ _, by decide, ?_⟩
        intro t _
        rw [List.singleton_append, parseInt, if_pos rfl]
      · rename_i hc
        obtain ⟨heq, hne, hall, hparse⟩ := parseDigits_eq_some h
        refine ⟨heq, hne, hall, ?_⟩
        intro t ht
        obtain ⟨d, l', rfl⟩ := List.exists_cons_of_ne_nil hne
        obtain ⟨rfl, -⟩ := List.cons.inj heq
        rw [List.cons_append, parseInt, if_neg hc, ← List.cons_append, hparse t ht]

/-- The sign that is read is the start of the text. -/
theorem parseSign_eq {signs s l r : List Char} (h : parseSign signs s = (l, r)) :
  s = l ++ r ∧ (∀ c ∈ l, c ∈ signs)
    ∧ ∀ t, (l = [] → ∀ c ∈ t.head?, c ∉ signs) → parseSign signs (l ++ t) = (l, t)
  := by
  cases s with
  | nil =>
      obtain ⟨rfl, rfl⟩ := Prod.mk.inj h
      refine ⟨rfl, by simp, ?_⟩
      intro t ht
      cases t with
      | nil => rfl
      | cons c t => rw [List.nil_append, parseSign, if_neg (ht rfl c rfl)]
  | cons c s =>
      rw [parseSign] at h
      split at h
      · rename_i hc
        obtain ⟨rfl, rfl⟩ := Prod.mk.inj h
        refine ⟨rfl, by simpa using hc, ?_⟩
        intro t _
        rw [List.singleton_append, parseSign, if_pos hc]
      · obtain ⟨rfl, rfl⟩ := Prod.mk.inj h
        refine ⟨rfl, by simp, ?_⟩
        intro t ht
        cases t with
        | nil => rfl
        | cons c t => rw [List.nil_append, parseSign, if_neg (ht rfl c rfl)]

theorem toNat_lt_of_isDigit {c : Char} (h : c.isDigit = true) : c.toNat < 128
  := Nat.lt_of_le_of_lt (Char.isDigit_iff_toNat.mp h).2 (by decide)

/-- A fraction is read up to a text that does not continue the number. -/
theorem parseFraction_eq_some {s l r : List Char} (h : parseFraction s = some (l, r)) :
  s = l ++ r ∧ (∀ c ∈ l, c.toNat < 128)
    ∧ ∀ t, NoDigit t → (∀ c ∈ t.head?, c ≠ '.') →
      NoDigit (l ++ t) ∧ parseFraction (l ++ t) = some (l, t)
  := by
  have hnone : ∀ t, (∀ c ∈ t.head?, c ≠ '.') → parseFraction t = some ([], t) := by
    intro t ht
    cases t with
    | nil => rfl
    | cons c t => rw [parseFraction, if_neg (ht c rfl)]
  cases s with
  | nil =>
      obtain ⟨rfl, rfl⟩ := Prod.mk.inj (Option.some.inj h)
      exact ⟨rfl, by simp, fun t ht hdot => ⟨ht, hnone t hdot⟩⟩
  | cons c s =>
      rw [parseFraction] at h
      split at h
      · rename_i hc
        subst hc
        obtain ⟨⟨l', r'⟩, hdigits, heq⟩ := Option.map_eq_some_iff.mp h
        obtain ⟨rfl, rfl⟩ := Prod.mk.inj heq
        obtain ⟨rfl, -, hall, hparse⟩ := parseDigits_eq_some hdigits
        refine ⟨rfl, List.forall_mem_cons.mpr ⟨by decide, ?_⟩, ?_⟩
        · exact fun d hd => toNat_lt_of_isDigit (hall d hd)
        · intro t ht _
          constructor
          · intro d hd
            obtain rfl := Option.some.inj hd
            decide
          · rw [List.cons_append, parseFraction, if_pos rfl, hparse t ht]
            rfl
      · obtain ⟨rfl, rfl⟩ := Prod.mk.inj (Option.some.inj h)
        exact ⟨rfl, by simp, fun t ht hdot => ⟨ht, hnone t hdot⟩⟩

/-- An exponent is read up to a text that does not continue the number. -/
theorem parseExponent_eq_some {s l r : List Char} (h : parseExponent s = some (l, r)) :
  s = l ++ r ∧ (∀ c ∈ l, c.toNat < 128)
    ∧ ∀ t, Follow t → NoDigit (l ++ t) ∧ (∀ c ∈ (l ++ t).head?, c ≠ '.')
      ∧ parseExponent (l ++ t) = some (l, t)
  := by
  cases s with
  | nil =>
      obtain ⟨rfl, rfl⟩ := Prod.mk.inj (Option.some.inj h)
      exact ⟨rfl, by simp,
        fun t ht => ⟨ht.noDigit, fun c hc => (ht c hc).2.1, (parse_of_follow ht).2⟩⟩
  | cons c s =>
      rw [parseExponent] at h
      split at h
      · rename_i hc
        cases hsign : parseSign ['+', '-'] s with
        | mk sign s' =>
            rw [hsign] at h
            obtain ⟨⟨l', r'⟩, hdigits, heq⟩ := Option.map_eq_some_iff.mp h
            obtain ⟨rfl, rfl⟩ := Prod.mk.inj heq
            obtain ⟨rfl, hsigns, hparse⟩ := parseSign_eq hsign
            obtain ⟨rfl, hne, hall, hparse'⟩ := parseDigits_eq_some hdigits
            dsimp only at *
            have hsigns' : ∀ d ∈ sign, d.toNat < 128 := by
              intro d hd
              have := hsigns d hd
              simp only [List.mem_cons, List.not_mem_nil, or_false] at this
              obtain rfl | rfl := this
              · decide
              · decide
            have hc' : c.toNat < 128 ∧ c.isDigit = false ∧ c ≠ '.' := by
              obtain rfl | rfl := hc
              · decide
              · decide
            refine ⟨by simp, ?_, ?_⟩
            · simp only [List.forall_mem_append, List.forall_mem_cons]
              exact ⟨⟨hc'.1, hsigns'⟩, fun d hd => toNat_lt_of_isDigit (hall d hd)⟩
            · intro t ht
              refine ⟨?_, ?_, ?_⟩
              · intro d hd
                obtain rfl := Option.some.inj hd
                exact hc'.2.1
              · intro d hd
                obtain rfl := Option.some.inj hd
                exact hc'.2.2
              · have hread : parseSign ['+', '-'] (sign ++ (l' ++ t)) = (sign, l' ++ t) := by
                  apply hparse
                  intro _ d hd hmem
                  obtain ⟨e, l'', rfl⟩ := List.exists_cons_of_ne_nil hne
                  obtain rfl := Option.some.inj hd
                  have hdigit := hall e List.mem_cons_self
                  simp only [List.mem_cons, List.not_mem_nil, or_false] at hmem
                  obtain rfl | rfl := hmem
                  · exact absurd hdigit (by decide)
                  · exact absurd hdigit (by decide)
                rw [List.cons_append, List.cons_append, parseExponent, if_pos hc,
                  List.append_assoc, hread]
                dsimp only
                rw [hparse' t ht.noDigit]
                rfl
      · obtain ⟨rfl, rfl⟩ := Prod.mk.inj (Option.some.inj h)
        exact ⟨rfl, by simp,
          fun t ht => ⟨ht.noDigit, fun c hc => (ht c hc).2.1, (parse_of_follow ht).2⟩⟩

/-- What is read as a number is one. -/
theorem parseNumber_eq_some {s l r : List Char} (h : parseNumber s = some (l, r)) :
  s = l ++ r ∧ IsNumber l ∧ ∀ c ∈ l, c.toNat < 128
  := by
  cases hsign : parseSign ['-'] s with
  | mk sign s₀ =>
      simp only [parseNumber, hsign] at h
      obtain ⟨⟨int, s₁⟩, hint, h⟩ := Option.bind_eq_some_iff.mp h
      obtain ⟨⟨frac, s₂⟩, hfrac, h⟩ := Option.bind_eq_some_iff.mp h
      obtain ⟨⟨exp, s₃⟩, hexp, h⟩ := Option.bind_eq_some_iff.mp h
      obtain ⟨rfl, rfl⟩ := Prod.mk.inj (Option.some.inj h)
      obtain ⟨rfl, hsigns, hsign'⟩ := parseSign_eq hsign
      obtain ⟨rfl, hne, hall, hint'⟩ := parseInt_eq_some hint
      obtain ⟨rfl, hfrac₁, hfrac'⟩ := parseFraction_eq_some hfrac
      obtain ⟨rfl, hexp₁, hexp'⟩ := parseExponent_eq_some hexp
      obtain ⟨d, int', rfl⟩ := List.exists_cons_of_ne_nil hne
      have hd := hall d List.mem_cons_self
      refine ⟨by simp, ⟨?_, ?_⟩, ?_⟩
      · cases sign with
        | nil => exact ⟨d, int' ++ frac ++ exp, by simp, Or.inr hd⟩
        | cons c sign =>
            have hc := List.mem_singleton.mp (hsigns c List.mem_cons_self)
            exact ⟨c, sign ++ (d :: int') ++ frac ++ exp, by simp, Or.inl hc⟩
      · intro t ht
        obtain ⟨hno, hdot, hexp⟩ := hexp' t ht
        obtain ⟨hno', hfrac⟩ := hfrac' _ hno hdot
        have hint := hint' _ hno'
        have hsign := hsign' (d :: int' ++ (frac ++ (exp ++ t))) (by
          intro _ c hc hmem
          obtain rfl := Option.some.inj hc
          rw [List.mem_singleton.mp hmem] at hd
          exact absurd hd (by decide))
        have hassoc : sign ++ (d :: int') ++ frac ++ exp ++ t
            = sign ++ (d :: int' ++ (frac ++ (exp ++ t))) := by
          simp only [List.append_assoc]
        rw [hassoc, parseNumber, hsign]
        simp only [hint, hfrac, hexp, Option.bind_eq_bind, Option.bind_some]
      · have hsigns' : ∀ c ∈ sign, c.toNat < 128 := by
          intro c hc
          rw [List.mem_singleton.mp (hsigns c hc)]
          decide
        have hint'' : ∀ c ∈ d :: int', c.toNat < 128 := fun c hc => toNat_lt_of_isDigit (hall c hc)
        simp only [List.forall_mem_append]
        exact ⟨⟨⟨hsigns', hint''⟩, hfrac₁⟩, hexp₁⟩

/-! ### Values -/

/-- The text may follow the value: it does not continue a number. -/
def MayFollow : Json Pieces → List Char → Prop
  | num _, t => Follow t
  | _, _ => True

/-- What is parsed depends on a text before `r` only that ends in a character below 128. -/
def Consumes {α : Type} (parse : Nat → List Char → Option (α × List Char)) (n : Nat)
    (follow : α → List Char → Prop) (s : List Char) (a : α) (r : List Char) : Prop :=
  ∃ w c, s = w ++ c :: r ∧ c.toNat < 128
    ∧ ∀ m t, n ≤ m → follow a t → parse m (w ++ c :: t) = some (a, t)

/-- White space and a bracket, a comma or a colon may follow every value. -/
theorem mayFollow_append {w : List Char} (hw : IsSpace w) {c : Char}
    (hc : c.isDigit = false ∧ c ≠ '.' ∧ c ≠ 'e' ∧ c ≠ 'E') (v : Json Pieces) (t : List Char) :
  MayFollow v (w ++ c :: t)
  := by
  have hfollow : Follow (w ++ c :: t) := by
    cases w with
    | nil => exact follow_cons hc t
    | cons d w =>
        apply follow_cons
        have hd := hw d List.mem_cons_self
        simp only [isWs, Bool.or_eq_true, decide_eq_true_eq] at hd
        rcases hd with ((rfl | rfl) | rfl) | rfl <;> decide
  cases v with
  | num l => exact hfollow
  | null => trivial
  | bool b => trivial
  | str s => trivial
  | arr vs => trivial
  | obj ms => trivial

/-- What is parsed depends on the text that is consumed only. -/
def Local (n : Nat) : Prop :=
  (∀ s v r, parseValue n s = some (v, r) → Consumes parseValue n MayFollow s v r)
    ∧ (∀ s vs r, parseItems n s = some (vs, r) →
      Consumes parseItems n (fun _ _ => True) s vs r)
    ∧ (∀ s ms r, parseMembers n s = some (ms, r) →
      Consumes parseMembers n (fun _ _ => True) s ms r)

theorem consumes_items {n : Nat} (ih : Local n) {s r : List Char} {vs : List (Json Pieces)}
    (h : parseItems (n + 1) s = some (vs, r)) :
  Consumes parseItems (n + 1) (fun _ _ => True) s vs r
  := by
  rw [parseItems] at h
  obtain ⟨⟨v, s₁⟩, hv, hrest⟩ := Option.bind_eq_some_iff.mp h
  clear h
  obtain ⟨w, c, rfl, -, hw⟩ := ih.1 _ _ _ hv
  dsimp only at hrest
  split at hrest
  · rename_i s₂ hcomma
    obtain ⟨sp, hsp, hws, rfl⟩ := expect_eq_some hcomma
    obtain ⟨⟨vs', s₃⟩, hvs, heq⟩ := Option.bind_eq_some_iff.mp hrest
    obtain ⟨rfl, rfl⟩ := Prod.mk.inj (Option.some.inj heq)
    obtain ⟨w', c', rfl, hc', hw'⟩ := ih.2.1 _ _ _ hvs
    refine ⟨w ++ c :: (sp ++ ',' :: w'), c', by simp, hc', ?_⟩
    intro m t hm _
    obtain ⟨k, rfl⟩ : ∃ k, m = k + 1 := ⟨m - 1, by omega⟩
    have hvalue := hw k (sp ++ ',' :: (w' ++ c' :: t)) (by omega)
      (mayFollow_append hsp (by decide) v _)
    simp only [List.append_assoc, List.cons_append, parseItems, hvalue, Option.bind_eq_bind,
      Option.bind_some, expect_append hsp hws, if_true, hw' k t (by omega) trivial]
  · obtain ⟨s₂, hclose, heq⟩ := Option.bind_eq_some_iff.mp hrest
    obtain ⟨rfl, rfl⟩ := Prod.mk.inj (Option.some.inj heq)
    obtain ⟨sp, hsp, hws, rfl⟩ := expect_eq_some hclose
    refine ⟨w ++ c :: sp, ']', by simp, by decide, ?_⟩
    intro m t hm _
    obtain ⟨k, rfl⟩ : ∃ k, m = k + 1 := ⟨m - 1, by omega⟩
    have hvalue := hw k (sp ++ ']' :: t) (by omega) (mayFollow_append hsp (by decide) v _)
    simp only [List.append_assoc, List.cons_append, parseItems, hvalue, Option.bind_eq_bind,
      Option.bind_some, expect_append hsp hws, if_true, if_neg (show ']' ≠ ',' by decide)]

theorem consumes_members {n : Nat} (ih : Local n) {s r : List Char}
    {ms : List (Pieces × Json Pieces)} (h : parseMembers (n + 1) s = some (ms, r)) :
  Consumes parseMembers (n + 1) (fun _ _ => True) s ms r
  := by
  rw [parseMembers] at h
  obtain ⟨s₁, hopen, hrest₁⟩ := Option.bind_eq_some_iff.mp h
  obtain ⟨⟨k, s₂⟩, hk, hrest₂⟩ := Option.bind_eq_some_iff.mp hrest₁
  obtain ⟨s₃, hcolon, hrest₃⟩ := Option.bind_eq_some_iff.mp hrest₂
  obtain ⟨⟨v, s₄⟩, hv, hrest⟩ := Option.bind_eq_some_iff.mp hrest₃
  clear h hrest₁ hrest₂ hrest₃
  obtain ⟨sp₁, hsp₁, hws₁, rfl⟩ := expect_eq_some hopen
  obtain ⟨wk, rfl, hwk⟩ := parseString_eq_some hk
  obtain ⟨sp₂, hsp₂, hws₂, rfl⟩ := expect_eq_some hcolon
  obtain ⟨w, c, rfl, -, hw⟩ := ih.1 _ _ _ hv
  dsimp only at hrest
  split at hrest
  · rename_i s₅ hcomma
    obtain ⟨sp, hsp, hws, rfl⟩ := expect_eq_some hcomma
    obtain ⟨⟨ms', s₆⟩, hms, heq⟩ := Option.bind_eq_some_iff.mp hrest
    obtain ⟨rfl, rfl⟩ := Prod.mk.inj (Option.some.inj heq)
    obtain ⟨w', c', rfl, hc', hw'⟩ := ih.2.2 _ _ _ hms
    refine ⟨sp₁ ++ '"' :: (wk ++ '"' :: (sp₂ ++ ':' :: (w ++ c :: (sp ++ ',' :: w')))), c', by simp,
      hc', ?_⟩
    intro m t hm _
    obtain ⟨j, rfl⟩ : ∃ j, m = j + 1 := ⟨m - 1, by omega⟩
    have hvalue := hw j (sp ++ ',' :: (w' ++ c' :: t)) (by omega)
      (mayFollow_append hsp (by decide) v _)
    simp only [List.append_assoc, List.cons_append, parseMembers, hvalue, hwk, Option.bind_eq_bind,
      Option.bind_some, expect_append hsp hws, expect_append hsp₁ hws₁, expect_append hsp₂ hws₂,
      if_true, hw' j t (by omega) trivial]
  · obtain ⟨s₅, hclose, heq⟩ := Option.bind_eq_some_iff.mp hrest
    obtain ⟨rfl, rfl⟩ := Prod.mk.inj (Option.some.inj heq)
    obtain ⟨sp, hsp, hws, rfl⟩ := expect_eq_some hclose
    refine ⟨sp₁ ++ '"' :: (wk ++ '"' :: (sp₂ ++ ':' :: (w ++ c :: sp))), '}', by simp, by decide, ?_⟩
    intro m t hm _
    obtain ⟨j, rfl⟩ : ∃ j, m = j + 1 := ⟨m - 1, by omega⟩
    have hvalue := hw j (sp ++ '}' :: t) (by omega) (mayFollow_append hsp (by decide) v _)
    simp only [List.append_assoc, List.cons_append, parseMembers, hvalue, hwk, Option.bind_eq_bind,
      Option.bind_some, expect_append hsp hws, expect_append hsp₁ hws₁, expect_append hsp₂ hws₂,
      if_true, if_neg (show '}' ≠ ',' by decide)]

/-- White space before a value is skipped. -/
theorem parseValue_space {sp : List Char} (hsp : IsSpace sp) {c : Char} (hc : isWs c = false)
    (n : Nat) (s : List Char) :
  parseValue n (sp ++ c :: s) = parseValue n (c :: s)
  := by
  cases n with
  | zero => rfl
  | succ n => rw [parseValue, parseValue, skipWs_append hsp hc, skipWs_cons hc]

theorem Consumes.space {sp : List Char} (hsp : IsSpace sp) {c : Char} (hc : isWs c = false) {n : Nat}
    {s r : List Char} {v : Json Pieces} (h : Consumes parseValue n MayFollow (c :: s) v r) :
  Consumes parseValue n MayFollow (sp ++ c :: s) v r
  := by
  obtain ⟨w, d, hs, hd, hw⟩ := h
  refine ⟨sp ++ w, d, by rw [hs, List.append_assoc], hd, ?_⟩
  intro m t hm ht
  rw [List.append_assoc, ← hw m t hm ht]
  cases w with
  | nil =>
      obtain ⟨rfl, -⟩ := List.cons.inj hs
      apply parseValue_space hsp hc
  | cons e w =>
      obtain ⟨rfl, -⟩ := List.cons.inj hs
      apply parseValue_space hsp hc

/-- A text with members is not closed at once. -/
theorem expect_of_parseMembers {n : Nat} {s : List Char}
    {x : List (Pieces × Json Pieces) × List Char} (h : parseMembers n s = some x) :
  expect '}' s = none
  := by
  cases n with
  | zero => cases h
  | succ n =>
      rw [parseMembers] at h
      obtain ⟨s₁, hopen, -⟩ := Option.bind_eq_some_iff.mp h
      obtain ⟨sp, hsp, hws, rfl⟩ := expect_eq_some hopen
      rw [expect_append hsp hws, if_neg (by decide)]

/-- A text with items is not closed at once. -/
theorem expect_of_parseItems {n : Nat} {s : List Char} {x : List (Json Pieces) × List Char}
    (h : parseItems n s = some x) :
  expect ']' s = none
  := by
  cases n with
  | zero => cases h
  | succ n =>
      rw [parseItems] at h
      obtain ⟨v, hv, -⟩ := Option.bind_eq_some_iff.mp h
      cases hclose : expect ']' s with
      | none => rfl
      | some r =>
          obtain ⟨sp, hsp, hws, rfl⟩ := expect_eq_some hclose
          rw [parseValue_space hsp hws] at hv
          cases n with
          | zero => cases hv
          | succ n => simp [parseValue, skipWs_cons hws, parseNumber, parseSign, parseInt,
              parseDigits] at hv

/-- A value that is one of the three names. -/
theorem consumes_keyword {n : Nat} {c : Char} {s r : List Char} {v : Json Pieces} (cs : List Char)
    (d : Char) (hd : d.toNat < 128)
    (hread : ∀ m s, parseValue (m + 1) (c :: s)
      = (keyword (cs ++ [d]) s).map fun r => (v, r))
    (h : keyword (cs ++ [d]) s = some r) :
  Consumes parseValue (n + 1) MayFollow (c :: s) v r
  := by
  refine ⟨c :: cs, d, by simp [keyword_eq_some h], hd, ?_⟩
  intro m t hm _
  obtain ⟨k, rfl⟩ : ∃ k, m = k + 1 := ⟨m - 1, by omega⟩
  have ht := keyword_append (cs ++ [d]) t
  rw [List.append_assoc, List.singleton_append] at ht
  rw [List.cons_append, hread, ht, Option.map_some]

/-- A value that is read from a text without leading white space. -/
theorem consumes_value_cons {n : Nat} (ih : Local n) {c : Char} (hc : isWs c = false)
    {s r : List Char} {v : Json Pieces} (h : parseValue (n + 1) (c :: s) = some (v, r)) :
  Consumes parseValue (n + 1) MayFollow (c :: s) v r
  := by
  rw [parseValue, skipWs_cons hc] at h
  dsimp only at h
  split_ifs at h with hquote hbrace hbracket ht hf hn
  · subst hquote
    obtain ⟨⟨ps, r'⟩, hps, heq⟩ := Option.bind_eq_some_iff.mp h
    obtain ⟨rfl, rfl⟩ := Prod.mk.inj (Option.some.inj heq)
    obtain ⟨w, rfl, hw⟩ := parseString_eq_some hps
    refine ⟨'"' :: w, '"', rfl, by decide, ?_⟩
    intro m t hm _
    obtain ⟨k, rfl⟩ : ∃ k, m = k + 1 := ⟨m - 1, by omega⟩
    simp [parseValue, skipWs_cons hc, hw t]
  · subst hbrace
    split at h
    · rename_i s' hclose
      obtain ⟨rfl, rfl⟩ := Prod.mk.inj (Option.some.inj h)
      obtain ⟨sp, hsp, hws, rfl⟩ := expect_eq_some hclose
      refine ⟨'{' :: sp, '}', rfl, by decide, ?_⟩
      intro m t hm _
      obtain ⟨k, rfl⟩ : ∃ k, m = k + 1 := ⟨m - 1, by omega⟩
      simp [parseValue, skipWs_cons hc, expect_append hsp hws]
    · obtain ⟨⟨ms, r'⟩, hms, heq⟩ := Option.bind_eq_some_iff.mp h
      obtain ⟨rfl, rfl⟩ := Prod.mk.inj (Option.some.inj heq)
      obtain ⟨w, d, rfl, hd, hw⟩ := ih.2.2 _ _ _ hms
      refine ⟨'{' :: w, d, rfl, hd, ?_⟩
      intro m t hm _
      obtain ⟨k, rfl⟩ : ∃ k, m = k + 1 := ⟨m - 1, by omega⟩
      have hmembers := hw k t (by omega) trivial
      simp [parseValue, skipWs_cons hc, expect_of_parseMembers hmembers, hmembers]
  · subst hbracket
    split at h
    · rename_i s' hclose
      obtain ⟨rfl, rfl⟩ := Prod.mk.inj (Option.some.inj h)
      obtain ⟨sp, hsp, hws, rfl⟩ := expect_eq_some hclose
      refine ⟨'[' :: sp, ']', rfl, by decide, ?_⟩
      intro m t hm _
      obtain ⟨k, rfl⟩ : ∃ k, m = k + 1 := ⟨m - 1, by omega⟩
      simp [parseValue, skipWs_cons hc, expect_append hsp hws]
    · obtain ⟨⟨vs, r'⟩, hvs, heq⟩ := Option.bind_eq_some_iff.mp h
      obtain ⟨rfl, rfl⟩ := Prod.mk.inj (Option.some.inj heq)
      obtain ⟨w, d, rfl, hd, hw⟩ := ih.2.1 _ _ _ hvs
      refine ⟨'[' :: w, d, rfl, hd, ?_⟩
      intro m t hm _
      obtain ⟨k, rfl⟩ : ∃ k, m = k + 1 := ⟨m - 1, by omega⟩
      have hitems := hw k t (by omega) trivial
      simp [parseValue, skipWs_cons hc, expect_of_parseItems hitems, hitems]
  · subst ht
    obtain ⟨r', hr, heq⟩ := Option.bind_eq_some_iff.mp h
    obtain ⟨rfl, rfl⟩ := Prod.mk.inj (Option.some.inj heq)
    apply consumes_keyword ['r', 'u'] 'e' (by decide) _ hr
    intro m s
    simp [parseValue, skipWs_cons hc, Option.map_eq_bind]
  · subst hf
    obtain ⟨r', hr, heq⟩ := Option.bind_eq_some_iff.mp h
    obtain ⟨rfl, rfl⟩ := Prod.mk.inj (Option.some.inj heq)
    apply consumes_keyword ['a', 'l', 's'] 'e' (by decide) _ hr
    intro m s
    simp [parseValue, skipWs_cons hc, Option.map_eq_bind]
  · subst hn
    obtain ⟨r', hr, heq⟩ := Option.bind_eq_some_iff.mp h
    obtain ⟨rfl, rfl⟩ := Prod.mk.inj (Option.some.inj heq)
    apply consumes_keyword ['u', 'l'] 'l' (by decide) _ hr
    intro m s
    simp [parseValue, skipWs_cons hc, Option.map_eq_bind]
  · obtain ⟨⟨l, r'⟩, hl, heq⟩ := Option.bind_eq_some_iff.mp h
    obtain ⟨rfl, rfl⟩ := Prod.mk.inj (Option.some.inj heq)
    obtain ⟨hs, hnum, hascii⟩ := parseNumber_eq_some hl
    obtain ⟨e, l', rfl, -⟩ := hnum.head
    obtain ⟨w, d, hwd⟩ : ∃ w d, e :: l' = w ++ [d] :=
      ⟨(e :: l').dropLast, (e :: l').getLast (by simp), (List.dropLast_append_getLast _).symm⟩
    refine ⟨w, d, ?_, ?_, ?_⟩
    · rw [hs, hwd, List.append_assoc, List.singleton_append]
    · apply hascii
      rw [hwd]
      simp
    · intro m t hm ht
      obtain ⟨k, rfl⟩ : ∃ k, m = k + 1 := ⟨m - 1, by omega⟩
      have hparse := parseValue_number hnum ht k
      rw [hwd, List.append_assoc, List.singleton_append] at hparse
      rw [hparse, hwd]

/-- What is parsed depends on the text that is consumed only. -/
theorem local_parse (n : Nat) : Local n
  := by
  induction n with
  | zero =>
      refine ⟨?_, ?_, ?_⟩
      · intro s v r h
        cases h
      · intro s vs r h
        cases h
      · intro s ms r h
        cases h
  | succ n ih =>
      refine ⟨?_, fun s vs r h => consumes_items ih h, fun s ms r h => consumes_members ih h⟩
      intro s v r h
      cases hs : skipWs s with
      | nil =>
          rw [parseValue, hs] at h
          cases h
      | cons c s' =>
          obtain ⟨sp, hsp, hc, rfl⟩ := skipWs_eq_cons hs
          rw [parseValue_space hsp hc] at h
          exact (consumes_value_cons ih hc h).space hsp hc

/-! ### Cut texts -/

variable {σ : Type}

/-- If the start of the text of a value, maybe with characters from 128 on after it, is
parsed as anything but a number, it is parsed as the value. -/
theorem eq_of_parsePrefix_cut {quote : σ → List Char} {pieces : σ → Pieces}
    (hquote : Reads quote pieces) {v : Json σ} (hv : v.Valid) {p q r : List Char}
    (hp : p <+: print quote v) (hq : ∀ c ∈ q, 128 ≤ c.toNat) {x : Json Pieces}
    (h : parsePrefix (p ++ q) = some (x, r)) (hx : ∀ l, x ≠ .num l) :
  x = v.map pieces
  := by
  obtain ⟨w, c, hw, hc, hparse⟩ := (local_parse _).1 _ _ _ h
  obtain ⟨b, rfl⟩ : ∃ b, p = w ++ c :: b := by
    have hw' : p ++ q = (w ++ [c]) ++ r := by
      rw [hw, List.append_assoc, List.singleton_append]
    obtain ⟨a, ha, hqa⟩ | ⟨b, hb, -⟩ := List.append_eq_append_iff.mp hw'
    · cases hlast : a.getLast? with
      | none =>
          rw [List.getLast?_eq_none_iff.mp hlast, List.append_nil] at ha
          exact ⟨[], ha.symm⟩
      | some d =>
          have hd : c = d := by
            have := congrArg List.getLast? ha
            rw [List.getLast?_append, List.getLast?_append, hlast] at this
            exact Option.some.inj this
          have hmem : d ∈ q := by
            rw [hqa]
            exact List.mem_append_left _ (List.mem_of_getLast? hlast)
          have := hq d hmem
          rw [← hd] at this
          omega
    · refine ⟨b, ?_⟩
      rw [hb, List.append_assoc, List.singleton_append]
  obtain ⟨t, ht⟩ := hp
  rw [List.append_assoc, List.cons_append] at ht
  have hfollow : MayFollow x (b ++ t) := by
    cases x with
    | num l => exact absurd rfl (hx l)
    | null => trivial
    | bool b => trivial
    | str s => trivial
    | arr vs => trivial
    | obj ms => trivial
  have hcut := hparse (max ((w ++ c :: b ++ q).length + 1) ((print quote v).length + 1)) (b ++ t)
    (Nat.le_max_left _ _) hfollow
  have hprint := parseValue_print hquote v hv
    (max ((w ++ c :: b ++ q).length + 1) ((print quote v).length + 1)) []
    (Nat.lt_of_lt_of_le (Nat.lt_succ_self _) (Nat.le_max_right _ _)) (by
      intro d hd
      cases hd)
  rw [ht] at hcut
  rw [List.append_nil, hcut] at hprint
  exact (Prod.mk.inj (Option.some.inj hprint)).1

end Json

namespace GoJson

open Json Text

/-- What Go reads as a whole, it also reads as a start. -/
theorem decode_of_unmarshal {bs : List UInt8} {x : Json (List UInt8)}
    (h : unmarshal bs = some x) :
  decode bs = some x
  := by
  obtain ⟨y, hy, rfl⟩ := Option.map_eq_some_iff.mp h
  obtain ⟨hy, hdepth⟩ := Option.filter_eq_some_iff.mp hy
  obtain ⟨⟨z, r⟩, hz, hr⟩ := Option.bind_eq_some_iff.mp hy
  split at hr
  · obtain rfl := Option.some.inj hr
    have hshallow : (parsePrefix (text bs)).filter (fun r => r.1.depth ≤ maxNestingDepth)
        = some (z, r) := by
      rw [hz]
      exact Option.filter_some_pos hdepth
    rw [decode, hshallow, Option.map_some]
  · cases hr

/-- What Go reads of the first bytes of a value is the value, if it is not a number. -/
theorem decode_take {σ : Type} {quote : σ → List Char} {pieces : σ → Pieces}
    (hquote : Reads quote pieces) {v : Json σ} (hv : v.Valid) {n : Nat} {x : Json (List UInt8)}
    (h : decode ((utf8 (v.print quote)).take n) = some x) (hx : ∀ l, x ≠ .num l) :
  x = (v.map pieces).map fun ps => utf8 (unquote ps)
  := by
  obtain ⟨p, q, hp, hruns, hq⟩ := runes_take_utf8 (v.print quote) n
  obtain ⟨⟨y, r⟩, hy, rfl⟩ := Option.map_eq_some_iff.mp h
  replace hy := Option.eq_some_of_filter_eq_some hy
  have htext : text ((utf8 (v.print quote)).take n) = p ++ q.map fun c => c.getD replacement := by
    rw [text, hruns, List.map_append, List.map_map]
    congr 1
    exact List.map_id p
  rw [htext] at hy
  rw [eq_of_parsePrefix_cut hquote hv hp _ hy]
  · rintro l rfl
    exact hx l rfl
  · intro c hc
    obtain ⟨d, hd, rfl⟩ := List.mem_map.mp hc
    cases d with
    | none => decide
    | some d => exact hq d hd

end GoJson
