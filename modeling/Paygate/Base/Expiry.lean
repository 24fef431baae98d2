import Mathlib.Tactic.Common
import Mathlib.Data.Option.Basic

/-!
# Items in force until a deadline

A shelf holds what was put last under each key, with the time it is in force until.  A rule says
at which times an item with a given deadline is in force; rules differ about the deadline itself.
A store backs a shelf under a rule when it holds nothing but what the shelf holds, and everything
in force.  Whoever looks into such a store, and judges by the rule, finds what the shelf has, so
that a store may drop what has expired whenever it likes.
-/

universe u v w

/-- An item with a deadline. -/
@[ext]
structure Dated (V : Type v) where
  item : V
  deadline : Int

/-- Whether an item is in force at a time (the first argument), given its deadline. -/
abbrev ForceRule :=
  Int → Int → Bool

namespace ForceRule

/-- In force up to and including the deadline. -/
def through : ForceRule :=
  fun now deadline => decide (now ≤ deadline)

/-- In force before the deadline only. -/
def before : ForceRule :=
  fun now deadline => decide (now < deadline)

/-- The two rules differ at the deadline only. -/
theorem through_eq_before {now deadline : Int} (h : deadline ≠ now) :
  through now deadline = before now deadline
  := by
  have : now ≤ deadline ↔ now < deadline := ⟨fun hle => by omega, Int.le_of_lt⟩
  exact decide_eq_decide.mpr this

end ForceRule

/-- What was put last under each key. -/
abbrev DatedShelf (K : Type u) (V : Type v) :=
  K → Option (Dated V)

namespace DatedShelf

variable {K : Type u} {V : Type v} {W : Type w}

/-- The item under a key that is in force at a time. -/
def look (rule : ForceRule) (s : DatedShelf K V) (now : Int) (k : K) : Option V :=
  ((s k).filter fun d => rule now d.deadline).map Dated.item

/-- An item is found exactly when it was put last and is in force. -/
theorem look_eq_some {rule : ForceRule} {s : DatedShelf K V} {now : Int} {k : K} {x : V} :
  s.look rule now k = some x ↔ ∃ d, s k = some d ∧ rule now d.deadline = true ∧ d.item = x
  := by
  simp only [look, Option.map_eq_some_iff, Option.filter_eq_some_iff, and_assoc]

/-- Nothing is found exactly when nothing in force was put last. -/
theorem look_eq_none {rule : ForceRule} {s : DatedShelf K V} {now : Int} {k : K} :
  s.look rule now k = none ↔ ∀ d, s k = some d → rule now d.deadline = false
  := by
  simp only [look, Option.map_eq_none_iff, Option.filter_eq_none_iff, Bool.not_eq_true]

/-- Two rules find the same where they agree about what is under the key. -/
theorem look_congr_rule {rule rule' : ForceRule} {s : DatedShelf K V} {now : Int} {k : K}
    (h : ∀ d, s k = some d → rule now d.deadline = rule' now d.deadline) :
  s.look rule now k = s.look rule' now k
  := by
  cases hk : s k with
  | none => simp only [look, hk, Option.filter_none, Option.map_none]
  | some d => simp only [look, hk, Option.filter_some, h d hk]

/-- A store backs a shelf at a time: it holds nothing but what was put last, and all of it that
is in force. -/
structure Backs (rule : ForceRule) (t s : DatedShelf K V) (now : Int) : Prop where
  of : ∀ {k d}, t k = some d → s k = some d
  held : ∀ {k d}, s k = some d → rule now d.deadline = true → t k = some d

/-- Looking into a store that backs a shelf finds what the shelf has. -/
theorem Backs.look_eq {rule : ForceRule} {t s : DatedShelf K V} {now : Int} (h : Backs rule t s now)
    (k : K) :
  t.look rule now k = s.look rule now k
  := by
  ext x
  rw [look_eq_some, look_eq_some]
  constructor
  · rintro ⟨d, hd, hforce, hx⟩
    use d, h.of hd, hforce, hx
  · rintro ⟨d, hd, hforce, hx⟩
    use d, h.held hd hforce, hforce, hx

/-- Items that are written in another form are found in that form, if the keys are written in
different ways. -/
theorem look_map {rule : ForceRule} {K' : Type*} {s : DatedShelf K V} {t : DatedShelf K' W} {key : K → K'}
    {enc : V → W} {now : Int} {k : K}
    (h : t (key k) = (s k).map fun d => { item := enc d.item, deadline := d.deadline }) :
  t.look rule now (key k) = (s.look rule now k).map enc
  := by
  cases hk : s k with
  | none => simp only [look, h, hk, Option.map_none, Option.filter_none]
  | some d =>
      cases hforce : rule now d.deadline with
      | true => simp only [look, h, hk, Option.map_some, Option.filter_some, hforce, if_true]
      | false =>
          simp only [look, h, hk, Option.map_some, Option.filter_some, hforce, Bool.false_eq_true,
            if_false, Option.map_none]

end DatedShelf
