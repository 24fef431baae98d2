import Mathlib.Algebra.Order.Field.Basic
import Mathlib.Tactic.Linarith

/-!
# A budget that refills

An amount grows at a steady rate up to a bound, and withdrawals are made from it.  What is
left together with what was withdrawn since some time never exceeds the bound and what the
rate adds since that time (`Budget.Bounded.saved`), so the withdrawals within any interval
do not exceed the bound and what the rate adds during the interval.  If nothing is lost that
could be kept (`Budget.Tight`), there is enough for every withdrawal that does not exceed them.
-/

universe u

namespace Budget

/-- A withdrawal, with its time. -/
structure Withdrawal (K : Type u) where
  time : K
  amount : K

variable {K : Type u} [Field K] [LinearOrder K]

/-- What was withdrawn from time `t₁` to time `t₂`. -/
def spent (l : List (Withdrawal K)) (t₁ t₂ : K) : K :=
  ((l.filter fun w => t₁ ≤ w.time ∧ w.time ≤ t₂).map Withdrawal.amount).sum

/-- A withdrawal within the interval adds its amount. -/
theorem spent_cons_of_mem {w : Withdrawal K} (l : List (Withdrawal K)) {t₁ t₂ : K}
    (h : t₁ ≤ w.time ∧ w.time ≤ t₂) :
  spent (w :: l) t₁ t₂ = w.amount + spent l t₁ t₂
  := by
  rw [spent, List.filter_cons_of_pos (by simpa using h), List.map_cons, List.sum_cons, spent]

/-- A withdrawal outside the interval adds nothing. -/
theorem spent_cons_of_not_mem {w : Withdrawal K} (l : List (Withdrawal K)) {t₁ t₂ : K}
    (h : ¬ (t₁ ≤ w.time ∧ w.time ≤ t₂)) :
  spent (w :: l) t₁ t₂ = spent l t₁ t₂
  := by
  rw [spent, List.filter_cons_of_neg (by simpa using h), spent]

/-- After the last withdrawal nothing is spent. -/
theorem spent_of_lt {l : List (Withdrawal K)} {last t₁ : K} (h : ∀ w ∈ l, w.time ≤ last)
    (ht : last < t₁) (t₂ : K) :
  spent l t₁ t₂ = 0
  := by
  have hnone : (l.filter fun w => t₁ ≤ w.time ∧ w.time ≤ t₂) = [] := by
    apply List.filter_eq_nil_iff.mpr
    intro w hw
    have := h w hw
    simp only [decide_eq_true_eq, not_and]
    intro hle
    exact absurd (le_trans hle this) (not_le_of_gt ht)
  rw [spent, hnone, List.map_nil, List.sum_nil]

/-- All that is spent from some time on is spent by the last withdrawal. -/
theorem spent_of_le {l : List (Withdrawal K)} {last : K} (h : ∀ w ∈ l, w.time ≤ last) {t₂ : K}
    (ht : last ≤ t₂) (t₁ : K) :
  spent l t₁ t₂ = spent l t₁ last
  := by
  have hsame : (l.filter fun w => t₁ ≤ w.time ∧ w.time ≤ t₂)
      = l.filter fun w => t₁ ≤ w.time ∧ w.time ≤ last := by
    apply List.filter_congr
    intro w hw
    have hlast := h w hw
    simp only [hlast, le_trans hlast ht, and_true]
  rw [spent, hsame, spent]

/-- At time `last` the amount `left` is left of a budget that holds at most `burst` and
grows at `rate`, after the given withdrawals. -/
structure Bounded (burst rate : K) (l : List (Withdrawal K)) (left last : K) : Prop where
  rate_nonneg : 0 ≤ rate
  nonneg : 0 ≤ left
  le_burst : left ≤ burst
  time_le : ∀ w ∈ l, w.time ≤ last
  saved : ∀ t₁ ≤ last, spent l t₁ last + left ≤ burst + rate * (last - t₁)
  spent_le : ∀ t₁ t₂, t₁ ≤ t₂ → spent l t₁ t₂ ≤ burst + rate * (t₂ - t₁)

variable [IsStrictOrderedRing K] {burst rate left last : K} {l : List (Withdrawal K)}

/-- A full budget without withdrawals is bounded. -/
theorem bounded_full (hrate : 0 ≤ rate) (hburst : 0 ≤ burst) (last : K) :
  Bounded burst rate [] burst last
  := by
  have hspent : ∀ t₁ t₂ : K, spent [] t₁ t₂ = 0 := by
    intro t₁ t₂
    rfl
  constructor
  · exact hrate
  · exact hburst
  · exact le_rfl
  · intro w hw
    cases hw
  · intro t₁ ht
    have := mul_nonneg hrate (sub_nonneg.mpr ht)
    rw [hspent]
    linarith
  · intro t₁ t₂ ht
    have := mul_nonneg hrate (sub_nonneg.mpr ht)
    rw [hspent]
    linarith

/-- A budget stays bounded when time passes and at most what the rate adds is added. -/
theorem Bounded.refill (h : Bounded burst rate l left last) {t left' : K} (ht : last ≤ t)
    (hle : left ≤ left') (hburst : left' ≤ burst) (hrate : left' ≤ left + rate * (t - last)) :
  Bounded burst rate l left' t
  := by
  constructor
  · exact h.rate_nonneg
  · exact le_trans h.nonneg hle
  · exact hburst
  · intro w hw
    exact le_trans (h.time_le w hw) ht
  · intro t₁ ht₁
    rcases le_or_gt t₁ last with hlast | hlast
    · have hsaved := h.saved t₁ hlast
      rw [spent_of_le h.time_le ht]
      linarith
    · have := mul_nonneg h.rate_nonneg (sub_nonneg.mpr ht₁)
      rw [spent_of_lt h.time_le hlast]
      linarith
  · exact h.spent_le

/-- A budget stays bounded when no more than what is left is withdrawn. -/
theorem Bounded.withdraw (h : Bounded burst rate l left last) {n : K} (hn : 0 ≤ n) (hle : n ≤ left) :
  Bounded burst rate ({ time := last, amount := n } :: l) (left - n) last
  := by
  have hburst := h.le_burst
  constructor
  · exact h.rate_nonneg
  · linarith
  · linarith
  · intro w hw
    rcases List.mem_cons.mp hw with rfl | hw
    · exact le_rfl
    · exact h.time_le w hw
  · intro t₁ ht₁
    have hsaved := h.saved t₁ ht₁
    rw [spent_cons_of_mem l ⟨ht₁, le_rfl⟩]
    linarith
  · intro t₁ t₂ ht
    by_cases hmem : t₁ ≤ last ∧ last ≤ t₂
    · have hsaved := h.saved t₁ hmem.1
      have hgrow := mul_le_mul_of_nonneg_left (sub_le_sub_right hmem.2 t₁) h.rate_nonneg
      rw [spent_cons_of_mem l hmem, spent_of_le h.time_le hmem.2]
      linarith
    · rw [spent_cons_of_not_mem l hmem]
      exact h.spent_le t₁ t₂ ht

/-! ### Withdrawals that conform -/

/-- The withdrawals within every interval are at most what the budget holds and what the rate
adds during the interval. -/
def Conforms (burst rate : K) (l : List (Withdrawal K)) : Prop :=
  ∀ t₁ t₂, t₁ ≤ t₂ → spent l t₁ t₂ ≤ burst + rate * (t₂ - t₁)

/-- Without its last withdrawal a list still conforms. -/
theorem Conforms.tail {w : Withdrawal K} (h : Conforms burst rate (w :: l)) (hw : 0 ≤ w.amount) :
  Conforms burst rate l
  := by
  intro t₁ t₂ ht
  have hle := h t₁ t₂ ht
  by_cases hmem : t₁ ≤ w.time ∧ w.time ≤ t₂
  · rw [spent_cons_of_mem l hmem] at hle
    linarith
  · rwa [spent_cons_of_not_mem l hmem] at hle

/-- At time `last` the amount `left` is exactly what is left: since some time, when the budget was
full, nothing of what the rate added was lost. -/
structure Tight (burst rate : K) (l : List (Withdrawal K)) (left last : K) : Prop where
  le_burst : left ≤ burst
  time_le : ∀ w ∈ l, w.time ≤ last
  full : ∃ t₁ ≤ last, spent l t₁ last + left = burst + rate * (last - t₁)

omit [IsStrictOrderedRing K] in
/-- A full budget without withdrawals is tight. -/
theorem tight_full (burst rate last : K) : Tight burst rate [] burst last
  := by
  constructor
  · exact le_rfl
  · intro w hw
    cases hw
  · use last, le_rfl
    rw [spent, List.filter_nil, List.map_nil, List.sum_nil, zero_add, sub_self, mul_zero, add_zero]

/-- A budget stays tight when all that the rate adds is added, up to what it holds. -/
theorem Tight.refill (h : Tight burst rate l left last) {t : K} (ht : last ≤ t) :
  Tight burst rate l (min burst (left + rate * (t - last))) t
  := by
  obtain ⟨t₁, ht₁, hfull⟩ := h.full
  constructor
  · exact min_le_left _ _
  · intro w hw
    exact (h.time_le w hw).trans ht
  rcases le_or_gt (left + rate * (t - last)) burst with hle | hgt
  · use t₁, ht₁.trans ht
    rw [min_eq_right hle, spent_of_le h.time_le ht]
    linarith
  · have hlt : last < t := by
      rcases lt_or_eq_of_le ht with hlt | rfl
      · exact hlt
      · have := h.le_burst
        rw [sub_self, mul_zero, add_zero] at hgt
        linarith
    use t, le_rfl
    rw [min_eq_left hgt.le, spent_of_lt h.time_le hlt, zero_add, sub_self, mul_zero, add_zero]

/-- A budget stays tight when an amount is withdrawn. -/
theorem Tight.withdraw (h : Tight burst rate l left last) {n : K} (hn : 0 ≤ n) :
  Tight burst rate ({ time := last, amount := n } :: l) (left - n) last
  := by
  obtain ⟨t₁, ht₁, hfull⟩ := h.full
  have hburst := h.le_burst
  constructor
  · linarith
  · intro w hw
    rcases List.mem_cons.mp hw with rfl | hw
    · exact le_rfl
    · exact h.time_le w hw
  · use t₁, ht₁
    rw [spent_cons_of_mem l ⟨ht₁, le_rfl⟩]
    linarith

/-- If a withdrawal conforms together with those before, enough is left for it. -/
theorem Tight.le_left (h : Tight burst rate l left last) {n : K}
    (hconforms : Conforms burst rate ({ time := last, amount := n } :: l)) :
  n ≤ left
  := by
  obtain ⟨t₁, ht₁, hfull⟩ := h.full
  have hle := hconforms t₁ last ht₁
  rw [spent_cons_of_mem l ⟨ht₁, le_rfl⟩] at hle
  linarith

end Budget
