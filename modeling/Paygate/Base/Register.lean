import Mathlib.Algebra.Order.Group.Nat
import Mathlib.Logic.Function.Basic

/-!
# A register of names

A register in which a name is set unless it is still visible, and stays visible through `ttl`
after it was set.  Nothing is ever removed from it.  At times that do not decrease, setting a
name succeeds exactly if no earlier success with that name is at most `ttl` ago
(`setAll_iff`).
-/

universe u

/-- For each name the last time it was set. -/
abbrev Register (κ : Type u) : Type u := κ → Option ℕ

namespace Register

variable {κ : Type u}

/-- No name was set. -/
def empty : Register κ := fun _ => none

/-- At time `t` the name was set at most `ttl` ago. -/
def Visible (ttl : ℕ) (register : Register κ) (t : ℕ) (key : κ) : Prop :=
  ∃ setAt, register key = some setAt ∧ t ≤ setAt + ttl

theorem not_visible_empty {ttl t : ℕ} {key : κ} : ¬ Visible ttl empty t key
  := by
  rintro ⟨setAt, hset, -⟩
  cases hset

variable [DecidableEq κ]

/-- Set a name unless it is visible. -/
def setNx (ttl : ℕ) (register : Register κ) (key : κ) (now : ℕ) : Bool × Register κ :=
  match register key with
  | some setAt =>
      if now ≤ setAt + ttl then (false, register)
      else (true, Function.update register key (some now))
  | none => (true, Function.update register key (some now))

/-- Set names one after another, each at its time, and tell which of them were set. -/
def setAll (ttl : ℕ) : Register κ → List (κ × ℕ) → List ((κ × ℕ) × Bool)
  | _, [] => []
  | register, (key, now) :: sets =>
      ((key, now), (setNx ttl register key now).1)
        :: setAll ttl (setNx ttl register key now).2 sets

/-- Setting a visible name fails and changes nothing, and setting another name records it. -/
theorem setNx_cases (ttl : ℕ) (register : Register κ) (key : κ) (now : ℕ) :
  (Visible ttl register now key ∧ setNx ttl register key now = (false, register))
    ∨ (¬ Visible ttl register now key
      ∧ setNx ttl register key now = (true, Function.update register key (some now)))
  := by
  unfold Visible setNx
  cases register key with
  | none =>
      right
      simp
  | some setAt =>
      by_cases h : now ≤ setAt + ttl
      · left
        simp [h]
      · right
        simp [h]

/-- Setting a name succeeds exactly if it is not visible. -/
theorem setNx_iff {ttl : ℕ} {register : Register κ} {key : κ} {now : ℕ} :
  (setNx ttl register key now).1 = true ↔ ¬ Visible ttl register now key
  := by
  obtain ⟨h, heq⟩ | ⟨h, heq⟩ := setNx_cases ttl register key now
  · simp [heq, h]
  · simp [heq, h]

/-- After a success at `now` the name is visible through `ttl`, and the other names are visible
as before. -/
theorem visible_setNx {ttl : ℕ} {register : Register κ} {key : κ} {now : ℕ}
    (h : (setNx ttl register key now).1 = true) {t : ℕ} {key' : κ} :
  Visible ttl (setNx ttl register key now).2 t key'
    ↔ if key' = key then t ≤ now + ttl else Visible ttl register t key'
  := by
  obtain ⟨-, heq⟩ | ⟨-, heq⟩ := setNx_cases ttl register key now
  · rw [heq] at h
    cases h
  · rw [heq]
    by_cases hkey : key' = key
    · subst hkey
      simp [Visible]
    · simp [Visible, hkey]

/-- From time `now` on the visible names are those of a list of successes that are at most
`ttl` ago. -/
def Recalls (ttl : ℕ) (register : Register κ) (now : ℕ) (successes : List (κ × ℕ)) : Prop :=
  ∀ t, now ≤ t → ∀ key, Visible ttl register t key ↔ ∃ s, (key, s) ∈ successes ∧ t ≤ s + ttl

/-- The names recalled after setting one are those of the longer list of successes. -/
theorem Recalls.setNx {ttl : ℕ} {register : Register κ} {now : ℕ} {successes : List (κ × ℕ)}
    (h : Recalls ttl register now successes) (key : κ) {t : ℕ} (ht : now ≤ t) :
  Recalls ttl (setNx ttl register key t).2 t
    (if (setNx ttl register key t).1 then successes ++ [(key, t)] else successes)
  := by
  intro t' ht' key'
  by_cases hset : (Register.setNx ttl register key t).1 = true
  · rw [visible_setNx hset, if_pos hset]
    by_cases hkey : key' = key
    · subst hkey
      have hold : ∀ s, (key', s) ∈ successes → s + ttl < t := by
        intro s hs
        by_contra hle
        apply setNx_iff.mp hset
        apply (h t ht key').mpr
        exact ⟨s, hs, not_lt.mp hle⟩
      simp only [if_true, List.mem_append, List.mem_singleton, Prod.mk.injEq, true_and]
      constructor
      · intro hle
        exact ⟨t, Or.inr rfl, hle⟩
      · rintro ⟨s, hs | rfl, hle⟩
        · have := hold s hs
          omega
        · exact hle
    · simp only [hkey, if_false, List.mem_append, List.mem_singleton, Prod.mk.injEq, false_and,
        or_false]
      apply h t' (le_trans ht ht')
  · obtain ⟨-, heq⟩ | ⟨hvis, -⟩ := setNx_cases ttl register key t
    · rw [if_neg hset, heq]
      apply h t' (le_trans ht ht')
    · exact absurd (setNx_iff.mpr hvis) hset

/-- After a register that recalls some successes, a name is set exactly if none of these and no
later success with the name is at most `ttl` ago. -/
theorem setAll_iff_of_recalls {ttl : ℕ} (sets : List (κ × ℕ)) :
    ∀ (register : Register κ) (now : ℕ) (successes : List (κ × ℕ)),
      Recalls ttl register now successes → (∀ p ∈ sets, now ≤ p.2) →
      sets.Pairwise (fun p p' => p.2 ≤ p'.2) →
      ∀ before key t b after, setAll ttl register sets = before ++ ((key, t), b) :: after →
        (b = true ↔ ∀ s, (key, s) ∈ successes ∨ ((key, s), true) ∈ before → s + ttl < t)
  := by
  induction sets with
  | nil =>
      intro register now successes _ _ _ before key t b after hsets
      simp [setAll] at hsets
  | cons p sets ih =>
      intro register now successes hrecalls hnow hsorted before key t b after hsets
      obtain ⟨key', now'⟩ := p
      obtain ⟨hle, hsorted'⟩ := List.pairwise_cons.mp hsorted
      have hnow' := hnow (key', now') List.mem_cons_self
      cases before with
      | nil =>
          simp only [setAll, List.nil_append, List.cons.injEq, Prod.mk.injEq] at hsets
          obtain ⟨⟨⟨rfl, rfl⟩, rfl⟩, -⟩ := hsets
          rw [setNx_iff, hrecalls now' hnow' key']
          simp
      | cons x before =>
          simp only [setAll, List.cons_append, List.cons.injEq] at hsets
          obtain ⟨rfl, hsets⟩ := hsets
          rw [ih _ now' _ (hrecalls.setNx key' hnow') hle hsorted' before key t b after hsets]
          apply forall_congr'
          intro s
          cases (Register.setNx ttl register key' now').1 with
          | true => simp [or_assoc]
          | false => simp

/-- At times that do not decrease, a name is set exactly if no earlier success with that name
is at most `ttl` ago. -/
theorem setAll_iff {ttl : ℕ} {sets : List (κ × ℕ)}
    (hsorted : sets.Pairwise fun p p' => p.2 ≤ p'.2) {before after : List ((κ × ℕ) × Bool)}
    {key : κ} {t : ℕ} {b : Bool}
    (hsets : setAll ttl empty sets = before ++ ((key, t), b) :: after) :
  b = true ↔ ∀ s, ((key, s), true) ∈ before → s + ttl < t
  := by
  have hempty : Recalls ttl (empty : Register κ) 0 [] := by
    intro t _ key
    simp [not_visible_empty]
  rw [setAll_iff_of_recalls sets empty 0 [] hempty (fun p _ => Nat.zero_le p.2) hsorted
    before key t b after hsets]
  simp

end Register
