import Mathlib.Data.List.Nodup

/-!
# Lists of recent items

Items with keys, the most recent one first, with at most one of each key.  A list that is cut
after each new item is the beginning of the list that is not cut.
-/

namespace Recency

variable {α κ : Type} [DecidableEq κ] (key : α → κ)

/-- The items without those of a key. -/
def remove (k : κ) (l : List α) : List α :=
  l.filter fun y => key y ≠ k

/-- A new item comes first, and an older one of its key is removed. -/
def push (x : α) (l : List α) : List α :=
  x :: remove key (key x) l

variable {key}

theorem mem_remove {k : κ} {l : List α} {y : α} : y ∈ remove key k l ↔ y ∈ l ∧ key y ≠ k
  := by
  simp [remove]

theorem remove_sublist (k : κ) (l : List α) : (remove key k l).Sublist l
  := List.filter_sublist

theorem remove_sublist_remove {l l' : List α} (h : l.Sublist l') (k : κ) :
  (remove key k l).Sublist (remove key k l')
  := h.filter _

theorem push_sublist_push {l l' : List α} (h : l.Sublist l') (x : α) :
  (push key x l).Sublist (push key x l')
  := (remove_sublist_remove h _).cons_cons x

/-- Removing items keeps the keys distinct. -/
theorem nodup_remove {l : List α} (h : (l.map key).Nodup) (k : κ) : ((remove key k l).map key).Nodup
  := h.sublist ((remove_sublist k l).map key)

/-- A new item keeps the keys distinct. -/
theorem nodup_push {l : List α} (h : (l.map key).Nodup) (x : α) : ((push key x l).map key).Nodup
  := by
  rw [push, List.map_cons, List.nodup_cons]
  refine ⟨?_, nodup_remove h _⟩
  intro hmem
  obtain ⟨y, hy, hkey⟩ := List.mem_map.mp hmem
  exact (mem_remove.mp hy).2 hkey

/-- Where a key is not among the keys, nothing is removed. -/
theorem remove_eq_self {k : κ} {l : List α} (h : k ∉ l.map key) : remove key k l = l
  := by
  apply List.filter_eq_self.mpr
  intro y hy
  simp only [ne_eq, decide_eq_true_eq]
  rintro rfl
  exact h (List.mem_map_of_mem hy)

section map

variable {β : Type} {key' : β → κ} {f : α → β}

/-- Items with the same keys are removed alike. -/
theorem map_remove {l : List α} (h : ∀ y ∈ l, key' (f y) = key y) (k : κ) :
  (remove key k l).map f = remove key' k (l.map f)
  := by
  rw [remove, remove, List.filter_map]
  congr 1
  apply List.filter_congr
  intro y hy
  rw [Function.comp_apply, h y hy]

/-- Items with the same keys are replaced alike. -/
theorem map_push {x : α} {l : List α} (h : ∀ y ∈ x :: l, key' (f y) = key y) :
  (push key x l).map f = push key' (f x) (l.map f)
  := by
  obtain ⟨hx, hl⟩ := List.forall_mem_cons.mp h
  rw [push, push, List.map_cons, map_remove hl, hx]

end map

/-- Among items with distinct keys at most one is removed: one more than are kept is enough. -/
theorem take_remove_take {l : List α} (h : (l.map key).Nodup) (k : κ) (n : Nat) :
  (remove key k (l.take (n + 1))).take n = (remove key k l).take n
  := by
  induction l generalizing n with
  | nil => rfl
  | cons y l ih =>
      rw [List.map_cons, List.nodup_cons] at h
      by_cases hkey : key y = k
      · have hrest : remove key k l = l := remove_eq_self (hkey ▸ h.1)
        have hfirst : remove key k (l.take n) = l.take n := by
          apply remove_eq_self
          rw [← hkey, List.map_take]
          exact fun hmem => h.1 (List.mem_of_mem_take hmem)
        have hcons : ∀ l, remove key k (y :: l) = remove key k l := by
          intro l
          rw [remove, List.filter_cons_of_neg (by simpa using hkey), remove]
        rw [List.take_succ_cons, hcons, hcons, hfirst, hrest, List.take_take, Nat.min_self]
      · have hcons : ∀ l, remove key k (y :: l) = y :: remove key k l := by
          intro l
          rw [remove, List.filter_cons_of_pos (by simpa using hkey), remove]
        rw [List.take_succ_cons, hcons, hcons]
        cases n with
        | zero => rfl
        | succ n => rw [List.take_succ_cons, List.take_succ_cons, ih h.2]

/-- A list that is cut before each new item is the same as one that is cut at the end. -/
theorem take_push_take {l : List α} (h : (l.map key).Nodup) (x : α) (n : Nat) :
  (push key x (l.take n)).take n = (push key x l).take n
  := by
  cases n with
  | zero => rfl
  | succ n => rw [push, push, List.take_succ_cons, List.take_succ_cons, take_remove_take h]

end Recency
