import Mathlib.Data.List.AList

/-!
# Retaining part of an association list

`AList.retain p s` keeps the entries of `s` that satisfy `p`.  A key keeps its value
exactly when the entry satisfies `p`.
-/

namespace AList

universe u v

variable {α : Type u} {β : α → Type v}

/-- The entries of `s` that satisfy `p`. -/
def retain (p : (a : α) → β a → Bool) (s : AList β) : AList β where
  entries := s.entries.filter fun e => p e.1 e.2
  nodupKeys := s.nodupKeys.sublist List.filter_sublist

variable [DecidableEq α]

/-- A retained key has the value it had, which satisfies `p`. -/
theorem lookup_retain_eq_some {p : (a : α) → β a → Bool} {s : AList β} {a : α} {b : β a} :
  (s.retain p).lookup a = some b ↔ s.lookup a = some b ∧ p a b = true
  := by
  simp only [← Option.mem_def, mem_lookup_iff, retain, List.mem_filter]

/-- A key without a value has none after retaining, and a key with a value has none
exactly when the entry does not satisfy `p`. -/
theorem lookup_retain_eq_none {p : (a : α) → β a → Bool} {s : AList β} {a : α} :
  (s.retain p).lookup a = none ↔ ∀ b, s.lookup a = some b → p a b = false
  := by
  constructor
  · intro h b hb
    by_contra hp
    have := lookup_retain_eq_some.mpr ⟨hb, by simpa using hp⟩
    rw [h] at this
    cases this
  · intro h
    by_contra hne
    obtain ⟨b, hb⟩ := Option.ne_none_iff_exists'.mp hne
    obtain ⟨hs, hp⟩ := lookup_retain_eq_some.mp hb
    rw [h b hs] at hp
    cases hp

end AList
