import Mathlib.Data.List.Induction
import Paygate.Base.Machine

/-!
# Moments of a run

A moment of a run is a state it passes through, together with the steps that are still to come.
What holds at a moment of a run still holds at it when the run goes on, if it only looks at the
next step.  A fact about runs is proved by adding one step at the end.
-/

universe u v

namespace Machine

variable {σ : Type u} {ι : Type v} {m : Machine σ ι}

variable (m) in
/-- The run from `s` has a moment, a state and the next step there if there is one, of which the
predicate holds. -/
def Passes (s : σ) (as : List ι) (P : σ → Option ι → Prop) : Prop :=
  ∃ pre post s₁, as = pre ++ post ∧ m.run s pre = some s₁ ∧ P s₁ post.head?

/-- A moment with a next step is a moment of a run that goes on. -/
theorem Passes.append {s : σ} {as : List ι} {P : σ → Option ι → Prop} (h : m.Passes s as P)
    (hend : ∀ s₁, P s₁ none → ∀ a, P s₁ (some a)) (bs : List ι) :
  m.Passes s (as ++ bs) P
  := by
  obtain ⟨pre, post, s₁, rfl, hrun, hs₁⟩ := h
  use pre, post ++ bs, s₁, List.append_assoc pre post bs, hrun
  cases post with
  | cons a post => exact hs₁
  | nil =>
      cases bs with
      | nil => exact hs₁
      | cons b bs => exact hend s₁ hs₁ b

/-- The state before a last step is a moment with that step. -/
theorem Passes.last {s s₁ : σ} {as : List ι} {a : ι} {P : σ → Option ι → Prop}
    (hrun : m.run s as = some s₁) (hs₁ : P s₁ (some a)) :
  m.Passes s (as ++ [a]) P
  := by
  use as, [a], s₁, rfl, hrun, hs₁

/-- What holds at a moment may be weakened. -/
theorem Passes.mono {s : σ} {as : List ι} {P Q : σ → Option ι → Prop} (h : m.Passes s as P)
    (hPQ : ∀ s₁ a, P s₁ a → Q s₁ a) :
  m.Passes s as Q
  := by
  obtain ⟨pre, post, s₁, has, hrun, hs₁⟩ := h
  use pre, post, s₁, has, hrun, hPQ _ _ hs₁

/-- A moment of a run, with what every part of the run up to a moment leads to. -/
theorem Passes.and {s : σ} {as : List ι} {P : σ → Option ι → Prop} {I : σ → Prop}
    (h : m.Passes s as P) (hI : ∀ pre post s₁, as = pre ++ post → m.run s pre = some s₁ → I s₁) :
  m.Passes s as fun s₁ a => P s₁ a ∧ I s₁
  := by
  obtain ⟨pre, post, s₁, has, hrun, hs₁⟩ := h
  use pre, post, s₁, has, hrun, hs₁, hI pre post s₁ has hrun

/-- What holds of the empty run, and of a run with a step added if it holds of the run, holds of
every run. -/
theorem run_extend {s : σ} {P : List ι → σ → Prop} (hnil : P [] s)
    (hstep : ∀ as s₁ a s₂, m.run s as = some s₁ → P as s₁ → m.step s₁ a = some s₂ →
      P (as ++ [a]) s₂) (as : List ι) :
  ∀ s', m.run s as = some s' → P as s'
  := by
  induction as using List.reverseRecOn with
  | nil =>
      intro s' hrun
      obtain rfl := Option.some.inj hrun
      exact hnil
  | append_singleton as a ih =>
      intro s' hrun
      obtain ⟨s₁, hs₁, hlast⟩ := exists_of_run_append hrun
      obtain ⟨s₂, hs₂, hdone⟩ := run_cons_eq_some.mp hlast
      obtain rfl := Option.some.inj hdone
      exact hstep as s₁ a s₂ hs₁ (ih s₁ hs₁) hs₂

end Machine
