import Mathlib.Tactic.Common

/-!
# Runs of a machine

A machine takes labelled steps, each of which may be impossible.  A run is a list of
labels all of whose steps are possible.  A run is guarded by a condition on states and
labels when every step of it is taken in a state that satisfies the condition.  What
holds at the start and is kept by every guarded step holds after every guarded run.
-/

universe u v

/-- A machine with states `σ` and labels `ι`: the state after a step, if the step is
possible. -/
structure Machine (σ : Type u) (ι : Type v) where
  step : σ → ι → Option σ

namespace Machine

variable {σ : Type u} {ι : Type v} (m : Machine σ ι)

/-- The state after a list of steps, if they are all possible. -/
def run : σ → List ι → Option σ
  | s, [] => some s
  | s, a :: as => (m.step s a).bind fun s' => run s' as

/-- Every step of the run from `s` is taken in a state where the guard allows it. -/
def Guarded (guard : σ → ι → Prop) : σ → List ι → Prop
  | _, [] => True
  | s, a :: as => guard s a ∧ ∀ s', m.step s a = some s' → Guarded guard s' as

variable {m}

/-- A run that starts with a step is the step followed by a run. -/
theorem run_cons_eq_some {s s' : σ} {a : ι} {as : List ι} :
  m.run s (a :: as) = some s' ↔ ∃ s₁, m.step s a = some s₁ ∧ m.run s₁ as = some s'
  := Option.bind_eq_some_iff

/-- A run that goes on with a run is a run. -/
theorem run_append {bs : List ι} {s₁ s₂ : σ} (h' : m.run s₁ bs = some s₂) :
    ∀ {as : List ι} {s : σ}, m.run s as = some s₁ → m.run s (as ++ bs) = some s₂
  | [], _, h => by
      obtain rfl := Option.some.inj h
      exact h'
  | a :: as, _, h => by
      obtain ⟨s₃, hs₃, hrun⟩ := run_cons_eq_some.mp h
      exact run_cons_eq_some.mpr ⟨s₃, hs₃, run_append h' hrun⟩

/-- What every guarded step keeps, every guarded run keeps. -/
theorem run_invariant {guard : σ → ι → Prop} {inv : σ → Prop}
    (hstep : ∀ s a s', inv s → guard s a → m.step s a = some s' → inv s') :
    ∀ (as : List ι) {s s' : σ}, inv s → m.Guarded guard s as → m.run s as = some s' → inv s'
  | [], _, _, hs, _, hrun => by
      obtain rfl := Option.some.inj hrun
      exact hs
  | a :: as, _, _, hs, hguard, hrun => by
      obtain ⟨s₁, hs₁, hrun'⟩ := run_cons_eq_some.mp hrun
      apply run_invariant hstep as (hstep _ a s₁ hs hguard.1 hs₁) (hguard.2 s₁ hs₁) hrun'

/-- A run is guarded if its steps are allowed in every state. -/
theorem guarded_of_forall {guard : σ → ι → Prop} :
    ∀ (as : List ι) {s : σ}, (∀ a ∈ as, ∀ s, guard s a) → m.Guarded guard s as
  | [], _, _ => trivial
  | a :: as, s, hok => by
      obtain ⟨ha, hok'⟩ := List.forall_mem_cons.mp hok
      use ha s
      intro s' _
      apply guarded_of_forall as hok'

/-- A guarded run that goes on with a guarded run is guarded. -/
theorem Guarded.append {guard : σ → ι → Prop} {bs : List ι} :
    ∀ (as : List ι) {s : σ}, m.Guarded guard s as →
      (∀ s', m.run s as = some s' → m.Guarded guard s' bs) → m.Guarded guard s (as ++ bs)
  | [], s, _, hbs => hbs s rfl
  | a :: as, s, has, hbs => by
      use has.1
      intro s₁ hs₁
      apply Guarded.append as (has.2 s₁ hs₁)
      intro s' hs'
      exact hbs s' (run_cons_eq_some.mpr ⟨s₁, hs₁, hs'⟩)

/-- A guarded run whose labels all satisfy a condition is guarded by both. -/
theorem Guarded.and {guard : σ → ι → Prop} {ok : ι → Prop} :
    ∀ (as : List ι) {s : σ}, m.Guarded guard s as → (∀ a ∈ as, ok a) →
      m.Guarded (fun s a => guard s a ∧ ok a) s as
  | [], _, _, _ => trivial
  | a :: as, _, hguard, hok => by
      obtain ⟨ha, hok'⟩ := List.forall_mem_cons.mp hok
      refine ⟨⟨hguard.1, ha⟩, ?_⟩
      intro s' hs'
      exact Guarded.and as (hguard.2 s' hs') hok'

/-- What every step keeps, every run keeps. -/
theorem run_keeps {inv : σ → Prop} (hstep : ∀ s a s', inv s → m.step s a = some s' → inv s') :
    ∀ (as : List ι) {s s' : σ}, inv s → m.run s as = some s' → inv s'
  | [], _, _, hs, hrun => by
      obtain rfl := Option.some.inj hrun
      exact hs
  | a :: as, _, _, hs, hrun => by
      obtain ⟨s₁, hs₁, hrun'⟩ := run_cons_eq_some.mp hrun
      apply run_keeps hstep as (hstep _ a s₁ hs hs₁) hrun'

/-- Suppose states are related so that a kept step can be taken from the related state too
and a dropped step need not be.  Then a guarded run can be taken from the related state with
its dropped steps left out. -/
theorem run_filter {rel : σ → σ → Prop} {keep : ι → Bool} {guard : σ → ι → Prop}
    (hkeep : ∀ s a s₁ s', guard s a → rel s s' → keep a = true → m.step s a = some s₁ →
      ∃ s₁', m.step s' a = some s₁' ∧ rel s₁ s₁')
    (hdrop : ∀ s a s₁ s', guard s a → rel s s' → keep a = false → m.step s a = some s₁ →
      rel s₁ s') :
    ∀ (as : List ι) {s s₁ s' : σ}, m.Guarded guard s as → rel s s' → m.run s as = some s₁ →
      ∃ s₁', m.run s' (as.filter keep) = some s₁' ∧ rel s₁ s₁'
  | [], _, _, s', _, hs, hrun => by
      obtain rfl := Option.some.inj hrun
      use s', rfl
  | a :: as, _, _, s', hguard, hs, hrun => by
      obtain ⟨ha, hguard'⟩ := hguard
      obtain ⟨s₂, hs₂, hrun'⟩ := run_cons_eq_some.mp hrun
      cases hkept : keep a with
      | true =>
          obtain ⟨s₂', hs₂', hrel⟩ := hkeep _ a s₂ s' ha hs hkept hs₂
          obtain ⟨s₁', hs₁', hrel'⟩ := run_filter hkeep hdrop as (hguard' s₂ hs₂) hrel hrun'
          use s₁'
          rw [List.filter_cons_of_pos hkept]
          use run_cons_eq_some.mpr ⟨s₂', hs₂', hs₁'⟩
      | false =>
          rw [List.filter_cons_of_neg (by simp [hkept])]
          apply run_filter hkeep hdrop as (hguard' s₂ hs₂) (hdrop _ a s₂ s' ha hs hkept hs₂) hrun'

/-- Suppose states stay related when both take the same kept step, and when one of them takes a
dropped step.  Then they stay related in guarded runs that are the same but for their dropped
steps. -/
theorem run_agree {rel : σ → σ → Prop} {keep : ι → Bool} {guard : σ → ι → Prop}
    (hsymm : ∀ s s', rel s s' → rel s' s)
    (hkeep : ∀ s s' a s₁ s₁', guard s a → guard s' a → rel s s' → keep a = true →
      m.step s a = some s₁ → m.step s' a = some s₁' → rel s₁ s₁')
    (hdrop : ∀ s s' a s₁, guard s a → rel s s' → keep a = false → m.step s a = some s₁ →
      rel s₁ s') :
    ∀ (as bs : List ι) {s s' s₁ s₁' : σ}, m.Guarded guard s as → m.Guarded guard s' bs →
      as.filter keep = bs.filter keep → rel s s' → m.run s as = some s₁ → m.run s' bs = some s₁' →
      rel s₁ s₁'
  | [], [], _, _, _, _, _, _, _, hs, hrun, hrun' => by
      obtain rfl := Option.some.inj hrun
      obtain rfl := Option.some.inj hrun'
      exact hs
  | [], b :: bs, s, s', _, _, hguard, hguard', hfilter, hs, hrun, hrun' => by
      obtain ⟨s₂, hs₂, hrun'⟩ := run_cons_eq_some.mp hrun'
      have hkept : keep b = false := by
        by_contra hb
        rw [List.filter_cons_of_pos (by simpa using hb)] at hfilter
        cases hfilter
      rw [List.filter_cons_of_neg (by simp [hkept])] at hfilter
      apply run_agree hsymm hkeep hdrop [] bs hguard (hguard'.2 s₂ hs₂) hfilter _ hrun hrun'
      exact hsymm _ _ (hdrop s' s b s₂ hguard'.1 (hsymm _ _ hs) hkept hs₂)
  | a :: as, bs, s, s', _, _, hguard, hguard', hfilter, hs, hrun, hrun' => by
      obtain ⟨s₂, hs₂, hrun₂⟩ := run_cons_eq_some.mp hrun
      cases hkept : keep a with
      | false =>
          rw [List.filter_cons_of_neg (by simp [hkept])] at hfilter
          apply run_agree hsymm hkeep hdrop as bs (hguard.2 s₂ hs₂) hguard' hfilter _ hrun₂ hrun'
          exact hdrop s s' a s₂ hguard.1 hs hkept hs₂
      | true =>
          cases bs with
          | nil =>
              rw [List.filter_cons_of_pos hkept] at hfilter
              cases hfilter
          | cons b bs =>
              obtain ⟨s₃, hs₃, hrun₃⟩ := run_cons_eq_some.mp hrun'
              cases hkept' : keep b with
              | false =>
                  rw [List.filter_cons_of_neg (a := b) (by simp [hkept'])] at hfilter
                  apply run_agree hsymm hkeep hdrop (a :: as) bs hguard (hguard'.2 s₃ hs₃) hfilter _
                    hrun hrun₃
                  exact hsymm _ _ (hdrop s' s b s₃ hguard'.1 (hsymm _ _ hs) hkept' hs₃)
              | true =>
                  rw [List.filter_cons_of_pos hkept, List.filter_cons_of_pos hkept'] at hfilter
                  obtain ⟨rfl, hrest⟩ := List.cons.inj hfilter
                  apply run_agree hsymm hkeep hdrop as bs (hguard.2 s₂ hs₂) (hguard'.2 s₃ hs₃) hrest
                    _ hrun₂ hrun₃
                  exact hkeep s s' a s₂ s₃ hguard.1 hguard'.1 hs hkept hs₂ hs₃

/-- A run that goes on has reached a state in between. -/
theorem exists_of_run_append :
    ∀ {as bs : List ι} {s s' : σ}, m.run s (as ++ bs) = some s' →
      ∃ s₁, m.run s as = some s₁ ∧ m.run s₁ bs = some s'
  | [], _, s, _, h => ⟨s, rfl, h⟩
  | a :: as, _, _, _, h => by
      obtain ⟨s₂, hs₂, hrun⟩ := run_cons_eq_some.mp h
      obtain ⟨s₁, hs₁, hrun'⟩ := exists_of_run_append hrun
      exact ⟨s₁, run_cons_eq_some.mpr ⟨s₂, hs₂, hs₁⟩, hrun'⟩

/-- Suppose states of two machines are related so that the second can take a kept step under
another label, and need not take a dropped step.  Then it can take what is kept of a run of
the first. -/
theorem run_filterMap {τ κ : Type*} {m' : Machine τ κ} {rel : σ → τ → Prop} {keep : ι → Option κ}
    {ok : ι → Prop}
    (hkeep : ∀ s a b s₁ s', ok a → rel s s' → keep a = some b → m.step s a = some s₁ →
      ∃ s₁', m'.step s' b = some s₁' ∧ rel s₁ s₁')
    (hdrop : ∀ s a s₁ s', ok a → rel s s' → keep a = none → m.step s a = some s₁ → rel s₁ s') :
    ∀ (as : List ι) {s s₁ : σ} {s' : τ}, (∀ a ∈ as, ok a) → rel s s' → m.run s as = some s₁ →
      ∃ s₁', m'.run s' (as.filterMap keep) = some s₁' ∧ rel s₁ s₁'
  | [], _, _, s', _, hs, hrun => by
      obtain rfl := Option.some.inj hrun
      use s', rfl
  | a :: as, _, _, s', hok, hs, hrun => by
      obtain ⟨ha, hok⟩ := List.forall_mem_cons.mp hok
      obtain ⟨s₂, hs₂, hrun'⟩ := run_cons_eq_some.mp hrun
      cases hkept : keep a with
      | some b =>
          obtain ⟨s₂', hs₂', hrel⟩ := hkeep _ a b s₂ s' ha hs hkept hs₂
          obtain ⟨s₁', hs₁', hrel'⟩ := run_filterMap hkeep hdrop as hok hrel hrun'
          use s₁'
          rw [List.filterMap_cons_some hkept]
          use run_cons_eq_some.mpr ⟨s₂', hs₂', hs₁'⟩
      | none =>
          rw [List.filterMap_cons_none hkept]
          exact run_filterMap hkeep hdrop as hok (hdrop _ a s₂ s' ha hs hkept hs₂) hrun'

/-- Suppose a property survives a step exactly when the step meets a guard.  Then it survives a run
exactly when every step of the run meets the guard. -/
theorem run_iff_guarded {ok guard : σ → ι → Prop} {inv good : σ → Prop}
    (hinv : ∀ s a s', inv s → ok s a → m.step s a = some s' → inv s')
    (hgood : ∀ s a s', inv s → ok s a → m.step s a = some s' → (good s' ↔ guard s a ∧ good s)) :
    ∀ (as : List ι) {s s' : σ}, inv s → m.Guarded ok s as → m.run s as = some s' →
      (good s' ↔ m.Guarded guard s as ∧ good s)
  | [], _, _, _, _, hrun => by
      obtain rfl := Option.some.inj hrun
      exact ⟨fun hg => ⟨trivial, hg⟩, And.right⟩
  | a :: as, s, s', hs, hok, hrun => by
      obtain ⟨s₁, hs₁, hrun'⟩ := run_cons_eq_some.mp hrun
      have hrest := run_iff_guarded hinv hgood as (hinv s a s₁ hs hok.1 hs₁) (hok.2 s₁ hs₁) hrun'
      rw [hrest, hgood s a s₁ hs hok.1 hs₁]
      constructor
      · rintro ⟨hguarded, ha, hg⟩
        refine ⟨⟨ha, ?_⟩, hg⟩
        intro s₂ hs₂
        obtain rfl := Option.some.inj (hs₁.symm.trans hs₂)
        exact hguarded
      · rintro ⟨⟨ha, hguarded⟩, hg⟩
        exact ⟨hguarded s₁ hs₁, ha, hg⟩

/-- Whether a run is guarded can be computed from the guard along the run. -/
instance decidableGuarded {guard : σ → ι → Prop} [∀ s a, Decidable (guard s a)] :
    ∀ (as : List ι) (s : σ), Decidable (m.Guarded guard s as)
  | [], _ => .isTrue trivial
  | a :: as, s =>
      have : Decidable (∀ s', m.step s a = some s' → m.Guarded guard s' as) :=
        match h : m.step s a with
        | none => .isTrue (by intro _ h'; cases h')
        | some s₁ =>
            have : Decidable (m.Guarded guard s₁ as) := decidableGuarded as s₁
            decidable_of_iff (m.Guarded guard s₁ as) (by simp)
      inferInstanceAs (Decidable (_ ∧ _))

end Machine
