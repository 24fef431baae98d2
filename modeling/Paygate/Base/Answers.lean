import Paygate.Base.Interaction

/-!
# Programs answered in a state

A program may be run by something that answers its calls and keeps a state of its own.  The
rules here take such a run apart along the structure of the program.
-/

namespace Program

variable {C : Type} {A : C → Type} {α β S : Type} (answer : (c : C) → S → A c × S)

@[simp]
theorem runIn_pure (a : α) (s : S) :
  (pure a : Program C A α).runIn answer s = (a, s)
  := rfl

@[simp]
theorem runIn_perform (c : C) (s : S) :
  (perform c : Program C A (A c)).runIn answer s = answer c s
  := rfl

@[simp]
theorem runIn_bind (p : Program C A α) (f : α → Program C A β) (s : S) :
  (p >>= f).runIn answer s = (f (p.runIn answer s).1).runIn answer (p.runIn answer s).2
  := by
  induction p generalizing s with
  | done a => rfl
  | call c k ih => exact ih (answer c s).1 (answer c s).2

/-- What the answers to the allowed calls keep, the run of a safe program keeps. -/
theorem Safe.runIn_keeps {allowed : C → Prop} {post : List (Event C A) → α → Prop} {P : S → Prop}
    (hkeeps : ∀ c s, allowed c → P s → P (answer c s).2) {p : Program C A α} :
  ∀ {h : List (Event C A)}, Safe (fun _ => allowed) post h p → ∀ s, P s → P (p.runIn answer s).2
  := by
  induction p with
  | done a => exact fun _ _ hs => hs
  | call c k ih =>
      rintro h ⟨hc, hk⟩ s hs
      exact ih (answer c s).1 (hk (answer c s).1) _ (hkeeps c s hc hs)

end Program
