import Mathlib.Data.Set.Basic
import Mathlib.Tactic.Common

/-!
# Programs that make calls

A sequential program either returns or makes a call and goes on with the answer.  Its
history is the list of its calls with their answers, the latest first.  A program is safe
when every call it makes is allowed by the history before the call, whatever the answers;
the rules for safety follow the structure of programs.
-/

/-- A program with results in `α` that makes calls in `C`, the answers to `c` being in
`A c`. -/
inductive Program (C : Type) (A : C → Type) (α : Type) where
  | done (a : α)
  | call (c : C) (k : A c → Program C A α)

namespace Program

variable {C : Type} {A : C → Type} {α β γ : Type}

/-- Run a program and go on with its result. -/
def bind : Program C A α → (α → Program C A β) → Program C A β
  | done a, f => f a
  | call c k, f => call c fun x => (k x).bind f

/-- Make a call. -/
def perform (c : C) : Program C A (A c) :=
  call c done

instance : Monad (Program C A) where
  pure := done
  bind := bind

theorem bind_done (p : Program C A α) : p.bind done = p
  := by
  induction p with
  | done a => rfl
  | call c k ih =>
      rw [bind]
      congr 1
      funext x
      apply ih

theorem bind_bind (p : Program C A α) (f : α → Program C A β) (g : β → Program C A γ) :
  (p.bind f).bind g = p.bind fun a => (f a).bind g
  := by
  induction p with
  | done a => rfl
  | call c k ih =>
      rw [bind, bind, bind]
      congr 1
      funext x
      apply ih

instance : LawfulMonad (Program C A) :=
  LawfulMonad.mk' (Program C A) bind_done (fun _ _ => rfl) bind_bind

/-! ### Histories -/

/-- A call with its answer. -/
structure Event (C : Type) (A : C → Type) where
  call : C
  answer : A call

/-- The program `q` is what is left of `p` after the calls in the history. -/
inductive Reaches (p : Program C A α) : List (Event C A) → Program C A α → Prop where
  | start : Reaches p [] p
  | step {h : List (Event C A)} {c : C} {k : A c → Program C A α} (x : A c) :
      Reaches p h (call c k) → Reaches p (⟨c, x⟩ :: h) (k x)

/-- The history of a program in a world that answers its calls. -/
def trace (world : (c : C) → A c) : Program C A α → List (Event C A) → List (Event C A) × α
  | done a, h => (h, a)
  | call c k, h => trace world (k (world c)) (⟨c, world c⟩ :: h)

/-- In a world that answers its calls, a program returns. -/
theorem reaches_trace (world : (c : C) → A c) {p q : Program C A α} {h : List (Event C A)}
    (hq : Reaches p h q) :
  Reaches p (trace world q h).1 (done (trace world q h).2)
  := by
  induction q generalizing h with
  | done a => exact hq
  | call c k ih => exact ih (world c) (hq.step (world c))

@[simp]
theorem trace_pure (world : (c : C) → A c) (a : α) (h : List (Event C A)) :
  trace world (pure a) h = (h, a)
  := rfl

@[simp]
theorem trace_perform (world : (c : C) → A c) (c : C) (h : List (Event C A)) :
  trace world (perform c) h = (⟨c, world c⟩ :: h, world c)
  := rfl

@[simp]
theorem trace_bind (world : (c : C) → A c) (p : Program C A α) (f : α → Program C A β)
    (h : List (Event C A)) :
  trace world (p >>= f) h = trace world (f (trace world p h).2) (trace world p h).1
  := by
  induction p generalizing h with
  | done a => rfl
  | call c k ih => exact ih (world c) (⟨c, world c⟩ :: h)

/-- What has happened is not undone. -/
theorem subset_trace (world : (c : C) → A c) (p : Program C A α) (h : List (Event C A)) :
  h ⊆ (trace world p h).1
  := by
  induction p generalizing h with
  | done a => exact fun _ he => he
  | call c k ih => exact fun _ he => ih (world c) _ (List.mem_cons_of_mem _ he)

/-- In a world the calls are answered as it does. -/
theorem answer_of_mem_trace {world : (c : C) → A c} {p : Program C A α} {h : List (Event C A)}
    (hh : ∀ e ∈ h, e.answer = world e.call) :
  ∀ e ∈ (trace world p h).1, e.answer = world e.call
  := by
  induction p generalizing h with
  | done a => exact hh
  | call c k ih => exact ih (world c) (List.forall_mem_cons.mpr ⟨rfl, hh⟩)

/-- The result of a program and the state it leaves, where calls are answered in a state. -/
def runIn {S : Type} (answer : (c : C) → S → A c × S) : Program C A α → S → α × S
  | done a, s => (a, s)
  | call c k, s => runIn answer (k (answer c s).1) (answer c s).2

/-- What is left after one more call before the others. -/
theorem Reaches.of_call {c : C} {k : A c → Program C A α} {x : A c} {h : List (Event C A)}
    {q : Program C A α} (hq : Reaches (k x) h q) :
  Reaches (call c k) (h ++ [⟨c, x⟩]) q
  := by
  induction hq with
  | start => exact Reaches.start.step x
  | step y _ ih => exact ih.step y

/-- A program that starts with a call has made it, or has made none. -/
theorem Reaches.call_cases {c : C} {k : A c → Program C A α} {h : List (Event C A)}
    {q : Program C A α} (hq : Reaches (call c k) h q) :
  (h = [] ∧ q = call c k) ∨ ∃ x h', h = h' ++ [⟨c, x⟩] ∧ Reaches (k x) h' q
  := by
  induction hq with
  | start => exact Or.inl ⟨rfl, rfl⟩
  | step y _ ih =>
      obtain ⟨rfl, hcall⟩ | ⟨x, h', rfl, hq⟩ := ih
      · cases hcall
        exact Or.inr ⟨y, [], rfl, .start⟩
      · exact Or.inr ⟨x, _ :: h', rfl, hq.step y⟩

/-- A program that returns at once makes no calls. -/
theorem Reaches.done_cases {a : α} {h : List (Event C A)} {q : Program C A α}
    (hq : Reaches (done a) h q) :
  h = [] ∧ q = done a
  := by
  induction hq with
  | start => exact ⟨rfl, rfl⟩
  | step y _ ih => cases ih.2

/-! ### Known answers -/

/-- The histories of a program that has returned. -/
def histories (p : Program C A α) : Set (List (Event C A)) :=
  { h | ∃ a, Reaches p h (done a) }

theorem histories_done (a : α) : histories (done a : Program C A α) = {[]}
  := by
  ext h
  constructor
  · rintro ⟨b, hb⟩
    exact hb.done_cases.1
  · rintro rfl
    exact ⟨a, .start⟩

theorem mem_histories_call {c : C} {k : A c → Program C A α} {h : List (Event C A)} :
  h ∈ histories (call c k) ↔ ∃ x, ∃ h' ∈ histories (k x), h = h' ++ [⟨c, x⟩]
  := by
  constructor
  · rintro ⟨a, ha⟩
    obtain ⟨-, hdone⟩ | ⟨x, h', rfl, hq⟩ := ha.call_cases
    · cases hdone
    · exact ⟨x, h', ⟨a, hq⟩, rfl⟩
  · rintro ⟨x, h', ⟨a, hq⟩, rfl⟩
    exact ⟨a, hq.of_call⟩

/-- The histories do not depend on what is made of the result. -/
theorem histories_map (f : α → β) (p : Program C A α) : histories (f <$> p) = histories p
  := by
  induction p with
  | done a => exact (histories_done (f a)).trans (histories_done a).symm
  | call c k ih =>
      ext h
      have hmap : f <$> call c k = call c fun x => f <$> k x := rfl
      rw [hmap, mem_histories_call, mem_histories_call]
      simp only [ih]

/-- The program with some of its calls answered in advance. -/
def answering (known : (c : C) → Option (A c)) : Program C A α → Program C A α
  | done a => done a
  | call c k =>
      match known c with
      | some x => answering known (k x)
      | none => call c fun x => answering known (k x)

theorem answering_pure (known : (c : C) → Option (A c)) (a : α) :
  answering known (pure a) = pure a
  := rfl

theorem answering_bind (known : (c : C) → Option (A c)) (p : Program C A α)
    (f : α → Program C A β) :
  answering known (p >>= f) = answering known p >>= fun a => answering known (f a)
  := by
  induction p with
  | done a => rfl
  | call c k ih =>
      have hbind : call c k >>= f = call c fun x => k x >>= f := rfl
      rw [hbind, answering, answering]
      split
      · exact ih _
      · simp only [ih]
        rfl

/-- Every known answer in the history is the one that is known. -/
def Agrees (known : (c : C) → Option (A c)) (h : List (Event C A)) : Prop :=
  ∀ e ∈ h, ∀ x, known e.call = some x → e.answer = x

/-- The histories with the known answers left out are those of the program with these calls
answered in advance. -/
theorem mem_histories_answering {known : (c : C) → Option (A c)} {p : Program C A α}
    {l : List (Event C A)} :
  l ∈ histories (answering known p)
    ↔ ∃ h ∈ histories p, Agrees known h ∧ l = h.filter fun e => (known e.call).isNone
  := by
  induction p generalizing l with
  | done a =>
      rw [answering, histories_done]
      constructor
      · rintro rfl
        refine ⟨[], rfl, ?_, rfl⟩
        intro e he
        cases he
      · rintro ⟨h, rfl, -, rfl⟩
        rfl
  | call c k ih =>
      rw [answering]
      split
      · rename_i x hx
        rw [ih]
        constructor
        · rintro ⟨h, hh, hagrees, rfl⟩
          refine ⟨h ++ [⟨c, x⟩], mem_histories_call.mpr ⟨x, h, hh, rfl⟩, ?_, ?_⟩
          · intro e he y hy
            rcases List.mem_append.mp he with he | he
            · exact hagrees e he y hy
            · obtain rfl := List.mem_singleton.mp he
              exact Option.some.inj (hx.symm.trans hy)
          · rw [List.filter_append, List.filter_cons_of_neg (by simp [hx]), List.filter_nil,
              List.append_nil]
        · rintro ⟨h, hh, hagrees, rfl⟩
          obtain ⟨y, h', hh', rfl⟩ := mem_histories_call.mp hh
          have hy : y = x := hagrees ⟨c, y⟩ (List.mem_append_right h' List.mem_cons_self) x hx
          subst hy
          refine ⟨h', hh', fun e he => hagrees e (List.mem_append_left _ he), ?_⟩
          rw [List.filter_append, List.filter_cons_of_neg (by simp [hx]), List.filter_nil,
            List.append_nil]
      · rename_i hx
        rw [mem_histories_call]
        constructor
        · rintro ⟨x, l', hl', rfl⟩
          obtain ⟨h, hh, hagrees, rfl⟩ := ih x |>.mp hl'
          refine ⟨h ++ [⟨c, x⟩], mem_histories_call.mpr ⟨x, h, hh, rfl⟩, ?_, ?_⟩
          · intro e he y hy
            rcases List.mem_append.mp he with he | he
            · exact hagrees e he y hy
            · obtain rfl := List.mem_singleton.mp he
              rw [hx] at hy
              cases hy
          · rw [List.filter_append, List.filter_cons_of_pos (by simp [hx]), List.filter_nil]
        · rintro ⟨h, hh, hagrees, rfl⟩
          obtain ⟨x, h', hh', rfl⟩ := mem_histories_call.mp hh
          refine ⟨x, _, ih x |>.mpr ⟨h', hh', fun e he => hagrees e (List.mem_append_left _ he), rfl⟩,
            ?_⟩
          rw [List.filter_append, List.filter_cons_of_pos (by simp [hx]), List.filter_nil]

/-- With the known answers, the programs make the same calls and go on alike after each
answer; their results may differ. -/
def SameCalls (known : (c : C) → Option (A c)) (p : Program C A α) (q : Program C A β) : Prop :=
  (fun _ => ()) <$> answering known p = (fun _ => ()) <$> answering known q

namespace SameCalls

variable {known : (c : C) → Option (A c)} {p : Program C A α} {q : Program C A β}

theorem trans {δ : Type} {q' : Program C A δ} (h : SameCalls known p q) (h' : SameCalls known q q') :
  SameCalls known p q'
  := Eq.trans h h'

theorem symm (h : SameCalls known p q) : SameCalls known q p
  := Eq.symm h

/-- After the same program. -/
theorem bind {f : α → Program C A β} {g : α → Program C A γ} (h : ∀ a, SameCalls known (f a) (g a)) :
  SameCalls known (p >>= f) (p >>= g)
  := by
  unfold SameCalls
  simp only [answering_bind, map_bind]
  congr 1
  funext a
  exact h a

/-- What is made of the result does not matter. -/
theorem bind_pure (p : Program C A α) (f : α → β) : SameCalls known (p >>= fun a => pure (f a)) p
  := by
  unfold SameCalls
  simp only [answering_bind, answering_pure, map_bind, map_pure]
  exact (map_eq_pure_bind _ _).symm

/-- A call whose answer is known is as good as not made. -/
theorem of_known {c : C} {x : A c} (hx : known c = some x) (f : A c → Program C A α) :
  SameCalls known (perform c >>= f) (f x)
  := by
  have hcall : perform c >>= f = call c f := rfl
  unfold SameCalls
  rw [hcall, answering, hx]

/-- The histories with the known answers left out are the same. -/
theorem histories_eq (h : SameCalls known p q) :
  histories (answering known p) = histories (answering known q)
  := by
  rw [← histories_map (fun _ => ()) (answering known p), h, histories_map]

end SameCalls

/-! ### Safety -/

/-- Every call is allowed by the history before it, and the result is right, whatever the
answers. -/
def Safe (allowed : List (Event C A) → C → Prop) (post : List (Event C A) → α → Prop) :
    List (Event C A) → Program C A α → Prop
  | h, done a => post h a
  | h, call c k => allowed h c ∧ ∀ x, Safe allowed post (⟨c, x⟩ :: h) (k x)

variable {allowed : List (Event C A) → C → Prop} {post post' : List (Event C A) → α → Prop}
  {h : List (Event C A)}

theorem safe_pure {a : α} (ha : post h a) : Safe allowed post h (pure a)
  := ha

theorem safe_perform {c : C} {post : List (Event C A) → A c → Prop} (hc : allowed h c)
    (hpost : ∀ x, post (⟨c, x⟩ :: h) x) :
  Safe allowed post h (perform c)
  := ⟨hc, hpost⟩

/-- A sequence is safe if its first part is and leaves a history in which the second is. -/
theorem safe_bind {p : Program C A α} {f : α → Program C A β}
    {post : List (Event C A) → β → Prop}
    (hp : Safe allowed (fun h a => Safe allowed post h (f a)) h p) :
  Safe allowed post h (p >>= f)
  := by
  induction p generalizing h with
  | done a => exact hp
  | call c k ih => exact ⟨hp.1, fun x => ih x (hp.2 x)⟩

/-- Less may be known of the result. -/
theorem Safe.mono {p : Program C A α} (hp : Safe allowed post h p)
    (hpost : ∀ h a, post h a → post' h a) :
  Safe allowed post' h p
  := by
  induction p generalizing h with
  | done a => exact hpost h a hp
  | call c k ih => exact ⟨hp.1, fun x => ih x (hp.2 x)⟩

/-- A sequence that may throw is safe if its first part is, and leaves a history in which the
second is, unless it throws. -/
theorem safe_bind_except {ε : Type} {p : ExceptT ε (Program C A) α} {f : α → ExceptT ε (Program C A) β}
    {post : List (Event C A) → Except ε β → Prop}
    (hp : Safe allowed (fun h r => match r with
      | .ok a => Safe allowed post h (f a).run
      | .error e => post h (.error e)) h p.run) :
  Safe allowed post h (p >>= f).run
  := by
  have hbind : (p >>= f).run = p.run >>= ExceptT.bindCont f := rfl
  rw [hbind]
  apply safe_bind
  apply hp.mono
  rintro h (e | a) hr
  · exact hr
  · exact hr

/-- A property of histories that the allowed calls keep may be relied on for what else is
allowed. -/
theorem Safe.carry {allowed' : List (Event C A) → C → Prop} {inv : List (Event C A) → Prop}
    {p : Program C A α} (hp : Safe allowed post h p) (hinv : inv h)
    (hkeep : ∀ h c x, inv h → allowed h c → inv (⟨c, x⟩ :: h))
    (hallowed : ∀ h c, inv h → allowed h c → allowed' h c) :
  Safe allowed' (fun h a => inv h ∧ post h a) h p
  := by
  induction p generalizing h with
  | done a => exact ⟨hinv, hp⟩
  | call c k ih =>
      constructor
      · exact hallowed h c hinv hp.1
      · intro x
        exact ih x (hp.2 x) (hkeep h c x hinv hp.1)

/-- What comes after a program does nothing if it does nothing with the results the program
has. -/
theorem Safe.bind_eq_self {p : Program C A α} (hp : Safe allowed post h p)
    {f : α → Program C A α} (hf : ∀ h a, post h a → f a = pure a) :
  p >>= f = p
  := by
  induction p generalizing h with
  | done a => exact hf h a hp
  | call c k ih =>
      have hbind : call c k >>= f = call c fun x => k x >>= f := rfl
      rw [hbind]
      congr 1
      funext x
      exact ih x (hp.2 x)

/-- What is left of a safe program is safe. -/
theorem Safe.reaches {p q : Program C A α} (hp : Safe allowed post [] p) (hq : Reaches p h q) :
  Safe allowed post h q
  := by
  induction hq with
  | start => exact hp
  | step x _ ih => exact ih.2 x

/-- What the allowed calls keep holds of every history of a safe program. -/
theorem Safe.inv_of_reaches {inv : List (Event C A) → Prop} {p q : Program C A α}
    (hp : Safe allowed post [] p) (hinv : inv [])
    (hkeep : ∀ h c x, inv h → allowed h c → inv (⟨c, x⟩ :: h)) (hq : Reaches p h q) :
  inv h
  := by
  induction hq with
  | start => exact hinv
  | step x hq ih => exact hkeep _ _ x ih (hp.reaches hq).1

/-- Every call a safe program has made was allowed by the history before it. -/
theorem Safe.allowed_of_reaches {p q : Program C A α} (hp : Safe allowed post [] p)
    (hq : Reaches p h q) {later earlier : List (Event C A)} {e : Event C A}
    (hh : h = later ++ e :: earlier) :
  allowed earlier e.call
  := by
  induction hq generalizing later with
  | start => simp at hh
  | @step h c k x hq ih =>
      cases later with
      | nil =>
          obtain ⟨rfl, rfl⟩ := List.cons.inj hh
          exact (hp.reaches hq).1
      | cons e' later =>
          obtain ⟨-, hh⟩ := List.cons.inj hh
          exact ih hh

/-- Of two events of a history one is before the other, unless they are the same. -/
theorem eq_or_before {h : List (Event C A)} {e e' : Event C A} (he : e ∈ h) (he' : e' ∈ h) :
  e = e' ∨ (∃ later earlier, h = later ++ e :: earlier ∧ e' ∈ earlier)
    ∨ ∃ later earlier, h = later ++ e' :: earlier ∧ e ∈ earlier
  := by
  obtain ⟨later, earlier, rfl⟩ := List.append_of_mem he
  obtain hlater | hrest := List.mem_append.mp he'
  · obtain ⟨l, l', rfl⟩ := List.append_of_mem hlater
    refine Or.inr (Or.inr ⟨l, l' ++ e :: earlier, by simp, by simp⟩)
  · obtain rfl | hearlier := List.mem_cons.mp hrest
    · exact Or.inl rfl
    · exact Or.inr (Or.inl ⟨later, earlier, rfl, hearlier⟩)

end Program
