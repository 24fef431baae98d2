import Paygate.Gateway.Integrity
import Paygate.Gateway.Pooled

/-!
# Handlers that have their Context to themselves

As long as no other goroutine uses its Context, what a goroutine finds there is what it has
put there (`Own`).  The rules below go through the handlers of such a goroutine, call by
call, whatever is answered and whenever the response is discarded.
-/

namespace Paygate.Gateway.Pooled

open Text Json Program

/-! ### Goroutines on their own -/

/-- What a goroutine on its own knows: its Context, the status it has sent, and what its
`cachedWriter` has copied. -/
structure Own where
  context : Context
  sent : Nat
  captured : List UInt8

/-- The goroutine of request `i` when it starts. -/
def Own.init (i : Nat) (request : HttpRequest) (correlationID : List UInt8) : Own where
  context := .init i request correlationID
  sent := 200
  captured := []

/-- After a response. -/
def Own.respond (x : Own) (status : Nat) (body : List UInt8) : Own :=
  { x with
    sent := if status = 0 then 200 else status
    captured := x.captured ++ body }

section Rules

variable {s : Settings} {allowed : History → Call → Prop} {expected : (c : Call) → Answer c → Prop}

/-- Run on its own, the goroutine makes allowed calls only, if the answers are as expected. -/
inductive Undisturbed (s : Settings) (allowed : History → Call → Prop)
    (expected : (c : Call) → Answer c → Prop) : List (Code Unit) → Own → History → Prop where
  | finished {x : Own} {h : History} : Undisturbed s allowed expected [] x h
  | leave {u : Unit} {rest : List (Code Unit)} {x : Own} {h : History} :
      Undisturbed s allowed expected rest x h →
      Undisturbed s allowed expected (.done u :: rest) x h
  | world {c : Call} {k : Answer c → Code Unit} {rest : List (Code Unit)} {x : Own} {h : History} :
      allowed h c →
      (∀ a, expected c a → Undisturbed s allowed expected (k a :: rest) x (⟨c, a⟩ :: h)) →
      Undisturbed s allowed expected (.call (.world c) k :: rest) x h
  | lookup {k : Context → Code Unit} {rest : List (Code Unit)} {x : Own} {h : History} :
      Undisturbed s allowed expected (k x.context :: rest) x h →
      Undisturbed s allowed expected (.call .lookup k :: rest) x h
  | update {f : Context → Context} {k : Unit → Code Unit} {rest : List (Code Unit)} {x : Own}
      {h : History} :
      (f x.context).writer = x.context.writer →
      Undisturbed s allowed expected (k () :: rest) { x with context := f x.context } h →
      Undisturbed s allowed expected (.call (.update f) k :: rest) x h
  | wrapWriter {k : Writer → Code Unit} {rest : List (Code Unit)} {x : Own} {h : History} :
      (∃ r, x.context.writer = .buffer r) →
      (∀ r n, Undisturbed s allowed expected (k (.cached r n x.context.writer) :: rest)
        { x with
          context := { x.context with writer := .cached r n x.context.writer }
          captured := [] } h) →
      Undisturbed s allowed expected (.call .wrapWriter k :: rest) x h
  | json {status : Nat} {body : List UInt8} {k : Unit → Code Unit} {rest : List (Code Unit)}
      {x : Own} {h : History} :
      allowed h (.json status body) →
      Undisturbed s allowed expected (k () :: rest) (x.respond status body)
        (⟨.json status body, ()⟩ :: h) →
      Undisturbed s allowed expected (.call (.json status body) k :: rest) x h
  | inspect {w : Writer} {k : Nat × List UInt8 → Code Unit} {rest : List (Code Unit)} {x : Own}
      {h : History} :
      w = x.context.writer → (∃ r n inner, w = .cached r n inner) →
      (x.sent = 200 → Undisturbed s allowed expected (k (200, x.captured) :: rest) x h) →
      (∀ status body, status ≠ 200 →
        Undisturbed s allowed expected (k (status, body) :: rest) x h) →
      Undisturbed s allowed expected (.call (.inspect w) k :: rest) x h
  | next {k : Unit → Code Unit} {rest : List (Code Unit)} {x : Own} {h : History} :
      Undisturbed s allowed expected
        (match (handlers s)[x.context.index]? with
        | some handler => handler :: .call .next k :: rest
        | none => k () :: rest)
        { x with context := { x.context with index := x.context.index + 1 } } h →
      Undisturbed s allowed expected (.call .next k :: rest) x h

/-! ### Straight code -/

/-- Run on its own, a program that neither runs other handlers nor changes the writer makes
allowed calls only and ends as stated, if the answers are as expected. -/
def Leads {α : Type} (allowed : History → Call → Prop) (expected : (c : Call) → Answer c → Prop)
    (post : α → Own → History → Prop) : Code α → Own → History → Prop
  | .done a, x, h => post a x h
  | .call (.world c) k, x, h =>
      allowed h c ∧ ∀ a, expected c a → Leads allowed expected post (k a) x (⟨c, a⟩ :: h)
  | .call .lookup k, x, h => Leads allowed expected post (k x.context) x h
  | .call (.update f) k, x, h => (f x.context).writer = x.context.writer
      ∧ Leads allowed expected post (k ()) { x with context := f x.context } h
  | .call (.json status body) k, x, h => allowed h (.json status body)
      ∧ Leads allowed expected post (k ()) (x.respond status body) (⟨.json status body, ()⟩ :: h)
  | .call .wrapWriter _, _, _ => False
  | .call (.inspect _) _, _, _ => False
  | .call .next _, _, _ => False

variable {α β : Type} {x : Own} {h : History}

/-- A program followed by another. -/
theorem Leads.bind {p : Code α} {f : α → Code β} {post : α → Own → History → Prop}
    {post' : β → Own → History → Prop} (hp : Leads allowed expected post p x h)
    (hf : ∀ a x h, post a x h → Leads allowed expected post' (f a) x h) :
  Leads allowed expected post' (p >>= f) x h
  := by
  induction p generalizing x h with
  | done a => exact hf a x h hp
  | call c k ih =>
      cases c with
      | world c => exact ⟨hp.1, fun a ha => ih a (hp.2 a ha)⟩
      | lookup => exact ih _ hp
      | update f => exact ⟨hp.1, ih _ hp.2⟩
      | json status body => exact ⟨hp.1, ih _ hp.2⟩
      | wrapWriter => exact hp.elim
      | inspect w => exact hp.elim
      | next => exact hp.elim

/-- Less may be known of the end. -/
theorem Leads.mono {p : Code α} {post post' : α → Own → History → Prop}
    (hp : Leads allowed expected post p x h) (hpost : ∀ a x h, post a x h → post' a x h) :
  Leads allowed expected post' p x h
  := by
  rw [← bind_pure p]
  exact hp.bind hpost

/-- What is looked up is what the goroutine has put there. -/
theorem leads_lookup {f : Context → Code β} {post : β → Own → History → Prop}
    (hf : Leads allowed expected post (f x.context) x h) :
  Leads allowed expected post (lookup >>= f) x h
  := hf

/-- A call followed by the rest. -/
theorem leads_world {c : Call} {f : Answer c → Code β} {post : β → Own → History → Prop}
    (hc : allowed h c)
    (hf : ∀ a, expected c a → Leads allowed expected post (f a) x (⟨c, a⟩ :: h)) :
  Leads allowed expected post (lift (perform c) >>= f) x h
  := ⟨hc, hf⟩

/-- A program that does not change the Context is run as it is. -/
theorem leads_lift {p : Prog α} {post : History → α → Prop} (hp : Safe allowed post h p) :
  Leads allowed expected (fun a x' h' => x' = x ∧ post h' a) (lift p) x h
  := by
  induction p generalizing h with
  | done a => exact ⟨rfl, hp⟩
  | call c k ih => exact ⟨hp.1, fun a _ => ih a (hp.2 a)⟩

/-- Straight code in a handler. -/
theorem Leads.undisturbed {p : Code α} {f : α → Code Unit} {rest : List (Code Unit)}
    {post : α → Own → History → Prop} (hp : Leads allowed expected post p x h)
    (hf : ∀ a x h, post a x h → Undisturbed s allowed expected (f a :: rest) x h) :
  Undisturbed s allowed expected ((p >>= f) :: rest) x h
  := by
  induction p generalizing x h with
  | done a => exact hf a x h hp
  | call c k ih =>
      cases c with
      | world c => exact .world hp.1 fun a ha => ih a (hp.2 a ha)
      | lookup => exact .lookup (ih _ hp)
      | update f => exact .update hp.1 (ih _ hp.2)
      | json status body => exact .json hp.1 (ih _ hp.2)
      | wrapWriter => exact hp.elim
      | inspect w => exact hp.elim
      | next => exact hp.elim

theorem undisturbed_lookup {f : Context → Code Unit} {rest : List (Code Unit)}
    (hf : Undisturbed s allowed expected (f x.context :: rest) x h) :
  Undisturbed s allowed expected ((lookup >>= f) :: rest) x h
  := .lookup hf

theorem undisturbed_world {c : Call} {f : Answer c → Code Unit} {rest : List (Code Unit)}
    (hc : allowed h c)
    (hf : ∀ a, expected c a → Undisturbed s allowed expected (f a :: rest) x (⟨c, a⟩ :: h)) :
  Undisturbed s allowed expected ((lift (perform c) >>= f) :: rest) x h
  := .world hc hf

/-- Straight code that is a handler. -/
theorem Leads.handler {p : Code Unit} {rest : List (Code Unit)} {post : Own → History → Prop}
    (hp : Leads allowed expected (fun _ => post) p x h)
    (hrest : ∀ x h, post x h → Undisturbed s allowed expected rest x h) :
  Undisturbed s allowed expected (p :: rest) x h
  := by
  rw [← bind_pure p]
  apply hp.undisturbed
  intro _ x h hx
  exact .leave (hrest x h hx)

/-- `c.Next` when a handler is left. -/
theorem undisturbed_next_some {handler : Code Unit} {f : Unit → Code Unit} {rest : List (Code Unit)}
    (hhandler : (handlers s)[x.context.index]? = some handler)
    (hrest : Undisturbed s allowed expected (handler :: (ask .next >>= f) :: rest)
      { x with context := { x.context with index := x.context.index + 1 } } h) :
  Undisturbed s allowed expected ((ask .next >>= f) :: rest) x h
  := by
  apply Undisturbed.next
  rw [hhandler]
  exact hrest

theorem length_handlers_le (s : Settings) : (handlers s).length ≤ 2
  := by
  unfold handlers
  split
  · exact le_rfl
  · exact Nat.le_succ 1

/-- `c.Next` when no handler is left. -/
theorem undisturbed_next_none {f : Unit → Code Unit} {rest : List (Code Unit)}
    (hindex : (handlers s).length ≤ x.context.index)
    (hrest : Undisturbed s allowed expected (f () :: rest)
      { x with context := { x.context with index := x.context.index + 1 } } h) :
  Undisturbed s allowed expected ((ask .next >>= f) :: rest) x h
  := by
  apply Undisturbed.next
  rw [List.getElem?_eq_none hindex]
  exact hrest

/-- A goroutine all of whose handlers have been started ends. -/
theorem undisturbed_ends (hindex : (handlers s).length ≤ x.context.index) :
  Undisturbed s allowed expected [ask .next] x h
  := undisturbed_next_none (f := pure) hindex (.leave .finished)

end Rules

end Paygate.Gateway.Pooled
