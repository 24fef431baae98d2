import Paygate.Web.UseX402

/-!
# What a run does to the hook

The changes a run makes, in the order in which it makes them.  A run sets its timer once, changes
nothing while the timer is set, and once it shows that it is done, it changes nothing more.  When
the signed request fails, the error it shows is that of the response.
-/

namespace Paygate.Web

open Text Json Program

namespace UseX402

/-! ### What a history shows -/

/-- The state a run has made.  A timer that has fired counts as if it had when it was set. -/
def shown (fired : Bool) : FlowHistory → UseX402State
  | [] => INITIAL_STATE
  | ⟨.hook (.update patch), _⟩ :: h => (shown fired h).patch patch
  | ⟨.hook .setTimeout, _⟩ :: h =>
      if fired then (shown fired h).patch { step := some .ai } else shown fired h
  | _ :: h => shown fired h

/-- Whether the timer was set and not cleared. -/
def waiting : FlowHistory → Bool
  | [] => false
  | ⟨.hook .setTimeout, _⟩ :: _ => true
  | ⟨.hook .clearTimeout, _⟩ :: _ => false
  | _ :: h => waiting h

/-- Whether the timer was set. -/
def armed : FlowHistory → Bool
  | [] => false
  | ⟨.hook .setTimeout, _⟩ :: _ => true
  | _ :: h => armed h

/-- A state that is done has a summary and no error, and nothing runs. -/
def Consistent (s : UseX402State) : Prop :=
  s.step = .done → s.isRunning = false ∧ s.error = none ∧ ∃ v, s.summary = some v ∧ v ≠ .null

/-- The request is signed. -/
def Signed (headers : Headers) : Prop :=
  "X-402-Signature" ∈ headers.map Prod.fst

/-- The signed request was answered by a response that is no success. -/
def Refused (h : FlowHistory) (res : Response) : Prop :=
  ∃ text headers, Signed headers ∧ ⟨.await (.postSummarize text headers), .ok res⟩ ∈ h ∧ res.ok = false

/-- The text of a body, which is empty if it does not arrive. -/
def bodyOf : Except Raised (List UInt16) → List UInt16
  | .ok bodyText => bodyText
  | .error _ => []

/-- Whether a response is shown as a failure of the AI provider. -/
def isAi (res : Response) (bodyText : List UInt16) : Bool :=
  (responseError res bodyText).any fun e => e.kind.IsAi

/-- Where the signed request was refused, the body of the response was read, and the step is that
of the AI provider if the failure is, or if the timer has fired. -/
def Attributed (h : FlowHistory) : Prop :=
  ∀ res, Refused h res → (∃ x, ⟨.await (.text res), x⟩ ∈ h)
    ∧ ∀ x, ⟨.await (.text res), x⟩ ∈ h → ∀ fired,
      (shown fired h).step = if isAi res (bodyOf x) || fired then .ai else .verify

/-! ### What a run may do -/

/-- What a run may do: it changes the state while its timer is not set, to one that is consistent,
and sets the timer once. -/
def Allowed (h : FlowHistory) : FlowCall → Prop
  | .hook (.update patch) => waiting h = false ∧ ∀ fired, Consistent ((shown fired h).patch patch)
  | .hook .setTimeout => armed h = false
  | _ => True

/-- Nothing is done, and the signed request was not refused. -/
structure Calm (h : FlowHistory) : Prop where
  waiting : waiting h = false
  step : ∀ fired, (shown fired h).step ≠ .done
  refused : ∀ res, ¬ Refused h res

/-- There is no error either. -/
structure Ready (h : FlowHistory) : Prop extends Calm h where
  error : ∀ fired, (shown fired h).error = none

/-- Nor was the timer set, a signed request sent, or the text of a response read. -/
structure Unsigned (h : FlowHistory) : Prop extends Ready h where
  armed : armed h = false
  unsigned : ∀ text headers x, ⟨.await (.postSummarize text headers), x⟩ ∈ h → ¬ Signed headers
  unread : ∀ res x, ⟨.await (.text res), x⟩ ∉ h

/-- A call before the signed request that ends nothing. -/
def Plain : FlowCall → Prop
  | .read _ => True
  | .hook (.update patch) => patch.step ≠ some .done ∧ patch.error = none
  | .hook .isCurrent => True
  | .hook .setTimeout | .hook .clearTimeout => False
  | .await (.postSummarize _ headers) => ¬ Signed headers
  | .await (.text _) => False
  | .await _ => True

theorem step_patch_ne_done {s : UseX402State} {p : Patch} (hs : s.step ≠ .done)
    (hp : p.step ≠ some .done) :
  (s.patch p).step ≠ .done
  := by
  unfold UseX402State.patch
  cases hstep : p.step with
  | none => exact hs
  | some step =>
      rintro rfl
      exact hp hstep

theorem consistent_of_step {s : UseX402State} (h : s.step ≠ .done) : Consistent s
  := fun hdone => absurd hdone h

/-- The signed request is refused only by its response. -/
theorem refused_cons {e : Event FlowCall FlowAnswer} {h : FlowHistory} {res : Response}
    (hrefused : Refused (e :: h) res) :
  Refused h res ∨ ∃ text headers, Signed headers
    ∧ e = ⟨.await (.postSummarize text headers), .ok res⟩ ∧ res.ok = false
  := by
  obtain ⟨text, headers, hsigned, hmem, hbad⟩ := hrefused
  rcases List.mem_cons.mp hmem with heq | hmem
  · exact Or.inr ⟨text, headers, hsigned, heq.symm, hbad⟩
  · exact Or.inl ⟨text, headers, hsigned, hmem, hbad⟩

theorem not_refused_cons {c : FlowCall} {x : FlowAnswer c} {h : FlowHistory} {res : Response}
    (hh : ¬ Refused h res)
    (hc : ∀ text headers, c = .await (.postSummarize text headers) → ¬ Signed headers) :
  ¬ Refused (⟨c, x⟩ :: h) res
  := by
  intro hrefused
  rcases refused_cons hrefused with hold | ⟨text, headers, hsigned, heq, -⟩
  · exact hh hold
  · cases heq
    exact hc text headers rfl hsigned

/-- A plain call leaves the timer as it is, and shows neither that the run is done nor an error. -/
theorem plain_cons {c : FlowCall} (hc : Plain c) (x : FlowAnswer c) (h : FlowHistory) :
  waiting (⟨c, x⟩ :: h) = waiting h ∧ armed (⟨c, x⟩ :: h) = armed h
    ∧ ∀ fired, ((shown fired h).step ≠ .done → (shown fired (⟨c, x⟩ :: h)).step ≠ .done)
      ∧ (shown fired (⟨c, x⟩ :: h)).error = (shown fired h).error
  := by
  rcases c with (patch | _ | _ | _) | c | c
  case hook.update =>
    refine ⟨rfl, rfl, fun fired => ⟨fun hstep => step_patch_ne_done hstep hc.1, ?_⟩⟩
    rw [shown, UseX402State.patch, hc.2]
    rfl
  case hook.isCurrent | read | await => exact ⟨rfl, rfl, fun _ => ⟨fun hstep => hstep, rfl⟩⟩
  all_goals exact hc.elim

variable {h : FlowHistory}

theorem Calm.plain (hh : Calm h) {c : FlowCall} (hc : Plain c) (x : FlowAnswer c) :
  Calm (⟨c, x⟩ :: h)
  := by
  obtain ⟨hwaiting, -, hshown⟩ := plain_cons hc x h
  refine ⟨hwaiting.trans hh.waiting, fun fired => (hshown fired).1 (hh.step fired), ?_⟩
  intro res
  apply not_refused_cons (hh.refused res)
  rintro text headers rfl
  exact hc

theorem Ready.plain (hh : Ready h) {c : FlowCall} (hc : Plain c) (x : FlowAnswer c) :
  Ready (⟨c, x⟩ :: h)
  := by
  obtain ⟨-, -, hshown⟩ := plain_cons hc x h
  refine ⟨hh.toCalm.plain hc x, fun fired => ?_⟩
  rw [(hshown fired).2, hh.error]

theorem Unsigned.plain (hh : Unsigned h) {c : FlowCall} (hc : Plain c) (x : FlowAnswer c) :
  Unsigned (⟨c, x⟩ :: h)
  := by
  obtain ⟨-, harmed, -⟩ := plain_cons hc x h
  refine ⟨hh.toReady.plain hc x, harmed.trans hh.armed, ?_, ?_⟩
  · intro text headers y hmem
    rcases List.mem_cons.mp hmem with heq | hmem
    · cases heq
      exact hc
    · exact hh.unsigned text headers y hmem
  · intro res y hmem
    rcases List.mem_cons.mp hmem with heq | hmem
    · cases heq
      exact hc
    · exact hh.unread res y hmem

/-- A plain call is allowed. -/
theorem Calm.allowed (hh : Calm h) {c : FlowCall} (hc : Plain c) : Allowed h c
  := by
  rcases c with (patch | _ | _ | _) | c | c
  case hook.update =>
    exact ⟨hh.waiting, fun fired => consistent_of_step (step_patch_ne_done (hh.step fired) hc.1)⟩
  case hook.setTimeout => exact hc.elim
  all_goals trivial

/-! ### Parts of a run that do only what is allowed -/

/-- A part of a run does only what is allowed, and is calm where it throws. -/
def SafeFlow {α : Type} (h : FlowHistory) (p : Flow α) (post : FlowHistory → α → Prop) : Prop :=
  Safe Allowed (fun h r => match r with
    | .ok a => post h a
    | .error _ => Calm h) h p.run

/-- A part of a run keeps what plain calls keep. -/
def Keeps (inv : FlowHistory → Prop) {α : Type} (p : Flow α) : Prop :=
  ∀ h, inv h → SafeFlow h p fun h _ => inv h

/-- What plain calls keep, of a history that is ready. -/
structure Stable (inv : FlowHistory → Prop) : Prop where
  ready : ∀ h, inv h → Ready h
  plain : ∀ h c x, inv h → Plain c → inv (⟨c, x⟩ :: h)

theorem stable_ready : Stable Ready where
  ready _ h := h
  plain _ _ x h hc := h.plain hc x

theorem stable_unsigned : Stable Unsigned where
  ready _ h := h.toReady
  plain _ _ x h hc := h.plain hc x

theorem SafeFlow.mono {α : Type} {p : Flow α} {post post' : FlowHistory → α → Prop}
    (hp : SafeFlow h p post) (hpost : ∀ h a, post h a → post' h a) :
  SafeFlow h p post'
  := by
  apply Safe.mono hp
  rintro h (e | a) hr
  · exact hr
  · exact hpost h a hr

theorem SafeFlow.bind {α β : Type} {p : Flow α} {f : α → Flow β} {post : FlowHistory → β → Prop}
    (hp : SafeFlow h p fun h a => SafeFlow h (f a) post) :
  SafeFlow h (p >>= f) post
  := by
  apply safe_bind_except
  apply Safe.mono hp
  rintro h (e | a) hr
  · exact hr
  · exact hr

theorem SafeFlow.pure {α : Type} {a : α} {post : FlowHistory → α → Prop} (ha : post h a) :
  SafeFlow h (Pure.pure a) post
  := ha

/-- A call, with what is made of its answer. -/
theorem SafeFlow.perform {α : Type} {c : FlowCall} (hc : Allowed h c) {f : FlowAnswer c → Except Raised α}
    {post : FlowHistory → α → Prop}
    (hpost : ∀ x, match f x with
      | .ok a => post (⟨c, x⟩ :: h) a
      | .error _ => Calm (⟨c, x⟩ :: h)) :
  SafeFlow h (ExceptT.mk (Program.perform c >>= fun x => Pure.pure (f x))) post
  := ⟨hc, hpost⟩

/-- A change to a consistent state. -/
theorem SafeFlow.update {patch : Patch} (hwaiting : waiting h = false)
    (hconsistent : ∀ fired, Consistent ((shown fired h).patch patch)) {post : FlowHistory → Unit → Prop}
    (hpost : post (⟨.hook (.update patch), ()⟩ :: h) ()) :
  SafeFlow h (update patch) post
  := ⟨⟨hwaiting, hconsistent⟩, fun _ => hpost⟩

variable {inv : FlowHistory → Prop} (hinv : Stable inv)

theorem Keeps.bind {α β : Type} {p : Flow α} {f : α → Flow β} (hp : Keeps inv p)
    (hf : ∀ a, Keeps inv (f a)) :
  Keeps inv (p >>= f)
  := fun h hh => SafeFlow.bind ((hp h hh).mono fun h' a hh' => hf a h' hh')

theorem Keeps.pure {α : Type} (a : α) : Keeps inv (Pure.pure a : Flow α)
  := fun _ hh => hh

include hinv

theorem Keeps.throw {α : Type} (e : Raised) : Keeps inv (MonadExcept.throw e : Flow α)
  := fun h hh => (hinv.ready h hh).toCalm

/-- A plain call keeps what plain calls keep. -/
theorem Keeps.perform {α : Type} {c : FlowCall} (hc : Plain c) (f : FlowAnswer c → Except Raised α) :
  Keeps inv (ExceptT.mk (Program.perform c >>= fun x => Pure.pure (f x)))
  := by
  intro h hh
  apply SafeFlow.perform ((hinv.ready h hh).allowed hc)
  intro x
  cases f x with
  | ok a => exact hinv.plain h c x hh hc
  | error e => exact (hinv.ready _ (hinv.plain h c x hh hc)).toCalm

theorem Keeps.await {c : AwaitCall} (hc : Plain (.await c)) : Keeps inv (await c)
  := Keeps.perform hinv hc id

theorem Keeps.update {patch : Patch} (hstep : patch.step ≠ some .done) (herror : patch.error = none) :
  Keeps inv (update patch)
  := Keeps.perform hinv (show Plain (.hook (.update patch)) from ⟨hstep, herror⟩) .ok

theorem Keeps.throwTypeError {α : Type} : Keeps inv (throwTypeError : Flow α)
  := Keeps.bind (Keeps.perform hinv (show Plain (.read .typeError) from trivial) .ok) fun e =>
    Keeps.throw hinv e

theorem Keeps.orTypeError {α : Type} (a : Option α) : Keeps inv (orTypeError a)
  := by
  cases a with
  | none => exact Keeps.throwTypeError hinv
  | some a => exact Keeps.pure a

/-! ### The parts of a run -/

/-- The summary that is read is not null. -/
theorem readSummarizeSuccess_safe (hh : inv h) (res : Response) :
  SafeFlow h (readSummarizeSuccess res) fun h' p => inv h' ∧ p.1 ≠ .null
  := by
  apply SafeFlow.bind
  apply (Keeps.await (c := .json res) hinv trivial h hh).mono
  intro h₁ data hh₁
  apply SafeFlow.bind
  apply (Keeps.orTypeError hinv _ h₁ hh₁).mono
  intro h₂ result hh₂
  exact SafeFlow.pure ⟨hh₂, summaryOf_ne_null result⟩

theorem keepReceipt_keeps (text : List UInt16) (receipt : Option (Json (List UInt16))) :
  Keeps inv (keepReceipt text receipt)
  := by
  cases receipt with
  | none => exact Keeps.pure _
  | some receipt =>
      exact Keeps.perform hinv (show Plain (.read (.saveReceipt receipt text)) from trivial) id

theorem requireAccount_keeps : Keeps inv requireAccount
  := by
  apply Keeps.bind (Keeps.await (c := .getCurrentAccount) hinv trivial)
  intro account
  split
  · exact Keeps.await hinv trivial
  · exact Keeps.await hinv trivial
  · exact Keeps.pure _

theorem requireChain_keeps (context : Json (List UInt16)) : Keeps inv (requireChain context)
  := by
  apply Keeps.bind (Keeps.await (c := .getCurrentChainId) hinv trivial)
  intro currentChain
  split
  · exact Keeps.pure _
  · apply Keeps.bind (Keeps.await (c := .switchOrAddChain _) hinv trivial)
    intro _
    apply Keeps.bind (Keeps.await (c := .getCurrentChainId) hinv trivial)
    intro postSwitch
    split
    · exact Keeps.pure _
    · apply Keeps.bind (Keeps.orTypeError hinv _)
      intro wanted
      apply Keeps.bind (Keeps.orTypeError hinv _)
      intro current
      exact Keeps.throw hinv _

theorem readPaymentChallenge_keeps (res : Response) : Keeps inv (readPaymentChallenge res)
  := by
  apply Keeps.bind (Keeps.await (c := .json res) hinv trivial)
  intro data
  apply Keeps.bind (Keeps.orTypeError hinv _)
  intro context
  split
  · exact Keeps.pure _
  · exact Keeps.throw hinv _

theorem walletAvailable_keeps : Keeps inv walletAvailable
  := by
  apply Keeps.bind (Keeps.perform hinv (show Plain (.read .hasWallet) from trivial) .ok)
  intro hasWallet
  split
  · exact Keeps.perform hinv (show Plain (.read .getProvider) from trivial) id
  · exact Keeps.pure _

omit hinv

/-- A summary is shown as done, after a response that is no refusal. -/
theorem showSummary_safe (hh : Ready h) (text : List UInt16) (res : Response) :
  SafeFlow h (showSummary text res) fun h' _ => ∀ res, ¬ Refused h' res
  := by
  apply SafeFlow.bind
  apply (Keeps.update stable_ready (by simp) rfl h hh).mono
  intro h₁ _ hh₁
  apply SafeFlow.bind
  apply (readSummarizeSuccess_safe stable_ready hh₁ res).mono
  rintro h₂ ⟨summary, receipt⟩ ⟨hh₂, hsummary⟩
  apply SafeFlow.bind
  apply (keepReceipt_keeps stable_ready text receipt h₂ hh₂).mono
  intro h₃ _ hh₃
  apply SafeFlow.update hh₃.waiting
  · intro fired _
    exact ⟨rfl, hh₃.error fired, summary, rfl, hsummary⟩
  · intro res
    exact not_refused_cons (hh₃.refused res) (by simp)

/-- The text of a response is read, or it does not arrive. -/
theorem safeText_safe (res : Response) {post : FlowHistory → List UInt16 → Prop}
    (hpost : ∀ x, post (⟨.await (.text res), x⟩ :: h) (bodyOf x)) :
  SafeFlow h (safeText res) post
  := by
  refine ⟨trivial, ?_⟩
  rintro (e | bodyText)
  · exact hpost (.error e)
  · exact hpost (.ok bodyText)

/-! ### The signed request -/

/-- While the timer is set: the step is that of the verifier, unless the timer has fired. -/
structure Flight (h : FlowHistory) : Prop where
  step : ∀ fired, (shown fired h).step = if fired then .ai else .verify
  error : ∀ fired, (shown fired h).error = none
  unread : ∀ res x, ⟨.await (.text res), x⟩ ∉ h

/-- An event that shows nothing. -/
def Silent : FlowCall → Prop
  | .read _ => True
  | .hook .isCurrent | .hook .clearTimeout => True
  | .await (.text _) => False
  | .await _ => True
  | _ => False

theorem Flight.silent (hh : Flight h) {c : FlowCall} (hc : Silent c) (x : FlowAnswer c) :
  Flight (⟨c, x⟩ :: h)
  := by
  have hshown : ∀ fired, shown fired (⟨c, x⟩ :: h) = shown fired h := by
    intro fired
    rcases c with (_ | _ | _ | _) | c | c
    case hook.update | hook.setTimeout => exact hc.elim
    all_goals rfl
  refine ⟨fun fired => ?_, fun fired => ?_, ?_⟩
  · rw [hshown, hh.step]
  · rw [hshown, hh.error]
  · intro res y hmem
    rcases List.mem_cons.mp hmem with heq | hmem
    · cases heq
      exact hc
    · exact hh.unread res y hmem

theorem Flight.step_ne_done (hh : Flight h) (fired : Bool) : (shown fired h).step ≠ .done
  := by
  rw [hh.step]
  cases fired with
  | false => simp
  | true => simp

/-- The signed request is sent, and answered by a response or not. -/
def Answered (h : FlowHistory) (r : Except Raised Response) : Prop :=
  Flight h ∧ ∀ res, Refused h res → r = .ok res

theorem not_refused_silent {c : FlowCall} (hread : ∀ c', c ≠ .await c') (x : FlowAnswer c)
    {res : Response} (hh : ¬ Refused h res) :
  ¬ Refused (⟨c, x⟩ :: h) res
  := by
  apply not_refused_cons hh
  rintro text headers rfl
  exact absurd rfl (hread _)

/-- The headers are made, or their making fails, before the request is sent. -/
theorem timestampText_flight (hh : Flight h) (hrefused : ∀ res, ¬ Refused h res)
    (context : Json (List UInt16)) :
  Safe Allowed (fun h' _ => Flight h' ∧ ∀ res, ¬ Refused h' res) h (timestampText context).run
  := by
  have hthrow : Safe Allowed (fun h' _ => Flight h' ∧ ∀ res, ¬ Refused h' res) h
      (throwTypeError : Flow (List UInt16)).run := by
    refine ⟨trivial, fun e => ⟨hh.silent (c := .read .typeError) trivial e, fun res => ?_⟩⟩
    exact not_refused_silent (by simp) e (hrefused res)
  unfold timestampText
  split
  · exact hthrow
  · exact hthrow
  · rename_i timestamp _ _
    cases toString timestamp with
    | none => exact hthrow
    | some text => exact ⟨hh, hrefused⟩

/-- The signed request is sent at most once. -/
theorem postSigned_safe (hh : Flight h) (hrefused : ∀ res, ¬ Refused h res)
    (text correlationId : List UInt16) (context : Json (List UInt16)) (signature : List UInt16) :
  Safe Allowed Answered h (ExceptT.run do
    let headers ← buildSignedHeaders context signature
    await (.postSummarize text (headers ++ correlation correlationId)))
  := by
  apply safe_bind_except
  apply safe_bind_except
  apply (timestampText_flight hh hrefused context).mono
  rintro h' (e | timestamp) ⟨hh', hrefused'⟩
  · exact ⟨hh', fun res hres => absurd hres (hrefused' res)⟩
  · refine ⟨trivial, fun x => ⟨hh'.silent (c := .await (.postSummarize _ _)) trivial x, ?_⟩⟩
    intro res hres
    rcases refused_cons hres with hold | ⟨text, headers, -, heq, -⟩
    · exact absurd hold (hrefused' res)
    · cases heq
      rfl

/-- The request was sent and answered, and the timer is cleared. -/
structure Sent (h : FlowHistory) (res : Response) : Prop extends Flight h where
  waiting : waiting h = false
  refused : ∀ res', Refused h res' → res' = res

theorem sendSigned_safe (hh : Unsigned h) (hstep : ∀ fired, (shown fired h).step = .verify)
    (text correlationId : List UInt16) (context : Json (List UInt16)) (signature : List UInt16) :
  SafeFlow h (sendSigned text correlationId context signature) Sent
  := by
  apply SafeFlow.bind
  apply SafeFlow.perform (f := .ok) (show Allowed h (.hook .setTimeout) from hh.armed)
  intro _
  have hflight : Flight (⟨.hook .setTimeout, ()⟩ :: h) := by
    refine ⟨fun fired => ?_, fun fired => ?_, ?_⟩
    · cases fired with
      | false => exact hstep false
      | true => rfl
    · cases fired with
      | false => exact hh.error false
      | true => exact hh.error true
    · intro res x hmem
      rcases List.mem_cons.mp hmem with heq | hmem
      · cases heq
      · exact hh.unread res x hmem
  apply SafeFlow.bind
  apply safe_bind
  have hrefused : ∀ res, ¬ Refused (⟨.hook .setTimeout, ()⟩ :: h) res := fun res =>
    not_refused_silent (c := .hook .setTimeout) (by simp) () (hh.refused res)
  apply (postSigned_safe hflight hrefused text correlationId context signature).mono
  rintro h₁ retry ⟨hh₁, hanswered⟩
  apply SafeFlow.bind
  apply SafeFlow.perform (f := .ok) (show Allowed h₁ (.hook .clearTimeout) from trivial)
  intro _
  have hcleared : ∀ res, Refused (⟨.hook .clearTimeout, ()⟩ :: h₁) res → retry = .ok res := by
    intro res hres
    rcases refused_cons hres with hold | ⟨_, _, -, heq, -⟩
    · exact hanswered res hold
    · cases heq
  cases retry with
  | error e =>
      refine ⟨rfl, (hh₁.silent (c := .hook .clearTimeout) trivial ()).step_ne_done, ?_⟩
      intro res hres
      cases hcleared res hres
  | ok retry =>
      refine ⟨hh₁.silent (c := .hook .clearTimeout) trivial (), rfl, ?_⟩
      intro res hres
      exact (Except.ok.inj (hcleared res hres)).symm

theorem attributed_of_not_refused (hh : ∀ res, ¬ Refused h res) : Attributed h
  := fun res hres => absurd hres (hh res)

/-- The change that shows a response that is no success. -/
def failurePatch (res : Response) (bodyText : List UInt16) : Patch :=
  if isAi res bodyText then
    { step := some .ai, error := some (responseError res bodyText), isRunning := some false }
  else { error := some (responseError res bodyText), isRunning := some false }

theorem step_failurePatch (hh : Flight h) (res : Response) (bodyText : List UInt16) (fired : Bool) :
  ((shown fired h).patch (failurePatch res bodyText)).step
    = if isAi res bodyText || fired then .ai else .verify
  := by
  have hstep := hh.step fired
  unfold failurePatch
  cases hai : isAi res bodyText with
  | false => exact hstep
  | true => rfl

/-- What the signed request comes to is attributed. -/
theorem showRetry_safe {retry : Response} (hh : Sent h retry) (text : List UInt16) :
  SafeFlow h (showRetry text retry) fun h' _ => Attributed h'
  := by
  unfold showRetry
  split
  · rename_i hbad
    apply SafeFlow.bind
    apply safeText_safe
    intro x
    have hshown : ∀ fired, shown fired (⟨.await (.text retry), x⟩ :: h) = shown fired h := fun _ => rfl
    have hupdate : SafeFlow (⟨.await (.text retry), x⟩ :: h) (update (failurePatch retry (bodyOf x)))
        fun h' _ => Attributed h' := by
      have hwaiting : waiting (⟨.await (.text retry), x⟩ :: h) = false := hh.waiting
      apply SafeFlow.update hwaiting
      · intro fired
        apply consistent_of_step
        rw [hshown, step_failurePatch hh.toFlight]
        split
        · simp
        · simp
      · intro res hres
        have hres : Refused h res := by
          rcases refused_cons hres with hres | ⟨_, _, -, heq, -⟩
          · rcases refused_cons hres with hres | ⟨_, _, -, heq, -⟩
            · exact hres
            · cases heq
          · cases heq
        obtain rfl := hh.refused res hres
        refine ⟨⟨x, by simp⟩, ?_⟩
        intro y hy fired
        have hxy : y = x := by
          rcases List.mem_cons.mp hy with heq | hy
          · cases heq
          · rcases List.mem_cons.mp hy with heq | hy
            · cases heq
              rfl
            · exact absurd hy (hh.unread res y)
        rw [hxy, shown, hshown, step_failurePatch hh.toFlight]
    unfold failurePatch isAi at hupdate
    dsimp only
    split
    · rename_i hai
      rw [if_pos hai] at hupdate
      exact hupdate
    · rename_i hai
      rw [if_neg hai] at hupdate
      exact hupdate
  · rename_i hok
    have hready : Ready h := by
      refine ⟨⟨hh.waiting, hh.toFlight.step_ne_done, ?_⟩, hh.error⟩
      intro res hres
      obtain rfl := hh.refused res hres
      obtain ⟨_, _, _, _, hbad⟩ := hres
      exact hok (by rw [hbad]; rfl)
    apply (showSummary_safe hready text retry).mono
    intro h' _ hh'
    exact attributed_of_not_refused hh'

/-! ### A whole run -/

theorem pay_safe (hh : Unsigned h) (text correlationId : List UInt16) (context : Json (List UInt16)) :
  SafeFlow h (pay text correlationId context) fun h' _ => Attributed h'
  := by
  apply SafeFlow.bind
  apply (requireAccount_keeps stable_unsigned h hh).mono
  intro h₁ account hh₁
  apply SafeFlow.bind
  apply (requireChain_keeps stable_unsigned context h₁ hh₁).mono
  intro h₂ _ hh₂
  apply SafeFlow.bind
  apply (Keeps.perform stable_unsigned (show Plain (.read .newBrowserProvider) from trivial) id h₂ hh₂).mono
  intro h₃ _ hh₃
  apply SafeFlow.bind
  apply (Keeps.await (c := .getSigner account) stable_unsigned trivial h₃ hh₃).mono
  intro h₄ _ hh₄
  apply SafeFlow.bind
  apply (Keeps.update stable_unsigned (by simp) rfl h₄ hh₄).mono
  intro h₅ _ hh₅
  apply SafeFlow.bind
  apply (Keeps.await (c := .signPaymentContext account context) stable_unsigned trivial h₅ hh₅).mono
  intro h₆ signature hh₆
  apply SafeFlow.bind
  apply (Keeps.await (c := .getCurrentAccount) stable_unsigned trivial h₆ hh₆).mono
  intro h₇ _ hh₇
  apply SafeFlow.bind
  have hverify : Plain (.hook (.update { step := some .verify })) := ⟨by simp, rfl⟩
  have hallowed := hh₇.toCalm.allowed hverify
  apply SafeFlow.update hallowed.1 hallowed.2
  apply SafeFlow.bind
  apply (sendSigned_safe (hh₇.plain hverify ()) (fun _ => rfl) text correlationId context signature).mono
  intro h₈ retry hh₈
  exact showRetry_safe hh₈ text

/-- A failure that is shown is no refusal of the signed request. -/
theorem update_safe_of_calm (hh : Calm h) {patch : Patch} (hstep : patch.step = none) :
  SafeFlow h (update patch) fun h' _ => Attributed h'
  := by
  apply SafeFlow.update hh.waiting
  · intro fired
    apply consistent_of_step
    exact step_patch_ne_done (hh.step fired) (by simp [hstep])
  · apply attributed_of_not_refused
    intro res
    exact not_refused_silent (c := .hook (.update patch)) (by simp) () (hh.refused res)

theorem attempt_safe (hh : Unsigned h) (text correlationId : List UInt16) :
  SafeFlow h (attempt text correlationId) fun h' _ => Attributed h'
  := by
  have hfirst : Plain (.await (.postSummarize text (correlation correlationId))) := by
    simp [Plain, Signed, correlation]
  apply SafeFlow.bind
  apply (Keeps.await stable_unsigned hfirst h hh).mono
  intro h₁ first hh₁
  split
  · apply (showSummary_safe hh₁.toReady text first).mono
    intro h' _ hh'
    exact attributed_of_not_refused hh'
  · split
    · apply SafeFlow.bind
      apply safeText_safe
      intro x
      have hcalm : Calm (⟨.await (.text first), x⟩ :: h₁) :=
        ⟨hh₁.waiting, hh₁.step, fun res => not_refused_cons (hh₁.refused res) (by simp)⟩
      exact update_safe_of_calm hcalm rfl
    · apply SafeFlow.bind
      apply (Keeps.update stable_unsigned (by simp) rfl h₁ hh₁).mono
      intro h₂ _ hh₂
      apply SafeFlow.bind
      apply (readPaymentChallenge_keeps stable_unsigned first h₂ hh₂).mono
      intro h₃ context hh₃
      apply SafeFlow.bind
      apply (walletAvailable_keeps stable_unsigned h₃ hh₃).mono
      intro h₄ available hh₄
      split
      · exact pay_safe hh₄ text correlationId context
      · exact update_safe_of_calm hh₄.toCalm rfl

theorem showFailure_safe {r : Except Raised Unit} (hr : match r with
    | .ok _ => Attributed h
    | .error _ => Calm h) :
  Safe Allowed (fun h' _ => Attributed h') h (showFailure r)
  := by
  cases r with
  | ok _ => exact hr
  | error err =>
      apply safe_bind
      refine ⟨trivial, fun (current : Bool) => ?_⟩
      have hcalm : Calm (⟨.hook .isCurrent, current⟩ :: h) := hr.plain (c := .hook .isCurrent) trivial current
      have hattributed := attributed_of_not_refused hcalm.refused
      rw [Safe]
      split
      · split
        · exact update_safe_of_calm hcalm rfl
        · exact hattributed
      · exact hattributed

/-- A run does only what is allowed, and a refusal of its signed request is attributed in the end. -/
theorem submit_safe (text correlationId : List UInt16) :
  Safe Allowed (fun h _ => Attributed h) [] (submit text correlationId)
  := by
  have hfirst : Allowed [] (.hook (.update startPatch)) :=
    ⟨rfl, fun _ => consistent_of_step (by simp [UseX402State.patch, startPatch])⟩
  have hstart : Unsigned [⟨.hook (.update startPatch), ()⟩] := by
    refine ⟨⟨⟨rfl, fun _ => by simp [shown, UseX402State.patch, startPatch], ?_⟩, fun _ => rfl⟩, rfl, ?_, ?_⟩
    · rintro res ⟨_, _, -, hmem, -⟩
      simp at hmem
    · intro text headers x hmem
      simp at hmem
    · intro res x hmem
      simp at hmem
  apply safe_bind
  apply safe_perform hfirst
  intro _
  apply safe_bind
  apply Safe.mono (attempt_safe hstart text correlationId)
  rintro h (err | _) hr
  · exact showFailure_safe hr
  · exact showFailure_safe hr

end UseX402

end Paygate.Web
