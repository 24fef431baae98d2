import Paygate.Gateway.FailClosed
import Paygate.Gateway.Undisturbed

/-!
# What is stored in the cache

A goroutine that has its Context to itself stores a result under the key of the text of its
request only after the provider has returned this result for this text and it has been sent
with status 200.  With status 200 it sends nothing but a result of the provider, or the one
it has found in the cache.
-/

namespace Paygate.Gateway.Pooled

open Text Json Program

/-! ### The rule -/

/-- The provider returned the result for the text, and it was sent with status 200. -/
def Summary (text result : List UInt8) (h : History) : Prop :=
  ⟨.generate text, .ok result⟩ ∈ h ∧ ⟨.json 200 (resultBody result), ()⟩ ∈ h

/-- The result was found in the cache. -/
def Hit (result : List UInt8) (h : History) : Prop :=
  ∃ key val cached, ⟨.cacheGet key, some val⟩ ∈ h ∧ readCachedResponse val = some cached
    ∧ cached.result = result

/-- The result is one of the provider, or was found in the cache. -/
def HasSource (result : List UInt8) (h : History) : Prop :=
  (∃ text, ⟨.generate text, .ok result⟩ ∈ h) ∨ Hit result h

/-- The key is that of the text of the request. -/
def IsKeyOf (s : Settings) (r : HttpRequest) (key text : List UInt8) : Prop :=
  readSummarizeRequest r.body.received = some text ∧ key = getCacheKey text (getModel s.env)

/-- The calls that may be made after a history. -/
def Sourced (s : Settings) (r : HttpRequest) (h : History) : Call → Prop
  | .cacheGet key => h = [] ∧ ∃ text, IsKeyOf s r key text
  | .generate _ => ∀ result, ¬ Hit result h
  | .goStoreInCache key data => ∃ text, IsKeyOf s r key text ∧ (∃ x, data = utf8 x) ∧ Summary text data h
  | .json status body => status = 200 → ∃ result, body = resultBody result ∧ HasSource result h
  | _ => True

/-- The provider returns texts. -/
def Expected : (c : Call) → Answer c → Prop
  | .generate _ => fun a => ∀ result, a = .ok result → ∃ x, result = utf8 x
  | _ => fun _ => True

theorem Hit.of_cons {result : List UInt8} {e : Event Call Answer} {h : History}
    (he : ∀ key, e.call ≠ .cacheGet key) (hh : Hit result (e :: h)) : Hit result h
  := by
  obtain ⟨key, val, cached, hmem, hrest⟩ := hh
  obtain rfl | hmem := List.mem_cons.mp hmem
  · exact absurd rfl (he key)
  · exact ⟨key, val, cached, hmem, hrest⟩

theorem HasSource.mono {result : List UInt8} {h h' : History} (hsource : HasSource result h)
    (hsub : h ⊆ h') :
  HasSource result h'
  := by
  obtain ⟨text, hmem⟩ | ⟨key, val, cached, hmem, hrest⟩ := hsource
  · exact Or.inl ⟨text, hsub hmem⟩
  · exact Or.inr ⟨key, val, cached, hsub hmem, hrest⟩

/-! ### Responses -/

section Walk

variable {s : Settings} {r : HttpRequest} {x : Own} {h : History}

/-- The handlers that have been started and the writer are the same. -/
def Kept (x x' : Own) : Prop :=
  x'.context.index = x.context.index ∧ x'.context.writer = x.context.writer

theorem Kept.trans {x₁ x₂ x₃ : Own} (h : Kept x₁ x₂) (h' : Kept x₂ x₃) : Kept x₁ x₃
  := ⟨h'.1.trans h.1, h'.2.trans h.2⟩

/-- The request was answered with an error. -/
def Refused (x x' : Own) : Prop :=
  Kept x x' ∧ x'.sent ≠ 200

theorem IsErrorStatus.sent_ne {status : Nat} (h : IsErrorStatus status) (x : Own)
    (body : List UInt8) : (x.respond status body).sent ≠ 200
  := by
  obtain ⟨hlow, -⟩ := h
  have hzero : status ≠ 0 := by omega
  simp only [Own.respond, if_neg hzero]
  omega

theorem leads_json {code : Nat} (hcode : IsErrorStatus code) (v : Json (List UInt8)) :
  Leads (Sourced s r) Expected (fun _ x' _ => Refused x x') (json code v) x h
  := by
  constructor
  · intro h200
    subst h200
    exact absurd hcode (by decide)
  · exact ⟨⟨rfl, rfl⟩, IsErrorStatus.sent_ne hcode x _⟩

theorem leads_respondError {code : Nat} (hcode : IsErrorStatus code) (msg : String) :
  Leads (Sourced s r) Expected (fun _ x' _ => Refused x x') (respondError code msg) x h
  := by
  apply leads_lookup
  apply Leads.bind (leads_lift (safe_responseCorrelationID (fun _ => trivial) (p := fun _ => True)
    trivial (fun _ => trivial) x.context.view))
  rintro id _ h' ⟨rfl, -⟩
  exact leads_json hcode _

theorem leads_respondVerificationFailure (resp : VerifyResponse) :
  Leads (Sourced s r) Expected (fun _ x' _ => Refused x x') (respondVerificationFailure resp) x h
  := leads_respondError (isErrorStatus_verifierFailureResponse resp) _

theorem leads_respondVerifierError (e : VerifyFailure) :
  Leads (Sourced s r) Expected (fun _ x' _ => Refused x x') (respondVerifierError e) x h
  := by
  unfold respondVerifierError
  split
  · exact leads_respondError (by decide) _
  · exact leads_respondError (by decide) _

/-- Making and storing receipts is not restricted. -/
theorem leads_books {α : Type} {post : α → Prop} {p : Prog α} (hp : Books post h p) :
  Leads (Sourced s r) Expected (fun _ x' h' => x' = x ∧ h ⊆ h') (lift p) x h
  := by
  have hcarry : Safe (Sourced s r) (fun h' a => h ⊆ h' ∧ post a) h p := by
    apply hp.carry (List.Subset.refl h)
    · intro h' c x hsub _ e he
      exact List.mem_cons_of_mem _ (hsub he)
    · intro h' c _ hc
      cases c with
      | readRandom | now | contextErr | putReceipt | setReceipt => trivial
      | _ => cases hc
  exact leads_lift (hcarry.mono fun _ _ hx => hx.1)

/-- The result was sent with status 200. -/
structure Sent (x : Own) (result : List UInt8) (x' : Own) (h' : History) : Prop where
  kept : Kept x x'
  captured : x'.captured = x.captured ++ resultBody result
  sent : ⟨.json 200 (resultBody result), ()⟩ ∈ h'

/-- A result with a source is sent, or the request is refused. -/
theorem leads_generateAndSendReceipt {payment : PaymentContext} {payer requestBody result : List UInt8}
    (hsource : HasSource result h) :
  Leads (Sourced s r) Expected
    (fun _ x' h' => Refused x x' ∨ h ⊆ h' ∧ Sent x result x' h')
    (generateAndSendReceipt s payment payer requestBody result) x h
  := by
  apply leads_lookup
  apply (leads_books books_makeReceipt).bind
  rintro made _ h₁ ⟨rfl, hsub₁⟩
  cases made with
  | error e => exact (leads_respondError (by decide) _).mono fun _ _ _ hx => Or.inl hx
  | ok receipt =>
      apply (leads_books books_storeReceiptWithContext).bind
      rintro stored _ h₂ ⟨rfl, hsub₂⟩
      cases stored with
      | error e => exact (leads_respondError (by decide) _).mono fun _ _ _ hx => Or.inl hx
      | ok u =>
          dsimp only
          split
          · exact (leads_respondError (by decide) _).mono fun _ _ _ hx => Or.inl hx
          · apply leads_world trivial
            intro _ _
            constructor
            · intro _
              refine ⟨result, rfl, hsource.mono ?_⟩
              intro e he
              exact List.mem_cons_of_mem _ (hsub₂ (hsub₁ he))
            · refine Or.inr ⟨?_, ⟨rfl, rfl⟩, rfl, List.mem_cons_self⟩
              intro e he
              exact List.mem_cons_of_mem _ (List.mem_cons_of_mem _ (hsub₂ (hsub₁ he)))

/-- The verifier is asked once. -/
theorem leads_verifyPayment {signature nonce : List UInt8} {timestamp : UInt64} :
  Leads (Sourced s r) Expected
    (fun _ x' h' => x' = x ∧ ∃ cid body answer, h' = ⟨.verify cid body, answer⟩ :: h)
    (verifyPayment s signature nonce timestamp) x h
  := by
  have hverify : Safe (Sourced s r)
      (fun h' _ => ∃ cid body answer, h' = ⟨.verify cid body, answer⟩ :: h) h
      (Gateway.verifyPayment s x.context.view signature nonce timestamp) := by
    refine ⟨trivial, ?_⟩
    intro answer
    exact ⟨_, _, answer, rfl⟩
  apply leads_lookup
  exact leads_lift hverify

/-- The body is read. -/
theorem leads_readBody :
  Leads (Sourced s r) Expected
    (fun body x' h' => h' = h ∧ body = x.context.body.readAll ∧ Kept x x'
      ∧ x'.captured = x.captured)
    readBody x h
  := ⟨rfl, rfl, rfl, ⟨rfl, rfl⟩, rfl⟩

/-- The body that the middleware has read is used. -/
theorem leads_requestBodyOf :
  Leads (Sourced s r) Expected
    (fun body x' h' => h' = h ∧ Kept x x' ∧ x'.captured = x.captured
      ∧ ∀ b, x.context.requestBody = some b → body = .ok b)
    requestBodyOf x h
  := by
  apply leads_lookup
  split
  · rename_i body hbody
    refine ⟨rfl, ⟨rfl, rfl⟩, rfl, ?_⟩
    intro b hb
    rw [Option.some.inj (hbody.symm.trans hb)]
  · rename_i hnone
    apply leads_readBody.mono
    rintro body x' h' ⟨hh, -, hkept, hcaptured⟩
    refine ⟨hh, hkept, hcaptured, ?_⟩
    intro b hb
    rw [hnone] at hb
    cases hb

/-! ### The handler -/

/-- If the handler sends status 200, it sends what the provider returned for the text of the
body that the middleware has read. -/
def Handled (x x' : Own) (h' : History) : Prop :=
  Kept x x' ∧ (x'.sent = 200 → ∀ body text, x.context.requestBody = some body →
    readSummarizeRequest body = some text →
    ∃ result, (∃ u, result = utf8 u) ∧ Summary text result h'
      ∧ x'.captured = x.captured ++ resultBody result)

theorem Refused.handled {x' : Own} (hx : Refused x x') (h' : History) : Handled x x' h'
  := ⟨hx.1, fun h200 => absurd h200 hx.2⟩

/-- A refusal after steps that keep the Context. -/
theorem Leads.refused {p : Code Unit} {x₁ : Own}
    (hp : Leads (Sourced s r) Expected (fun _ x' _ => Refused x₁ x') p x₁ h) (hkept : Kept x x₁) :
  Leads (Sourced s r) Expected (fun _ x' h' => Handled x x' h') p x₁ h
  := by
  apply hp.mono
  rintro _ x' h' ⟨hkept', hsent⟩
  apply Refused.handled
  exact ⟨hkept.trans hkept', hsent⟩

theorem leads_handleSummarize (hh : ∀ result, ¬ Hit result h) :
  Leads (Sourced s r) Expected (fun _ x' h' => Handled x x' h') (handleSummarize s) x h
  := by
  have hself : Kept x x := ⟨rfl, rfl⟩
  apply leads_lookup
  dsimp only
  split
  · apply leads_world trivial
    intro _ _
    apply leads_world trivial
    intro _ _
    exact (leads_json (by decide) _).refused hself
  · split
    · exact (leads_respondError (by decide) _).refused hself
    · split
      · exact (leads_respondError (by decide) _).refused hself
      · apply leads_requestBodyOf.bind
        rintro read x₁ _ ⟨rfl, hkept, hcaptured, hbody⟩
        cases read with
        | error e =>
            cases e with
            | tooLarge => exact (leads_json (by decide) _).refused hkept
            | failed => exact (leads_respondError (by decide) _).refused hkept
        | ok requestBody =>
            apply leads_verifyPayment.bind
            rintro verified _ _ ⟨rfl, cid, sent, answer, rfl⟩
            cases verified with
            | error e => exact (leads_respondVerifierError e).refused hkept
            | ok verified =>
                dsimp only
                split
                · exact (leads_respondVerificationFailure _).refused hkept
                · split
                  · exact (leads_respondError (by decide) _).refused hkept
                  · split
                    · exact (leads_json (by decide) _).refused hkept
                    · rename_i text htext
                      split
                      · exact (leads_json (by decide) _).refused hkept
                      · apply leads_world
                        · intro result hhit
                          apply hh result (hhit.of_cons _)
                          intro key hkey
                          cases hkey
                        · intro generated hexpected
                          cases generated with
                          | error e =>
                              dsimp only
                              split
                              · exact (leads_respondError (by decide) _).refused hkept
                              · exact (leads_respondError (by decide) _).refused hkept
                          | ok summary =>
                              apply (leads_generateAndSendReceipt
                                (Or.inl ⟨text, List.mem_cons_self⟩)).mono
                              rintro _ x' h' (⟨hkept', hsent⟩ | ⟨hsub, hsent⟩)
                              · apply Refused.handled
                                exact ⟨hkept.trans hkept', hsent⟩
                              · refine ⟨hkept.trans hsent.kept, ?_⟩
                                intro _ body text' hsome hread
                                obtain rfl := Except.ok.inj (hbody body hsome)
                                obtain rfl := Option.some.inj (htext.symm.trans hread)
                                refine ⟨summary, hexpected summary rfl,
                                  ⟨hsub List.mem_cons_self, hsent.sent⟩, ?_⟩
                                rw [hsent.captured, hcaptured]

/-! ### The cache -/

/-- The result in the response is read back. -/
theorem resultOf_resultBody (u : List Char) : resultOf (resultBody (utf8 u)) = some (utf8 u)
  := by
  have hvalid : (textObject [("result", utf8 u)]).Valid := by
    simp only [textObject, List.map_cons, List.map_nil, Valid, ValidMembers, and_self]
  have hname : utf8 (GoJson.unquote (GoJson.pieces (bytes "result"))) = bytes "result" := by
    rw [bytes, GoJson.unquote_pieces_utf8]
  have hdepth : (textObject [("result", utf8 u)]).depth ≤ GoJson.maxNestingDepth := by
    simp [textObject, depth, depthMembers, GoJson.maxNestingDepth]
  rw [resultOf, resultBody, GoJson.unmarshal_marshal hvalid hdepth]
  simp only [textObject, List.map_cons, List.map_nil, Json.map, mapMembers, hname,
    GoJson.unquote_pieces_utf8, List.reverse_singleton, List.find?_cons, decide_true]

theorem leads_serveCached {signature nonce requestBody : List UInt8} {cached : CachedResponse}
    (hhit : Hit cached.result h) :
  Leads (Sourced s r) Expected (fun _ _ _ => True) (serveCached s signature nonce requestBody cached)
    x h
  := by
  apply leads_lookup
  split
  · exact (leads_respondError (by decide) _).mono fun _ _ _ _ => trivial
  · split
    · exact (leads_respondError (by decide) _).mono fun _ _ _ _ => trivial
    · apply leads_verifyPayment.bind
      rintro verified _ _ ⟨rfl, cid, sent, answer, rfl⟩
      cases verified with
      | error e => exact (leads_respondVerifierError e).mono fun _ _ _ _ => trivial
      | ok verified =>
          dsimp only
          split
          · exact (leads_respondVerificationFailure _).mono fun _ _ _ _ => trivial
          · split
            · exact (leads_respondError (by decide) _).mono fun _ _ _ _ => trivial
            · have hsource : HasSource cached.result (⟨.verify cid sent, answer⟩ :: h) :=
                HasSource.mono (Or.inr hhit) (List.subset_cons_self _ _)
              exact (leads_generateAndSendReceipt hsource).mono fun _ _ _ _ => trivial

/-- A handler that answers and aborts ends the goroutine. -/
theorem undisturbed_abort {p : Code Unit}
    (hp : Leads (Sourced s r) Expected (fun _ _ _ => True) p x h) :
  Undisturbed s (Sourced s r) Expected [p >>= fun _ => abort, ask .next] x h
  := by
  apply hp.undisturbed
  intro _ x' h' _
  have habort : Leads (Sourced s r) Expected (fun _ x h => (handlers s).length ≤ x.context.index)
      abort x' h' := ⟨rfl, le_trans (length_handlers_le s) (show 2 ≤ 63 by decide)⟩
  apply habort.handler
  intro x h hindex
  exact undisturbed_ends hindex

/-- The result of a response is stored if it may be, and the goroutine ends. -/
theorem undisturbed_storeResult {key body : List UInt8} {status : Nat}
    (hlength : (handlers s).length ≤ x.context.index)
    (hstore : status = 200 → ∀ result, resultOf body = some result →
      Sourced s r h (.goStoreInCache key result)) :
  Undisturbed s (Sourced s r) Expected [storeResult key status body, ask .next] x h
  := by
  unfold storeResult
  split
  · rename_i result hresult
    obtain ⟨h200, hresult⟩ := Option.ite_none_right_eq_some.mp hresult
    refine .world (hstore h200 result hresult) ?_
    intro _ _
    exact .leave (undisturbed_ends hlength)
  · exact .leave (undisturbed_ends hlength)

/-- The handler runs, and its result is stored if it has sent status 200. -/
theorem undisturbed_captureResult {key body text : List UInt8} {i : Nat}
    (henabled : getCacheEnabled s.env = true) (hindex : x.context.index = 1)
    (hwriter : x.context.writer = .buffer i) (hbody : x.context.requestBody = some body)
    (htext : readSummarizeRequest body = some text) (hkey : IsKeyOf s r key text)
    (hh : ∀ result, ¬ Hit result h) :
  Undisturbed s (Sourced s r) Expected [captureResult key, ask .next] x h
  := by
  have hhandler : (handlers s)[x.context.index]? = some (handleSummarize s) := by
    simp only [hindex, handlers, henabled, if_true]
    rfl
  refine .wrapWriter ⟨i, hwriter⟩ ?_
  intro r' n
  refine undisturbed_next_some hhandler ?_
  apply (leads_handleSummarize hh).handler
  rintro x' h' ⟨hkept, hhandled⟩
  have hindex' : x'.context.index = 2 := hkept.1.trans (congrArg Nat.succ hindex)
  have hlength : (handlers s).length ≤ x'.context.index :=
    le_trans (length_handlers_le s) hindex'.ge
  apply undisturbed_next_none hlength
  refine .inspect hkept.2.symm ⟨r', n, _, rfl⟩ ?_ ?_
  · intro h200
    refine undisturbed_storeResult (Nat.le_succ_of_le hlength) ?_
    intro _ result hresult
    obtain ⟨result', ⟨u, rfl⟩, hsummary, hcaptured⟩ := hhandled h200 body text hbody htext
    have hcaptured' : x'.captured = resultBody (utf8 u) := hcaptured
    rw [hcaptured', resultOf_resultBody] at hresult
    obtain rfl := Option.some.inj hresult
    exact ⟨text, hkey, ⟨u, rfl⟩, hsummary⟩
  · intro status bytes hstatus
    refine undisturbed_storeResult (Nat.le_succ_of_le hlength) ?_
    intro h200
    exact absurd h200 hstatus

/-- The handler that is last runs, and the goroutine ends. -/
theorem undisturbed_last {rest : List (Code Unit)}
    (hlast : (handlers s)[x.context.index]? = some (handleSummarize s))
    (hlength : (handlers s).length ≤ x.context.index + 1) (hh : ∀ result, ¬ Hit result h)
    (hrest : ∀ x h, (handlers s).length ≤ x.context.index →
      Undisturbed s (Sourced s r) Expected rest x h) :
  Undisturbed s (Sourced s r) Expected (ask .next :: rest) x h
  := by
  apply undisturbed_next_some (f := pure) hlast
  apply (leads_handleSummarize hh).handler
  rintro x' h' ⟨hkept, -⟩
  have hlength' : (handlers s).length ≤ x'.context.index := by
    rw [hkept.1]
    exact hlength
  apply undisturbed_next_none hlength'
  apply Undisturbed.leave
  exact hrest _ _ (Nat.le_succ_of_le hlength')

/-- No result is found before anything is looked up. -/
theorem not_hit_nil (result : List UInt8) : ¬ Hit result []
  := by
  rintro ⟨key, val, cached, hmem, -⟩
  cases hmem

/-- A lookup in the cache for the text of the request, in the first call. -/
theorem undisturbed_getFromCache {key : List UInt8} {f : Option CachedResponse → Code Unit}
    {rest : List (Code Unit)} {text : List UInt8} (hkey : IsKeyOf s r key text)
    (hmiss : ∀ h, (∀ result, ¬ Hit result h) →
      Undisturbed s (Sourced s r) Expected (f none :: rest) x h)
    (hhit : ∀ cached h, Hit cached.result h →
      Undisturbed s (Sourced s r) Expected (f (some cached) :: rest) x h) :
  Undisturbed s (Sourced s r) Expected ((lift (getFromCache key) >>= f) :: rest) x []
  := by
  refine .world ⟨rfl, text, hkey⟩ ?_
  intro val _
  change Undisturbed _ _ _ (f (val.bind readCachedResponse) :: _) _ _
  cases hval : val.bind readCachedResponse with
  | none =>
      apply hmiss
      rintro result ⟨key', val', cached, hmem, hread, -⟩
      obtain heq := List.mem_singleton.mp hmem
      injection heq with hcall hanswer
      subst hanswer
      rw [Option.bind_some, hread] at hval
      cases hval
  | some cached =>
      obtain ⟨val', rfl, hread⟩ := Option.bind_eq_some_iff.mp hval
      exact hhit cached _ ⟨key, val', cached, List.mem_cons_self, hread, rfl⟩

theorem undisturbed_cacheMiddleware {i : Nat} (henabled : getCacheEnabled s.env = true)
    (hindex : x.context.index = 1) (hwriter : x.context.writer = .buffer i)
    (hbody : x.context.body = r.body) :
  Undisturbed s (Sourced s r) Expected [cacheMiddleware s, ask .next] x []
  := by
  have hnext : Undisturbed s (Sourced s r) Expected [ask .next, ask .next] x [] := by
    apply undisturbed_last _ _ not_hit_nil
    · intro x h hlength
      exact undisturbed_ends hlength
    · simp only [hindex, handlers, henabled, if_true]
      rfl
    · rw [hindex]
      exact length_handlers_le s
  have hrefused : ∀ {p : Code Unit} {x : Own} {h : History},
      Leads (Sourced s r) Expected (fun _ x' _ => Refused x x') p x h →
      Undisturbed s (Sourced s r) Expected [p >>= fun _ => abort, ask .next] x h := by
    intro p x h hp
    exact undisturbed_abort (hp.mono fun _ _ _ _ => trivial)
  unfold cacheMiddleware
  split
  · exact hnext
  · apply undisturbed_lookup
    dsimp only
    split
    · exact hnext
    · split
      · apply undisturbed_world trivial
        intro _ _
        exact hrefused (leads_json (by decide) _)
      · apply leads_readBody.undisturbed
        rintro read x₁ _ ⟨rfl, rfl, hkept, -⟩
        rw [hbody]
        cases hread : r.body.readAll with
        | error e =>
            cases e with
            | tooLarge =>
                apply undisturbed_world trivial
                intro _ _
                exact hrefused (leads_json (by decide) _)
            | failed => exact hrefused (leads_respondError (by decide) _)
        | ok requestBody =>
            obtain rfl := received_of_readAll hread
            refine .update rfl ?_
            dsimp only [Program.bind]
            split
            · exact hrefused (leads_json (by decide) _)
            · rename_i text htext
              split
              · exact hrefused (leads_json (by decide) _)
              · apply undisturbed_getFromCache ⟨htext, rfl⟩
                · intro h hh
                  exact undisturbed_captureResult henabled (hkept.1.trans hindex)
                    (hkept.2.trans hwriter) rfl htext ⟨htext, rfl⟩ hh
                · intro cached h hhit
                  exact undisturbed_abort (leads_serveCached hhit)

/-- A request whose goroutine has its Context to itself follows the rule. -/
theorem undisturbed_init (s : Settings) (i : Nat) (r : HttpRequest) (correlationID : List UInt8) :
  Undisturbed s (Sourced s r) Expected [ask .next] (.init i r correlationID) []
  := by
  cases henabled : getCacheEnabled s.env with
  | true =>
      have hhandler : (handlers s)[0]? = some (cacheMiddleware s) := by
        simp only [handlers, henabled, if_true]
        rfl
      refine undisturbed_next_some (f := pure) hhandler ?_
      exact undisturbed_cacheMiddleware henabled rfl rfl rfl
  | false =>
      have hhandlers : handlers s = [handleSummarize s] := by
        rw [handlers, henabled]
        rfl
      apply undisturbed_last _ _ not_hit_nil
      · intro _ _ _
        exact .finished
      · rw [hhandlers]
        rfl
      · rw [hhandlers]
        exact le_rfl

end Walk

end Paygate.Gateway.Pooled
