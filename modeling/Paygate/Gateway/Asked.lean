import Paygate.Base.Answers
import Paygate.Gateway.FailClosed

/-!
# What the gateway asks the verifier

For a request the gateway asks the verifier about nothing but the signature and the nonce that the
request carries, whatever is answered, and whichever way the request goes.
-/

namespace Paygate.Gateway

open Text Json Program

/-- The call asks the verifier about the request, if it asks the verifier at all. -/
def AsksAbout (env : Env) (r : HttpRequest) : Call → Prop
  | .verify _ body => ∃ timestamp, body = (verifyRequest env r.signature r.nonce timestamp).body
  | _ => True

/-- The program asks about the request only, and returns a context that is finished. -/
abbrev Minds (s : Settings) (r : HttpRequest) (h : History) (p : Prog Context) : Prop :=
  Safe (fun _ => AsksAbout s.env r) (fun _ c => c.finished = true) h p

/-- The program asks about the request only. -/
abbrev Replies {α : Type} (s : Settings) (r : HttpRequest) (h : History) (p : Prog α) : Prop :=
  Safe (fun _ => AsksAbout s.env r) (fun _ _ => True) h p

variable {s : Settings} {r : HttpRequest} {h : History}

theorem replies_json (c : Context) (code : Nat) (v : Json (List UInt8)) :
  Replies s r h (c.json code v)
  := ⟨trivial, fun _ => trivial⟩

theorem replies_respondError (c : Context) (code : Nat) (msg : String) :
  Replies s r h (respondError c code msg)
  := by
  apply safe_bind
  apply (safe_responseCorrelationID (fun _ => trivial) (p := fun _ => True) trivial
    (fun _ => trivial) c).mono
  intro h id _
  exact replies_json c code _

theorem replies_respondVerifierError (c : Context) (e : VerifyFailure) :
  Replies s r h (respondVerifierError c e)
  := by
  rw [respondVerifierError]
  split
  · exact replies_respondError c 504 _
  · exact replies_respondError c 502 _

/-- Receipts are made and stored without the verifier. -/
theorem replies_of_books {α : Type} {post : α → Prop} {p : Prog α} (hp : Books post h p) :
  Replies s r h p
  := by
  have hcarry : Safe (fun _ => AsksAbout s.env r) (fun _ a => True ∧ post a) h p := by
    apply hp.carry trivial (fun _ _ _ _ _ => trivial)
    intro h c _ hc
    cases c with
    | verify cid body => cases hc
    | _ => trivial
  exact hcarry.mono fun _ _ _ => trivial

theorem replies_generateAndSendReceipt (c : Context) (payment : PaymentContext)
    (payer requestBody result : List UInt8) :
  Replies s r h (generateAndSendReceipt s c payment payer requestBody result)
  := by
  apply safe_bind
  apply (replies_of_books books_makeReceipt).mono
  intro h₁ made _
  cases made with
  | error e => exact replies_respondError c 500 _
  | ok receipt =>
      apply safe_bind
      apply (replies_of_books books_storeReceiptWithContext).mono
      intro h₂ stored _
      cases stored with
      | error e => exact replies_respondError c 500 _
      | ok u =>
          dsimp only
          split
          · exact replies_respondError c 500 _
          · exact ⟨trivial, fun _ => replies_json c 200 _⟩

theorem replies_verifyPayment (c : Context) (timestamp : UInt64) :
  Replies s r h (verifyPayment s c r.signature r.nonce timestamp)
  := ⟨⟨timestamp, rfl⟩, fun _ => trivial⟩

theorem replies_serveCached {c : Context} (hc : c.request = r) (requestBody : List UInt8)
    (cached : CachedResponse) :
  Replies s r h (serveCached s c requestBody cached)
  := by
  rw [serveCached, hc]
  split
  · exact replies_respondError c 400 _
  · split
    · exact replies_respondError c 400 _
    · rename_i timestamp _
      apply safe_bind
      apply (replies_verifyPayment c timestamp).mono
      rintro h' (e | ⟨response, payment⟩) _
      · exact replies_respondVerifierError c e
      · dsimp only
        split
        · exact replies_respondError c _ _
        · split
          · exact replies_respondError c 502 _
          · exact replies_generateAndSendReceipt c _ _ _ _

theorem replies_handleSummarize {c : Context} (hc : c.request = r) (next : Context → Prog Context) :
  Replies s r h (handleSummarize s next c)
  := by
  rw [handleSummarize, hc]
  split
  · exact ⟨trivial, fun _ => ⟨trivial, fun _ => replies_json c 402 _⟩⟩
  · split
    · exact replies_respondError c 400 _
    · split
      · exact replies_respondError c 400 _
      · rename_i timestamp _
        split
        · exact replies_json c 413 _
        · exact replies_respondError c 500 _
        · apply safe_bind
          apply (replies_verifyPayment c timestamp).mono
          rintro h' (e | ⟨response, payment⟩) _
          · exact replies_respondVerifierError c e
          · dsimp only
            split
            · exact replies_respondError c _ _
            · split
              · exact replies_respondError c 502 _
              · split
                · exact replies_json c 400 _
                · split
                  · exact replies_json c 400 _
                  · apply safe_bind
                    apply safe_perform trivial
                    rintro (e | summary)
                    · dsimp only
                      split
                      · exact replies_respondError c 504 _
                      · exact replies_respondError c 502 _
                    · exact replies_generateAndSendReceipt c _ _ _ _

/-! ### The handlers together -/

theorem minds_handleSummarize {c : Context} (hc : c.request = r) :
  Minds s r h (runHandlers [handleSummarize s] c)
  := safe_lastHandler (fun _ _ _ => id) (replies_handleSummarize hc _)

theorem minds_abort {p : Prog Context} (hp : Replies s r h p) :
  Minds s r h (p >>= fun c => pure c.abort)
  := safe_abort (fun _ _ _ => id) hp

theorem minds_storeResult {c : Context} (hc : c.finished = true) (key : List UInt8) :
  Minds s r h (storeResult c key)
  := by
  rw [storeResult]
  split
  · exact ⟨trivial, fun _ => hc⟩
  · exact hc

theorem minds_cacheMiddleware {next : Context → Prog Context}
    (hnext : ∀ h c, c.request = r → Minds s r h (next c)) {c : Context} (hc : c.request = r) :
  Minds s r h (cacheMiddleware s next c)
  := by
  have hlarge : Minds s r h (do
      perform (.header "Connection" (bytes "close"))
      let c ← respondTooLarge c
      pure c.abort) :=
    ⟨trivial, fun _ => minds_abort (replies_json c 413 _)⟩
  rw [cacheMiddleware]
  split
  · exact hnext h c hc
  · split
    · exact hnext h c hc
    · split
      · exact hlarge
      · split
        · exact hlarge
        · exact minds_abort (replies_respondError c 500 _)
        · dsimp only
          split
          · exact minds_abort (replies_json _ 400 _)
          · split
            · exact minds_abort (replies_json _ 400 _)
            · rename_i text _ _
              have hget : Replies s r h (getFromCache (getCacheKey text (getModel s.env))) :=
                ⟨trivial, fun _ => trivial⟩
              apply safe_bind
              apply hget.mono
              intro h' cached _
              cases cached with
              | some cached =>
                  apply minds_abort
                  apply replies_serveCached
                  exact hc
              | none =>
                  apply safe_bind
                  apply (hnext _ _ _).mono
                  · intro h' c' hc'
                    exact minds_storeResult hc' _
                  · exact hc

/-- For a request the gateway asks the verifier about nothing else. -/
theorem minds_summarize (s : Settings) (r : HttpRequest) :
  Minds s r [] (summarize s r)
  := by
  have hcorrelation : ∀ {handlers : List Handler}, (∀ h c, c.request = r →
      Minds s r h (runHandlers handlers c)) →
      Minds s r [] (runHandlers (correlationIDMiddleware :: handlers) (.init r)) := by
    intro handlers hhandlers
    apply safe_runHandlers fun _ _ hc => hc
    apply safe_correlationIDMiddleware (fun _ => trivial) (fun _ _ => trivial)
      (q := fun _ => True) (fun _ _ _ => trivial) (fun _ _ _ _ => trivial)
    · intro h id _
      apply hhandlers
      rfl
    · trivial
  rw [summarize, summarizeHandlers]
  split
  · apply hcorrelation
    intro h c hc
    apply safe_runHandlers fun _ _ hc => hc
    exact minds_cacheMiddleware (fun h c hc => minds_handleSummarize hc) hc
  · exact hcorrelation fun h c hc => minds_handleSummarize hc

end Paygate.Gateway
