import Paygate.Base.Interaction
import Paygate.Sdk.Client

/-!
# The exchanges of the SDK client

`PaygateClient.request` as a program: its fetches and its signatures are its calls, and they may
be answered in any way.  A client with the protocol of the gateway fetches at most twice and signs
at most once, and what it throws is an error of the SDK, unless the text of a response does not
arrive.
-/

namespace Paygate.Sdk

open Text Json Program

/-! ### The program -/

/-- What the client asks of the platform and the wallet. -/
inductive ClientCall where
  | fetch (url : List UInt16) (init : RequestInit)
  | signTypedData (data : TypedData (List UInt16))

/-- What it is answered. -/
abbrev ClientAnswer : ClientCall → Type
  | .fetch _ _ => Option Response
  | .signTypedData _ => Except Thrown (List UInt16)

/-- The calls of a client with their answers, the latest first. -/
abbrev ClientHistory := List (Event ClientCall ClientAnswer)

/-- The response is a challenge with the payment context. -/
def Response.Challenges (response : Response) (ctx : PaymentContext) : Prop :=
  response.status = 402 ∧ ∃ bodyText, response.text = .ok bodyText
    ∧ paymentContextOf bodyText = some ctx

namespace PaygateClient

variable {TBody : Type} (client : PaygateClient)
  (stringify : TBody → Except Unit (Option (List Char)))

/-- An exchange with the server, after which the program goes on with the response. -/
def exchange (url : List UInt16) (init : RequestInit)
    (next : Response → Program ClientCall ClientAnswer (Except Thrown PaygateResponse)) :
    Program ClientCall ClientAnswer (Except Thrown PaygateResponse) := do
  match ← perform (ClientCall.fetch url init) with
  | none => pure (.error (.sdk .networkError "Network error while calling gateway" none none))
  | some response => next response

/-- What the user is answered when the first request was not challenged. -/
def answerFirst (response : Response) (endpoint : List UInt16)
    (requestBodyText : Option (List Char)) : Except Thrown PaygateResponse :=
  if !response.ok then do
    .error (.sdk .networkError "Gateway request failed" (some response.status)
      (some (← response.text)))
  else client.readSuccess response endpoint requestBodyText

/-- What the user is answered after the signed retry. -/
def answerRetry (response : Response) (endpoint : List UInt16)
    (requestBodyText : Option (List Char)) : Except Thrown PaygateResponse :=
  if !response.ok then do
    .error (.sdk .signedRetryFailed "Signed retry failed" (some response.status)
      (some (← response.text)))
  else client.readSuccess response endpoint requestBodyText

/-- Send a request; if it is challenged, sign the payment context and send it again. -/
def requestProgram (request : PaygateRequest TBody) :
    Program ClientCall ClientAnswer (Except Thrown PaygateResponse) :=
  match client.buildUrl request.path with
  | .error e => pure (.error e)
  | .ok url =>
      match serializeRequestBody stringify request.body with
      | .error e => pure (.error e)
      | .ok requestBodyText =>
          match buildRequestInit stringify request [] requestBodyText with
          | .error e => pure (.error e)
          | .ok firstInit =>
              exchange url firstInit fun firstResponse =>
                if firstResponse.status ≠ 402 then
                  pure (client.answerFirst firstResponse (buildReceiptEndpoint request.path)
                    requestBodyText)
                else
                  match readPaymentContext firstResponse with
                  | .error e => pure (.error e)
                  | .ok paymentContext => do
                      match ← perform (ClientCall.signTypedData (buildPaymentTypedData paymentContext)) with
                      | .error _ =>
                          pure (.error (.sdk .paymentSignatureFailed
                            "Failed to sign payment context" none none))
                      | .ok signature =>
                          match buildRequestInit stringify request
                            (buildSignedHeaders paymentContext signature) requestBodyText with
                          | .error e => pure (.error e)
                          | .ok retryInit =>
                              exchange url retryInit fun retryResponse =>
                                pure (client.answerRetry retryResponse
                                  (buildReceiptEndpoint request.path) requestBodyText)

/-- How the platform and the wallet of a client answer, the number of fetches before being
given. -/
def answer : (c : ClientCall) → Nat → ClientAnswer c × Nat
  | .fetch url init, n => (client.fetcher n url init, n + 1)
  | .signTypedData data, n => (client.signer data, n)

variable {client stringify}

/-- The program comes to what the call of a client with the protocol of the gateway comes to. -/
theorem runIn_requestProgram (hprotocol : client.protocol = microAIPaygateProtocol)
    (request : PaygateRequest TBody) :
  ((client.requestProgram stringify request).runIn client.answer 0).1
    = client.request stringify request
  := by
  unfold requestProgram PaygateClient.request
  rw [hprotocol]
  cases client.buildUrl request.path with
  | error e => rfl
  | ok url =>
      cases serializeRequestBody stringify request.body with
      | error e => rfl
      | ok text =>
          simp only [Bind.bind, Except.bind]
          cases buildRequestInit stringify request [] text with
          | error e => rfl
          | ok init =>
              simp only [exchange, Bind.bind, Program.bind, perform, runIn, answer, fetchOrThrow]
              cases client.fetcher 0 url init with
              | none => rfl
              | some response =>
                  dsimp only
                  split
                  · rfl
                  · simp only [microAIPaygateProtocol]
                    cases readPaymentContext response with
                    | error e => rfl
                    | ok ctx =>
                        simp only [runIn, answer]
                        cases client.signer (buildPaymentTypedData ctx) with
                        | error e => rfl
                        | ok signature =>
                            dsimp only
                            cases buildRequestInit stringify request
                                (buildSignedHeaders ctx signature) text with
                            | error e => rfl
                            | ok retry =>
                                simp only [runIn, answer]
                                cases client.fetcher 1 url retry with
                                | none => rfl
                                | some response => rfl

/-! ### What is thrown -/

/-- What is thrown, if anything is, is an error of the SDK. -/
def Typed (result : Except Thrown PaygateResponse) : Prop :=
  ∀ e, result = .error e → e ≠ .platform

theorem typed_ok (response : PaygateResponse) : Typed (.ok response)
  := by
  intro e h
  cases h

theorem typed_sdk (code : PaygateSdkErrorCode) (message : String) (status : Option Nat)
    (bodyText : Option (List Char)) :
  Typed (.error (.sdk code message status bodyText))
  := by
  intro e h
  obtain rfl := Except.error.inj h
  intro hplatform
  cases hplatform

theorem not_typed_platform : ¬ Typed (.error .platform)
  := by
  intro h
  exact h .platform rfl rfl

theorem typed_ite {c : Prop} [Decidable c] {x y : Except Thrown PaygateResponse} (hx : Typed x)
    (hy : Typed y) :
  Typed (if c then x else y)
  := by
  split
  · exact hx
  · exact hy

/-- The receipt of a response is read, or an error of the SDK is thrown. -/
theorem readReceipt_cases (response : Response) :
  (∃ receipt, readReceipt response = .ok receipt)
    ∨ ∃ code message, readReceipt response = .error (.sdk code message none none)
  := by
  unfold readReceipt
  split
  · exact Or.inl ⟨_, rfl⟩
  · exact Or.inl ⟨_, rfl⟩
  · split
    · exact Or.inl ⟨_, rfl⟩
    · exact Or.inr ⟨_, _, rfl⟩

/-- Reading a successful response throws an error of the SDK, unless its text does not arrive. -/
theorem typed_readSuccess_iff (hprotocol : client.protocol = microAIPaygateProtocol)
    (response : Response) (endpoint : List UInt16) (requestBodyText : Option (List Char)) :
  Typed (client.readSuccess response endpoint requestBodyText) ↔ response.body ≠ none
  := by
  have hread : client.protocol.readReceipt response = readReceipt response := by rw [hprotocol]; rfl
  simp only [PaygateClient.readSuccess, Response.text, Bind.bind, Except.bind, hread]
  cases response.body with
  | none => simpa using not_typed_platform
  | some bs =>
      simp only [ne_eq, reduceCtorEq, not_false_eq_true, iff_true]
      split
      · apply typed_sdk
      · obtain ⟨receipt, hreceipt⟩ | ⟨code, message, herror⟩ := readReceipt_cases response
        · rw [hreceipt]
          dsimp only
          split
          · apply typed_ok
          · apply typed_ite (typed_sdk _ _ _ _)
            apply typed_ite
            · apply typed_ite (typed_ok _) (typed_sdk _ _ _ _)
            · apply typed_ok
        · rw [herror]
          apply typed_sdk

/-- A refusal throws an error of the SDK, unless the text of the response does not arrive. -/
theorem typed_refused_iff (response : Response) (code : PaygateSdkErrorCode) (message : String) :
  Typed (do .error (.sdk code message (some response.status) (some (← response.text))))
    ↔ response.body ≠ none
  := by
  simp only [Response.text, Bind.bind, Except.bind]
  cases response.body with
  | none => simpa using not_typed_platform
  | some bs => simpa using typed_sdk _ _ _ _

/-- An answer to a response throws an error of the SDK, unless the text of the response does not
arrive. -/
theorem typed_answerFirst_iff (hprotocol : client.protocol = microAIPaygateProtocol)
    (response : Response) (endpoint : List UInt16) (requestBodyText : Option (List Char)) :
  Typed (client.answerFirst response endpoint requestBodyText) ↔ response.body ≠ none
  := by
  unfold answerFirst
  split
  · exact typed_refused_iff response _ _
  · apply typed_readSuccess_iff hprotocol

theorem typed_answerRetry_iff (hprotocol : client.protocol = microAIPaygateProtocol)
    (response : Response) (endpoint : List UInt16) (requestBodyText : Option (List Char)) :
  Typed (client.answerRetry response endpoint requestBodyText) ↔ response.body ≠ none
  := by
  unfold answerRetry
  split
  · exact typed_refused_iff response _ _
  · apply typed_readSuccess_iff hprotocol

/-- The URL of a path is refused with an error of the SDK. -/
theorem typed_of_buildUrl {path : List UInt16} {e : Thrown} (h : client.buildUrl path = .error e) :
  Typed (.error e)
  := by
  unfold buildUrl at h
  split at h
  · rw [← Except.error.inj h]
    apply typed_sdk
  · cases h

theorem typed_of_serializeRequestBody {body : Option TBody} {e : Thrown}
    (h : serializeRequestBody stringify body = .error e) :
  Typed (.error e)
  := by
  unfold serializeRequestBody at h
  split at h
  · cases h
  · rename_i body
    cases hbody : stringify body with
    | ok text =>
        rw [hbody] at h
        cases h
    | error u =>
        rw [hbody] at h
        rw [← Except.error.inj h]
        apply typed_sdk

/-- The text of a request body that was written is not written anew. -/
theorem buildRequestInit_eq_ok {request : PaygateRequest TBody} {extraHeaders : Headers}
    {requestBodyText : Option (List Char)}
    (htext : serializeRequestBody stringify request.body = .ok requestBodyText) :
  buildRequestInit stringify request extraHeaders requestBodyText = .ok {
    method := request.method
    headers := spread (spread (if request.body.isNone then []
      else [(units "Content-Type", units "application/json")]) request.headers) extraHeaders
    body := requestBodyText }
  := by
  cases requestBodyText with
  | none => simp only [buildRequestInit, htext, Bind.bind, Except.bind]
  | some text => rfl

/-! ### What is asked -/

/-- The response is to be fetched for the request, with extra headers. -/
def Sends (client : PaygateClient) (stringify : TBody → Except Unit (Option (List Char)))
    (request : PaygateRequest TBody) (extraHeaders : Headers) (url : List UInt16)
    (init : RequestInit) : Prop :=
  client.buildUrl request.path = .ok url
    ∧ ∃ requestBodyText, serializeRequestBody stringify request.body = .ok requestBodyText
      ∧ buildRequestInit stringify request extraHeaders requestBodyText = .ok init

/-- The calls that may be made after a history: a fetch of the request, a signature of the payment
context it was challenged with, and a fetch of the request with the signed headers. -/
def Allowed (client : PaygateClient) (stringify : TBody → Except Unit (Option (List Char)))
    (request : PaygateRequest TBody) (h : ClientHistory) : ClientCall → Prop
  | .fetch url init =>
      (h = [] ∧ Sends client stringify request [] url init)
        ∨ ∃ first response ctx signature,
          h = [⟨.signTypedData (buildPaymentTypedData ctx), .ok signature⟩,
              ⟨.fetch url first, some response⟩]
            ∧ response.Challenges ctx
            ∧ Sends client stringify request (buildSignedHeaders ctx signature) url init
  | .signTypedData data =>
      ∃ url init response ctx, h = [⟨.fetch url init, some response⟩] ∧ response.Challenges ctx
        ∧ data = buildPaymentTypedData ctx

/-- The text of a response did not arrive. -/
def Unreadable (h : ClientHistory) : Prop :=
  ∃ url init response, ⟨.fetch url init, some response⟩ ∈ h ∧ response.body = none

theorem unreadable_cons_fetch {url : List UInt16} {init : RequestInit} {response : Response}
    {h : ClientHistory} :
  Unreadable (⟨.fetch url init, some response⟩ :: h) ↔ response.body = none ∨ Unreadable h
  := by
  constructor
  · rintro ⟨url', init', response', hmem, hbody⟩
    obtain heq | hmem := List.mem_cons.mp hmem
    · cases heq
      exact Or.inl hbody
    · exact Or.inr ⟨url', init', response', hmem, hbody⟩
  · rintro (hbody | ⟨url', init', response', hmem, hbody⟩)
    · exact ⟨url, init, response, List.mem_cons_self, hbody⟩
    · exact ⟨url', init', response', List.mem_cons_of_mem _ hmem, hbody⟩

/-- What holds when the call has come to a result: an error of another kind than the SDK's is
thrown exactly if the text of a response did not arrive. -/
def Ends (h : ClientHistory) (result : Except Thrown PaygateResponse) : Prop :=
  Typed result ↔ ¬ Unreadable h

/-- Reading the payment context of a challenge throws an error of the SDK, unless the text of the
challenge does not arrive. -/
theorem typed_of_readPaymentContext {response : Response} {e : Thrown}
    (h : readPaymentContext response = .error e) :
  Typed (.error e) ↔ response.body ≠ none
  := by
  simp only [readPaymentContext, Response.text, Bind.bind, Except.bind] at h
  cases hbody : response.body with
  | none =>
      rw [hbody] at h
      rw [← Except.error.inj h]
      simpa using not_typed_platform
  | some bs =>
      simp only [hbody] at h
      simp only [ne_eq, reduceCtorEq, not_false_eq_true, iff_true]
      split at h
      · rw [← Except.error.inj h]
        apply typed_sdk
      · split at h
        · rw [← Except.error.inj h]
          apply typed_sdk
        · cases h

/-- The payment context that is read is the one of the text. -/
theorem challenges_of_readPaymentContext {response : Response} {ctx : PaymentContext}
    (hstatus : response.status = 402) (h : readPaymentContext response = .ok ctx) :
  response.Challenges ctx ∧ response.body ≠ none
  := by
  simp only [readPaymentContext, Response.text, Bind.bind, Except.bind] at h
  cases hbody : response.body with
  | none =>
      rw [hbody] at h
      cases h
  | some bs =>
      simp only [hbody] at h
      split at h
      · cases h
      · split at h
        · cases h
        · rename_i ctx' hctx
          obtain rfl := Except.ok.inj h
          refine ⟨⟨hstatus, textDecode bs, ?_, hctx⟩, by simp⟩
          rw [Response.text, hbody]

/-- A fetch that fails is an error of the SDK. -/
theorem safe_exchange {allowed : ClientHistory → ClientCall → Prop} {h : ClientHistory}
    {url : List UInt16} {init : RequestInit}
    {next : Response → Program ClientCall ClientAnswer (Except Thrown PaygateResponse)}
    (hallowed : allowed h (.fetch url init)) (hh : ¬ Unreadable h)
    (hnext : ∀ response, Safe allowed Ends (⟨.fetch url init, some response⟩ :: h) (next response)) :
  Safe allowed Ends h (exchange url init next)
  := by
  apply safe_bind
  apply safe_perform hallowed
  intro x
  cases x with
  | none =>
      apply safe_pure
      have hread : ¬ Unreadable (⟨.fetch url init, none⟩ :: h) := by
        rintro ⟨url', init', response, hmem, hbody⟩
        obtain heq | hmem := List.mem_cons.mp hmem
        · cases heq
        · exact hh ⟨url', init', response, hmem, hbody⟩
      simpa only [Ends, hread, not_false_eq_true, iff_true] using typed_sdk _ _ _ _
  | some response => exact hnext response

/-- The program makes allowed calls only, and ends as it should. -/
theorem safe_requestProgram (hprotocol : client.protocol = microAIPaygateProtocol)
    (request : PaygateRequest TBody) :
  Safe (Allowed client stringify request) Ends [] (client.requestProgram stringify request)
  := by
  have hnil : ¬ Unreadable [] := by
    rintro ⟨_, _, _, hmem, _⟩
    cases hmem
  have hends : ∀ {e : Thrown}, Typed (.error e) → Ends [] (.error e) := by
    intro e he
    exact iff_of_true he hnil
  unfold requestProgram
  split
  · rename_i e hurl
    exact safe_pure (hends (typed_of_buildUrl hurl))
  rename_i url hurl
  split
  · rename_i e htext
    exact safe_pure (hends (typed_of_serializeRequestBody htext))
  rename_i text htext
  have hinit : ∀ extra, ∃ init, buildRequestInit stringify request extra text = .ok init := by
    intro extra
    exact ⟨_, buildRequestInit_eq_ok htext⟩
  obtain ⟨first, hfirst⟩ := hinit []
  simp only [hfirst]
  apply safe_exchange (Or.inl ⟨rfl, hurl, text, htext, hfirst⟩) hnil
  intro response
  have hends : ∀ {result}, (Typed result ↔ response.body ≠ none) →
      Ends [⟨.fetch url first, some response⟩] result := by
    intro result hresult
    rw [Ends, hresult, unreadable_cons_fetch, not_or]
    exact ⟨fun h => ⟨h, hnil⟩, And.left⟩
  split
  · exact safe_pure (hends (typed_answerFirst_iff hprotocol _ _ _))
  rename_i hstatus
  split
  · rename_i e hread
    exact safe_pure (hends (typed_of_readPaymentContext hread))
  rename_i ctx hread
  obtain ⟨hchallenge, hbody⟩ := challenges_of_readPaymentContext (not_not.mp hstatus) hread
  apply safe_bind
  apply safe_perform ⟨_, _, _, ctx, rfl, hchallenge, rfl⟩
  intro x
  have hreadable : ¬ Unreadable [⟨.signTypedData (buildPaymentTypedData ctx), x⟩,
      ⟨.fetch url first, some response⟩] := by
    rintro ⟨url', init', response', hmem, hbody'⟩
    obtain heq | hmem := List.mem_cons.mp hmem
    · cases heq
    · exact unreadable_cons_fetch.mp ⟨url', init', response', hmem, hbody'⟩ |>.elim hbody hnil
  cases x with
  | error e => exact safe_pure (iff_of_true (typed_sdk _ _ _ _) hreadable)
  | ok signature =>
      obtain ⟨retry, hretry⟩ := hinit (buildSignedHeaders ctx signature)
      simp only [hretry]
      apply safe_exchange _ hreadable
      · intro response'
        apply safe_pure
        rw [Ends, typed_answerRetry_iff hprotocol, unreadable_cons_fetch, not_or]
        exact ⟨fun h => ⟨h, hreadable⟩, And.left⟩
      · exact Or.inr ⟨first, response, ctx, signature, rfl, hchallenge, hurl, text, htext, hretry⟩

/-! ### Fetches and signatures -/

/-- The number of fetches. -/
def fetches (h : ClientHistory) : Nat :=
  h.countP fun e => match e.call with
    | .fetch _ _ => true
    | .signTypedData _ => false

/-- The number of signatures. -/
def signatures (h : ClientHistory) : Nat :=
  h.countP fun e => match e.call with
    | .fetch _ _ => false
    | .signTypedData _ => true

/-- Every signature is one of the payment context of a challenge that came before. -/
def SignsChallenges (h : ClientHistory) : Prop :=
  ∀ later data x earlier, h = later ++ ⟨.signTypedData data, x⟩ :: earlier →
    ∃ url init response ctx, ⟨.fetch url init, some response⟩ ∈ earlier ∧ response.Challenges ctx
      ∧ data = buildPaymentTypedData ctx

/-- The histories the allowed calls lead to. -/
theorem history_cases {request : PaygateRequest TBody} {h : ClientHistory}
    {q : Program ClientCall ClientAnswer (Except Thrown PaygateResponse)}
    (hprotocol : client.protocol = microAIPaygateProtocol)
    (hrun : (client.requestProgram stringify request).Reaches h q) :
  h = [] ∨ (∃ url init x, h = [⟨.fetch url init, x⟩])
    ∨ (∃ url init x data y, h = [⟨.signTypedData data, y⟩, ⟨.fetch url init, x⟩])
    ∨ ∃ url init x data y url' init' z,
        h = [⟨.fetch url' init', z⟩, ⟨.signTypedData data, y⟩, ⟨.fetch url init, x⟩]
  := by
  induction hrun with
  | start => exact Or.inl rfl
  | @step h c k x hrun ih =>
      have hallowed := ((safe_requestProgram hprotocol request).reaches hrun).1
      cases c with
      | fetch url init =>
          obtain ⟨rfl, -⟩ | ⟨first, response, ctx, signature, rfl, -⟩ := hallowed
          · exact Or.inr (Or.inl ⟨url, init, x, rfl⟩)
          · exact Or.inr (Or.inr (Or.inr ⟨_, _, _, _, _, _, _, _, rfl⟩))
      | signTypedData data =>
          obtain ⟨url, init, response, ctx, rfl, -⟩ := hallowed
          exact Or.inr (Or.inr (Or.inl ⟨_, _, _, _, _, rfl⟩))

/-- A client with the protocol of the gateway fetches at most twice and signs at most once,
however it is answered. -/
theorem fetches_signatures_le {request : PaygateRequest TBody} {h : ClientHistory}
    {q : Program ClientCall ClientAnswer (Except Thrown PaygateResponse)}
    (hprotocol : client.protocol = microAIPaygateProtocol)
    (hrun : (client.requestProgram stringify request).Reaches h q) :
  fetches h ≤ 2 ∧ signatures h ≤ 1
  := by
  obtain rfl | ⟨_, _, _, rfl⟩ | ⟨_, _, _, _, _, rfl⟩ | ⟨_, _, _, _, _, _, _, _, rfl⟩ :=
    history_cases hprotocol hrun
  · simp [fetches, signatures]
  · simp [fetches, signatures]
  · simp [fetches, signatures]
  · simp [fetches, signatures]

/-- It signs only payment contexts it was challenged with. -/
theorem signsChallenges_of_reaches {request : PaygateRequest TBody} {h : ClientHistory}
    {q : Program ClientCall ClientAnswer (Except Thrown PaygateResponse)}
    (hprotocol : client.protocol = microAIPaygateProtocol)
    (hrun : (client.requestProgram stringify request).Reaches h q) :
  SignsChallenges h
  := by
  intro later data x earlier hh
  obtain ⟨url, init, response, ctx, hearlier, hchallenge, hdata⟩ :=
    (safe_requestProgram hprotocol request).allowed_of_reaches hrun hh
  use url, init, response, ctx
  rw [show earlier = _ from hearlier]
  use List.mem_cons_self, hchallenge, hdata

/-- However a client with the protocol of the gateway is answered, its call resolves or throws an
error of the SDK, after at most two fetches and at most one signature, which is one of the payment
context of a challenge: exactly if the text of every response it fetched has arrived. -/
theorem request_errors_typed_iff {request : PaygateRequest TBody} {h : ClientHistory}
    {result : Except Thrown PaygateResponse}
    (hprotocol : client.protocol = microAIPaygateProtocol)
    (hrun : (client.requestProgram stringify request).Reaches h (.done result)) :
  (Typed result ∧ fetches h ≤ 2 ∧ signatures h ≤ 1 ∧ SignsChallenges h) ↔ ¬ Unreadable h
  := by
  have hends : Typed result ↔ ¬ Unreadable h := (safe_requestProgram hprotocol request).reaches hrun
  obtain ⟨hfetches, hsignatures⟩ := fetches_signatures_le hprotocol hrun
  have hsigns := signsChallenges_of_reaches hprotocol hrun
  rw [← hends]
  constructor
  · rintro ⟨htyped, -⟩
    exact htyped
  · intro htyped
    exact ⟨htyped, hfetches, hsignatures, hsigns⟩

end PaygateClient

/-! ### Samples -/

/-- Functions of `ethers` that know no key. -/
def keylessEthers : Ethers where
  Signature := Unit
  keccak256 _ := Vector.replicate 32 0
  computePublicKey _ := none
  signatureFrom _ _ _ := none
  recoverPublicKey _ _ := none

/-- A client without options. -/
def plainClient (fetcher : Nat → List UInt16 → RequestInit → Option Response) : PaygateClient :=
  .ofOptions keylessEthers (units "http://localhost:3000") (fun _ => .ok (units "0x00")) fetcher none
    none

/-- A request without a body. -/
def plainRequest : PaygateRequest Unit where
  method := units "GET"
  path := units "/api"
  body := none
  headers := []

/-- A response with a body. -/
def plainResponse (status : Nat) (body : String) : Response where
  status := status
  headers _ := none
  body := some (bytes body)

/-- The text of a challenge. -/
def challengeText : String :=
  "\x7b\"paymentContext\":\x7b\"recipient\":\"0x1\",\"token\":\"USDC\",\"amount\":\"1\","
    ++ "\"nonce\":\"n\",\"chainId\":1,\"timestamp\":2\x7d\x7d"

/-- A challenge is answered until the request is signed, and then an empty object. -/
def challenging : (c : ClientCall) → ClientAnswer c
  | .fetch _ init =>
      if init.headers = [] then some (plainResponse 402 challengeText)
      else some (plainResponse 200 "\x7b\x7d")
  | .signTypedData _ => .ok (units "0x00")

/-- The challenged client fetches twice, signs once and throws no error of the platform. -/
theorem request_errors_typed_sample :
  PaygateClient.fetches (trace challenging ((plainClient fun _ _ _ => none).requestProgram
      (fun _ => .ok none) plainRequest) []).1 = 2
    ∧ PaygateClient.signatures (trace challenging ((plainClient fun _ _ _ => none).requestProgram
      (fun _ => .ok none) plainRequest) []).1 = 1
    ∧ PaygateClient.Typed (trace challenging ((plainClient fun _ _ _ => none).requestProgram
      (fun _ => .ok none) plainRequest) []).2
  := by
  refine ⟨by decide +kernel, by decide +kernel, ?_⟩
  have hrun := reaches_trace challenging
    (.start (p := (plainClient fun _ _ _ => none).requestProgram (fun _ => .ok none) plainRequest))
  refine ((PaygateClient.request_errors_typed_iff rfl hrun).mpr ?_).1
  rintro ⟨url, init, response, hmem, hbody⟩
  have hanswer := answer_of_mem_trace (List.forall_mem_nil _) _ hmem
  simp only [challenging] at hanswer
  split at hanswer
  · obtain rfl := Option.some.inj hanswer
    cases hbody
  · obtain rfl := Option.some.inj hanswer
    cases hbody

/-- The error of the platform is thrown when the text of a successful response does not arrive. -/
theorem unreadable_text_throws_platform :
  (plainClient fun _ _ _ => some { status := 200, headers := fun _ => none, body := none }).request
      (fun _ : Unit => .ok none) plainRequest = .error .platform
    ∧ ¬ PaygateClient.Typed
      ((plainClient fun _ _ _ => some { status := 200, headers := fun _ => none, body := none }).request
        (fun _ : Unit => .ok none) plainRequest)
  := by
  have hrequest : (plainClient fun _ _ _ =>
      some { status := 200, headers := fun _ => none, body := none }).request
        (fun _ : Unit => .ok none) plainRequest = .error .platform := rfl
  use hrequest
  rw [hrequest]
  exact PaygateClient.not_typed_platform

end Paygate.Sdk
