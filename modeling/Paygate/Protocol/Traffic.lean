import Paygate.Gateway.Asked
import Paygate.Protocol.HonestRun
import Paygate.Verifier.Sweep

/-!
# Honest calls amid other traffic

The services handle one request after the other, whoever sends them, and the verifier keeps the
nonces that were claimed.  A request can claim no other nonce than its own, so what others send
before and between the two requests of an honest call does not keep the call from resolving, unless
they send its nonce.
-/

namespace Paygate

open Text Json JsJson Program

/-! ### Traffic -/

namespace Deployment

/-- The nonces the verifier has after some requests, each with what the services find when it is
handled. -/
def after (d : Deployment) (store : Verifier.MemoryNonceStore)
    (traffic : List (Surroundings × Gateway.HttpRequest)) : Verifier.MemoryNonceStore :=
  traffic.foldl (fun store e => (d.handle e.1 store e.2).store) store

variable {d : Deployment} {key : Verifier.Digest}

/-- The nonces of the store are among those that it had before, and one more. -/
def AddsAtMost (store store' : Verifier.MemoryNonceStore) (added : Verifier.Digest) : Prop :=
  ∀ key ≠ added, store.usedNonces.lookup key = none → store'.usedNonces.lookup key = none

/-- The verifier claims no other nonce than that of the request. -/
theorem addsAtMost_verifySignature (store : Verifier.MemoryNonceStore) {q : Verifier.Arrival}
    {nonce : String} (hnonce : ∀ req, q.payload = .ok req → req.context.nonce = nonce) :
  AddsAtMost store (Verifier.verifySignature d.eth d.state store q).2 (Verifier.nonceKey d.eth nonce)
  := by
  intro key hkey hnone
  obtain ⟨-, hsame, -⟩ | ⟨req, hreq, -, -, hclaim⟩ :=
    Verifier.verifySignature_cases d.eth d.state store q
  · rw [hsame, hnone]
  · rw [hclaim, hnonce req hreq]
    apply Option.eq_none_iff_forall_ne_some.mpr
    intro insertedAt h
    obtain hold | ⟨-, rfl, -⟩ := Verifier.lookup_claimMemoryNonce h
    · rw [hnone] at hold
      cases hold
    · exact hkey rfl

/-- Handling a request claims no other nonce than that of the request. -/
theorem addsAtMost_handle (x : Surroundings) (store : Verifier.MemoryNonceStore)
    (r : Gateway.HttpRequest) :
  AddsAtMost store (d.handle x store r).store (Verifier.nonceKey d.eth (receivedText r.nonce))
  := by
  intro key hkey hnone
  apply (Gateway.minds_summarize d.settings r).runIn_keeps (d.answer x)
    (P := fun t => t.store.usedNonces.lookup key = none)
  · intro c t hc ht
    cases c with
    | verify correlationID body =>
        obtain ⟨timestamp, rfl⟩ := hc
        apply addsAtMost_verifySignature t.store _ key hkey ht
        intro req hreq
        obtain ⟨-, chainId, -, rfl⟩ := readBody_eq_ok.mp hreq
        rfl
    | _ => exact ht
  · exact hnone

/-- A nonce that nobody sends is not claimed. -/
theorem unclaimed_after {traffic : List (Surroundings × Gateway.HttpRequest)}
    (hothers : ∀ e ∈ traffic, Verifier.nonceKey d.eth (receivedText e.2.nonce) ≠ key)
    {store : Verifier.MemoryNonceStore} (hnone : store.usedNonces.lookup key = none) :
  (d.after store traffic).usedNonces.lookup key = none
  := by
  induction traffic generalizing store with
  | nil => exact hnone
  | cons e traffic ih =>
      obtain ⟨hother, hothers⟩ := List.forall_mem_cons.mp hothers
      apply ih hothers
      exact addsAtMost_handle e.1 store e.2 key (Ne.symm hother) hnone

end Deployment

/-! ### The honest call -/

/-- A call of an honest client resolves amid any traffic: whatever was sent since the services
started, and is sent between the challenge and the retry, the client is answered with the result
for its text and a receipt that it verifies, if nobody else sends the nonce it is challenged
with. -/
theorem honest_call_resolves {d : Deployment} {eth : Sdk.Ethers} (gatewayUrl : List UInt16)
    {w : Wallet} {key : d.settings.crypto.PrivateKey} {x : Nat → Surroundings}
    {trusted : List UInt16} {TBody : Type} {stringify : TBody → Except Unit (Option (List Char))}
    {request : Sdk.PaygateRequest TBody} {bodyText : List Char} {text : List UInt8}
    (hask : AsksFor stringify request bodyText text) (hconf : Configured d eth w key trusted)
    (hx : ∀ n, (x n).Timely) (hsignable : Signable d w (x 0) (x 1)) (start : Nat)
    (before between : List (Surroundings × Gateway.HttpRequest))
    (hothers : ∀ n, ∀ e ∈ before ++ between,
      Verifier.nonceKey d.eth (receivedText e.2.nonce) ≠ issuedKey d ((x 0).uuid n)) :
  ∃ receipt : Sdk.SignedReceipt,
    (honestClient d eth gatewayUrl w x
        (fun n => d.after (Verifier.memoryNonceStore start)
          (if n = 0 then before else before ++ between)) trusted).request stringify request
        = .ok {
            data := .obj [(units "result", .str (received (d.result (x 1) text)))]
            receipt := some receipt
            receiptVerified := some true
            status := 200 }
      ∧ receipt.receipt.payment.payer = units (Verifier.debugAddress w.address)
      ∧ receipt.receipt.payment.recipient
        = received (Gateway.getRecipientAddress d.settings.env)
      ∧ receipt.receipt.payment.amount = received (Gateway.getPaymentAmount d.settings.env)
  := by
  apply hask.resolves gatewayUrl _ hconf hx hsignable
  intro n
  exact Deployment.unclaimed_after (hothers n) rfl

/-! ### A sample -/

/-- The Ethereum operations of the sample, which tell short nonces apart. -/
def honestEthers : Verifier.Ethers :=
  { parityEthers with keccak256 := fun bs => Vector.ofFn fun i => bs.getD i 0 }

/-- The services of the sample. -/
def honestDeployment : Deployment where
  settings := {
    env := sampleEnv
    crypto := sampleCrypto
    redisClient := false
    receiptStore := .memory }
  eth := honestEthers
  state := Verifier.sampleState
  display _ := ""

/-- What they find, one second after the challenge at the verifier. -/
def honestSurroundings : Surroundings where
  uuid _ := Vector.replicate 16 0x5A
  receiptRandom _ := Vector.replicate 6 0xAB
  now _ := ⟨1700000000000000000⟩
  verifierClock := 1700000001 * Verifier.nanosPerSecond
  cached _ := none
  provider _ := bytes "short"

/-- A request with a header of the user. -/
def honestRequest : Sdk.PaygateRequest Unit where
  method := units "POST"
  path := units "/api/ai/summarize?x"
  body := some ()
  headers := [(units "Accept", units "application/json")]

/-- The text of its body. -/
def honestBody : List Char :=
  "\x7b\"text\":\"long\"\x7d".toList

theorem configured_sample :
  Configured honestDeployment sampleEthers parityWallet () (Sdk.hexlify samplePublicKey.toList)
  := by
  have hplain : ∀ s : String, s.toList ≠ [] → (∀ c ∈ s.toList, GoJson.named c = false) →
      IsPlainText (bytes s) := fun s hne hs => isPlainText_utf8 hne hs
  exact {
    wallet := ⟨agrees_sample.digest, agrees_sample.recover⟩
    packages := agree_sample
    issues := {
      loads := getServerPrivateKey_sample
      signs := fun hash => ⟨_, rfl⟩
      keeps := by decide }
    trusts := by decide +kernel
    chain := by decide +kernel
    expected := by decide
    recipient := hplain "0x2cAF48b4BA1C58721a85dFADa5aC01C2DFa62219" (by decide) (by decide)
    amount := hplain "0.001" (by decide) (by decide)
    reads := (Deployment.reads_iff _ _).mpr (by decide +kernel) }

theorem asksFor_sample :
  AsksFor (fun _ : Unit => .ok (some honestBody)) honestRequest honestBody (bytes "long")
  := by
  exact {
    method := rfl
    path := by decide
    headers := by
      unfold LeavesPayment
      decide
    body := ⟨(), rfl, rfl⟩
    reads := by decide +kernel
    asks := by decide
    fits := by decide }

theorem signable_sample :
  Signable honestDeployment parityWallet honestSurroundings honestSurroundings
  := by
  have hfresh : Verifier.validateTimestampInternal
      (some (UInt64.ofInt (honestSurroundings.now 0).unix)) 300 60
        (Verifier.unixSeconds honestSurroundings.verifierClock) = .ok () := by
    decide
  intro n m
  exact ⟨_, rfl, hfresh⟩

/-- The times of the sample are all the same. -/
theorem timely_sample : honestSurroundings.Timely
  := by
  have htime : 0 < (honestSurroundings.now 0).unix ∧ (honestSurroundings.now 0).unix < 2 ^ 53
      ∧ 0 ≤ (honestSurroundings.now 0).date.1 ∧ (honestSurroundings.now 0).date.1 ≤ 9999 := by
    decide
  intro n
  exact htime

/-- A request of someone else, with a nonce of its own. -/
def otherRequest : Gateway.HttpRequest where
  path := bytes "/api/ai/summarize"
  signature := bytes "0x00"
  nonce := bytes "9c1b"
  timestamp := bytes "1700000000"
  correlationID := []
  contentLength := 15
  body := { received := utf8 honestBody, broken := false }

/-- The sample call resolves with the summary of the provider, though someone else pays twice with
the same nonce. -/
theorem honest_call_resolves_sample :
  ∃ receipt : Sdk.SignedReceipt,
    (honestClient honestDeployment sampleEthers (units "http://localhost:3000/") parityWallet
        (fun _ => honestSurroundings)
        (fun n => honestDeployment.after (Verifier.memoryNonceStore 0)
          (if n = 0 then [(honestSurroundings, otherRequest)]
            else [(honestSurroundings, otherRequest)] ++ [(honestSurroundings, otherRequest)]))
        (Sdk.hexlify samplePublicKey.toList)).request
          (fun _ : Unit => .ok (some honestBody)) honestRequest
      = .ok {
          data := .obj [(units "result", .str (units "short"))]
          receipt := some receipt
          receiptVerified := some true
          status := 200 }
    ∧ receipt.receipt.payment.payer = units (Verifier.debugAddress (Vector.replicate 20 0xAB))
  := by
  have hother : Verifier.nonceKey honestDeployment.eth (receivedText otherRequest.nonce)
      ≠ issuedKey honestDeployment (Vector.replicate 16 0x5A) := by
    decide
  obtain ⟨receipt, hrequest, hpayer, -⟩ := honest_call_resolves
    (units "http://localhost:3000/") asksFor_sample configured_sample (fun _ => timely_sample)
    signable_sample 0 [(honestSurroundings, otherRequest)] [(honestSurroundings, otherRequest)]
    (by
      intro n
      simp only [List.singleton_append, List.forall_mem_cons]
      exact ⟨hother, hother, List.forall_mem_nil _⟩)
  refine ⟨receipt, ?_, hpayer⟩
  have hresult : received (honestDeployment.result honestSurroundings (bytes "long"))
      = units "short" := by
    decide
  rw [hrequest, hresult]

end Paygate
