import Paygate.Base.JsonWords
import Paygate.Protocol.Traffic
import Paygate.Web.Errors

/-!
# What a client is told of its payment

The verifier comes to a verdict on the payment of a request: whether it is made for the expected
chain, in time, by a signature, and with a nonce that is still free.  The gateway answers with a
status and a code, which the web client names to its user.  The verdict is stated here by what it
means for the settings, the clock and the nonces, and is shown to arrive at the user unchanged,
past the status codes, the JSON and the texts of three programs.
-/

namespace Paygate

open Text Json Program

/-! ### Verdicts -/

/-- What the verifier may find about a payment. -/
inductive Verdict where
  | granted (payer : Verifier.Address)
  | wrongChain
  | stale
  | forged
  | replayed
  | unreadable
  deriving DecidableEq, Repr

/-- The status and the code for a payment that is not granted. -/
def Verdict.answer : Verdict → Option (Nat × String)
  | .granted _ => none
  | .wrongChain => some (400, "chain_id_mismatch")
  | .stale => some (400, "invalid_timestamp")
  | .forged => some (403, "invalid_signature")
  | .replayed => some (409, "nonce_already_used")
  | .unreadable => some (502, "verification_unavailable")

/-- What the user is told about a payment that is not granted. -/
def Verdict.kind : Verdict → Option Web.ErrorKind
  | .granted _ => none
  | .wrongChain => some .wrongChain
  | .stale => some .expired
  | .forged => some .invalidSignature
  | .replayed => some .duplicateNonce
  | .unreadable => some .verifierUnavailable

namespace Deployment

variable (d : Deployment) (x : Surroundings)

/-- The verdict on a request that is made for the expected chain and in time: whether it is signed,
with a nonce that is not held. -/
def signedVerdict (store : Verifier.MemoryNonceStore) (payload : Verifier.VerifyRequest) : Verdict :=
  match d.eth.typedDataFromValue (Verifier.typedDataJson payload.context) with
  | .error _ => .unreadable
  | .ok td =>
      match (d.eth.signatureFromStr payload.signature).bind (d.eth.recoverTypedData · td) with
      | .error _ => .forged
      | .ok payer =>
          if (store.usedNonces.lookup (Verifier.nonceKey d.eth payload.context.nonce)).any
            (fun insertedAt => x.verifierClock - insertedAt ≤ Verifier.nonceRetentionTtl d.state)
          then .replayed else .granted payer

/-- The verdict on a request of the gateway, given the nonce store of the verifier. -/
def verdict (store : Verifier.MemoryNonceStore) (request : Gateway.VerifyRequest) : Verdict :=
  let now := (Verifier.unixSeconds x.verifierClock).toNat
  let stamp := request.context.timestamp.toNat
  if d.state.maxBodySize < request.body.length
      ∨ request.context.chainId < 0 ∨ 2 ^ 64 ≤ request.context.chainId then .unreadable
  else if request.context.chainId ≠ d.state.expectedChainId.toNat then .wrongChain
  else if now + d.state.clockSkewSeconds.toNat < stamp
      ∨ stamp + d.state.signatureExpirySeconds.toNat < now then .stale
  else d.signedVerdict x store (receivedRequest request d.state.expectedChainId)

end Deployment

/-! ### The verifier -/

/-- The codes by which the verifier names a verdict. -/
def Verdict.codes : Verdict → List String
  | .granted _ => []
  | .wrongChain => ["chain_id_mismatch"]
  | .stale => ["timestamp_expired", "timestamp_future", "timestamp_missing"]
  | .forged => ["invalid_signature"]
  | .replayed => ["nonce_already_used"]
  | .unreadable => []

/-- An answer of the verifier that names a verdict. -/
def Verdict.Replied (v : Verdict) (r : Verifier.Reply) : Prop :=
  match v with
  | .granted payer => ∃ cid, r = Verifier.afterClaim cid payer (.ok true)
  | .unreadable => r.status ≠ 200 ∧ r.body.errorCode = none
  | v => r.body.isValid = false ∧ (r.status ≠ 200 → (SerdeJson.toVec r.body.json).length ≤ 4096)
      ∧ ∃ code ∈ v.codes, r.body.errorCode = some code

/-- The errors about signatures that cannot be read are short. -/
def ShortErrors (eth : Verifier.Ethers) : Prop :=
  ∀ s e, eth.signatureFromStr s = .error e → (bytes e).length ≤ 500

/-- An answer with short texts is short. -/
theorem length_toVec_le (r : Verifier.VerifyResponse)
    (haddr : ∀ s ∈ r.recoveredAddress, (bytes s).length ≤ 50)
    (herror : ∀ s ∈ r.error, (bytes s).length ≤ 520)
    (hcode : ∀ s ∈ r.errorCode, (bytes s).length ≤ 50) :
  (SerdeJson.toVec r.json).length ≤ 4096
  := by
  have hoption : ∀ (o : Option String) (n : Nat), (∀ s ∈ o, (bytes s).length ≤ n) →
      (utf8 ((Verifier.optionJson o).print SerdeJson.quote)).length ≤ 6 * n + 4 := by
    intro o n h
    cases o with
    | none =>
        have : (utf8 (Json.print SerdeJson.quote (Verifier.optionJson none))).length = 4 := rfl
        omega
    | some s =>
        have hquote := length_utf8_quote s.toList
        have hs := h s rfl
        rw [bytes] at hs
        rw [Verifier.optionJson, Json.print]
        omega
  have hbool : (utf8 ((Json.bool r.isValid).print SerdeJson.quote)).length ≤ 5 := by
    cases r.isValid with
    | true => decide
    | false => decide
  have haddr' := hoption _ _ haddr
  have herror' := hoption _ _ herror
  have hvalid := length_utf8_printMembers SerdeJson.quote "is_valid".toList (.bool r.isValid)
  have hrecovered := length_utf8_printMembers SerdeJson.quote "recovered_address".toList
    (Verifier.optionJson r.recoveredAddress)
  have hmessage := length_utf8_printMembers SerdeJson.quote "error".toList
    (Verifier.optionJson r.error)
  have hkey : ∀ key ∈ ["is_valid", "recovered_address", "error", "error_code"],
      (utf8 (SerdeJson.quote key.toList)).length ≤ 19 := by decide
  simp only [List.forall_mem_cons, List.not_mem_nil, false_implies, implies_true, and_true] at hkey
  obtain ⟨hkey₁, hkey₂, hkey₃, hkey₄⟩ := hkey
  have hopen : ∀ ms, (utf8 ((Json.obj ms).print SerdeJson.quote)).length
      = 1 + (utf8 (Json.printMembers SerdeJson.quote ms)).length := by
    intro ms
    rw [Json.print, utf8_cons, List.length_append]
    rfl
  have hclose : (utf8 (Json.printMembers SerdeJson.quote [])).length = 1 := rfl
  rw [SerdeJson.toVec, Verifier.VerifyResponse.json, hopen]
  cases hc : r.errorCode with
  | none =>
      have h₁ := hvalid [("recovered_address".toList, Verifier.optionJson r.recoveredAddress),
        ("error".toList, Verifier.optionJson r.error)]
      have h₂ := hrecovered [("error".toList, Verifier.optionJson r.error)]
      have h₃ := hmessage []
      simp only [Option.map_none, Option.toList_none, List.append_nil]
      omega
  | some code =>
      have h₁ := hvalid [("recovered_address".toList, Verifier.optionJson r.recoveredAddress),
        ("error".toList, Verifier.optionJson r.error), ("error_code".toList, .str code.toList)]
      have h₂ := hrecovered [("error".toList, Verifier.optionJson r.error),
        ("error_code".toList, .str code.toList)]
      have h₃ := hmessage [("error_code".toList, .str code.toList)]
      have h₄ := length_utf8_printMembers SerdeJson.quote "error_code".toList (.str code.toList) []
      have hcode' := hoption (some code) 50 fun s hs => hcode s (hc ▸ hs)
      rw [Verifier.optionJson] at hcode'
      simp only [Option.map_some, Option.toList_some, List.cons_append, List.nil_append]
      omega

/-- A refusal with a code is an answer that names a verdict. -/
theorem replied_refuse {v : Verdict} {code : String} (hcode : code ∈ v.codes) (cid : String)
    (status : Nat) {error : String} (hshort : status ≠ 200 → (bytes error).length ≤ 520) :
  v.Replied (Verifier.refuse cid status error (some code))
  := by
  have hreplied : (Verifier.refuse cid status error (some code)).body.isValid = false
      ∧ (status ≠ 200 →
        (SerdeJson.toVec (Verifier.refuse cid status error (some code)).body.json).length ≤ 4096)
      ∧ ∃ code' ∈ v.codes, some code = some code' := by
    refine ⟨rfl, ?_, code, hcode, rfl⟩
    intro hstatus
    apply length_toVec_le
    · exact fun s hs => nomatch hs
    · rintro s ⟨⟩
      exact hshort hstatus
    · rintro s ⟨⟩
      revert hcode
      cases v with
      | granted payer => exact nofun
      | unreadable => exact nofun
      | _ =>
          revert code
          decide
  cases v with
  | granted payer => cases hcode
  | unreadable => cases hcode
  | _ => exact hreplied

/-- An address as it is printed has forty-two characters. -/
theorem length_debugAddress (addr : Verifier.Address) :
  (bytes (Verifier.debugAddress addr)).length = 42
  := by
  have hascii : ∀ c ∈ '0' :: 'x' :: hexEncode addr.toList, c.toNat < 128 :=
    List.forall_mem_cons.mpr ⟨by decide, List.forall_mem_cons.mpr ⟨by decide, hexEncode_ascii _⟩⟩
  rw [Verifier.debugAddress, bytes, String.toList_ofList, length_utf8_of_ascii hascii,
    List.length_cons, List.length_cons, hexEncode_length, Vector.length_toList]

section Verifier

variable {d : Deployment} (x : Surroundings) (store : Verifier.MemoryNonceStore)

/-- A nonce that is not held is claimed. -/
theorem claimMemoryNonce_eq (key : Verifier.Digest) (now ttl : Nat) :
  (Verifier.claimMemoryNonce store key now ttl).1
    = !(store.usedNonces.lookup key).any fun insertedAt => now - insertedAt ≤ ttl
  := by
  rw [Bool.eq_iff_iff, Verifier.claimMemoryNonce_iff, Verifier.Held, Bool.not_eq_true',
    Bool.eq_false_iff, ne_eq, Option.any_eq_true]
  simp only [decide_eq_true_eq]

/-- The answer to a request that is made for the expected chain and in time. -/
theorem Deployment.replied_signed (hshort : ShortErrors d.eth) (cid : String)
    (payload : Verifier.VerifyRequest) :
  (d.signedVerdict x store payload).Replied
    (match Verifier.recoverSigner d.eth cid payload with
      | .error r => r
      | .ok addr => Verifier.afterClaim cid addr (.ok (Verifier.claimMemoryNonce store
          (Verifier.nonceKey d.eth payload.context.nonce) x.verifierClock
          (Verifier.nonceRetentionTtl d.state)).1))
  := by
  rw [signedVerdict, Verifier.recoverSigner]
  cases d.eth.typedDataFromValue (Verifier.typedDataJson payload.context) with
  | error e => exact ⟨(by decide : (400 : Nat) ≠ 200), rfl⟩
  | ok td =>
      cases hsig : d.eth.signatureFromStr payload.signature with
      | error e =>
          apply replied_refuse (List.mem_singleton_self _)
          intro _
          have hlength := hshort _ _ hsig
          have hhead : (bytes "bad signature: ").length = 15 := by decide
          rw [bytes, String.toList_append, utf8_append, List.length_append, ← bytes, ← bytes]
          omega
      | ok sig =>
          simp only [Except.bind]
          cases d.eth.recoverTypedData sig td with
          | error e => exact replied_refuse (List.mem_singleton_self _) cid 200 (absurd rfl ·)
          | ok addr =>
              simp only [claimMemoryNonce_eq]
              cases (store.usedNonces.lookup (Verifier.nonceKey d.eth payload.context.nonce)).any
                  fun insertedAt => x.verifierClock - insertedAt ≤ Verifier.nonceRetentionTtl d.state with
              | false => exact ⟨cid, rfl⟩
              | true =>
                  refine ⟨rfl, ?_, "nonce_already_used", List.mem_singleton_self _, rfl⟩
                  intro _
                  apply length_toVec_le
                  · rintro s ⟨⟩
                    rw [length_debugAddress]
                    decide
                  · rintro s ⟨⟩
                    decide
                  · rintro s ⟨⟩
                    decide

/-- The answer to a request that was read. -/
theorem Deployment.replied_read (hshort : ShortErrors d.eth) (cid : String)
    {request : Gateway.VerifyRequest} {chainId : UInt64}
    (hchainId : request.context.chainId = chainId.toNat)
    (hsize : request.body.length ≤ d.state.maxBodySize) :
  (d.verdict x store request).Replied
    (match Verifier.beforeClaim d.eth d.state (Verifier.unixSeconds x.verifierClock) cid
        (.ok (receivedRequest request chainId)) with
      | .error r => r
      | .ok (req, addr) => Verifier.afterClaim cid addr (.ok (Verifier.claimMemoryNonce store
          (Verifier.nonceKey d.eth req.context.nonce) x.verifierClock
          (Verifier.nonceRetentionTtl d.state)).1))
  := by
  have hstamp := request.context.timestamp.toNat_lt
  have hlt := chainId.toNat_lt
  have hread : ¬ (d.state.maxBodySize < request.body.length
      ∨ request.context.chainId < 0 ∨ 2 ^ 64 ≤ request.context.chainId) := by omega
  rw [verdict, if_neg hread]
  by_cases hchain : chainId = d.state.expectedChainId
  · subst hchain
    have hsame : ¬ (receivedRequest request d.state.expectedChainId).context.chainId
        ≠ d.state.expectedChainId := fun hne => hne rfl
    have hgiven : (receivedRequest request d.state.expectedChainId).context.timestamp
        = some request.context.timestamp := rfl
    rw [if_neg fun hne => hne hchainId]
    simp only [Verifier.beforeClaim, if_neg hsame, hgiven]
    cases hv : Verifier.validateTimestampInternal (some request.context.timestamp)
        d.state.signatureExpirySeconds d.state.clockSkewSeconds
        (Verifier.unixSeconds x.verifierClock) with
    | error e =>
        have hstale : (Verifier.unixSeconds x.verifierClock).toNat + d.state.clockSkewSeconds.toNat
              < request.context.timestamp.toNat
            ∨ request.context.timestamp.toNat + d.state.signatureExpirySeconds.toNat
              < (Verifier.unixSeconds x.verifierClock).toNat := by
          by_contra hfresh
          have hok : Verifier.validateTimestampInternal (some request.context.timestamp)
              d.state.signatureExpirySeconds d.state.clockSkewSeconds
              (Verifier.unixSeconds x.verifierClock) = .ok () :=
            Verifier.validateTimestampInternal_ok_iff.mpr ⟨_, rfl, by omega, by omega⟩
          cases hv.symm.trans hok
        rw [if_pos hstale]
        apply replied_refuse _ cid 200 (absurd rfl ·)
        cases e with
        | signatureExpired age max => exact List.mem_cons_self
        | futureTimestamp ts now => exact List.mem_cons_of_mem _ List.mem_cons_self
        | missingTimestamp =>
            exact List.mem_cons_of_mem _ (List.mem_cons_of_mem _ List.mem_cons_self)
    | ok u =>
        obtain ⟨ts, hts, hahead, hage⟩ := Verifier.validateTimestampInternal_ok_iff.mp hv
        obtain rfl := Option.some.inj hts
        rw [if_neg (by omega)]
        have hsigned := replied_signed x store hshort cid
          (receivedRequest request d.state.expectedChainId)
        cases hrecover : Verifier.recoverSigner d.eth cid
            (receivedRequest request d.state.expectedChainId) with
        | error r =>
            rw [hrecover] at hsigned
            exact hsigned
        | ok addr =>
            rw [hrecover] at hsigned
            exact hsigned
  · have hne : request.context.chainId ≠ d.state.expectedChainId.toNat := by
      intro heq
      apply hchain
      apply UInt64.toNat_inj.mp
      omega
    have hbefore : Verifier.beforeClaim d.eth d.state (Verifier.unixSeconds x.verifierClock) cid
        (.ok (receivedRequest request chainId))
          = .error (Verifier.refuse cid 400 "chain ID mismatch" (some "chain_id_mismatch")) :=
      if_pos hchain
    rw [if_pos hne, hbefore]
    exact replied_refuse (List.mem_singleton_self _) cid 400 fun _ => by decide

/-- The verifier answers with the verdict. -/
theorem Deployment.replied (hshort : ShortErrors d.eth) (correlationID : Option (List UInt8))
    (request : Gateway.VerifyRequest) :
  (d.verdict x store request).Replied
    (Verifier.verifySignature d.eth d.state store (d.arrival x correlationID request.body)).1
  := by
  cases hbody : Verifier.readBody d.state d.display request.body with
  | error e =>
      have hunread : d.state.maxBodySize < request.body.length
          ∨ request.context.chainId < 0 ∨ 2 ^ 64 ≤ request.context.chainId := by
        by_contra hread
        push Not at hread
        have hok : Verifier.readBody d.state d.display request.body
            = .ok (receivedRequest request (.ofNat request.context.chainId.toNat)) :=
          readBody_eq_ok.mpr ⟨hread.1, _, by rw [UInt64.toNat_ofNat']; omega, rfl⟩
        cases hbody.symm.trans hok
      rw [verdict, if_pos hunread, Verifier.verifySignature, arrival, hbody]
      cases e with
      | bytesRejection => exact ⟨(by decide : (413 : Nat) ≠ 200), rfl⟩
      | other display => exact ⟨(by decide : (400 : Nat) ≠ 200), rfl⟩
  | ok req =>
      obtain ⟨hsize, chainId, hchainId, rfl⟩ := readBody_eq_ok.mp hbody
      have hreplied := replied_read x store hshort
        (Verifier.correlationId correlationID) hchainId hsize
      rw [Verifier.verifySignature, arrival, hbody]
      revert hreplied
      cases Verifier.beforeClaim d.eth d.state (Verifier.unixSeconds x.verifierClock)
          (Verifier.correlationId correlationID) (.ok (receivedRequest request chainId)) with
      | error r => exact id
      | ok p => exact id

end Verifier

/-! ### The gateway -/

namespace Deployment

open Gateway

/-- An answer that the gateway takes whole is read. -/
theorem readAnswer_whole {r : Verifier.VerifyResponse} {status : Nat} {deadline : Bool}
    (h : status ≠ 200 → (SerdeJson.toVec r.json).length ≤ 4096
      ∧ isVerifierBusinessRejection (receivedResponse r) = true) :
  readAnswer (.answered status (SerdeJson.toVec r.json) deadline) = .ok (receivedResponse r)
  := by
  by_cases hstatus : status = 200
  · rw [hstatus, readAnswer_toVec]
  · obtain ⟨hlength, hbusiness⟩ := h hstatus
    rw [readAnswer, if_pos hstatus, List.take_of_length_le hlength, unmarshal_toVec,
      Option.bind_some, readVerifyResponse_json, Option.filter_some, if_pos hbusiness]

/-- The gateway knows the codes of the verifier. -/
theorem answer_of_code {v : Verdict} {code : String} (hcode : code ∈ v.codes) {r : VerifyResponse}
    (h : r.errorCode = bytes code) :
  isVerifierBusinessRejection r = true ∧ v.answer = some (verifierFailureResponse r)
  := by
  rw [isVerifierBusinessRejection, verifierFailureResponse, h]
  cases v with
  | granted payer | unreadable => cases hcode
  | wrongChain | forged | replayed =>
      obtain rfl := List.mem_singleton.mp hcode
      exact ⟨by decide, rfl⟩
  | stale =>
      simp only [Verdict.codes, List.mem_cons, List.not_mem_nil, or_false] at hcode
      obtain rfl | rfl | rfl := hcode
      · exact ⟨by decide, rfl⟩
      · exact ⟨by decide, rfl⟩
      · exact ⟨by decide, rfl⟩

/-- What the gateway makes of an answer that names a verdict. -/
def Heard (v : Verdict) : Except VerifyFailure VerifyResponse → Prop
  | .error e => v = .unreadable ∧ e.deadlineExceeded = false
  | .ok r =>
      if r.isValid then ∃ payer, v = .granted payer
      else v.answer = some (verifierFailureResponse r)

/-- The gateway hears the verdict. -/
theorem heard_of_replied {v : Verdict} {r : Verifier.Reply} (h : v.Replied r) :
  Heard v (readAnswer (.answered r.status (SerdeJson.toVec r.body.json) false))
  := by
  cases v with
  | granted payer =>
      obtain ⟨cid, rfl⟩ := h
      have hread : readAnswer (.answered (Verifier.afterClaim cid payer (.ok true)).status
          (SerdeJson.toVec (Verifier.afterClaim cid payer (.ok true)).body.json) false)
            = .ok (receivedResponse (Verifier.afterClaim cid payer (.ok true)).body) :=
        readAnswer_toVec _ _
      rw [hread]
      exact ⟨payer, rfl⟩
  | unreadable =>
      obtain ⟨hstatus, hcode⟩ := h
      rw [readAnswer, if_pos hstatus]
      cases hread : ((GoJson.unmarshal ((SerdeJson.toVec r.body.json).take 4096)).bind
          readVerifyResponse).filter isVerifierBusinessRejection with
      | none => exact ⟨rfl, rfl⟩
      | some response =>
          -- A code would have to be read where none was written.
          have hanswer : readAnswer (.answered r.status ((SerdeJson.toVec r.body.json).take 4096) false)
              = .ok response := by
            rw [readAnswer, if_pos hstatus, List.take_take, min_self, hread]
          obtain rfl := readAnswer_take hanswer
          have hbusiness := (Option.filter_eq_some_iff.mp hread).2
          rw [isVerifierBusinessRejection, receivedResponse, hcode] at hbusiness
          cases hbusiness
  | _ =>
      obtain ⟨hvalid, hshort, code, hcode, herror⟩ := h
      have hreceived : (receivedResponse r.body).errorCode = bytes code := by
        rw [receivedResponse, herror]
        rfl
      obtain ⟨hbusiness, hanswer⟩ := answer_of_code hcode hreceived
      rw [readAnswer_whole fun hstatus => ⟨hshort hstatus, hbusiness⟩, Heard, if_neg]
      · exact hanswer
      · rw [receivedResponse, hvalid]
        exact Bool.false_ne_true

section Refused

variable {d : Deployment} {x : Surroundings} {r : HttpRequest} {timestamp : UInt64}
  {text : List UInt8} {store : Verifier.MemoryNonceStore}

/-- Asking the verifier, the gateway hears the verdict. -/
theorem runIn_verifyPayment_heard (hshort : ShortErrors d.eth) (c : Context) (t : Served)
    (signature nonce : List UInt8) (timestamp : UInt64) :
  ∃ a store, (verifyPayment d.settings c signature nonce timestamp).runIn (d.answer x) t
      = (a.map fun r => (r, paymentContext d.settings.env nonce timestamp), { t with store := store })
    ∧ Heard (d.verdict x t.store (verifyRequest d.settings.env signature nonce timestamp)) a
  := by
  have hreplied := replied x t.store hshort c.correlationID
    (verifyRequest d.settings.env signature nonce timestamp)
  exact ⟨_, _, rfl, heard_of_replied hreplied⟩

/-- The body of an error. -/
def errorBody (id : List UInt8) (code : String) : List UInt8 :=
  GoJson.marshal (textObject [("correlation_id", id), ("error", bytes code)])

/-- A request at work is answered with an error under its correlation id. -/
theorem AtWork.runIn_respondError {c : Context} {t : Served} (h : AtWork store r c t)
    {t' : Served} (ht : t'.response = none) (status : Nat) (code : String) :
  ∃ id, IsIdFor r.correlationID id
    ∧ ((respondError c status code).runIn (d.answer x) t').2.response
      = some (status, errorBody id code)
  := by
  obtain ⟨id, hid, hfor⟩ := h.correlation
  obtain ⟨id', n, hrun, hfor'⟩ := runIn_safeCorrelationID (d := d) (x := x) id t'
  refine ⟨id', hfor.trans hfor', ?_⟩
  have hcorrelation : responseCorrelationID c = safeCorrelationID id := by
    rw [responseCorrelationID, hid, Option.filter_some, if_pos (by simpa using hfor.1)]
  rw [respondError, hcorrelation, runIn_bind, hrun]
  exact congrArg (Option.or · (some (status, errorBody id' code))) ht

/-- If the verifier could not read the request, the gateway says that it is not available. -/
theorem respondVerifierError_heard {v : Verdict} {e : VerifyFailure} (h : Heard v (.error e))
    {status : Nat} {code : String} (hv : v.answer = some (status, code)) (c : Context) :
  respondVerifierError c e = respondError c status code
  := by
  obtain ⟨rfl, hdeadline⟩ := h
  obtain ⟨rfl, rfl⟩ := Prod.mk.inj (Option.some.inj hv)
  rw [respondVerifierError, if_neg (by rw [hdeadline]; exact Bool.false_ne_true)]

/-- A verdict that is no grant is a rejection, which the gateway passes on. -/
theorem respondVerificationFailure_heard {v : Verdict} {r : VerifyResponse} (h : Heard v (.ok r))
    {status : Nat} {code : String} (hv : v.answer = some (status, code)) (c : Context) :
  r.isValid = false ∧ respondVerificationFailure c r = respondError c status code
  := by
  rw [Heard] at h
  split at h
  · obtain ⟨payer, rfl⟩ := h
    cases hv
  · rename_i hinvalid
    have hanswer := Option.some.inj (h.symm.trans hv)
    rw [respondVerificationFailure, hanswer]
    exact ⟨Bool.eq_false_iff.mpr hinvalid, rfl⟩

/-- A verdict that is no grant is answered with its status and its code. -/
theorem Asking.refused (h : Asking r timestamp text) (hshort : ShortErrors d.eth) {status : Nat}
    {code : String} (hv : (d.verdict x store (verifyRequest d.settings.env r.signature r.nonce
      timestamp)).answer = some (status, code)) :
  ∃ id, IsIdFor r.correlationID id ∧ (d.handle x store r).response = some (status, errorBody id code)
  := by
  apply h.handle (P := fun t => ∃ id, IsIdFor r.correlationID id
    ∧ t.response = some (status, errorBody id code))
  · intro c t cached hwork _
    obtain ⟨a, store', hrun, ha⟩ := runIn_verifyPayment_heard (x := x) hshort c t c.request.signature
      c.request.nonce timestamp
    rw [hwork.store, hwork.request] at ha
    rw [hwork.request] at hrun
    simp only [serveCached, hwork.request, if_false, readTimestamp_ne_nil h.stamped, h.stamped,
      runIn_bind, hrun]
    cases a with
    | error e =>
        simp only [Except.map, respondVerifierError_heard ha hv]
        apply hwork.runIn_respondError
        exact hwork.response
    | ok response =>
        obtain ⟨hinvalid, hrespond⟩ := respondVerificationFailure_heard ha hv c
        simp only [Except.map, hinvalid, if_true, hrespond]
        apply hwork.runIn_respondError
        exact hwork.response
  · intro c t hwork _ hbody
    obtain ⟨a, store', hrun, ha⟩ := runIn_verifyPayment_heard (x := x) hshort c t c.request.signature
      c.request.nonce timestamp
    rw [hwork.store, hwork.request] at ha
    rw [hwork.request] at hrun
    simp only [handleSummarize, hwork.request, h.signed, h.numbered, or_self, if_false,
      readTimestamp_ne_nil h.stamped, h.stamped, hbody, runIn_bind, hrun]
    cases a with
    | error e =>
        simp only [Except.map, respondVerifierError_heard ha hv]
        apply hwork.runIn_respondError
        exact hwork.response
    | ok response =>
        obtain ⟨hinvalid, hrespond⟩ := respondVerificationFailure_heard ha hv c
        simp only [Except.map, hinvalid, if_true, hrespond]
        apply hwork.runIn_respondError
        exact hwork.response

end Refused

/-- A grant is an accepted payment. -/
theorem accepts_of_granted {d : Deployment} {x : Surroundings} (hshort : ShortErrors d.eth)
    {store : Verifier.MemoryNonceStore} {request : Gateway.VerifyRequest} {payer : Verifier.Address}
    (h : d.verdict x store request = .granted payer) :
  d.Accepts x store request payer
  := by
  intro correlationID
  have hreplied := replied x store hshort correlationID request
  rw [h] at hreplied
  exact hreplied

end Deployment

/-! ### The web client -/

/-- The text of an error of the gateway. -/
theorem textDecode_errorBody (id : List UInt8) (code : String) :
  textDecode (Deployment.errorBody id code)
    = '\x7b' :: (GoJson.quote (bytes "correlation_id") ++ ':' :: (GoJson.quote id ++ ','
      :: (GoJson.quote (bytes "error") ++ ':' :: (GoJson.quote (bytes code) ++ ['\x7d']))))
  := by
  have hprint : (Gateway.textObject [("correlation_id", id), ("error", bytes code)]).print GoJson.quote
      = '\x7b' :: (GoJson.quote (bytes "correlation_id") ++ ':' :: (GoJson.quote id ++ ','
        :: (GoJson.quote (bytes "error") ++ ':' :: (GoJson.quote (bytes code) ++ ['\x7d'])))) := rfl
  rw [Deployment.errorBody, GoJson.marshal, hprint]
  apply textDecode_utf8
  rw [utf8_cons]
  exact (by decide : (some 0x7B : Option UInt8) ≠ some 0xEF)

/-- A word with an underscore is found in an error under an id without one if it is part of the
code. -/
theorem includes_errorBody {id : List UInt8} (hid : some '_' ∉ runes id) (word code : String)
    (hmark : 0x22 ∉ units word) (hline : 0x5F ∈ units word)
    (hkey : ¬ units word <:+: units "correlation_id")
    (hcode : (runes (bytes code)).flatMap GoJson.escapeRune = code.toList) :
  Web.includes (utf16 (textDecode (Deployment.errorBody id code))) word
    = Web.includes (units code) word
  := by
  have hnone : ∀ s : List Char, '_' ∉ s → ¬ units word <:+: utf16 s := by
    intro s hs h
    exact hs (mem_of_mem_utf16 (by decide) (h.subset hline))
  have hescaped : '_' ∉ (runes id).flatMap GoJson.escapeRune := by
    intro hmem
    obtain ⟨c, hc, hchar⟩ := List.mem_flatMap.mp hmem
    obtain rfl | hletter := mem_escapeRune hchar
    · exact hid hc
    · revert hletter
      decide
  have hid' := infix_quote_iff hmark [':'] id (',' :: (GoJson.quote (bytes "error") ++ ':'
    :: (GoJson.quote (bytes code) ++ ['\x7d'])))
  have herror := infix_quote_iff hmark [','] (bytes "error") (':' :: (GoJson.quote (bytes code)
    ++ ['\x7d']))
  have hcode' := infix_quote_iff hmark [':'] (bytes code) ['\x7d']
  have hstart := infix_quote_iff hmark ['\x7b'] (bytes "correlation_id") (':' :: (GoJson.quote id
    ++ ',' :: (GoJson.quote (bytes "error") ++ ':' :: (GoJson.quote (bytes code) ++ ['\x7d']))))
  simp only [List.singleton_append] at hid' herror hcode' hstart
  have hkey₁ : (runes (bytes "correlation_id")).flatMap GoJson.escapeRune
      = "correlation_id".toList := by decide
  have hkey₂ : (runes (bytes "error")).flatMap GoJson.escapeRune = "error".toList := by decide
  rw [Web.includes, Web.includes, textDecode_errorBody, decide_eq_decide, hstart, hid', herror, hcode',
    hkey₁, hkey₂, hcode]
  have h₁ := hnone ['\x7b'] (by decide)
  have h₂ := hnone [':'] (by decide)
  have h₃ := hnone [','] (by decide)
  have h₄ := hnone ['\x7d'] (by decide)
  have h₅ := hnone "error".toList (by decide)
  have h₆ := hnone _ hescaped
  have h₇ : ¬ units word <:+: utf16 "correlation_id".toList := hkey
  simp only [h₁, h₂, h₃, h₄, h₅, h₆, h₇, false_or, or_false]
  rfl

/-- The web client tells the kind of a verdict by its status and its code. -/
theorem statusToKind_answer {v : Verdict} {status : Nat} {code : String}
    (hv : v.answer = some (status, code)) {id : List UInt8} (hid : some '_' ∉ runes id) :
  some (Web.statusToKind status (utf16 (textDecode (Deployment.errorBody id code)))) = v.kind
  := by
  have hown : ∀ code ∈ ["chain_id_mismatch", "invalid_timestamp", "nonce_already_used",
      "verification_unavailable"],
      Web.includes (utf16 (textDecode (Deployment.errorBody id code))) code = true := by
    intro code hcode
    rw [includes_errorBody hid]
    all_goals
      revert code
      decide
  cases v with
  | granted payer => cases hv
  | forged =>
      obtain ⟨rfl, rfl⟩ := Prod.mk.inj (Option.some.inj hv)
      rfl
  | stale =>
      obtain ⟨rfl, rfl⟩ := Prod.mk.inj (Option.some.inj hv)
      have hother : Web.includes (utf16 (textDecode (Deployment.errorBody id "invalid_timestamp")))
          "chain_id_mismatch" = false := by
        rw [includes_errorBody hid _ _ (by decide) (by decide) (by decide) (by decide)]
        decide
      have htime := hown "invalid_timestamp" (by decide)
      simp [Web.statusToKind, hother, htime, Verdict.kind]
  | wrongChain =>
      obtain ⟨rfl, rfl⟩ := Prod.mk.inj (Option.some.inj hv)
      have hchain := hown "chain_id_mismatch" (by decide)
      simp [Web.statusToKind, hchain, Verdict.kind]
  | replayed =>
      obtain ⟨rfl, rfl⟩ := Prod.mk.inj (Option.some.inj hv)
      have hnonce := hown "nonce_already_used" (by decide)
      simp [Web.statusToKind, hnonce, Verdict.kind]
  | unreadable =>
      obtain ⟨rfl, rfl⟩ := Prod.mk.inj (Option.some.inj hv)
      have hverifier := hown "verification_unavailable" (by decide)
      simp [Web.statusToKind, hverifier, Verdict.kind]

/-- No underscore is in an id that takes the place of one without. -/
theorem not_underscore_of_isIdFor {given id : List UInt8} (h : Deployment.IsIdFor given id)
    (hgiven : some '_' ∉ runes given) :
  some '_' ∉ runes id
  := by
  obtain ⟨-, rfl | ⟨random, rfl⟩⟩ := h
  · exact hgiven
  · have hchars := forall_mem_uuidString (q := fun c => c ≠ '_')
      (fun bs => forall_mem_hexEncode (by decide) bs) (by decide) random
    rw [runes_utf8]
    intro hmem
    obtain ⟨c, hc, hchar⟩ := List.mem_map.mp hmem
    exact hchars c hc (Option.some.inj hchar)

/-- The strings of a payment are not empty. -/
theorem givenStrings_ne_nil (d : Deployment) {r : Gateway.HttpRequest} (hnonce : r.nonce ≠ [])
    (hpath : r.path ≠ []) (timestamp : UInt64) (payer : Verifier.Address) :
  ∀ t ∈ givenStrings (d.paid r timestamp) (bytes (Verifier.debugAddress payer)) r.path, t ≠ []
  := by
  have hpayer : bytes (Verifier.debugAddress payer) ≠ [] := by
    intro hnil
    have hlength := length_debugAddress payer
    rw [hnil] at hlength
    cases hlength
  have hrecipient : Gateway.getRecipientAddress d.settings.env ≠ [] := by
    rw [Gateway.getRecipientAddress]
    split
    · decide
    · assumption
  have hamount : Gateway.getPaymentAmount d.settings.env ≠ [] := by
    rw [Gateway.getPaymentAmount]
    split
    · decide
    · assumption
  have htoken : bytes "USDC" ≠ [] := by decide
  simp only [givenStrings, List.forall_mem_cons]
  exact ⟨hpayer, hrecipient, hamount, htoken, hnonce, hpath, List.forall_mem_nil _⟩

/-- The verdict of the verifier is what the client comes to know: a payment that is granted brings
the result and a receipt that names the payer, and any other verdict is told by its name. -/
theorem verdict_shown {d : Deployment} {x : Surroundings} {store : Verifier.MemoryNonceStore}
    {r : Gateway.HttpRequest} {timestamp : UInt64} {text : List UInt8}
    (h : Deployment.Asking r timestamp text) (hshort : ShortErrors d.eth)
    (hid : some '_' ∉ runes r.correlationID) :
  (∀ (key : d.settings.crypto.PrivateKey) payer, Issues d.settings key → x.Timely → r.path ≠ [] →
      d.verdict x store (Gateway.verifyRequest d.settings.env r.signature r.nonce timestamp)
        = .granted payer →
      d.Delivered (d.paid r timestamp) (bytes (Verifier.debugAddress payer)) r.path r.body.received
        (d.result x text) (d.handle x store r))
    ∧ ∀ kind,
      (d.verdict x store (Gateway.verifyRequest d.settings.env r.signature r.nonce timestamp)).kind
        = some kind →
      ∃ status body, (d.handle x store r).response = some (status, body) ∧ status ≠ 200
        ∧ ∀ err, ∃ shown,
          Web.classifyError err (some ⟨some status, some (utf16 (textDecode body))⟩) = some shown
            ∧ shown.kind = kind
  := by
  generalize hrequest : Gateway.verifyRequest d.settings.env r.signature r.nonce timestamp = request
  constructor
  · intro key payer hkey hx hpath hgranted
    have hdue : Deployment.Due d x store r timestamp text payer := {
      toAsking := h
      accepted := hrequest ▸ Deployment.accepts_of_granted hshort hgranted }
    exact hdue.handle hkey hx (givenStrings_ne_nil d h.numbered hpath timestamp payer)
  · intro kind hkind
    have hanswer : ∃ status code, (d.verdict x store request).answer = some (status, code)
        ∧ status ≠ 0 ∧ status ≠ 200 := by
      revert hkind
      cases d.verdict x store request with
      | granted payer => exact nofun
      | _ => exact fun _ => ⟨_, _, rfl, by decide, by decide⟩
    obtain ⟨status, code, hanswer, hzero, hstatus⟩ := hanswer
    obtain ⟨id, hfor, hresponse⟩ := h.refused hshort (hrequest ▸ hanswer)
    refine ⟨status, _, hresponse, hstatus, ?_⟩
    intro err
    refine ⟨_, Web.classifyError_response hzero err _, ?_⟩
    have htold := statusToKind_answer hanswer (not_underscore_of_isIdFor hfor hid)
    rw [hkind] at htold
    exact Option.some.inj htold

/-- The nonce store of the sample after the request of someone else. -/
def replayedStore : Verifier.MemoryNonceStore :=
  honestDeployment.after (Verifier.memoryNonceStore 0) [(honestSurroundings, otherRequest)]

/-- The user who sends the same nonce again is told that the signature was used before. -/
theorem verdict_shown_sample :
  ∃ status body,
    (honestDeployment.handle honestSurroundings replayedStore otherRequest).response
        = some (status, body)
      ∧ status ≠ 200
      ∧ ∀ err, ∃ shown,
        Web.classifyError err (some ⟨some status, some (utf16 (textDecode body))⟩) = some shown
          ∧ shown.kind = .duplicateNonce
  := by
  have hasking : Deployment.Asking otherRequest 1700000000 (bytes "long") := {
    signed := by decide
    numbered := by decide
    stamped := by decide
    fits := by decide
    declared := by decide
    arrives := rfl
    reads := by decide +kernel
    asks := by decide }
  have hverdict : (honestDeployment.verdict honestSurroundings replayedStore
      (Gateway.verifyRequest honestDeployment.settings.env otherRequest.signature
        otherRequest.nonce 1700000000)).kind = some .duplicateNonce := by
    decide +kernel
  have hshort : ShortErrors honestDeployment.eth := by
    intro s e h
    cases h
  exact (verdict_shown hasking hshort (by decide)).2 .duplicateNonce hverdict

end Paygate
