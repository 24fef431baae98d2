import Paygate.Base.JsonCut
import Paygate.Gateway.Verify
import Paygate.Verifier.Http

/-!
# Requests and answers between the gateway and the verifier

The verifier reads from the bytes of a request of the gateway the text of its strings and
its numbers, unless the chain id is negative.  If the gateway reads anything from an answer
of the verifier, of which it may have got only the first bytes, it is what was written.
-/

namespace Paygate

open Text Json SerdeJson

/-! ### Requests -/

/-- The string Rust reads where Go wrote one. -/
def receivedText (s : List UInt8) : String :=
  String.ofList (GoJson.text s)

@[simp]
theorem receivedText_utf8 (x : List Char) : receivedText (utf8 x) = String.ofList x
  := by
  rw [receivedText, GoJson.text_utf8]

@[simp]
theorem receivedText_bytes (s : String) : receivedText (bytes s) = s
  := by
  rw [bytes, receivedText_utf8, String.ofList_toList]

/-- The payment context the verifier reads where the gateway wrote one. -/
def receivedContext (p : Gateway.PaymentContext) (chainId : UInt64) : Verifier.PaymentContext where
  recipient := receivedText p.recipient
  token := receivedText p.token
  amount := receivedText p.amount
  nonce := receivedText p.nonce
  chainId := chainId
  timestamp := some p.timestamp

/-- The request the verifier reads where the gateway wrote one. -/
def receivedRequest (r : Gateway.VerifyRequest) (chainId : UInt64) : Verifier.VerifyRequest where
  context := receivedContext r.context chainId
  signature := receivedText r.signature

theorem valid_verifyRequest_json (r : Gateway.VerifyRequest) : r.json.Valid
  := by
  have hchain := isNumber_decimalInt r.context.chainId
  have htimestamp := isNumber_decimal r.context.timestamp.toNat
  simp [Gateway.VerifyRequest.json, Gateway.PaymentContext.json, Valid, ValidMembers, hchain,
    htimestamp]

@[simp]
theorem readText_pieces (s : List UInt8) :
  Verifier.readText (.str (GoJson.pieces s)) = some (receivedText s)
  := by
  rw [Verifier.readText, readString, SerdeJson.unquote_pieces, Option.map_some, receivedText]

/-- An integer is read as a number of 64 bits exactly if it is one. -/
theorem readU64_decimalInt {i : Int} {n : UInt64} :
  readU64 (.num (decimalInt i)) = some n ↔ i = n.toNat
  := by
  constructor
  · intro h
    cases i with
    | ofNat m =>
        have hvalue : Nat.ofDigitChars 10 (decimal m) 0 = m := Nat.ofDigitChars_ten_toDigits
        simp only [readU64, decimalInt, hvalue] at h
        split at h
        · rename_i hlt
          rw [← Option.some.inj h, UInt64.toNat_ofNat', Nat.mod_eq_of_lt hlt.2]
          rfl
        · cases h
    | negSucc m =>
        have hsign : (decimalInt (.negSucc m)).all Char.isDigit = false := by
          simp [decimalInt]
        simp [readU64, hsign] at h
  · rintro rfl
    exact readU64_decimal n

theorem asObject_obj {ms : List (List UInt8 × Json (List UInt8))} :
  asObject ((Json.obj ms).map GoJson.pieces) = some (mapMembers GoJson.pieces ms)
  := by
  rw [Json.map, asObject, if_pos]
  induction ms with
  | nil => rfl
  | cons m ms ih =>
      obtain ⟨k, v⟩ := m
      rw [mapMembers, List.all_cons, ih, SerdeJson.unquote_pieces]
      rfl

/-- The verifier reads the payment context the gateway wrote. -/
theorem readPaymentContext_json (p : Gateway.PaymentContext) :
  Verifier.readPaymentContext (p.json.map GoJson.pieces)
    = (readU64 (.num (decimalInt p.chainId))).map (receivedContext p)
  := by
  rw [Gateway.PaymentContext.json, Verifier.readPaymentContext, asObject_obj]
  · simp only [mapMembers, Json.map, Option.bind_eq_bind, Option.bind_some, requiredField,
      optionalField, members_cons, members_nil, String.reduceEq, if_true, if_false, readText_pieces,
      readOption, readU64_decimal, Option.map_some]
    cases readU64 (.num (decimalInt p.chainId)) with
    | none => rfl
    | some n => rfl
  · intro _ _ _ _ _ _ h
    simp [Json.map] at h

/-- The verifier reads the request the gateway wrote, unless the chain id is negative. -/
theorem readVerifyRequest_body (r : Gateway.VerifyRequest) :
  (fromSlice r.body).bind Verifier.readVerifyRequest
    = (readU64 (.num (decimalInt r.context.chainId))).map (receivedRequest r)
  := by
  rw [Gateway.VerifyRequest.body, fromSlice_marshal (valid_verifyRequest_json r), Option.bind_some,
    Gateway.VerifyRequest.json, Verifier.readVerifyRequest, asObject_obj]
  · simp only [mapMembers, Json.map, Option.bind_eq_bind, Option.bind_some, requiredField,
      members_cons, members_nil, String.reduceEq, if_true, if_false, readText_pieces,
      readPaymentContext_json]
    cases readU64 (.num (decimalInt r.context.chainId)) with
    | none => rfl
    | some n => rfl
  · intro _ _ h
    simp [Json.map] at h

/-- A request of the gateway that the verifier reads is read with the text of its strings
and with its numbers. -/
theorem readBody_eq_ok {state : Verifier.AppState} {display : List UInt8 → String}
    {r : Gateway.VerifyRequest} {req : Verifier.VerifyRequest} :
  Verifier.readBody state display r.body = .ok req
    ↔ r.body.length ≤ state.maxBodySize
      ∧ ∃ chainId : UInt64, r.context.chainId = chainId.toNat ∧ req = receivedRequest r chainId
  := by
  rw [Verifier.readBody, readVerifyRequest_body]
  split
  · rename_i hsize
    simp only [reduceCtorEq, false_iff, not_and]
    intro hle
    omega
  · rename_i hsize
    cases h : readU64 (.num (decimalInt r.context.chainId)) with
    | none =>
        simp only [Option.map_none, reduceCtorEq, false_iff, not_and]
        rintro - ⟨chainId, hchain, -⟩
        rw [readU64_decimalInt.mpr hchain] at h
        cases h
    | some n =>
        have hn := readU64_decimalInt.mp h
        simp only [Option.map_some, Except.ok.injEq]
        constructor
        · rintro rfl
          exact ⟨by omega, n, hn, rfl⟩
        · rintro ⟨-, chainId, hchain, rfl⟩
          rw [readU64_decimalInt.mpr hchain] at h
          rw [Option.some.inj h]

/-! ### Answers -/

/-- A string Go reads where Rust wrote one or `null`. -/
def receivedOption (s : Option String) : List UInt8 :=
  (s.map bytes).getD []

/-- The answer the gateway reads where the verifier wrote one. -/
def receivedResponse (r : Verifier.VerifyResponse) : Gateway.VerifyResponse where
  isValid := r.isValid
  recoveredAddress := receivedOption r.recoveredAddress
  error := receivedOption r.error
  errorCode := receivedOption r.errorCode

theorem valid_verifyResponse_json (r : Verifier.VerifyResponse) : r.json.Valid
  := by
  have hoption : ∀ s, (Verifier.optionJson s).Valid := by
    intro s
    cases s with
    | none => trivial
    | some s => trivial
  cases hcode : r.errorCode with
  | none => simp [Verifier.VerifyResponse.json, Valid, ValidMembers, hoption, hcode]
  | some code => simp [Verifier.VerifyResponse.json, Valid, ValidMembers, hoption, hcode]

/-- Nothing is nested in the answer. -/
theorem depth_verifyResponse_json (r : Verifier.VerifyResponse) : r.json.depth = 1
  := by
  have hoption : ∀ s, (Verifier.optionJson s).depth = 0 := by
    intro s
    cases s with
    | none => rfl
    | some s => rfl
  cases hcode : r.errorCode with
  | none => simp [Verifier.VerifyResponse.json, depth, depthMembers, hoption, hcode]
  | some code => simp [Verifier.VerifyResponse.json, depth, depthMembers, hoption, hcode]

/-- A value Go reads where Rust wrote one. -/
def goValue (v : Json (List Char)) : Json (List UInt8) :=
  (v.map SerdeJson.pieces).map fun ps => utf8 (GoJson.unquote ps)

theorem goValue_str (s : String) : goValue (.str s.toList) = .str (bytes s)
  := by
  rw [goValue, Json.map, Json.map, unquote_pieces_go, bytes]

theorem setString_optionJson (s : Option String) :
  GoJson.setString (goValue (Verifier.optionJson s)) [] = some (receivedOption s)
  := by
  cases s with
  | none => rfl
  | some s =>
      rw [Verifier.optionJson, goValue_str]
      rfl

theorem goValue_json (r : Verifier.VerifyResponse) :
  goValue r.json = .obj ([
    (bytes "is_valid", .bool r.isValid),
    (bytes "recovered_address", goValue (Verifier.optionJson r.recoveredAddress)),
    (bytes "error", goValue (Verifier.optionJson r.error))]
    ++ (r.errorCode.map fun code => (bytes "error_code", .str (bytes code))).toList)
  := by
  rw [Verifier.VerifyResponse.json]
  cases r.errorCode with
  | none =>
      simp only [goValue, Json.map, mapMembers, unquote_pieces_go, Option.map_none,
        Option.toList_none, List.append_nil]
      rfl
  | some code =>
      simp only [goValue, Json.map, mapMembers, unquote_pieces_go, Option.map_some,
        Option.toList_some, List.cons_append, List.nil_append]
      rfl

/-- The gateway reads the answer of the verifier. -/
theorem readVerifyResponse_json (r : Verifier.VerifyResponse) :
  Gateway.readVerifyResponse (goValue r.json) = some (receivedResponse r)
  := by
  rw [goValue_json, Gateway.readVerifyResponse, GoJson.readStruct, List.cons_append, List.cons_append,
    List.cons_append, List.nil_append, GoJson.readMembers_cons (by decide)]
  rw [Gateway.VerifyResponse.set_isValid, GoJson.setBool, Option.map_some, Option.bind_some,
    GoJson.readMembers_cons (by decide), Gateway.VerifyResponse.set_recoveredAddress]
  dsimp only [Gateway.VerifyResponse.zero]
  rw [setString_optionJson, Option.map_some, Option.bind_some, GoJson.readMembers_cons (by decide),
    Gateway.VerifyResponse.set_error]
  dsimp only
  rw [setString_optionJson, Option.map_some, Option.bind_some]
  cases hcode : r.errorCode with
  | none => simp [GoJson.readMembers, receivedResponse, receivedOption, hcode]
  | some code =>
      rw [Option.map_some, Option.toList_some, GoJson.readMembers_cons (by decide)]
      simp [GoJson.readMembers, GoJson.setString, receivedResponse, receivedOption, hcode]

/-- What the gateway reads from the first bytes of an answer is the answer. -/
theorem readAnswer_take {r : Verifier.Reply} {n : Nat} {deadline : Bool}
    {resp : Gateway.VerifyResponse}
    (h : Gateway.readAnswer (.answered r.status ((toVec r.body.json).take n) deadline) = .ok resp) :
  resp = receivedResponse r.body
  := by
  have hdecode : ∀ m x, GoJson.decode ((toVec r.body.json).take m) = some x →
      Gateway.readVerifyResponse x = some resp → resp = receivedResponse r.body := by
    intro m x hx hread
    have heq := GoJson.decode_take SerdeJson.reads_quote (valid_verifyResponse_json r.body) hx (by
      rintro l rfl
      cases hread)
    rw [heq, ← goValue, readVerifyResponse_json] at hread
    exact (Option.some.inj hread).symm
  rw [Gateway.readAnswer] at h
  split at h
  · split at h
    · rename_i hsome
      obtain rfl := Except.ok.inj h
      obtain ⟨hsome, -⟩ := Option.filter_eq_some_iff.mp hsome
      obtain ⟨x, hx, hread⟩ := Option.bind_eq_some_iff.mp hsome
      rw [List.take_take] at hx
      exact hdecode _ x (GoJson.decode_of_unmarshal hx) hread
    · cases h
  · split at h
    · rename_i hsome
      obtain rfl := Except.ok.inj h
      obtain ⟨x, hx, hread⟩ := Option.bind_eq_some_iff.mp hsome
      exact hdecode n x hx hread
    · cases h

end Paygate
