import Paygate.Gateway.Integrity
import Paygate.Protocol.ReceiptCodec

/-!
# The receipt header

The receipts the gateway sends have passed the check of the receipt store.  If their
strings are texts, the SDK decodes every header it is sent, and what it decodes is the
receipt that was signed.
-/

namespace Paygate.Gateway

open Text Json Program

/-! ### The receipts that are sent -/

/-- Every field `validateReceipt` asks for is there. -/
structure Filled (signed : SignedReceipt) : Prop where
  payer : signed.receipt.payment.payer ≠ []
  recipient : signed.receipt.payment.recipient ≠ []
  amount : signed.receipt.payment.amount ≠ []
  token : signed.receipt.payment.token ≠ []
  nonce : signed.receipt.payment.nonce ≠ []
  endpoint : signed.receipt.service.endpoint ≠ []

/-- A check that was passed. -/
theorem of_check_eq_ok {ε : Type} {c : Prop} [Decidable c] {e : ε} {x : Except ε Unit}
    (h : (if c then .error e else x) = .ok ()) :
  ¬ c ∧ x = .ok ()
  := by
  split at h
  · cases h
  · rename_i hc
    exact ⟨hc, h⟩

theorem filled_of_validateReceipt {signed : SignedReceipt} (h : validateReceipt signed = .ok ()) :
  Filled signed
  := by
  obtain ⟨-, h⟩ := of_check_eq_ok h
  obtain ⟨-, h⟩ := of_check_eq_ok h
  obtain ⟨-, h⟩ := of_check_eq_ok h
  obtain ⟨hpayer, h⟩ := of_check_eq_ok h
  obtain ⟨hrecipient, h⟩ := of_check_eq_ok h
  obtain ⟨hamount, h⟩ := of_check_eq_ok h
  obtain ⟨htoken, h⟩ := of_check_eq_ok h
  obtain ⟨hnonce, h⟩ := of_check_eq_ok h
  obtain ⟨hendpoint, -⟩ := of_check_eq_ok h
  exact ⟨hpayer, hrecipient, hamount, htoken, hnonce, hendpoint⟩

section Sent

variable {s : Settings} {c : Context} {payment : PaymentContext}
  {payer requestBody aiResult : List UInt8} {h : History} {p : Prog Context}

/-- The receipt was generated for the payment, the path, the body and the result, and found
valid. -/
def Generated (s : Settings) (payment : PaymentContext)
    (payer path requestBody aiResult : List UInt8) (signed : SignedReceipt) : Prop :=
  validateReceipt signed = .ok ()
    ∧ ∃ random now, generateReceipt s.crypto s.env (some random) now payment payer path requestBody
        (GoJson.marshal (textObject [("result", aiResult)])) = .ok signed

/-- The calls that send no receipt but one that has a property. -/
def SendsOnly (q : SignedReceipt → Prop) : Call → Prop
  | .header name v => name = "X-402-Receipt" →
      ∃ signed header, q signed ∧ receiptHeader signed = some header ∧ v = utf8 header
  | _ => True

variable {q : SignedReceipt → Prop} {α : Type}

/-- A call followed by the rest. -/
theorem sendsOnly_call {d : Call} {f : Answer d → Prog α} {post : History → α → Prop}
    (hd : SendsOnly q d) (hf : ∀ x, Safe (fun _ => SendsOnly q) post (⟨d, x⟩ :: h) (f x)) :
  Safe (fun _ => SendsOnly q) post h (perform d >>= f)
  := safe_bind (safe_perform hd hf)

theorem sendsOnly_respondError {code : Nat} {msg : String} :
  Safe (fun _ => SendsOnly q) (fun _ _ => True) h (respondError c code msg)
  := by
  apply safe_bind
  have hid : Safe (fun _ => SendsOnly q) (fun _ _ => True) h (responseCorrelationID c) :=
    safe_responseCorrelationID (p := fun _ => True) (fun _ => trivial) trivial (fun _ => trivial) c
  apply hid.mono
  intro h id _
  exact ⟨trivial, fun _ => trivial⟩

/-- No receipt is sent while one is made or stored. -/
theorem sendsOnly_books {post : α → Prop} {p : Prog α} (hp : Books post h p) :
  Safe (fun _ => SendsOnly q) (fun _ => post) h p
  := by
  have hcarry : Safe (fun _ => SendsOnly q) (fun _ a => True ∧ post a) h p := by
    apply hp.carry trivial
    · intro _ _ _ _ _
      trivial
    · intro h c _ hc
      cases c with
      | header => cases hc
      | _ => trivial
  exact hcarry.mono fun _ _ hx => hx.2

theorem sendsOnly_generateAndSendReceipt :
  Safe (fun _ => SendsOnly (Generated s payment payer c.request.path requestBody aiResult))
    (fun _ _ => True) h (generateAndSendReceipt s c payment payer requestBody aiResult)
  := by
  apply safe_bind
  apply (sendsOnly_books books_makeReceipt).mono
  intro h₁ x hmade
  cases x with
  | error e => exact sendsOnly_respondError
  | ok signed =>
      apply safe_bind
      apply (sendsOnly_books books_storeReceiptWithContext).mono
      intro h₂ x hstored
      cases x with
      | error e => exact sendsOnly_respondError
      | ok u =>
          dsimp only
          split
          · exact sendsOnly_respondError
          · rename_i header hheader
            apply sendsOnly_call
            · intro _
              exact ⟨signed, header, ⟨hstored rfl, hmade signed rfl⟩, hheader, rfl⟩
            · intro _
              exact ⟨trivial, fun _ => trivial⟩

/-- The receipt in a header that was sent was generated and found valid. -/
theorem generated_of_header
    (hrun : (generateAndSendReceipt s c payment payer requestBody aiResult).Reaches h p)
    {v : List UInt8} {x : Unit} (hmem : ⟨.header "X-402-Receipt" v, x⟩ ∈ h) :
  ∃ signed header, Generated s payment payer c.request.path requestBody aiResult signed
    ∧ receiptHeader signed = some header ∧ v = utf8 header
  := by
  obtain ⟨later, earlier, hh⟩ := List.append_of_mem hmem
  exact sendsOnly_generateAndSendReceipt.allowed_of_reaches hrun hh rfl

end Sent

end Paygate.Gateway

namespace Paygate

open Text Json JsJson Program

/-! ### The receipts that are decoded -/

/-- The SDK reads the receipt that was written, up to a relation that holds between each
string and what is read of it. -/
theorem sameReceipt_receivedReceipt {R : List UInt8 → List UInt16 → Prop}
    {s : Gateway.SignedReceipt} (hR : ∀ t ∈ s.strings, R t (received t))
    (htime : R (utf8 s.receipt.timestamp.format) (utf16 s.receipt.timestamp.format)) :
  SameReceipt R s.receipt (receivedReceipt s).receipt
    ∧ R s.signature (receivedReceipt s).signature
    ∧ R s.serverPublicKey (receivedReceipt s).serverPublicKey
  := by
  simp only [Gateway.SignedReceipt.strings, List.forall_mem_cons] at hR
  obtain ⟨hid, hversion, hpayer, hrecipient, hamount, htoken, hnonce, hendpoint, hrequest,
    hresponse, hsignature, hkey, -⟩ := hR
  exact ⟨⟨hid, hversion, htime, hpayer, hrecipient, hamount, htoken, rfl, hnonce, hendpoint,
    hrequest, hresponse⟩, hsignature, hkey⟩

theorem sameText_received {t : List UInt8} (h : ∃ x, t = utf8 x) : SameText t (received t)
  := by
  obtain ⟨x, rfl⟩ := h
  exact ⟨x, rfl, received_utf8 x⟩

/-- Something is read of a string that is not empty. -/
theorem received_ne_nil_of_ne_nil {t : List UInt8} (h : t ≠ []) : received t ≠ []
  := by
  intro hnil
  have htext : GoJson.text t = [] := utf16_injective (hnil.trans utf16_nil.symm)
  exact runes_ne_nil h (List.map_eq_nil_iff.mp htext)

section Decoded

variable {s : Gateway.Settings} {c : Gateway.Context} {payment : Gateway.PaymentContext}
  {payer path requestBody aiResult : List UInt8} {signed : Gateway.SignedReceipt}

/-- The SDK finds a receipt that was generated and found valid by the gateway valid. -/
theorem isValid_generated
    (h : Gateway.Generated s payment payer path requestBody aiResult signed)
    (hpos : 0 < signed.receipt.payment.chainId) :
  (receivedReceipt signed).isValid = true
  := by
  obtain ⟨hvalid, random, now, hgen⟩ := h
  obtain ⟨b, -, hsign⟩ := Gateway.generateReceipt_eq_ok hgen
  have hreceipt := Gateway.receipt_of_signReceipt hsign
  have hfilled := Gateway.filled_of_validateReceipt hvalid
  rw [hreceipt] at hpos
  apply (isValid_receivedReceipt hsign hpos).mpr
  have hgiven : ∀ t ∈ givenStrings payment payer path, t ≠ [] := by
    obtain ⟨hpayer, hrecipient, hamount, htoken, hnonce, hendpoint⟩ := hfilled
    rw [hreceipt] at hpayer hrecipient hamount htoken hnonce hendpoint
    simp only [givenStrings, List.forall_mem_cons]
    exact ⟨hpayer, hrecipient, hamount, htoken, hnonce, hendpoint, List.forall_mem_nil _⟩
  intro t ht
  exact received_ne_nil_of_ne_nil (hgiven t ht)

/-- What holds of every text below 128 holds of the strings of a receipt that was generated,
if it holds of those the gateway was given. -/
theorem forall_strings_of_generated {q : List UInt8 → Prop}
    (hq : ∀ x : List Char, (∀ c ∈ x, c.toNat < 128) → q (utf8 x))
    (h : Gateway.Generated s payment payer path requestBody aiResult signed)
    (hgiven : ∀ t ∈ givenStrings payment payer path, q t) :
  ∀ t ∈ signed.strings, q t
  := by
  obtain ⟨-, random, now, hgen⟩ := h
  obtain ⟨b, -, hsign⟩ := Gateway.generateReceipt_eq_ok hgen
  obtain ⟨key, v, sig, -, -, -, rfl⟩ := Gateway.signReceipt_eq_ok hsign
  simp only [givenStrings, List.forall_mem_cons] at hgiven
  obtain ⟨hpayer, hrecipient, hamount, htoken, hnonce, hendpoint, -⟩ := hgiven
  have hascii : ∀ name ∈ ["rcpt_", "sha256:", "0x"], ∀ c ∈ name.toList, c.toNat < 128 := by decide
  have hname : ∀ name ∈ ["rcpt_", "sha256:", "0x"], ∀ bs, q (bytes name ++ utf8 (hexEncode bs)) := by
    intro name hmem bs
    rw [bytes, ← utf8_append]
    apply hq
    intro c hc
    obtain hc | hc := List.mem_append.mp hc
    · exact hascii name hmem c hc
    · exact hexEncode_ascii bs c hc
  have hhash : ∀ data, q (Gateway.hashData data) := by
    intro data
    rw [Gateway.hashData_eq]
    exact hname _ (by decide) _
  simp only [Gateway.SignedReceipt.strings, Gateway.newReceipt, List.forall_mem_cons]
  exact ⟨hname _ (by decide) _, hq _ (by decide), hpayer, hrecipient, hamount, htoken, hnonce,
    hendpoint, hhash _, hhash _, hname _ (by decide) _, hname _ (by decide) _,
    List.forall_mem_nil _⟩

/-- Every receipt header the gateway sends holds a receipt that was generated for the
payment and found valid.  If the strings of this receipt are texts and its chain id is a
positive integer below `2 ^ 53`, the SDK decodes the header to the same receipt, with the
same signature and the same key. -/
theorem decodeReceiptHeader_sent {h : Gateway.History} {p : Gateway.Prog Gateway.Context}
    (hrun : (Gateway.generateAndSendReceipt s c payment payer requestBody aiResult).Reaches h p)
    {v : List UInt8} {x : Unit} (hmem : ⟨.header "X-402-Receipt" v, x⟩ ∈ h) :
  ∃ signed header,
    Gateway.Generated s payment payer c.request.path requestBody aiResult signed
      ∧ Gateway.receiptHeader signed = some header
      ∧ v = utf8 header
      ∧ ((∀ t ∈ signed.strings, ∃ x, t = utf8 x) →
          0 < signed.receipt.payment.chainId → signed.receipt.payment.chainId < 2 ^ 53 →
          ∃ r, Sdk.decodeReceiptHeader header = some r
            ∧ SameReceipt SameText signed.receipt r.receipt
            ∧ SameText signed.signature r.signature
            ∧ SameText signed.serverPublicKey r.serverPublicKey)
  := by
  obtain ⟨signed, header, hgen, hheader, rfl⟩ := Gateway.generated_of_header hrun hmem
  refine ⟨signed, header, hgen, hheader, rfl, ?_⟩
  intro htexts hpos hlt
  have hdecode := decodeReceiptHeader_eq hheader hpos hlt
  rw [Option.filter_some, if_pos (isValid_generated hgen hpos)] at hdecode
  refine ⟨receivedReceipt signed, hdecode, ?_⟩
  apply sameReceipt_receivedReceipt
  · intro t ht
    exact sameText_received (htexts t ht)
  · exact ⟨signed.receipt.timestamp.format, rfl, rfl⟩

end Decoded

/-! ### A sample -/

/-- The payment context of a nonce in the sample settings. -/
def sentPayment (nonce : String) : Gateway.PaymentContext :=
  Gateway.paymentContext Gateway.cachedSettings.env (bytes nonce) 1700000000

/-- What is done to answer a request that was paid with a nonce, in the sample world. -/
def sentHistory (nonce : String) : Gateway.History :=
  (trace Gateway.cachedWorld (Gateway.generateAndSendReceipt Gateway.cachedSettings
    (.init Gateway.paidRequest) (sentPayment nonce) (bytes "0x12") [] (bytes "short")) []).1

theorem reaches_sentHistory (nonce : String) :
  ∃ p, (Gateway.generateAndSendReceipt Gateway.cachedSettings (.init Gateway.paidRequest)
    (sentPayment nonce) (bytes "0x12") [] (bytes "short")).Reaches (sentHistory nonce) p
  := ⟨_, reaches_trace Gateway.cachedWorld .start⟩

/-- A receipt is sent for some nonces. -/
theorem sentHistory_header :
  ∀ nonce ∈ ["n-1", "é"], ∃ v x, ⟨.header "X-402-Receipt" v, x⟩ ∈ sentHistory nonce
  := by
  have hany : ∀ nonce ∈ ["n-1", "é"],
      (sentHistory nonce).any (fun e => e.call.isReceiptHeader) = true := by
    decide +kernel
  intro nonce hnonce
  obtain ⟨⟨d, x⟩, hmem, hheader⟩ := List.any_eq_true.mp (hany nonce hnonce)
  cases d with
  | header name v =>
      obtain rfl : name = "X-402-Receipt" := of_decide_eq_true hheader
      exact ⟨v, x, hmem⟩
  | _ => cases hheader

/-- The strings that are given for the sample receipt. -/
theorem givenStrings_sample (nonce : String) :
  givenStrings (sentPayment nonce) (bytes "0x12") Gateway.paidRequest.path
    = ["0x12", "0x2cAF48b4BA1C58721a85dFADa5aC01C2DFa62219", "0.001", "USDC", nonce,
      "/api/ai/summarize"].map bytes
  := by
  have hrecipient : Gateway.getRecipientAddress Gateway.cachedSettings.env
      = bytes "0x2cAF48b4BA1C58721a85dFADa5aC01C2DFa62219" := by decide +kernel
  have hamount : Gateway.getPaymentAmount Gateway.cachedSettings.env = bytes "0.001" := by
    decide
  simp only [givenStrings, sentPayment, Gateway.paymentContext, hrecipient, hamount, List.map_cons,
    List.map_nil]
  rfl

theorem chainId_sample (nonce : String) : (sentPayment nonce).chainId = 84532
  := by
  have henv : Gateway.getChainID Gateway.cachedSettings.env = 84532 := by decide
  exact henv

/-- The receipt of the sample is decoded. -/
theorem decodeReceiptHeader_sent_sample :
  ∃ header x r, ⟨.header "X-402-Receipt" (utf8 header), x⟩ ∈ sentHistory "n-1"
    ∧ Sdk.decodeReceiptHeader header = some r
    ∧ r.receipt.payment.nonce = units "n-1"
    ∧ r.receipt.payment.chainId = 84532
  := by
  obtain ⟨p, hrun⟩ := reaches_sentHistory "n-1"
  obtain ⟨v, x, hmem⟩ := sentHistory_header "n-1" (by decide)
  obtain ⟨signed, header, hgen, hheader, rfl, hdecode⟩ := decodeReceiptHeader_sent hrun hmem
  obtain ⟨-, random, now, hgenerate⟩ := id hgen
  obtain ⟨b, -, hsign⟩ := Gateway.generateReceipt_eq_ok hgenerate
  have hreceipt := Gateway.receipt_of_signReceipt hsign
  have hchain : signed.receipt.payment.chainId = 84532 := by
    rw [hreceipt]
    exact chainId_sample "n-1"
  have htexts : ∀ t ∈ signed.strings, ∃ x, t = utf8 x := by
    apply forall_strings_of_generated (q := fun t => ∃ x, t = utf8 x) (fun x _ => ⟨x, rfl⟩) hgen
    intro t ht
    rw [Gateway.Context.init, givenStrings_sample] at ht
    obtain ⟨name, -, rfl⟩ := List.mem_map.mp ht
    exact ⟨name.toList, rfl⟩
  obtain ⟨r, hr, hsame, -⟩ := hdecode htexts (by omega) (by omega)
  refine ⟨header, x, r, hmem, hr, ?_, hsame.chainId.symm.trans hchain⟩
  obtain ⟨y, hy, hnonce⟩ := hsame.nonce
  rw [hreceipt] at hy
  have hy : bytes "n-1" = utf8 y := hy
  rw [hnonce, ← utf8_injective hy]
  rfl

end Paygate
