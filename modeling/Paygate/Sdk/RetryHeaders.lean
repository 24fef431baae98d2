import Paygate.Sdk.Exchange

/-!
# The headers of the signed retry

The client merges the headers of the user and those of the payment by their exact names, while
`fetch` sends together the values of names that differ in case only.  The signed headers, and the
headers of the user before the default, have precedence exactly if the user spells the names the
client sets as it does, and no two names alike but for their case.
-/

namespace Paygate.Sdk

open Text Program

/-! ### Names of headers -/

/-- The values `fetch` sends under a name: those of all names that differ from it in case only. -/
def valuesOf (headers : Headers) (name : List UInt16) : List (List UInt16) :=
  (headers.filter fun h => toLowerCase h.1 = toLowerCase name).map Prod.snd

theorem valuesOf_append (headers headers' : Headers) (name : List UInt16) :
  valuesOf (headers ++ headers') name = valuesOf headers name ++ valuesOf headers' name
  := by
  simp only [valuesOf, List.filter_append, List.map_append]

/-- No value is sent under a name that does not occur. -/
theorem valuesOf_eq_nil {headers : Headers} {name : List UInt16}
    (h : ∀ e ∈ headers, toLowerCase e.1 ≠ toLowerCase name) :
  valuesOf headers name = []
  := by
  have hnone : (headers.filter fun h => toLowerCase h.1 = toLowerCase name) = [] := by
    apply List.filter_eq_nil_iff.mpr
    intro e he
    simpa using h e he
  rw [valuesOf, hnone, List.map_nil]

/-- A single value is sent under a name that occurs in one spelling only. -/
theorem valuesOf_eq_singleton {headers : Headers} (hnodup : (headers.map Prod.fst).Nodup)
    {h : List UInt16 × List UInt16} (hmem : h ∈ headers)
    (honly : ∀ e ∈ headers, toLowerCase e.1 = toLowerCase h.1 → e.1 = h.1) :
  valuesOf headers h.1 = [h.2]
  := by
  induction headers with
  | nil => cases hmem
  | cons e headers ih =>
      obtain ⟨hnew, hnodup'⟩ := List.nodup_cons.mp hnodup
      obtain ⟨hfirst, hrest⟩ := List.forall_mem_cons.mp honly
      rw [← List.singleton_append, valuesOf_append]
      obtain rfl | hlater := List.mem_cons.mp hmem
      · have hnone : valuesOf headers h.1 = [] := by
          apply valuesOf_eq_nil
          intro e he heq
          apply hnew
          rw [← hrest e he heq]
          exact List.mem_map_of_mem he
        rw [hnone]
        simp [valuesOf]
      · have hnone : valuesOf [e] h.1 = [] := by
          apply valuesOf_eq_nil
          intro e' he' heq
          obtain rfl := List.mem_singleton.mp he'
          apply hnew
          rw [hfirst heq]
          exact List.mem_map_of_mem hlater
        rw [hnone, List.nil_append]
        exact ih hnodup' hlater hrest

/-- Where a single value is sent, the name has one spelling only. -/
theorem eq_of_valuesOf {headers : Headers} {name v : List UInt16} (h : valuesOf headers name = [v])
    {x y : List UInt16 × List UInt16} (hx : x ∈ headers) (hxname : toLowerCase x.1 = toLowerCase name)
    (hy : y ∈ headers) (hyname : toLowerCase y.1 = toLowerCase name) :
  x = y
  := by
  obtain ⟨z, hz, -⟩ := List.map_eq_singleton_iff.mp h
  have hmem : ∀ e ∈ headers, toLowerCase e.1 = toLowerCase name → e = z := by
    intro e he hname
    apply List.mem_singleton.mp
    rw [← hz]
    exact List.mem_filter.mpr ⟨he, decide_eq_true hname⟩
  rw [hmem x hx hxname, hmem y hy hyname]

/-- The names of the signed headers. -/
def signedNames : List (List UInt16) :=
  [units "X-402-Signature", units "X-402-Nonce", units "X-402-Timestamp"]

theorem map_fst_buildSignedHeaders (ctx : PaymentContext) (signature : List UInt16) :
  (buildSignedHeaders ctx signature).map Prod.fst = signedNames
  := rfl

/-- The names of the signed headers are different but for their case. -/
theorem signedNames_inj {name name' : List UInt16} (h : name ∈ signedNames) (h' : name' ∈ signedNames)
    (heq : toLowerCase name = toLowerCase name') :
  name = name'
  := by
  have hall : ∀ n ∈ signedNames, ∀ n' ∈ signedNames, toLowerCase n = toLowerCase n' → n = n' := by
    decide
  exact hall name h name' h' heq

theorem signedNames_ne_contentType {name : List UInt16} (h : name ∈ signedNames) :
  toLowerCase (units "Content-Type") ≠ toLowerCase name
  := by
  have hall : ∀ n ∈ signedNames, toLowerCase (units "Content-Type") ≠ toLowerCase n := by
    decide
  exact hall name h

/-! ### Precedence -/

/-- The default header of a request with a body. -/
def defaultHeaders (body : Bool) : Headers :=
  if body then [(units "Content-Type", units "application/json")] else []

/-- Every signed header is sent with its value only, every other header of the user with the
user's value only, and besides these the default header and no others. -/
structure Precedence (signed given default headers : Headers) : Prop where
  signedOnly : ∀ h ∈ signed, valuesOf headers h.1 = [h.2]
  givenOnly : ∀ h ∈ given, (∀ e ∈ signed, toLowerCase e.1 ≠ toLowerCase h.1) →
    valuesOf headers h.1 = [h.2]
  others : ∀ name, (∀ e ∈ signed, toLowerCase e.1 ≠ toLowerCase name) →
    (∀ e ∈ given, toLowerCase e.1 ≠ toLowerCase name) →
    valuesOf headers name = valuesOf default name

/-- The user spells the names the client sets as it does, and no two names alike but for their
case. -/
structure SpelledApart (given : Headers) (body : Bool) : Prop where
  signed : ∀ h ∈ given, ∀ name ∈ signedNames, toLowerCase h.1 = toLowerCase name → h.1 = name
  contentType : body = true → ∀ h ∈ given,
    toLowerCase h.1 = toLowerCase (units "Content-Type") → h.1 = units "Content-Type"
  distinct : ∀ h ∈ given, ∀ h' ∈ given, toLowerCase h.1 = toLowerCase h'.1 → h.1 = h'.1

open PaygateClient

variable {given : Headers} {body : Bool} {ctx : PaymentContext} {signature : List UInt16}

/-- A header that is set takes the place of those with its name. -/
theorem mem_setHeader {headers : Headers} {e h : List UInt16 × List UInt16} :
  h ∈ setHeader headers e ↔ (h ∈ headers ∧ h.1 ≠ e.1) ∨ h = e
  := by
  rw [setHeader]
  split
  · rename_i hin
    obtain ⟨old, hold, hname⟩ := hin
    rw [List.mem_map]
    constructor
    · rintro ⟨f, hf, rfl⟩
      split
      · exact Or.inr rfl
      · exact Or.inl ⟨hf, ‹_›⟩
    · rintro (⟨hmem, hne⟩ | rfl)
      · exact ⟨h, hmem, if_neg hne⟩
      · exact ⟨old, hold, if_pos hname⟩
  · rename_i hnew
    rw [List.mem_append, List.mem_singleton]
    apply or_congr_left
    constructor
    · intro hmem
      exact ⟨hmem, fun hname => hnew ⟨h, hmem, hname⟩⟩
    · exact And.left

/-- Setting a header keeps the names apart. -/
theorem nodup_setHeader {headers : Headers} (hnodup : (headers.map Prod.fst).Nodup)
    (e : List UInt16 × List UInt16) :
  ((setHeader headers e).map Prod.fst).Nodup
  := by
  rw [setHeader]
  split
  · have hnames : (headers.map fun f => if f.1 = e.1 then e else f).map Prod.fst
        = headers.map Prod.fst := by
      rw [List.map_map]
      apply List.map_congr_left
      intro f _
      simp only [Function.comp]
      split
      · rename_i hname
        exact hname.symm
      · rfl
    rw [hnames]
    exact hnodup
  · rename_i hnew
    rw [← List.mem_map] at hnew
    rw [List.map_append, List.map_singleton]
    exact hnodup.append (List.nodup_singleton _) (List.disjoint_singleton.mpr hnew)

/-- Setting a header changes nothing under other names. -/
theorem valuesOf_setHeader {e : List UInt16 × List UInt16} {name : List UInt16}
    (hname : toLowerCase e.1 ≠ toLowerCase name) (headers : Headers) :
  valuesOf (setHeader headers e) name = valuesOf headers name
  := by
  have hmap : valuesOf (headers.map fun f => if f.1 = e.1 then e else f) name
      = valuesOf headers name := by
    induction headers with
    | nil => rfl
    | cons f headers ih =>
        rw [List.map_cons]
        by_cases hsame : f.1 = e.1
        · have hf : toLowerCase f.1 ≠ toLowerCase name := hsame ▸ hname
          rw [if_pos hsame, ← List.singleton_append, valuesOf_append, ih,
            valuesOf_eq_nil (List.forall_mem_singleton.mpr hname), ← List.singleton_append (x := f),
            valuesOf_append, valuesOf_eq_nil (List.forall_mem_singleton.mpr hf)]
        · rw [if_neg hsame, ← List.singleton_append, valuesOf_append, ih, ← valuesOf_append]
          rfl
  rw [setHeader]
  split
  · exact hmap
  · rw [valuesOf_append, valuesOf_eq_nil (List.forall_mem_singleton.mpr hname), List.append_nil]

/-- The names of merged headers are apart. -/
theorem nodup_spread {base : Headers} (hnodup : (base.map Prod.fst).Nodup) (extra : Headers) :
  ((spread base extra).map Prod.fst).Nodup
  := by
  induction extra generalizing base with
  | nil => exact hnodup
  | cons e extra ih => exact ih (nodup_setHeader hnodup e)

/-- A merged header is one of the base with a name of its own, or an extra one. -/
theorem of_mem_spread {base extra : Headers} {h : List UInt16 × List UInt16}
    (hmem : h ∈ spread base extra) :
  (h ∈ base ∧ ∀ e ∈ extra, e.1 ≠ h.1) ∨ h ∈ extra
  := by
  induction extra generalizing base with
  | nil => exact Or.inl ⟨hmem, List.forall_mem_nil _⟩
  | cons e extra ih =>
      obtain ⟨hset, hothers⟩ | hextra := ih hmem
      · obtain ⟨hbase, hne⟩ | rfl := mem_setHeader.mp hset
        · exact Or.inl ⟨hbase, List.forall_mem_cons.mpr ⟨hne.symm, hothers⟩⟩
        · exact Or.inr List.mem_cons_self
      · exact Or.inr (List.mem_cons_of_mem _ hextra)

/-- A header of the base is kept if no extra one has its name. -/
theorem mem_spread_of_base {base extra : Headers} {h : List UInt16 × List UInt16} (hmem : h ∈ base)
    (hothers : ∀ e ∈ extra, e.1 ≠ h.1) :
  h ∈ spread base extra
  := by
  induction extra generalizing base with
  | nil => exact hmem
  | cons e extra ih =>
      obtain ⟨hne, hothers⟩ := List.forall_mem_cons.mp hothers
      exact ih (mem_setHeader.mpr (Or.inl ⟨hmem, hne.symm⟩)) hothers

/-- Every extra header is there, if their names are apart. -/
theorem mem_spread_of_extra {extra : Headers} (hnodup : (extra.map Prod.fst).Nodup)
    {h : List UInt16 × List UInt16} (hmem : h ∈ extra) (base : Headers) :
  h ∈ spread base extra
  := by
  induction extra generalizing base with
  | nil => cases hmem
  | cons e extra ih =>
      obtain ⟨hnew, hnodup⟩ := List.nodup_cons.mp hnodup
      obtain rfl | hlater := List.mem_cons.mp hmem
      · apply mem_spread_of_base (mem_setHeader.mpr (Or.inr rfl))
        intro e he hname
        apply hnew
        rw [← hname]
        exact List.mem_map_of_mem he
      · exact ih hnodup hlater _

/-- Merging changes nothing under the names of no extra header. -/
theorem valuesOf_spread {extra : Headers} {name : List UInt16}
    (hname : ∀ e ∈ extra, toLowerCase e.1 ≠ toLowerCase name) (base : Headers) :
  valuesOf (spread base extra) name = valuesOf base name
  := by
  induction extra generalizing base with
  | nil => rfl
  | cons e extra ih =>
      obtain ⟨hfirst, hrest⟩ := List.forall_mem_cons.mp hname
      exact (ih hrest _).trans (valuesOf_setHeader hfirst base)

theorem mem_signedNames {e : List UInt16 × List UInt16} (he : e ∈ buildSignedHeaders ctx signature) :
  e.1 ∈ signedNames
  := List.mem_map_of_mem he

theorem mem_defaultHeaders {h : List UInt16 × List UInt16} :
  h ∈ defaultHeaders body ↔ body = true ∧ h = (units "Content-Type", units "application/json")
  := by
  cases body with
  | true => simp [defaultHeaders]
  | false => simp [defaultHeaders]

/-- The names of the signed headers are apart. -/
theorem nodup_buildSignedHeaders (ctx : PaymentContext) (signature : List UInt16) :
  ((buildSignedHeaders ctx signature).map Prod.fst).Nodup
  := by
  rw [map_fst_buildSignedHeaders]
  decide

/-- A header of the user is sent, unless it has the name of a signed one. -/
theorem mem_merged (hrecord : (given.map Prod.fst).Nodup) {h : List UInt16 × List UInt16}
    (hmem : h ∈ given) (hname : h.1 ∉ signedNames) (base : Headers) :
  h ∈ spread (spread base given) (buildSignedHeaders ctx signature)
  := by
  apply mem_spread_of_base (mem_spread_of_extra hrecord hmem base)
  intro e he heq
  apply hname
  rw [← heq]
  exact mem_signedNames he

/-- The names of the merged headers are apart. -/
theorem nodup_merged (given extra : Headers) (body : Bool) :
  ((spread (spread (defaultHeaders body) given) extra).map Prod.fst).Nodup
  := by
  apply nodup_spread (nodup_spread _ _)
  cases body with
  | true => exact List.nodup_singleton _
  | false => exact List.nodup_nil

/-- With precedence for the signed headers and the user's, the names are spelled apart. -/
theorem spelledApart_of_precedence (hrecord : (given.map Prod.fst).Nodup)
    (h : Precedence (buildSignedHeaders ctx signature) given (defaultHeaders body)
      (spread (spread (defaultHeaders body) given) (buildSignedHeaders ctx signature))) :
  SpelledApart given body
  := by
  have hsigned : ∀ g ∈ given, ∀ name ∈ signedNames,
      toLowerCase g.1 = toLowerCase name → g.1 = name := by
    intro g hg name hname heq
    rw [← map_fst_buildSignedHeaders ctx signature] at hname
    obtain ⟨e, he, rfl⟩ := List.mem_map.mp hname
    by_cases hin : g.1 ∈ signedNames
    · exact signedNames_inj hin (mem_signedNames he) heq
    · rw [eq_of_valuesOf (h.signedOnly e he) (mem_merged hrecord hg hin _) heq
        (mem_spread_of_extra (nodup_buildSignedHeaders ctx signature) he _) rfl]
  have hother : ∀ g ∈ given, g.1 ∉ signedNames →
      ∀ e ∈ buildSignedHeaders ctx signature, toLowerCase e.1 ≠ toLowerCase g.1 := by
    intro g hg hnot e he heq
    apply hnot
    rw [hsigned g hg e.1 (mem_signedNames he) heq.symm]
    exact mem_signedNames he
  have hdistinct : ∀ g ∈ given, ∀ g' ∈ given, toLowerCase g.1 = toLowerCase g'.1 → g.1 = g'.1 := by
    intro g hg g' hg' heq
    by_cases hin : g'.1 ∈ signedNames
    · exact hsigned g hg g'.1 hin heq
    · have hnot : g.1 ∉ signedNames := by
        intro hin'
        apply hin
        rw [hsigned g' hg' g.1 hin' heq.symm]
        exact hin'
      rw [eq_of_valuesOf (h.givenOnly g' hg' (hother g' hg' hin)) (mem_merged hrecord hg hnot _) heq
        (mem_merged hrecord hg' hin _) rfl]
  refine ⟨hsigned, ?_, hdistinct⟩
  rintro rfl g hg heq
  have hnot : g.1 ∉ signedNames := by
    intro hin
    exact signedNames_ne_contentType hin heq.symm
  by_cases hgiven : ∃ g' ∈ given, g'.1 = units "Content-Type"
  · obtain ⟨g', hg', hname⟩ := hgiven
    rw [← hname] at heq ⊢
    exact hdistinct g hg g' hg' heq
  · have hdefault : (units "Content-Type", units "application/json")
        ∈ spread (spread (defaultHeaders true) given) (buildSignedHeaders ctx signature) := by
      apply mem_spread_of_base
      · apply mem_spread_of_base (mem_defaultHeaders.mpr ⟨rfl, rfl⟩)
        intro e he heq
        exact hgiven ⟨e, he, heq⟩
      · intro e he heq
        apply signedNames_ne_contentType (mem_signedNames he)
        rw [heq]
    rw [eq_of_valuesOf (h.givenOnly g hg (hother g hg hnot)) (mem_merged hrecord hg hnot _) rfl hdefault heq.symm]

/-- If the names are spelled apart, the signed headers and the user's have precedence. -/
theorem SpelledApart.precedence (hrecord : (given.map Prod.fst).Nodup) (h : SpelledApart given body) :
  Precedence (buildSignedHeaders ctx signature) given (defaultHeaders body)
    (spread (spread (defaultHeaders body) given) (buildSignedHeaders ctx signature))
  := by
  have hnodup := nodup_merged given (buildSignedHeaders ctx signature) body
  constructor
  · intro e he
    apply valuesOf_eq_singleton hnodup
      (mem_spread_of_extra (nodup_buildSignedHeaders ctx signature) he _)
    intro g hg heq
    obtain ⟨hbase, -⟩ | hsigned := of_mem_spread hg
    · obtain ⟨hdefault, -⟩ | hgiven := of_mem_spread hbase
      · obtain ⟨-, rfl⟩ := mem_defaultHeaders.mp hdefault
        exact absurd heq (signedNames_ne_contentType (mem_signedNames he))
      · exact h.signed g hgiven e.1 (mem_signedNames he) heq
    · exact signedNames_inj (mem_signedNames hsigned) (mem_signedNames he) heq
  · intro g hg hname
    have hmem : g ∈ spread (spread (defaultHeaders body) given) (buildSignedHeaders ctx signature) := by
      apply mem_merged hrecord hg
      intro hin
      rw [← map_fst_buildSignedHeaders ctx signature] at hin
      obtain ⟨e, he, heq⟩ := List.mem_map.mp hin
      exact hname e he (congrArg toLowerCase heq)
    apply valuesOf_eq_singleton hnodup hmem
    intro f hf heq
    obtain ⟨hbase, -⟩ | hsigned := of_mem_spread hf
    · obtain ⟨hdefault, -⟩ | hgiven := of_mem_spread hbase
      · obtain ⟨hbody, rfl⟩ := mem_defaultHeaders.mp hdefault
        exact (h.contentType hbody g hg heq.symm).symm
      · exact h.distinct f hgiven g hg heq
    · exact absurd heq (hname f hsigned)
  · intro name hname hgiven
    rw [valuesOf_spread hname, valuesOf_spread hgiven]

/-! ### The retry of a call -/

namespace PaygateClient

variable {TBody : Type} {client : PaygateClient}
  {stringify : TBody → Except Unit (Option (List Char))} {request : PaygateRequest TBody}

/-- What is sent for a request: its method, the text of its body, and the merged headers. -/
theorem Sends.init_eq {extraHeaders : Headers} {url : List UInt16} {init : RequestInit}
    (h : Sends client stringify request extraHeaders url init) :
  init.method = request.method
    ∧ init.headers = spread (spread (defaultHeaders request.body.isSome) request.headers) extraHeaders
    ∧ serializeRequestBody stringify request.body = .ok init.body
  := by
  obtain ⟨-, text, htext, hinit⟩ := h
  rw [buildRequestInit_eq_ok htext] at hinit
  obtain rfl := Except.ok.inj hinit
  refine ⟨rfl, ?_, htext⟩
  cases request.body with
  | none => rfl
  | some _ => rfl

/-- The payment context a response challenges with is the one it is read to have. -/
theorem readPaymentContext_of_challenges {response : Response} (h : response.Challenges ctx) :
  readPaymentContext response = .ok ctx
  := by
  obtain ⟨-, text, htext, hctx⟩ := h
  simp only [readPaymentContext, htext, Bind.bind, Except.bind, hctx]
  cases hparse : JsJson.parse text with
  | none =>
      simp only [paymentContextOf, hparse, Option.bind_eq_bind, Option.bind_none] at hctx
      cases hctx
  | some _ => rfl

/-- A response challenges with one payment context only. -/
theorem challenges_unique {ctx ctx' : PaymentContext} {response : Response}
    (h : response.Challenges ctx) (h' : response.Challenges ctx') :
  ctx = ctx'
  := by
  have heq := readPaymentContext_of_challenges h
  rw [readPaymentContext_of_challenges h'] at heq
  exact (Except.ok.inj heq).symm

/-- A request that is challenged, and whose payment context is signed, is fetched again. -/
theorem reaches_retry {url : List UInt16} {first retry : RequestInit} {response : Response}
    (hfirst : Sends client stringify request [] url first) (hchallenge : response.Challenges ctx)
    (hretry : Sends client stringify request (buildSignedHeaders ctx signature) url retry)
    (z : Option Response) :
  ∃ q, (client.requestProgram stringify request).Reaches
    [⟨.fetch url retry, z⟩, ⟨.signTypedData (buildPaymentTypedData ctx), .ok signature⟩,
      ⟨.fetch url first, some response⟩] q
  := by
  obtain ⟨hurl, text, htext, hfirst⟩ := hfirst
  obtain ⟨-, text', htext', hretry⟩ := hretry
  rw [htext] at htext'
  obtain rfl := Except.ok.inj htext'
  have hstart : (client.requestProgram stringify request).Reaches []
      (client.requestProgram stringify request) := .start
  nth_rewrite 2 [requestProgram] at hstart
  simp only [hurl, htext, hfirst] at hstart
  have hchallenged := hstart.step (some response)
  simp only [Program.bind, hchallenge.1, ne_eq, not_true_eq_false, if_false,
    readPaymentContext_of_challenges hchallenge] at hchallenged
  have hsigned := hchallenged.step (.ok signature)
  simp only [Program.bind, hretry] at hsigned
  exact ⟨_, hsigned.step z⟩

/-- On the retry of every call, the signed headers have precedence over those of the user and
these over the default, and what else is sent is sent again: exactly if the user spells the names
the client sets as it does, and no two names alike but for their case. -/
theorem signed_retry_precedence_iff {url url' : List UInt16} {first retry : RequestInit}
    {response : Response} {data : TypedData (List UInt16)} {z : Option Response}
    {q : Program ClientCall ClientAnswer (Except Thrown PaygateResponse)}
    (hprotocol : client.protocol = microAIPaygateProtocol)
    (hrecord : (request.headers.map Prod.fst).Nodup)
    (hrun : (client.requestProgram stringify request).Reaches
      [⟨.fetch url' retry, z⟩, ⟨.signTypedData data, .ok signature⟩,
        ⟨.fetch url first, some response⟩] q)
    (hchallenge : response.Challenges ctx) :
  (Precedence (buildSignedHeaders ctx signature) request.headers
        (defaultHeaders request.body.isSome) retry.headers
      ∧ retry.method = first.method ∧ url' = url ∧ retry.body = first.body)
    ↔ SpelledApart request.headers request.body.isSome
  := by
  have hsafe : Safe (Allowed client stringify request) Ends []
      (client.requestProgram stringify request) := safe_requestProgram hprotocol request
  have hfirst : Sends client stringify request [] url first := by
    have hallowed := hsafe.allowed_of_reaches hrun (show _ = [_, _] ++ _ :: [] from rfl)
    obtain ⟨-, hsends⟩ | ⟨_, _, _, _, hcons, -⟩ := hallowed
    · exact hsends
    · cases hcons
  have hretry : url = url'
      ∧ Sends client stringify request (buildSignedHeaders ctx signature) url' retry := by
    have hallowed := hsafe.allowed_of_reaches hrun (show _ = [] ++ _ :: _ from rfl)
    obtain ⟨hnil, -⟩ | ⟨_, _, ctx', _, hcons, hchallenge', hsends⟩ := hallowed
    · cases hnil
    · cases hcons
      obtain rfl := challenges_unique hchallenge hchallenge'
      exact ⟨rfl, hsends⟩
  obtain ⟨rfl, hretry⟩ := hretry
  obtain ⟨hmethod, -, hbody⟩ := hfirst.init_eq
  obtain ⟨hmethod', hheaders, hbody'⟩ := hretry.init_eq
  rw [hbody] at hbody'
  rw [hheaders]
  constructor
  · rintro ⟨hprecedence, -⟩
    exact spelledApart_of_precedence hrecord hprecedence
  · intro hspelled
    refine ⟨hspelled.precedence hrecord, ?_, rfl, (Except.ok.inj hbody').symm⟩
    rw [hmethod', hmethod]

end PaygateClient

/-! ### Samples -/

/-- The payment context of the challenge. -/
def challengeContext : PaymentContext where
  recipient := units "0x1"
  token := units "USDC"
  amount := units "1"
  nonce := units "n"
  chainId := 1
  timestamp := 2

theorem challenges_challengeText :
  (plainResponse 402 challengeText).Challenges challengeContext
  := ⟨rfl, textDecode (bytes challengeText), rfl, by decide +kernel⟩

/-- A request with a body, and a header. -/
def headedRequest (name : String) : PaygateRequest Unit where
  method := units "POST"
  path := units "/api"
  body := some ()
  headers := [(units name, units "m")]

/-- What is fetched for it, with extra headers. -/
def headedInit (name : String) (extraHeaders : Headers) : RequestInit where
  method := units "POST"
  headers := PaygateClient.spread (PaygateClient.spread (defaultHeaders true)
    [(units name, units "m")]) extraHeaders
  body := some ['0']

theorem sends_headedInit (name : String) (extraHeaders : Headers) :
  PaygateClient.Sends (plainClient fun _ _ _ => none) (fun _ : Unit => .ok (some ['0']))
    (headedRequest name) extraHeaders (units "http://localhost:3000/api") (headedInit name extraHeaders)
  := by
  have hurl : (plainClient fun _ _ _ => none).buildUrl (units "/api")
      = .ok (units "http://localhost:3000/api") := by
    decide +kernel
  exact ⟨hurl, some ['0'], rfl, rfl⟩

/-- A content type of the user is sent in place of the default, and the nonce is the signed one. -/
theorem signed_retry_precedence_sample :
  valuesOf (headedInit "Content-Type" (buildSignedHeaders challengeContext (units "0x00"))).headers
      (units "content-type") = [units "m"]
    ∧ Precedence (buildSignedHeaders challengeContext (units "0x00"))
      (headedRequest "Content-Type").headers (defaultHeaders true)
      (headedInit "Content-Type" (buildSignedHeaders challengeContext (units "0x00"))).headers
  := by
  use by decide +kernel
  obtain ⟨q, hrun⟩ := PaygateClient.reaches_retry (sends_headedInit "Content-Type" [])
    challenges_challengeText (sends_headedInit "Content-Type" _) none
  refine ((PaygateClient.signed_retry_precedence_iff rfl (by decide +kernel) hrun
    challenges_challengeText).mpr ?_).1
  exact ⟨by decide +kernel, by decide +kernel, by decide +kernel⟩

/-- A nonce of the user in lower case is sent together with the signed one. -/
theorem lower_case_nonce_sent_twice :
  ∃ q, ((plainClient fun _ _ _ => none).requestProgram (fun _ : Unit => .ok (some ['0']))
      (headedRequest "x-402-nonce")).Reaches
        [⟨.fetch (units "http://localhost:3000/api")
            (headedInit "x-402-nonce" (buildSignedHeaders challengeContext (units "0x00"))), none⟩,
          ⟨.signTypedData (buildPaymentTypedData challengeContext), .ok (units "0x00")⟩,
          ⟨.fetch (units "http://localhost:3000/api") (headedInit "x-402-nonce" []),
            some (plainResponse 402 challengeText)⟩] q
    ∧ valuesOf (headedInit "x-402-nonce"
        (buildSignedHeaders challengeContext (units "0x00"))).headers (units "X-402-Nonce")
      = [units "m", units "n"]
    ∧ ¬ Precedence (buildSignedHeaders challengeContext (units "0x00"))
      (headedRequest "x-402-nonce").headers (defaultHeaders true)
      (headedInit "x-402-nonce" (buildSignedHeaders challengeContext (units "0x00"))).headers
  := by
  obtain ⟨q, hrun⟩ := PaygateClient.reaches_retry (sends_headedInit "x-402-nonce" [])
    challenges_challengeText (sends_headedInit "x-402-nonce" _) none
  refine ⟨q, hrun, by decide +kernel, ?_⟩
  intro h
  have hone := h.signedOnly (units "X-402-Nonce", units "n") (by decide)
  have htwo : valuesOf (headedInit "x-402-nonce"
      (buildSignedHeaders challengeContext (units "0x00"))).headers (units "X-402-Nonce")
        ≠ [units "n"] := by
    decide +kernel
  exact htwo hone

end Paygate.Sdk
