import Paygate.Base.Interaction
import Paygate.Gateway.Receipt
import Paygate.Gateway.Verify

/-!
# The handlers of `POST /api/ai/summarize`

`CorrelationIDMiddleware`, `CacheMiddleware` and `handleSummarize` as programs.  What they
ask of the world around them, of Redis, the verifier, the AI provider, the clock and the
random source, and what they write to the client, are their calls.  The context of a
request is private to it.
-/

namespace Paygate.Gateway

open Text Json

/-! ### Calls -/

/-- Why the provider did not answer; `deadline` tells whether the deadline was exceeded. -/
structure ProviderFailure where
  deadline : Bool
  deriving DecidableEq, Repr

/-- The calls of the handlers. -/
inductive Call where
  /-- `redisClient.Get` of the response cache. -/
  | cacheGet (key : List UInt8)
  /-- `storeInCache` in a goroutine of its own. -/
  | goStoreInCache (key data : List UInt8)
  /-- `POST /verify`, with the correlation id of the request context. -/
  | verify (correlationID : Option (List UInt8)) (body : List UInt8)
  /-- `aiProvider.Generate`. -/
  | generate (text : List UInt8)
  /-- `uuid.New`. -/
  | newUUID
  /-- `rand.Read` of six bytes. -/
  | readRandom
  /-- `time.Now`. -/
  | now
  /-- `ctx.Err` of the request context. -/
  | contextErr
  /-- The assignment to the map of the receipt store in memory. -/
  | putReceipt (id : List UInt8) (receipt : SignedReceipt) (expiresAt : Int)
  /-- `client.Set` of the receipt store in Redis. -/
  | setReceipt (key data : List UInt8) (ttl : Int)
  /-- A header of the response. -/
  | header (name : String) (value : List UInt8)
  /-- A response with a JSON body. -/
  | json (status : Nat) (body : List UInt8)
  deriving DecidableEq

/-- The answers to a call. -/
abbrev Answer : Call → Type
  | .cacheGet _ => Option (List UInt8)
  | .goStoreInCache _ _ => Unit
  | .verify _ _ => VerifierAnswer
  | .generate _ => Except ProviderFailure (List UInt8)
  | .newUUID => Vector UInt8 16
  | .readRandom => Option (Vector UInt8 6)
  | .now => Time
  | .contextErr => Option String
  | .putReceipt _ _ _ => Unit
  | .setReceipt _ _ _ => Except String Unit
  | .header _ _ => Unit
  | .json _ _ => Unit

/-- The programs of the handlers. -/
abbrev Prog := Program Call Answer

/-- The calls of a handler, with their answers. -/
abbrev History := List (Program.Event Call Answer)

/-- Make a call. -/
def perform (c : Call) : Prog (Answer c) :=
  Program.perform c

/-! ### Requests and their contexts -/

/-- The body of a request: the bytes that are received, and whether reading then fails. -/
structure RequestBody where
  received : List UInt8
  broken : Bool
  deriving DecidableEq, Repr

/-- A request, with the headers the handlers read, empty if they are missing. -/
structure HttpRequest where
  path : List UInt8
  signature : List UInt8
  nonce : List UInt8
  timestamp : List UInt8
  correlationID : List UInt8
  contentLength : Int
  body : RequestBody
  deriving DecidableEq, Repr

/-- Why a body could not be read. -/
inductive BodyError where
  | tooLarge
  | failed
  deriving DecidableEq, Repr

/-- The most bytes of a body that are read. -/
def maxBodySize : Nat := 10 * 1024 * 1024

/-- `io.ReadAll` of a `http.MaxBytesReader`. -/
def RequestBody.readAll (b : RequestBody) : Except BodyError (List UInt8) :=
  if maxBodySize < b.received.length then .error .tooLarge
  else if b.broken then .error .failed
  else .ok b.received

/-- The `gin.Context` of a request: the keys the handlers set, the body that is left, whether
no handler is left to run, and the writer, with a copy of the body where `cachedWriter`
makes one. -/
structure Context where
  request : HttpRequest
  correlationID : Option (List UInt8)
  requestBody : Option (List UInt8)
  body : RequestBody
  finished : Bool
  status : Nat
  written : Bool
  captured : Option (List UInt8)

/-- The context of a request before the handlers run. -/
def Context.init (r : HttpRequest) : Context where
  request := r
  correlationID := none
  requestBody := none
  body := r.body
  finished := false
  status := 200
  written := false
  captured := none

/-- The context once no further handler is to run. -/
def Context.abort (c : Context) : Context :=
  { c with finished := true }

/-- A handler, given what `c.Next` runs. -/
abbrev Handler := (Context → Prog Context) → Context → Prog Context

/-- Run the handlers: each one is followed by the next, unless it has run the rest itself or
has aborted. -/
def runHandlers : List Handler → Context → Prog Context
  | [], c => pure c.abort
  | handler :: handlers, c => do
      let c ← handler (runHandlers handlers) c
      if c.finished then pure c else runHandlers handlers c

/-- `c.JSON`. -/
def Context.json (c : Context) (code : Nat) (value : Json (List UInt8)) : Prog Context := do
  let body := GoJson.marshal value
  perform (.json code body)
  pure {
    c with
    status := if c.written then c.status else code
    written := true
    captured := c.captured.map (· ++ body) }

/-- An object whose members are strings. -/
def textObject (members : List (String × List UInt8)) : Json (List UInt8) :=
  .obj (members.map fun m => (bytes m.1, .str m.2))

/-! ### Correlation ids and errors -/

/-- Whether an id may be used as it is. -/
def isSafeCorrelationID (id : List UInt8) : Bool :=
  id ≠ [] ∧ id.length ≤ 64
    ∧ (runes id).all fun r => r.all fun c => 0x20 ≤ c.toNat ∧ c.toNat ≠ 0x7F

/-- The id, or a fresh one if it may not be used. -/
def safeCorrelationID (id : List UInt8) : Prog (List UInt8) :=
  if isSafeCorrelationID id then pure id
  else do
    let random ← perform .newUUID
    pure (utf8 (uuidString random))

/-- Give the request a correlation id. -/
def correlationIDMiddleware : Handler := fun next c => do
  let id ← safeCorrelationID c.request.correlationID
  perform (.header "X-Correlation-ID" id)
  next { c with correlationID := some id }

/-- The correlation id for a response. -/
def responseCorrelationID (c : Context) : Prog (List UInt8) :=
  match c.correlationID.filter (· ≠ []) with
  | some id => safeCorrelationID id
  | none =>
      if c.request.correlationID ≠ [] then safeCorrelationID c.request.correlationID
      else pure (bytes "unknown")

/-- Answer with an error. -/
def respondError (c : Context) (code : Nat) (publicMsg : String) : Prog Context := do
  let correlationID ← responseCorrelationID c
  c.json code (textObject [("correlation_id", correlationID), ("error", bytes publicMsg)])

/-- Answer that the payment was rejected. -/
def respondVerificationFailure (c : Context) (r : VerifyResponse) : Prog Context :=
  respondError c (verifierFailureResponse r).1 (verifierFailureResponse r).2

/-- Answer that the body is too large. -/
def respondTooLarge (c : Context) : Prog Context :=
  c.json 413 (textObject [("error", bytes "Payload too large"), ("max_size", bytes "10MB")])

/-! ### Payment and receipt -/

/-- Where receipts are stored. -/
inductive ReceiptStoreMode where
  | memory
  | redis
  deriving DecidableEq, Repr

/-- What the handlers of all requests share: the environment, the package that signs,
whether there is a Redis client, and the active receipt store. -/
structure Settings where
  env : Env
  crypto : Crypto
  redisClient : Bool
  receiptStore : ReceiptStoreMode

/-- Ask the verifier. -/
def verifyPayment (s : Settings) (c : Context) (signature nonce : List UInt8) (timestamp : UInt64) :
    Prog (Except VerifyFailure (VerifyResponse × PaymentContext)) := do
  let request := verifyRequest s.env signature nonce timestamp
  let answer ← perform (.verify c.correlationID request.body)
  pure ((readAnswer answer).map fun r => (r, request.context))

/-- Answer that the verifier failed. -/
def respondVerifierError (c : Context) (e : VerifyFailure) : Prog Context :=
  if e.deadlineExceeded then respondError c 504 "verifier_timeout"
  else respondError c 502 "verification_unavailable"

/-- An integer of 64 bits that may have wrapped around. -/
def wrapInt64 (i : Int) : Int :=
  i.bmod (2 ^ 64)

/-- How long receipts are kept, in nanoseconds. -/
def getReceiptTTL (env : Env) : Int :=
  let ttlSeconds := getEnvAsInt env "RECEIPT_TTL" 86400
  wrapInt64 ((if ttlSeconds ≤ 0 then 86400 else ttlSeconds) * 1000000000)

/-- Make a receipt. -/
def makeReceipt (s : Settings) (payment : PaymentContext)
    (payer endpoint reqBody respBody : List UInt8) : Prog (Except ReceiptError SignedReceipt) := do
  let random ← perform .readRandom
  match random with
  | none => pure (.error .receiptID)
  | some b => do
      let now ← perform .now
      pure (generateReceipt s.crypto s.env (some b) now payment payer endpoint reqBody respBody)

/-- The check of a receipt and of the time it is to be kept before it is stored. -/
def checkStore (receipt : SignedReceipt) (ttl : Int) : Except String Unit := do
  validateReceipt receipt
  if ttl ≤ 0 then .error "receipt ttl must be positive" else .ok ()

/-- `InMemoryReceiptStore.Store`. -/
def storeInMemory (receipt : SignedReceipt) (ttl : Int) : Prog (Except String Unit) := do
  match ← perform .contextErr with
  | some e => pure (.error e)
  | none =>
      match checkStore receipt ttl with
      | .error e => pure (.error e)
      | .ok () => do
          let now ← perform .now
          perform (.putReceipt receipt.receipt.id receipt (now.unixNano + ttl))
          pure (.ok ())

/-- The key of a receipt in Redis. -/
def redisReceiptKey (id : List UInt8) : List UInt8 :=
  bytes "receipt:" ++ id

/-- `RedisReceiptStore.Store`. -/
def storeInRedis (receipt : SignedReceipt) (ttl : Int) : Prog (Except String Unit) :=
  match checkStore receipt ttl with
  | .error e => pure (.error e)
  | .ok () =>
      match receipt.json with
      | none => pure (.error "marshal receipt")
      | some v => perform (.setReceipt (redisReceiptKey receipt.receipt.id) (GoJson.marshal v) ttl)

/-- Store a receipt in the active store. -/
def storeReceiptWithContext (s : Settings) (receipt : SignedReceipt) (ttl : Int) :
    Prog (Except String Unit) :=
  match s.receiptStore with
  | .memory => storeInMemory receipt ttl
  | .redis => storeInRedis receipt ttl

/-- Make a receipt, store it, and send it with the result. -/
def generateAndSendReceipt (s : Settings) (c : Context) (paymentCtx : PaymentContext)
    (recoveredAddr requestBody aiResult : List UInt8) : Prog Context := do
  let responseMap := textObject [("result", aiResult)]
  let responseBody := GoJson.marshal responseMap
  match ← makeReceipt s paymentCtx recoveredAddr c.request.path requestBody responseBody with
  | .error _ => respondError c 500 "receipt_generation_failed"
  | .ok receipt =>
      match ← storeReceiptWithContext s receipt (getReceiptTTL s.env) with
      | .error _ => respondError c 500 "receipt_store_failed"
      | .ok () =>
          match receiptHeader receipt with
          | none => respondError c 500 "receipt_encoding_failed"
          | some receiptBase64 => do
              perform (.header "X-402-Receipt" (utf8 receiptBase64))
              c.json 200 responseMap

/-! ### The handler -/

/-- Read a string into the field of a struct that has no other. -/
def readTextField (name : String) (v : Json (List UInt8)) : Option (List UInt8) :=
  GoJson.readStruct [name] (fun _ v old => GoJson.setString v old) v []

/-- The text of a `SummarizeRequest`. -/
def readSummarizeRequest (body : List UInt8) : Option (List UInt8) :=
  (GoJson.unmarshal body).bind (readTextField "text")

/-- The body of the request, from the middleware or else read now. -/
def requestBodyOf (c : Context) : Except BodyError (List UInt8) :=
  match c.requestBody with
  | some body => .ok body
  | none => c.body.readAll

/-- Answer a request for a summary. -/
def handleSummarize (s : Settings) : Handler := fun _ c => do
  let signature := c.request.signature
  let nonce := c.request.nonce
  if signature = [] ∨ nonce = [] then do
    let random ← perform .newUUID
    let now ← perform .now
    c.json 402 (createPaymentContext s.env random now.unix).challenge
  else if c.request.timestamp = [] then respondError c 400 "invalid_timestamp"
  else
    match readTimestamp c.request.timestamp with
    | none => respondError c 400 "invalid_timestamp"
    | some timestamp =>
        match requestBodyOf c with
        | .error .tooLarge => respondTooLarge c
        | .error .failed => respondError c 500 "request_body_read_failed"
        | .ok requestBody => do
            match ← verifyPayment s c signature nonce timestamp with
            | .error e => respondVerifierError c e
            | .ok (verifyResp, paymentCtx) =>
                if verifyResp.isValid = false then respondVerificationFailure c verifyResp
                else if verifyResp.recoveredAddress = [] then
                  respondError c 502 "verification_unavailable"
                else
                  match readSummarizeRequest requestBody with
                  | none => c.json 400 (textObject [("error", bytes "Invalid request body")])
                  | some text =>
                      if text = [] then
                        c.json 400 (textObject [("error", bytes "Invalid request"),
                          ("message", bytes "text field cannot be empty")])
                      else do
                        match ← perform (.generate text) with
                        | .error e =>
                            if e.deadline then respondError c 504 "upstream_timeout"
                            else respondError c 502 "upstream_unavailable"
                        | .ok summary =>
                            generateAndSendReceipt s c paymentCtx verifyResp.recoveredAddress
                              requestBody summary

/-! ### The cache -/

/-- A response in the cache. -/
structure CachedResponse where
  result : List UInt8
  cachedAt : Int
  deriving DecidableEq, Repr

/-- An integer for a field. -/
def setInt64 (v : Json (List UInt8)) (old : Int) : Option Int :=
  match v with
  | .num l => atoi (utf8 l)
  | .null => some old
  | _ => none

/-- Set the field with a name. -/
def CachedResponse.set (name : String) (v : Json (List UInt8)) (r : CachedResponse) :
    Option CachedResponse :=
  match name with
  | "result" => (GoJson.setString v r.result).map fun s => { r with result := s }
  | "cached_at" => (setInt64 v r.cachedAt).map fun i => { r with cachedAt := i }
  | _ => some r

/-- Read a cached response. -/
def readCachedResponse (val : List UInt8) : Option CachedResponse :=
  (GoJson.unmarshal val).bind fun v =>
    GoJson.readStruct ["result", "cached_at"] CachedResponse.set v { result := [], cachedAt := 0 }

/-- The response in the cache, if there is one. -/
def getFromCache (key : List UInt8) : Prog (Option CachedResponse) := do
  let val ← perform (.cacheGet key)
  pure (val.bind readCachedResponse)

/-- The key of a text and a model. -/
def getCacheKey (text model : List UInt8) : List UInt8 :=
  bytes "ai:summary:"
    ++ utf8 (hexEncode (Sha256.sum256 (bytes "v1" ++ bytes ":" ++ text ++ bytes ":" ++ model)))

/-- The model of the active provider. -/
def getModel (env : Env) : List UInt8 :=
  if env "AI_PROVIDER" = bytes "ollama" then
    if env "OLLAMA_MODEL" = [] then bytes "llama2" else env "OLLAMA_MODEL"
  else if env "OPENROUTER_MODEL" = [] then bytes "z-ai/glm-4.5-air:free"
  else env "OPENROUTER_MODEL"

/-- The result in the body of a response, if it is an object with one that is a string. -/
def resultOf (body : List UInt8) : Option (List UInt8) :=
  match GoJson.unmarshal body with
  | some (.obj members) =>
      match members.reverse.find? fun m => m.1 = bytes "result" with
      | some (_, .str result) => some result
      | _ => none
  | _ => none

/-- Put the result of a response of status 200 into the cache. -/
def storeResult (c : Context) (cacheKey : List UInt8) : Prog Context :=
  match (if c.status = 200 then c.captured.bind resultOf else none) with
  | some result => do
      perform (.goStoreInCache cacheKey result)
      pure c
  | none => pure c

/-- What is done with a cached result: the payment is verified before it is served. -/
def serveCached (s : Settings) (c : Context) (requestBody : List UInt8) (cached : CachedResponse) :
    Prog Context :=
  if c.request.timestamp = [] then respondError c 400 "invalid_timestamp"
  else
    match readTimestamp c.request.timestamp with
    | none => respondError c 400 "invalid_timestamp"
    | some timestamp => do
        match ← verifyPayment s c c.request.signature c.request.nonce timestamp with
        | .error e => respondVerifierError c e
        | .ok (verifyResp, paymentCtx) =>
            if verifyResp.isValid = false then respondVerificationFailure c verifyResp
            else if verifyResp.recoveredAddress = [] then
              respondError c 502 "verification_unavailable"
            else
              generateAndSendReceipt s c paymentCtx verifyResp.recoveredAddress requestBody
                cached.result

/-- Answer from the cache if the text has been summarized before, and else put the response
into the cache. -/
def cacheMiddleware (s : Settings) : Handler := fun next c =>
  if s.redisClient = false then next c
  else if c.request.signature = [] ∨ c.request.nonce = [] then next c
  else if (maxBodySize : Int) < c.request.contentLength then do
    perform (.header "Connection" (bytes "close"))
    let c ← respondTooLarge c
    pure c.abort
  else
    match c.body.readAll with
    | .error .tooLarge => do
        perform (.header "Connection" (bytes "close"))
        let c ← respondTooLarge c
        pure c.abort
    | .error .failed => do
        let c ← respondError c 500 "request_body_read_failed"
        pure c.abort
    | .ok requestBody => do
        let c := {
          c with
          requestBody := some requestBody
          body := { received := requestBody, broken := false } }
        match readSummarizeRequest requestBody with
        | none => do
            let c ← c.json 400 (textObject [("error", bytes "Invalid request body"),
              ("message", bytes "Request must be valid JSON")])
            pure c.abort
        | some text =>
            if text = [] then do
              let c ← c.json 400 (textObject [("error", bytes "Invalid request"),
                ("message", bytes "text field cannot be empty")])
              pure c.abort
            else do
              let cacheKey := getCacheKey text (getModel s.env)
              match ← getFromCache cacheKey with
              | some cached => do
                  let c ← serveCached s c requestBody cached
                  pure c.abort
              | none => do
                  let c ← next { c with captured := some [] }
                  storeResult c cacheKey

/-! ### The route -/

/-- Whether responses are cached. -/
def getCacheEnabled (env : Env) : Bool :=
  let enabled := (latin1 (env "CACHE_ENABLED")).map Char.toLower
  enabled = "true".toList || enabled = "1".toList

/-- The handlers of the route. -/
def summarizeHandlers (s : Settings) : List Handler :=
  if getCacheEnabled s.env then
    [correlationIDMiddleware, cacheMiddleware s, handleSummarize s]
  else [correlationIDMiddleware, handleSummarize s]

/-- What is done with a request. -/
def summarize (s : Settings) (r : HttpRequest) : Prog Context :=
  runHandlers (summarizeHandlers s) (.init r)

end Paygate.Gateway
