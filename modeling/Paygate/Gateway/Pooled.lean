import Paygate.Base.Machine
import Paygate.Gateway.Summarize
import Paygate.Gateway.Writer

/-!
# Handlers on a pooled Context

`CacheMiddleware` and `handleSummarize` as the goroutine of a request timeout runs them.
The `gin.Context` is an object that the server takes from a pool: a handler looks up the
request, the keys and the writer in it each time it uses them, and `c.Next` counts in it the
handlers that have been started.  When a request is answered, by its handlers or because its
deadline has passed, its Context goes back to the pool and may be handed to another request
while the goroutine still runs.

The handlers share one cache.  Stores are made by goroutines of their own and end in any
order, and entries expire at any time.
-/

namespace Paygate.Gateway.Pooled

open Text Json Program

/-! ### Contexts and calls -/

/-- A writer: the buffer of a request, or a `cachedWriter` around another writer, named by the
goroutine that made it and its number there. -/
inductive Writer where
  | buffer (r : Nat)
  | cached (r n : Nat) (inner : Writer)
  deriving DecidableEq, Repr

/-- The `gin.Context`: the request and what is left of its body, the keys the handlers set,
the handlers that have been started, and the writer. -/
structure Context where
  request : HttpRequest
  correlationID : Option (List UInt8)
  requestBody : Option (List UInt8)
  body : RequestBody
  index : Nat
  writer : Writer

/-- The Context of request `r` when the innermost timeout starts the handlers. -/
def Context.init (r : Nat) (request : HttpRequest) (correlationID : List UInt8) : Context where
  request := request
  correlationID := some correlationID
  requestBody := none
  body := request.body
  index := 0
  writer := .buffer r

/-- What a function that only reads the Context finds in it. -/
def Context.view (c : Context) : Gateway.Context :=
  { Gateway.Context.init c.request with
    correlationID := c.correlationID
    requestBody := c.requestBody
    body := c.body }

/-- The calls of the handlers. -/
inductive ContextCall where
  /-- A call that does not change the Context. -/
  | world (c : Call)
  /-- Look up the fields of the Context. -/
  | lookup
  /-- Assign to fields of the Context. -/
  | update (f : Context → Context)
  /-- Put a `cachedWriter` around the writer. -/
  | wrapWriter
  /-- `c.JSON`. -/
  | json (status : Nat) (body : List UInt8)
  /-- The status and the copied body of a `cachedWriter`. -/
  | inspect (w : Writer)
  /-- `c.Next`. -/
  | next

/-- The answers to a call. -/
abbrev ContextAnswer : ContextCall → Type
  | .world c => Answer c
  | .lookup => Context
  | .update _ => Unit
  | .wrapWriter => Writer
  | .json _ _ => Unit
  | .inspect _ => Nat × List UInt8
  | .next => Unit

/-- The programs of the handlers. -/
abbrev Code := Program ContextCall ContextAnswer

/-- A program that does not change the Context. -/
def lift {α : Type} : Prog α → Code α
  | .done a => .done a
  | .call c k => .call (.world c) fun x => lift (k x)

/-- Make a call. -/
def ask (c : ContextCall) : Code (ContextAnswer c) :=
  Program.perform c

/-- Look up the Context. -/
def lookup : Code Context :=
  ask .lookup

/-- Assign to the Context. -/
def update (f : Context → Context) : Code Unit :=
  ask (.update f)

/-- Run no further handler. -/
def abort : Code Unit :=
  update fun c => { c with index := 63 }

/-- `c.JSON`. -/
def json (code : Nat) (value : Json (List UInt8)) : Code Unit :=
  ask (.json code (GoJson.marshal value))

/-! ### Responses -/

/-- Answer with an error. -/
def respondError (code : Nat) (publicMsg : String) : Code Unit := do
  let c ← lookup
  let correlationID ← lift (responseCorrelationID c.view)
  json code (textObject [("correlation_id", correlationID), ("error", bytes publicMsg)])

/-- Answer that the payment was rejected. -/
def respondVerificationFailure (r : VerifyResponse) : Code Unit :=
  respondError (verifierFailureResponse r).1 (verifierFailureResponse r).2

/-- Answer that the body is too large. -/
def respondTooLarge : Code Unit :=
  json 413 (textObject [("error", bytes "Payload too large"), ("max_size", bytes "10MB")])

/-- Answer that the verifier failed. -/
def respondVerifierError (e : VerifyFailure) : Code Unit :=
  if e.deadlineExceeded then respondError 504 "verifier_timeout"
  else respondError 502 "verification_unavailable"

/-- Ask the verifier. -/
def verifyPayment (s : Settings) (signature nonce : List UInt8) (timestamp : UInt64) :
    Code (Except VerifyFailure (VerifyResponse × PaymentContext)) := do
  let c ← lookup
  lift (Gateway.verifyPayment s c.view signature nonce timestamp)

/-- The response to a request that is served. -/
def resultBody (result : List UInt8) : List UInt8 :=
  GoJson.marshal (textObject [("result", result)])

/-- Make a receipt, store it, and send it with the result. -/
def generateAndSendReceipt (s : Settings) (paymentCtx : PaymentContext)
    (recoveredAddr requestBody aiResult : List UInt8) : Code Unit := do
  let c ← lookup
  match ← lift (makeReceipt s paymentCtx recoveredAddr c.request.path requestBody
      (resultBody aiResult)) with
  | .error _ => respondError 500 "receipt_generation_failed"
  | .ok receipt =>
      match ← lift (storeReceiptWithContext s receipt (getReceiptTTL s.env)) with
      | .error _ => respondError 500 "receipt_store_failed"
      | .ok () =>
          match receiptHeader receipt with
          | none => respondError 500 "receipt_encoding_failed"
          | some receiptBase64 => do
              lift (perform (.header "X-402-Receipt" (utf8 receiptBase64)))
              json 200 (textObject [("result", aiResult)])

/-! ### The handlers -/

/-- Read the body of the request, which can be done once. -/
def readBody : Code (Except BodyError (List UInt8)) := do
  let c ← lookup
  update fun c => { c with body := { c.body with received := [] } }
  pure c.body.readAll

/-- The body of the request, from the middleware or else read now. -/
def requestBodyOf : Code (Except BodyError (List UInt8)) := do
  let c ← lookup
  match c.requestBody with
  | some body => pure (.ok body)
  | none => readBody

/-- Answer a request for a summary. -/
def handleSummarize (s : Settings) : Code Unit := do
  let c ← lookup
  let signature := c.request.signature
  let nonce := c.request.nonce
  if signature = [] ∨ nonce = [] then do
    let random ← lift (perform .newUUID)
    let now ← lift (perform .now)
    json 402 (createPaymentContext s.env random now.unix).challenge
  else if c.request.timestamp = [] then respondError 400 "invalid_timestamp"
  else
    match readTimestamp c.request.timestamp with
    | none => respondError 400 "invalid_timestamp"
    | some timestamp => do
        match ← requestBodyOf with
        | .error .tooLarge => respondTooLarge
        | .error .failed => respondError 500 "request_body_read_failed"
        | .ok requestBody => do
            match ← verifyPayment s signature nonce timestamp with
            | .error e => respondVerifierError e
            | .ok (verifyResp, paymentCtx) =>
                if verifyResp.isValid = false then respondVerificationFailure verifyResp
                else if verifyResp.recoveredAddress = [] then
                  respondError 502 "verification_unavailable"
                else
                  match readSummarizeRequest requestBody with
                  | none => json 400 (textObject [("error", bytes "Invalid request body")])
                  | some text =>
                      if text = [] then
                        json 400 (textObject [("error", bytes "Invalid request"),
                          ("message", bytes "text field cannot be empty")])
                      else do
                        match ← lift (perform (.generate text)) with
                        | .error e =>
                            if e.deadline then respondError 504 "upstream_timeout"
                            else respondError 502 "upstream_unavailable"
                        | .ok summary =>
                            generateAndSendReceipt s paymentCtx verifyResp.recoveredAddress
                              requestBody summary

/-- What is done with a cached result: the payment is verified before it is served. -/
def serveCached (s : Settings) (signature nonce requestBody : List UInt8) (cached : CachedResponse) :
    Code Unit := do
  let c ← lookup
  if c.request.timestamp = [] then respondError 400 "invalid_timestamp"
  else
    match readTimestamp c.request.timestamp with
    | none => respondError 400 "invalid_timestamp"
    | some timestamp => do
        match ← verifyPayment s signature nonce timestamp with
        | .error e => respondVerifierError e
        | .ok (verifyResp, paymentCtx) =>
            if verifyResp.isValid = false then respondVerificationFailure verifyResp
            else if verifyResp.recoveredAddress = [] then
              respondError 502 "verification_unavailable"
            else
              generateAndSendReceipt s paymentCtx verifyResp.recoveredAddress requestBody
                cached.result

/-- Put the result of a response of status 200 into the cache. -/
def storeResult (cacheKey : List UInt8) (statusCode : Nat) (bodyBytes : List UInt8) : Code Unit :=
  match (if statusCode = 200 then resultOf bodyBytes else none) with
  | some result => lift (perform (.goStoreInCache cacheKey result))
  | none => pure ()

/-- Run the handler with a copy of the body made, and store its result. -/
def captureResult (cacheKey : List UInt8) : Code Unit := do
  let writer ← ask .wrapWriter
  ask .next
  let response ← ask (.inspect writer)
  storeResult cacheKey response.1 response.2

/-- Answer from the cache if the text has been summarized before, and else put the response
into the cache. -/
def cacheMiddleware (s : Settings) : Code Unit :=
  if s.redisClient = false then ask .next
  else do
    let c ← lookup
    let signature := c.request.signature
    let nonce := c.request.nonce
    if signature = [] ∨ nonce = [] then ask .next
    else if (maxBodySize : Int) < c.request.contentLength then do
      lift (perform (.header "Connection" (bytes "close")))
      respondTooLarge
      abort
    else
      match ← readBody with
      | .error .tooLarge => do
          lift (perform (.header "Connection" (bytes "close")))
          respondTooLarge
          abort
      | .error .failed => do
          respondError 500 "request_body_read_failed"
          abort
      | .ok requestBody => do
          update fun c => {
            c with
            requestBody := some requestBody
            body := { received := requestBody, broken := false } }
          match readSummarizeRequest requestBody with
          | none => do
              json 400 (textObject [("error", bytes "Invalid request body"),
                ("message", bytes "Request must be valid JSON")])
              abort
          | some text =>
              if text = [] then do
                json 400 (textObject [("error", bytes "Invalid request"),
                  ("message", bytes "text field cannot be empty")])
                abort
              else do
                let cacheKey := getCacheKey text (getModel s.env)
                match ← lift (getFromCache cacheKey) with
                | some cached => do
                    serveCached s signature nonce requestBody cached
                    abort
                | none => captureResult cacheKey

/-- The handlers after the innermost timeout. -/
def handlers (s : Settings) : List (Code Unit) :=
  if getCacheEnabled s.env then [cacheMiddleware s, handleSummarize s] else [handleSummarize s]

/-! ### The server -/

/-- The goroutine that runs the handlers of a request: its request and Context, the handlers
it is in, the innermost one first, its buffer, the bodies its `cachedWriter`s have copied,
whether the context of the request is done, and whether the server is done with the
request. -/
structure Goroutine where
  request : HttpRequest
  context : Nat
  frames : List (Code Unit)
  buffer : BufferedWriter
  captured : List (List UInt8)
  deadlinePassed : Bool
  served : Bool

/-- The goroutine of a request that has just arrived. -/
def Goroutine.init (request : HttpRequest) (context : Nat) : Goroutine where
  request := request
  context := context
  frames := [ask .next]
  buffer := newBufferedWriter
  captured := []
  deadlinePassed := false
  served := false

/-- The goroutines, one for each request, the Contexts, the calls of all handlers with their
answers, the latest first, the entries of the cache, and the stores that have not ended. -/
structure Server where
  goroutines : List Goroutine
  contexts : Nat → Option Context
  log : List (Nat × Event Call Answer)
  cache : List UInt8 → Option (List UInt8)
  stores : List (List UInt8 × List UInt8)

namespace Server

/-- The start: no request, and an empty cache. -/
def init : Server where
  goroutines := []
  contexts := fun _ => none
  log := []
  cache := fun _ => none
  stores := []

/-- The calls of one request. -/
def history (w : Server) (i : Nat) : History :=
  (w.log.filter fun x => x.1 = i).map Prod.snd

/-- Replace a goroutine. -/
def setGoroutine (w : Server) (i : Nat) (g : Goroutine) : Server :=
  { w with goroutines := w.goroutines.set i g }

/-- Replace a Context. -/
def setContext (w : Server) (c : Nat) (ctx : Context) : Server :=
  { w with contexts := Function.update w.contexts c (some ctx) }

/-- Write a response of the handler of request `author`.  A `cachedWriter` copies the body
before it passes the response on. -/
def write (author status : Nat) (body : List UInt8) : Writer → Server → Server
  | .buffer r, w => { w with
      goroutines := w.goroutines.modify r fun g => { g with
        buffer := (g.buffer.apply ((HandlerWrite.writeHeader status).tag author)).apply
          ((HandlerWrite.write body).tag author) } }
  | .cached r n inner, w => write author status body inner { w with
      goroutines := w.goroutines.modify r fun g => { g with
        captured := g.captured.modify n (· ++ body) } }

/-- The status of a writer is that of the buffer it writes to. -/
def status (w : Server) : Writer → Nat
  | .buffer r => (w.goroutines[r]?.map fun g => g.buffer.Status.val).getD 200
  | .cached _ _ inner => w.status inner

/-- The body a `cachedWriter` has copied. -/
def copied (w : Server) : Writer → List UInt8
  | .buffer _ => []
  | .cached r n _ => (w.goroutines[r]?.bind fun g => g.captured[n]?).getD []

/-- A step of the goroutine of a request that is not a call to the world around it. -/
def advance (s : Settings) (w : Server) (i : Nat) : Option Server := do
  let g ← w.goroutines[i]?
  let ctx ← w.contexts g.context
  match g.frames with
  | [] => none
  | .done _ :: rest => some (w.setGoroutine i { g with frames := rest })
  | .call (.world _) _ :: _ => none
  | .call .lookup k :: rest => some (w.setGoroutine i { g with frames := k ctx :: rest })
  | .call (.update f) k :: rest =>
      some ((w.setGoroutine i { g with frames := k () :: rest }).setContext g.context (f ctx))
  | .call .wrapWriter k :: rest =>
      let writer := .cached i g.captured.length ctx.writer
      some ((w.setGoroutine i { g with
        frames := k writer :: rest
        captured := g.captured ++ [[]] }).setContext g.context { ctx with writer := writer })
  | .call (.json status body) k :: rest =>
      some { (w.setGoroutine i { g with frames := k () :: rest }).write i status body ctx.writer with
        log := (i, ⟨.json status body, ()⟩) :: w.log }
  | .call (.inspect writer) k :: rest =>
      some (w.setGoroutine i { g with frames := k (w.status writer, w.copied writer) :: rest })
  | .call .next k :: rest =>
      let frames :=
        match (handlers s)[ctx.index]? with
        | some handler => handler :: .call .next k :: rest
        | none => k () :: rest
      some ((w.setGoroutine i { g with frames := frames }).setContext g.context
        { ctx with index := ctx.index + 1 })

end Server

/-- The value `storeInCache` stores. -/
def cachedValue (data : List UInt8) (now : Int) : List UInt8 :=
  GoJson.marshal (.obj [(bytes "result", .str data), (bytes "cached_at", .num (decimalInt now))])

/-- The steps: a request arrives at its innermost timeout with a Context from the pool; its
goroutine makes a step, or a call that is answered, or is unwound by a panic; the context of
a request is done; its innermost timeout discards the response; the server is done with it
and puts its Context back; a store ends, or fails; an entry expires. -/
inductive PoolStep where
  | accept (c : Nat) (request : HttpRequest) (correlationID : List UInt8)
  | advance (i : Nat)
  | answer (i : Nat) (world : (c : Call) → Answer c)
  | panic (i : Nat)
  | deadline (i : Nat)
  | discard (i : Nat)
  | serveReturn (i : Nat)
  | store (n : Nat) (now : Int)
  | storeFailed (n : Nat)
  | evict (key : List UInt8)

/-- What is answered to a call: a lookup in the cache finds the entry, or fails. -/
def Server.answerTo (w : Server) (world : (c : Call) → Answer c) : (c : Call) → Answer c
  | .cacheGet key => (world (.cacheGet key)).bind fun _ => w.cache key
  | c => world c

/-- The stores that are started by a call. -/
def startedStores : Call → List (List UInt8 × List UInt8)
  | .goStoreInCache key data => [(key, data)]
  | _ => []

/-- The steps of the server. -/
def pool (s : Settings) : Machine Server PoolStep where
  step w
    | .accept c request correlationID =>
        if w.goroutines.all fun g => g.context ≠ c || g.served then
          some ({ w with goroutines := w.goroutines ++ [Goroutine.init request c] }.setContext c
            (Context.init w.goroutines.length request correlationID))
        else none
    | .advance i => w.advance s i
    | .answer i world => do
        let g ← w.goroutines[i]?
        match g.frames with
        | .call (.world c) k :: rest =>
            let x := w.answerTo world c
            some { w.setGoroutine i { g with frames := k x :: rest } with
              log := (i, ⟨c, x⟩) :: w.log
              stores := startedStores c ++ w.stores }
        | _ => none
    | .panic i => do
        let g ← w.goroutines[i]?
        some (w.setGoroutine i { g with frames := [] })
    | .deadline i => do
        let g ← w.goroutines[i]?
        some (w.setGoroutine i { g with deadlinePassed := true })
    | .discard i => do
        let g ← w.goroutines[i]?
        if g.deadlinePassed then
          some (w.setGoroutine i { g with
            buffer := { g.buffer with status := timeoutStatus, closed := true } })
        else none
    | .serveReturn i => do
        let g ← w.goroutines[i]?
        if g.deadlinePassed ∨ g.frames.isEmpty then
          some (w.setGoroutine i { g with served := true })
        else none
    | .store n now => do
        let (key, data) ← w.stores[n]?
        if -2 ^ 63 ≤ now ∧ now < 2 ^ 63 then
          some { w with
            cache := Function.update w.cache key (some (cachedValue data now))
            stores := w.stores.eraseIdx n }
        else none
    | .storeFailed n => some { w with stores := w.stores.eraseIdx n }
    | .evict key => some { w with cache := Function.update w.cache key none }

end Paygate.Gateway.Pooled
