import Paygate.Base.Machine
import Paygate.Gateway.Writer

/-!
# The request timeout

`RequestTimeoutMiddleware`, nested any number of times, under requests that run at the same
time.  A layer puts a buffer in place of the writer it finds in the gin Context, runs the
rest of the chain in a goroutine of its own and waits for one of three events: the rest of
the chain has finished, it has panicked, or the layer's deadline has passed.  A handler
looks up the writer in the Context each time it writes, and when the server is done with a
request its Context may be handed to another one.

Each layer runs the rest of the chain on its own goroutine only.  Left out is what gin's loop over
the handlers can do besides: its index is shared by the goroutines, so that when a layer has
returned on its deadline before its goroutine went on with the chain, the goroutine that the layer
runs on goes on with it, while the Context still holds the closed buffer of the layer.

If no Context is handed out while goroutines of its last holder still run, every request
is isolated: its client receives the complete response of its own handler, or the fixed
timeout response, or nothing when the handler panics.
-/

namespace Paygate.Gateway

/-! ### Requests and their layers -/

/-- The writer at a level of a request: the client's own writer at level `0`, and at level
`i + 1` the buffer of layer `i`. -/
structure WriterRef where
  request : Nat
  level : Nat
  deriving DecidableEq, Repr

/-- Where a layer is: not entered yet, waiting for one of its events, writing the answer it
chose to the writer it found (and done when nothing remains to be written), or unwound by
a panic. -/
inductive Phase where
  | outside
  | waiting
  | leaving (rest : List WriterOp)
  | panicked
  deriving DecidableEq, Repr

/-- A layer: the writer it found, its buffer, the deadline of its context, and whether it
cancels the context when it returns. -/
structure Layer where
  orig : WriterRef
  bw : BufferedWriter
  deadline : Int
  cancels : Bool
  phase : Phase
  deriving DecidableEq, Repr

/-- A layer before it is entered. -/
def Layer.init : Layer where
  orig := ⟨0, 0⟩
  bw := newBufferedWriter
  deadline := 0
  cancels := false
  phase := .outside

/-- The layer has returned or was unwound. -/
def Layer.left (l : Layer) : Bool :=
  l.phase = .leaving [] ∨ l.phase = .panicked

/-- Where the handler is. -/
inductive HandlerPhase where
  | running
  | finished
  | panicked
  deriving DecidableEq, Repr

/-- A request: its Context, the timeouts of its layers from the outside in, the layers
entered so far, the handler with the writes it has made, whether the client went away, what
the client's writer was asked to do and whether the server is done with it. -/
structure Request where
  context : Nat
  timeouts : List Int
  entered : Nat
  layer : Nat → Layer
  handler : HandlerPhase
  written : List HandlerWrite
  cancelled : Bool
  out : List WriterOp
  served : Bool

namespace Request

/-- The number of layers. -/
def depth (req : Request) : Nat :=
  req.timeouts.length

/-- A request that has just arrived. -/
def init (context : Nat) (timeouts : List Int) : Request where
  context := context
  timeouts := timeouts
  entered := 0
  layer := fun _ => .init
  handler := .running
  written := []
  cancelled := false
  out := []
  served := false

/-- Replace a layer. -/
def setLayer (req : Request) (j : Nat) (l : Layer) : Request :=
  { req with layer := Function.update req.layer j l }

/-- The writer at a level receives an operation. -/
def receive (req : Request) : Nat → WriterOp → Request
  | 0, op => { req with out := req.out ++ [op] }
  | i + 1, op => req.setLayer i { req.layer i with bw := (req.layer i).bw.apply op }

/-- What a layer runs has finished: the next layer has returned, or the handler has. -/
def innerFinished (req : Request) (j : Nat) : Bool :=
  if j + 1 < req.depth then (req.layer (j + 1)).phase = .leaving [] else req.handler = .finished

/-- What a layer runs has panicked. -/
def innerPanicked (req : Request) (j : Nat) : Bool :=
  if j + 1 < req.depth then (req.layer (j + 1)).phase = .panicked else req.handler = .panicked

/-- The context of a layer is done: the client went away, the deadline has passed, or an
outer layer has cancelled a context it is derived from. -/
def done (req : Request) (now : Int) (j : Nat) : Bool :=
  req.cancelled || decide ((req.layer j).deadline ≤ now)
    || (List.range j).any fun i => (req.layer i).cancels && (req.layer i).left

/-- No goroutine of the request is left that could write. -/
def Quiet (req : Request) : Prop :=
  req.handler ≠ .running ∧ ∀ j < req.depth, (req.layer j).left = true

instance (req : Request) : Decidable req.Quiet :=
  inferInstanceAs (Decidable (_ ∧ _))

end Request

/-- The deadline of the context a layer derives from the one it finds, and whether it is a
new context that the layer cancels. -/
def layerDeadline (now timeout : Int) (parent : Option Int) : Int × Bool :=
  if timeout ≤ 0 then
    match parent with
    | some d => (min d (now + timeout), true)
    | none => (now + timeout, true)
  else
    match parent with
    | some d => if d < now + timeout then (d, false) else (now + timeout, true)
    | none => (now + timeout, true)

/-! ### The server -/

/-- A gin Context: the writer it holds, the request it was last handed to, and whether the
server is still serving that request. -/
structure GinContext where
  writer : WriterRef
  holder : Nat
  inUse : Bool
  deriving DecidableEq, Repr

/-- The clock, the requests and the Contexts. -/
structure Server where
  now : Int
  requests : Nat → Option Request
  contexts : Nat → Option GinContext

namespace Server

/-- The server before the first request. -/
def init (now : Int) : Server where
  now := now
  requests := fun _ => none
  contexts := fun _ => none

/-- Replace a request. -/
def setRequest (s : Server) (r : Nat) (req : Request) : Server :=
  { s with requests := Function.update s.requests r (some req) }

/-- Replace a Context. -/
def setContext (s : Server) (c : Nat) (ctx : GinContext) : Server :=
  { s with contexts := Function.update s.contexts c (some ctx) }

/-- A writer receives an operation. -/
def deliver (s : Server) (ref : WriterRef) (op : WriterOp) : Server :=
  match s.requests ref.request with
  | some req => s.setRequest ref.request (req.receive ref.level op)
  | none => s

end Server

/-- The steps: time passes, a request arrives and is given a Context, its client goes away,
it enters its next layer, its handler writes, finishes or panics, a layer picks one of its
events, a layer writes the next part of its answer, or the server is done with a request. -/
inductive TimeoutStep where
  | tick (nanos : Nat)
  | accept (r c : Nat) (timeouts : List Int)
  | cancel (r : Nat)
  | enter (r : Nat)
  | handlerWrite (r : Nat) (w : HandlerWrite)
  | handlerFinish (r : Nat)
  | handlerPanic (r : Nat)
  | selectFinished (r j : Nat) (order : Header)
  | selectPanic (r j : Nat)
  | selectDone (r j : Nat)
  | layerWrite (r j : Nat)
  | serveReturn (r : Nat)
  deriving DecidableEq, Repr

/-- A handler runs once all layers are entered and until it finishes or panics. -/
def Request.handlerRuns (req : Request) : Bool :=
  req.entered = req.depth ∧ req.handler = .running

/-- The steps of the server. -/
def requestTimeoutMiddleware : Machine Server TimeoutStep where
  step s
    | .tick nanos => some { s with now := s.now + nanos }
    | .accept r c timeouts =>
        if (s.requests r).isNone ∧ timeouts ≠ [] ∧ (s.contexts c).all (fun ctx => !ctx.inUse) then
          some ((s.setRequest r (.init c timeouts)).setContext c
            { writer := ⟨r, 0⟩, holder := r, inUse := true })
        else none
    | .cancel r => do
        let req ← s.requests r
        some (s.setRequest r { req with cancelled := true })
    | .enter r => do
        let req ← s.requests r
        let timeout ← req.timeouts[req.entered]?
        let ctx ← s.contexts req.context
        let parent :=
          if req.entered = 0 then none else some (req.layer (req.entered - 1)).deadline
        let d := layerDeadline s.now timeout parent
        let layer := {
          orig := ctx.writer
          bw := newBufferedWriter
          deadline := d.1
          cancels := d.2
          phase := .waiting }
        some ((s.setRequest r
          { req.setLayer req.entered layer with entered := req.entered + 1 }).setContext
            req.context { ctx with writer := ⟨r, req.entered + 1⟩ })
    | .handlerWrite r w => do
        let req ← s.requests r
        let ctx ← s.contexts req.context
        if req.handlerRuns then
          some ((s.setRequest r { req with written := req.written ++ [w] }).deliver
            ctx.writer (w.tag r))
        else none
    | .handlerFinish r => do
        let req ← s.requests r
        if req.handlerRuns then some (s.setRequest r { req with handler := .finished }) else none
    | .handlerPanic r => do
        let req ← s.requests r
        if req.handlerRuns then some (s.setRequest r { req with handler := .panicked }) else none
    | .selectFinished r j order => do
        let req ← s.requests r
        let l := req.layer j
        if j < req.depth ∧ l.phase = .waiting ∧ req.innerFinished j ∧ SameHeader order l.bw.head then
          some (s.setRequest r (req.setLayer j { l with phase := .leaving (l.bw.flushTo order) }))
        else none
    | .selectPanic r j => do
        let req ← s.requests r
        let ctx ← s.contexts req.context
        let l := req.layer j
        if j < req.depth ∧ l.phase = .waiting ∧ req.innerPanicked j then
          some ((s.setRequest r (req.setLayer j { l with phase := .panicked })).setContext
            req.context { ctx with writer := l.orig })
        else none
    | .selectDone r j => do
        let req ← s.requests r
        let l := req.layer j
        if j < req.depth ∧ l.phase = .waiting ∧ req.done s.now j then
          some (s.setRequest r (req.setLayer j {
            l with
            bw := { l.bw with status := timeoutStatus, closed := true }
            phase := .leaving timeoutWrites }))
        else none
    | .layerWrite r j => do
        let req ← s.requests r
        let l := req.layer j
        match l.phase with
        | .leaving (op :: rest) =>
            some ((s.setRequest r (req.setLayer j { l with phase := .leaving rest })).deliver
              l.orig op)
        | _ => none
    | .serveReturn r => do
        let req ← s.requests r
        let ctx ← s.contexts req.context
        if (req.layer 0).left ∧ req.served = false then
          some ((s.setRequest r { req with served := true }).setContext req.context
            { ctx with inUse := false })
        else none

end Paygate.Gateway
