import Mathlib.Logic.Function.Basic
import Paygate.Base.Interaction
import Paygate.Base.Machine
import Paygate.Web.Errors

/-!
# The payment flow of the web client

The hook that sends a text to be summarised, pays for it when it is challenged, and shows how far
it has come.  Each call of `submit` is a run: a program that makes its own changes to the state of
the hook, reads what the browser has at the moment, and awaits what takes time.  While it awaits,
other runs go on, a timer may fire, and the user may submit another text or reset the hook.
-/

namespace Paygate.Web

open Text Json Program

namespace UseX402

/-! ### The state of the hook -/

/-- How far the flow has come. -/
inductive X402Step where
  | idle
  | request
  | challenge
  | sign
  | verify
  | ai
  | receipt
  | done
  | error
  deriving DecidableEq, Repr

/-- The state that is shown. -/
structure UseX402State where
  step : X402Step
  summary : Option (Json (List UInt16))
  receipt : Option (Json (List UInt16))
  error : Option ClassifiedError
  isRunning : Bool

/-- The state before anything is submitted. -/
def INITIAL_STATE : UseX402State where
  step := .idle
  summary := none
  receipt := none
  error := none
  isRunning := false

/-- The fields of the state that are changed. -/
structure Patch where
  step : Option X402Step := none
  summary : Option (Option (Json (List UInt16))) := none
  receipt : Option (Option (Json (List UInt16))) := none
  error : Option (Option ClassifiedError) := none
  isRunning : Option Bool := none

/-- The state with some fields changed. -/
def UseX402State.patch (prev : UseX402State) (p : Patch) : UseX402State where
  step := p.step.getD prev.step
  summary := p.summary.getD prev.summary
  receipt := p.receipt.getD prev.receipt
  error := p.error.getD prev.error
  isRunning := p.isRunning.getD prev.isRunning

/-! ### What a run asks for -/

/-- A response: its status and its headers. -/
structure Response where
  status : Nat
  headers : String → Option (List Char)

/-- Whether the status is one of success. -/
def Response.ok (res : Response) : Bool :=
  200 ≤ res.status && res.status ≤ 299

/-- The headers of a request, with values that may be missing. -/
abbrev Headers := List (String × Option (Json (List UInt16)))

/-- What a run does to the hook: it changes the state, sets and clears its timer, and asks whether
it is still the current run. -/
inductive LocalCall where
  | update (patch : Patch)
  | setTimeout
  | clearTimeout
  | isCurrent

/-- What it is answered. -/
abbrev LocalAnswer : LocalCall → Type
  | .update _ | .setTimeout | .clearTimeout => Unit
  | .isCurrent => Bool

/-- What a run reads of the browser, or asks it to do at once. -/
inductive ReadCall where
  | hasWallet
  | getProvider
  | newBrowserProvider
  | saveReceipt (receipt : Json (List UInt16)) (promptPreview : List UInt16)
  | typeError

/-- What it is answered; for a type error, the value the browser throws. -/
abbrev ReadAnswer : ReadCall → Type
  | .hasWallet => Bool
  | .getProvider => Except Raised Bool
  | .newBrowserProvider | .saveReceipt _ _ => Except Raised Unit
  | .typeError => Raised

/-- What a run awaits. -/
inductive AwaitCall where
  | postSummarize (text : List UInt16) (headers : Headers)
  | json (res : Response)
  | text (res : Response)
  | getCurrentAccount
  | connectWallet
  | getCurrentChainId
  | switchOrAddChain (chainId : Option (Json (List UInt16)))
  | getSigner (account : List UInt16)
  | signPaymentContext (account : List UInt16) (context : Json (List UInt16))

/-- What it comes to, if it does not fail. -/
abbrev AwaitResult : AwaitCall → Type
  | .postSummarize _ _ => Response
  | .json _ => Json (List UInt16)
  | .text _ | .connectWallet | .signPaymentContext _ _ => List UInt16
  | .getCurrentAccount => Option (List UInt16)
  | .getCurrentChainId => Option Nat
  | .switchOrAddChain _ | .getSigner _ => Unit

/-- The calls of a run. -/
inductive FlowCall where
  | hook (c : LocalCall)
  | read (c : ReadCall)
  | await (c : AwaitCall)

/-- What they are answered. -/
abbrev FlowAnswer : FlowCall → Type
  | .hook c => LocalAnswer c
  | .read c => ReadAnswer c
  | .await c => Except Raised (AwaitResult c)

/-- The calls of a run with their answers, the latest first. -/
abbrev FlowHistory := List (Event FlowCall FlowAnswer)

/-- What a run does, which may end with a value that is thrown. -/
abbrev Flow := ExceptT Raised (Program FlowCall FlowAnswer)

/-- Change the state, if the run is still the current one. -/
def update (patch : Patch) : Flow Unit :=
  ExceptT.lift (perform (FlowCall.hook (.update patch)))

/-- Await something. -/
def await (c : AwaitCall) : Flow (AwaitResult c) :=
  ExceptT.mk (perform (FlowCall.await c))

/-- Throw a type error. -/
def throwTypeError {α : Type} : Flow α := do
  throw (← ExceptT.lift (perform (FlowCall.read .typeError)))

/-- What may throw a type error. -/
def orTypeError {α : Type} : Option α → Flow α
  | some a => pure a
  | none => throwTypeError

/-! ### The parts of a run -/

/-- The summary that a result is, which is empty if there is none. -/
def summaryOf : Option (Json (List UInt16)) → Json (List UInt16)
  | none | some .null => .str []
  | some summary => summary

theorem summaryOf_ne_null (result : Option (Json (List UInt16))) : summaryOf result ≠ .null
  := by
  rcases result with _ | ⟨⟩ | b | l | s | vs | ms
  all_goals simp [summaryOf]

/-- The summary and the receipt of a response. -/
def readSummarizeSuccess (res : Response) : Flow (Json (List UInt16) × Option (Json (List UInt16))) := do
  let data ← await (.json res)
  let result ← orTypeError (property (some data) "result")
  let receipt := match (res.headers "x-402-receipt").or (res.headers "X-402-Receipt") with
    | none | some [] => none
    | some headerVal => safeDecodeReceiptHeader jsNumbers headerVal
  return (summaryOf result, receipt)

/-- Save a receipt, if there is one. -/
def keepReceipt (text : List UInt16) : Option (Json (List UInt16)) → Flow Unit
  | some receipt => ExceptT.mk (perform (FlowCall.read (.saveReceipt receipt text)))
  | none => pure ()

/-- Show the summary of a response. -/
def showSummary (text : List UInt16) (res : Response) : Flow Unit := do
  update { step := some .receipt }
  let (summary, receipt) ← readSummarizeSuccess res
  keepReceipt text receipt
  update {
    step := some .done
    summary := some (some summary)
    receipt := some receipt
    isRunning := some false }

/-- The body of a response, which is empty if it does not arrive. -/
def safeText (res : Response) : Flow (List UInt16) := do
  match ← ExceptT.lift (perform (FlowCall.await (.text res))) with
  | .ok bodyText => pure bodyText
  | .error _ => pure []

/-- What is shown for a response. -/
def responseError (res : Response) (bodyText : List UInt16) : Option ClassifiedError :=
  classifyError (.other (units "null")) (some ⟨some res.status, some bodyText⟩)

/-- The payment context of a challenge. -/
def readPaymentChallenge (res : Response) : Flow (Json (List UInt16)) := do
  let data ← await (.json res)
  match ← orTypeError (challengeContext data) with
  | some context => pure context
  | none => throw (.error none (some (units "402 response missing paymentContext")) none)

/-- The account of the wallet, which is connected if it has none. -/
def requireAccount : Flow (List UInt16) := do
  match ← await .getCurrentAccount with
  | none | some [] => await .connectWallet
  | some account => pure account

/-- A chain as a value. -/
def chainValue : Option Nat → Json (List UInt16)
  | none => .null
  | some n => .num (decimal n)

/-- The text of a value in a template. -/
def templateText : Option (Json (List UInt16)) → Option (List UInt16)
  | none => some (units "undefined")
  | some v => toString v

/-- Bring the wallet to the chain of a payment context. -/
def requireChain (context : Json (List UInt16)) : Flow Unit := do
  let chainId := JsJson.get context "chainId"
  let currentChain ← await .getCurrentChainId
  if strictlyEqual (some (chainValue currentChain)) chainId then pure ()
  else
    await (.switchOrAddChain chainId)
    let postSwitch ← await .getCurrentChainId
    if strictlyEqual (some (chainValue postSwitch)) chainId then pure ()
    else
      let wanted ← orTypeError (templateText chainId)
      let current ← orTypeError (toString (chainValue postSwitch))
      throw (.error none (some (units "Wallet did not switch to chain " ++ wanted
        ++ units " (still on " ++ current ++ units "). Switch manually and retry.")) none)

/-- The text of the time in a payment context. -/
def timestampText (context : Json (List UInt16)) : Flow (List UInt16) :=
  match JsJson.get context "timestamp" with
  | none | some .null => throwTypeError
  | some timestamp => orTypeError (toString timestamp)

/-- The headers of a signed request. -/
def buildSignedHeaders (context : Json (List UInt16)) (signature : List UInt16) : Flow Headers := do
  let timestamp ← timestampText context
  return [("X-402-Signature", some (.str signature)),
    ("X-402-Nonce", JsJson.get context "nonce"),
    ("X-402-Timestamp", some (.str timestamp))]

/-- The header that names the run. -/
def correlation (correlationId : List UInt16) : Headers :=
  [("X-Correlation-ID", some (.str correlationId))]

/-- Send the signed request, with a timer that is cleared however it ends. -/
def sendSigned (text correlationId : List UInt16) (context : Json (List UInt16))
    (signature : List UInt16) : Flow Response := do
  ExceptT.lift (perform (FlowCall.hook .setTimeout))
  let retry ← ExceptT.lift (ExceptT.run do
    let headers ← buildSignedHeaders context signature
    await (.postSummarize text (headers ++ correlation correlationId)))
  ExceptT.lift (perform (FlowCall.hook .clearTimeout))
  ExceptT.mk (pure retry)

/-- Show what the signed request comes to. -/
def showRetry (text : List UInt16) (retry : Response) : Flow Unit := do
  if !retry.ok then
    let bodyText ← safeText retry
    let classified := responseError retry bodyText
    if classified.any fun e => e.kind.IsAi then
      update { step := some .ai, error := some classified, isRunning := some false }
    else
      update { error := some classified, isRunning := some false }
  else showSummary text retry

/-- Pay for the request that was challenged. -/
def pay (text correlationId : List UInt16) (context : Json (List UInt16)) : Flow Unit := do
  let account ← requireAccount
  requireChain context
  ExceptT.mk (perform (FlowCall.read .newBrowserProvider))
  await (.getSigner account)
  update { step := some .sign }
  let signature ← await (.signPaymentContext account context)
  let _ ← await .getCurrentAccount
  update { step := some .verify }
  let retry ← sendSigned text correlationId context signature
  showRetry text retry

/-- Whether there is a wallet and a provider for it. -/
def walletAvailable : Flow Bool := do
  if ← ExceptT.lift (perform (FlowCall.read .hasWallet)) then
    ExceptT.mk (perform (FlowCall.read .getProvider))
  else pure false

/-- The part of a run whose failures are caught. -/
def attempt (text correlationId : List UInt16) : Flow Unit := do
  let first ← await (.postSummarize text (correlation correlationId))
  if first.status = 200 then showSummary text first
  else if first.status ≠ 402 then
    let bodyText ← safeText first
    update { error := some (responseError first bodyText), isRunning := some false }
  else
    update { step := some .challenge }
    let context ← readPaymentChallenge first
    if ← walletAvailable then pay text correlationId context
    else
      update {
        error := some (classifyError (.error none (some (units "No crypto wallet found")) none) none)
        isRunning := some false }

/-- What is done with a failure: it is shown, if the run is still the current one. -/
def showFailure : Except Raised Unit → Program FlowCall FlowAnswer Unit
  | .ok _ => pure ()
  | .error err => do
      if ← perform (FlowCall.hook .isCurrent) then
        match classifyError err none with
        | some classified =>
            perform (FlowCall.hook (.update { error := some (some classified), isRunning := some false }))
        | none => pure ()
      else pure ()

/-- The change at the start of a run. -/
def startPatch : Patch where
  step := some .request
  summary := some none
  receipt := some none
  error := some none
  isRunning := some true

/-- A run: a call of `submit` with a text that is not blank. -/
def submit (text correlationId : List UInt16) : Program FlowCall FlowAnswer Unit := do
  perform (FlowCall.hook (.update startPatch))
  showFailure (← (attempt text correlationId).run)

/-! ### Runs side by side -/

/-- A run: what is left of it, its calls so far, whether its timer is set, and whether the timer has
fired. -/
structure Run where
  program : Program FlowCall FlowAnswer Unit
  history : FlowHistory
  timer : Bool
  fired : Bool

/-- The run after a call was answered. -/
def Run.record (run : Run) (c : FlowCall) (x : FlowAnswer c) : Run :=
  { run with history := ⟨c, x⟩ :: run.history }

/-- What is shown: the state, and the states since the latest call of the user, the latest first. -/
structure Screen where
  state : UseX402State
  visible : List UseX402State

/-- A change of the state, by the current run or by another, which changes nothing. -/
def Screen.update (screen : Screen) (current : Bool) (patch : Patch) : Screen :=
  if current then ⟨screen.state.patch patch, screen.state.patch patch :: screen.visible⟩ else screen

/-- A run goes on until it awaits something or ends. -/
def drive (read : (c : ReadCall) → ReadAnswer c) (current : Bool) :
    Program FlowCall FlowAnswer Unit → Run → Screen → Run × Screen
  | .done a, run, screen => ({ run with program := .done a }, screen)
  | .call (.await c) k, run, screen => ({ run with program := .call (.await c) k }, screen)
  | .call (.read c) k, run, screen =>
      drive read current (k (read c)) (run.record (.read c) (read c)) screen
  | .call (.hook (.update patch)) k, run, screen =>
      drive read current (k ()) (run.record (.hook (.update patch)) ()) (screen.update current patch)
  | .call (.hook .setTimeout) k, run, screen =>
      drive read current (k ()) { run.record (.hook .setTimeout) () with timer := true } screen
  | .call (.hook .clearTimeout) k, run, screen =>
      drive read current (k ()) { run.record (.hook .clearTimeout) () with timer := false } screen
  | .call (.hook .isCurrent) k, run, screen =>
      drive read current (k current) (run.record (.hook .isCurrent) current) screen

/-- How the browser answers while a run goes on. -/
structure World where
  read : (c : ReadCall) → ReadAnswer c
  await : (c : AwaitCall) → Except Raised (AwaitResult c)

/-- The hook: the number of the current run, what is shown, and the runs by their numbers. -/
structure Hook where
  runId : Nat
  screen : Screen
  runs : Nat → Option Run

/-- The hook before anything is submitted. -/
def Hook.start : Hook where
  runId := 0
  screen := ⟨INITIAL_STATE, []⟩
  runs _ := none

/-- What happens to the hook: the user submits a text or resets, what a run awaits is there, or the
timer of a run fires. -/
inductive Label where
  | submit (text correlationId : List UInt16) (world : World)
  | reset
  | resume (run : Nat) (world : World)
  | timer (run : Nat)

/-- Whether a unit is white space. -/
def isSpace (u : UInt16) : Bool :=
  (0x9 ≤ u && u ≤ 0xD) || u = 0x20 || u = 0xA0 || u = 0x1680 || (0x2000 ≤ u && u ≤ 0x200A)
    || u = 0x2028 || u = 0x2029 || u = 0x202F || u = 0x205F || u = 0x3000 || u = 0xFEFF

/-- Whether nothing is left of a text when it is trimmed. -/
def isBlank (text : List UInt16) : Bool :=
  text.all isSpace

/-- The hook after a run has gone on. -/
def Hook.put (s : Hook) (n : Nat) (after : Run × Screen) : Hook :=
  { s with screen := after.2, runs := Function.update s.runs n (some after.1) }

theorem Hook.runs_put (s : Hook) (n : Nat) (after : Run × Screen) :
  (s.put n after).runs n = some after.1
  := by
  dsimp only [Hook.put]
  rw [Function.update_self]

theorem Hook.runs_put_of_ne (s : Hook) {m n : Nat} (h : m ≠ n) (after : Run × Screen) :
  (s.put n after).runs m = s.runs m
  := by
  dsimp only [Hook.put]
  rw [Function.update_of_ne h]

/-- What a run does first. -/
def begin (text correlationId : List UInt16) (world : World) (screen : Screen) : Run × Screen :=
  drive world.read true (submit text correlationId)
    ⟨submit text correlationId, [], false, false⟩ screen

/-- How a run goes on with what it awaits. -/
def resume (world : World) (current : Bool) (run : Run) (screen : Screen) : Option (Run × Screen) :=
  match run.program with
  | .call (.await c) k =>
      some (drive world.read current (k (world.await c)) (run.record (.await c) (world.await c)) screen)
  | _ => none

/-- The timer of a run, which fires only while it is set. -/
def fire (current : Bool) (run : Run) (screen : Screen) : Option (Run × Screen) :=
  if run.timer then
    some ({ run with timer := false, fired := true }, screen.update current { step := some .ai })
  else none

/-- The hook as a machine. -/
def machine : Machine Hook Label where
  step s
    | .submit text correlationId world =>
        if isBlank text then some s
        else
          let s' := { s with runId := s.runId + 1 }
          some (s'.put s'.runId (begin text correlationId world ⟨s.screen.state, []⟩))
    | .reset => some { s with runId := s.runId + 1, screen := ⟨INITIAL_STATE, [INITIAL_STATE]⟩ }
    | .resume n world =>
        (s.runs n).bind fun run =>
          (resume world (n = s.runId) run s.screen).map fun after => s.put n after
    | .timer n =>
        (s.runs n).bind fun run => (fire (n = s.runId) run s.screen).map fun after => s.put n after

end UseX402

end Paygate.Web
