import ReSymbol.Debugger.SessionMachine

/-! The debug-host worker: one thread that attaches to a process, drains the events of its current
    state up to the initial breakpoint, and keeps that breakpoint pending while memory is read and
    written.

        detached ──attach──▶ draining ──first-chance breakpoint──▶ stopped
            ▲                   │ any failure                         │ unsafe write
            └──── detach ok ────┴───────── cleanup required ◀─────────┘

    The operating system is a backend whose calls answer anything: the worker never trusts an order
    of events, an image base or an echo it did not check. -/

namespace ReSymbol.DebugHost
open Schemes Schemes.Reducer Debugger

/-! ### Evidence and errors -/

def maxInitialDrainEvents : ℕ := 65536

/-- Durations are nanoseconds; `Duration::MAX`. -/
def durationMax : ℕ := u64Max * 1000000000 + 999999999

def maxInitialDrainTimeout : ℕ := 60 * 1000000000

structure DebugAttachLimits where
  initialDrainTimeout : ℕ
  nonzero : initialDrainTimeout ≠ 0
  bounded : initialDrainTimeout ≤ maxInitialDrainTimeout

inductive DebugHostWorkerState where
  | detached | drainingInitialEvents | stopped | cleanupRequired
  deriving DecidableEq

/-- Value-only correlation for the retained initial breakpoint. -/
structure PendingStopEvidence where
  processId : ProcessId
  threadId : ThreadId
  exceptionAddress : MemoryAddress
  deriving DecidableEq

structure DebugHostMemoryWriteReceipt where
  commandId : CommandId
  stop : StopToken
  pendingStop : PendingStopEvidence
  binding : LiveTargetBinding
  address : MemoryAddress
  before : List UInt8
  after : List UInt8

inductive DebugHostMemoryWriteError where
  | notStopped
  | pendingStopMismatch
  | checkpointMismatch
  | targetBindingMismatch
  | safeNoEffectRejected (detail : String)
  | memoryWriteFailed (pendingStop : PendingStopEvidence) (failure : MemoryWriteFailure)
  | invalidEvidence (pendingStop : PendingStopEvidence) (detail : String)
  | targetInvalidated (pendingStop : PendingStopEvidence) (detail : String)

/-- Independently reported result of one cleanup step. -/
inductive CleanupStepOutcome where
  | notRequired
  | succeeded
  | failed (operation detail : String)
  deriving DecidableEq

def CleanupStepOutcome.completeOrNotRequired : CleanupStepOutcome → Bool
  | notRequired | succeeded => true
  | failed _ _ => false

structure DebugHostCleanupEvidence where
  detachOnThreadExit : CleanupStepOutcome
  continueEvent : CleanupStepOutcome
  detach : CleanupStepOutcome

def DebugHostCleanupEvidence.complete (e : DebugHostCleanupEvidence) : Bool :=
  e.detachOnThreadExit.completeOrNotRequired && e.continueEvent.completeOrNotRequired &&
    e.detach = .succeeded

inductive DebugHostError where
  | attachWhileBusy (state : DebugHostWorkerState)
  | alreadyDetached
  | notStopped
  | preflightBindingMismatch
  | createProcessNotFirst (actualCode : UInt32)
  | duplicateCreateProcess
  | eventProcessMismatch (expected actual : ℕ)
  | zeroEventThreadId (processId : UInt32)
  | createProcessBaseMismatch (expected actual : ℕ)
  | initialBreakpointBeforeCreateProcess
  | unexpectedInitialException (code : UInt32) (firstChance : Bool)
  | targetExitedDuringAttach (exitCode : UInt32)
  | unexpectedInitialEvent (code : UInt32)
  | initialDrainLimitExceeded (maximum : ℕ)
  | initialDrainDeadlineExceeded (timeout : ℕ)
  | provider (operation detail : String)
  | cleanupAfterFailure (cause : DebugHostError) (evidence : DebugHostCleanupEvidence)
  | detachCleanupIncomplete (evidence : DebugHostCleanupEvidence)
  | addressRange (error : LiveTargetBindingError)

structure BackendFailure where
  operation : String
  detail : String

def BackendFailure.intoPublic (f : BackendFailure) : DebugHostError :=
  .provider f.operation f.detail

def BackendFailure.step (f : BackendFailure) : CleanupStepOutcome := .failed f.operation f.detail

structure BackendWriteReceipt where
  binding : LiveTargetBinding
  rva : ℕ
  bytesWritten : ℕ

inductive BackendWriteFailure where
  | safeNoEffect (detail : String)
  | memoryWriteFailed (failure : MemoryWriteFailure)
  | invalidEvidence (detail : String)
  | targetInvalidated (detail : String)

/-! ### Debug events -/

structure DebugFileToken where
  handle : ℕ

inductive ContinueDisposition where
  | handled | exceptionNotHandled

inductive DebugEventKind where
  | exception (code : UInt32) (firstChance : Bool) (address : MemoryAddress)
  | createThread
  | createProcess (imageBase : ℕ) (imageFile : Option DebugFileToken)
  | exitThread
  | exitProcess (exitCode : UInt32)
  | loadDll (imageFile : Option DebugFileToken)
  | unloadDll
  | outputDebugString
  | rip
  | unknown (code : UInt32)

structure DebugEventRecord where
  processId : UInt32
  threadId : UInt32
  kind : DebugEventKind

namespace DebugEventKind

def code : DebugEventKind → UInt32
  | exception _ _ _ => 1
  | createThread => 2
  | createProcess _ _ => 3
  | exitThread => 4
  | exitProcess _ => 5
  | loadDll _ => 6
  | unloadDll => 7
  | outputDebugString => 8
  | rip => 9
  | unknown code => code

def debugFile : DebugEventKind → Option DebugFileToken
  | createProcess _ imageFile | loadDll imageFile => imageFile
  | _ => none

/-- What is left of an event once its file was taken. -/
def withoutFile : DebugEventKind → DebugEventKind
  | createProcess imageBase _ => createProcess imageBase none
  | loadDll _ => loadDll none
  | kind => kind

def isException : DebugEventKind → Bool
  | exception _ _ _ => true
  | _ => false

def isCreateProcess : DebugEventKind → Bool
  | createProcess _ _ => true
  | _ => false

end DebugEventKind

def DebugEventRecord.withoutFile (e : DebugEventRecord) : DebugEventRecord :=
  { e with kind := e.kind.withoutFile }

def exceptionBreakpointCode : UInt32 := 0x80000003

/-! ### The backend -/

/-- The operating system under a worker: every call may answer anything. -/
structure DebugBackend (σ : Type) where
  monotonicNow : σ → ℕ × σ
  preflight (expected : LiveTargetBinding) : σ → Except BackendFailure LiveTargetBinding × σ
  clearPreflight : σ → Unit × σ
  attach (processId : ProcessId) : σ → Except BackendFailure Unit × σ
  disableKillOnExit : σ → Except BackendFailure Unit × σ
  waitForDebugEvent (timeout : ℕ) : σ → Except BackendFailure (Option DebugEventRecord) × σ
  closeDebugFile (file : DebugFileToken) : σ → Unit × σ
  continueDebugEvent (processId threadId : UInt32) (disposition : ContinueDisposition) :
    σ → Except BackendFailure Unit × σ
  readExactMainImageRva (expected : LiveTargetBinding) (rva size : ℕ) :
    σ → Except BackendFailure (List UInt8) × σ
  writeExactMainImageRva (expected : LiveTargetBinding) (validatedProtocolStop : StopToken)
    (address : MemoryAddress) (rva : ℕ) (expectedBytes replacement : List UInt8) :
    σ → Except BackendWriteFailure BackendWriteReceipt × σ
  detach (processId : ProcessId) : σ → Except BackendFailure Unit × σ

/-! ### State -/

inductive AttachedPhase where
  | draining | stopped | cleanupRequired
  deriving DecidableEq

structure AttachedState where
  binding : LiveTargetBinding
  phase : AttachedPhase
  detachOnThreadExit : Bool
  pending : Option DebugEventRecord
  pendingDisposition : Option ContinueDisposition
  stop : Option PendingStopEvidence

inductive WorkerState where
  | detached
  | attached (state : AttachedState)

structure DebugHostWorker (σ : Type) where
  backend : σ
  state : WorkerState

/-- What classifying one initial event asks for. -/
inductive InitialDrainAction where
  | proceed (sawCreate : Bool)
  | stop (stop : PendingStopEvidence)
  | exit (exitCode : UInt32)

def AttachedPhase.workerState : AttachedPhase → DebugHostWorkerState
  | draining => .drainingInitialEvents
  | stopped => .stopped
  | cleanupRequired => .cleanupRequired

namespace DebugHostWorker

variable {σ ε α : Type}

def new (backend : σ) : DebugHostWorker σ := ⟨backend, .detached⟩

def workerState (w : DebugHostWorker σ) : DebugHostWorkerState :=
  match w.state with
  | .detached => .detached
  | .attached a => a.phase.workerState

def binding (w : DebugHostWorker σ) : Option LiveTargetBinding :=
  match w.state with
  | .detached => none
  | .attached a => some a.binding

/-- The stop that a caller may act on. -/
def pendingStop (w : DebugHostWorker σ) : Option PendingStopEvidence :=
  match w.state with
  | .attached a => if a.phase = .stopped then a.stop else none
  | .detached => none

/-- One call on the backend. -/
def provider (call : σ → α × σ) : Reducer (DebugHostWorker σ) ε α := fun w =>
  (.ok (call w.backend).1, { w with backend := (call w.backend).2 })

def setState (state : WorkerState) : Reducer (DebugHostWorker σ) ε Unit :=
  update fun w => { w with state }

/-- `attached`: an attached operation requires the attached state. -/
def attached : Reducer (DebugHostWorker σ) (Fault ε) AttachedState := fun w =>
  match w.state with
  | .attached a => (.ok a, w)
  | .detached =>
    (.error (.panic ("internal error: entered unreachable code: " ++
      "attached operation requires attached state")), w)

/-- A change through `attached_mut`. -/
def attachedMut (f : AttachedState → AttachedState) : Reducer (DebugHostWorker σ)
    (Fault ε) Unit := do
  let a ← attached
  setState (.attached (f a))

variable (backend : DebugBackend σ)

/-! ### The pending event -/

/-- Initial exceptions are left to the target. -/
def initialDisposition (kind : DebugEventKind) : ContinueDisposition :=
  if kind.isException then .exceptionNotHandled else .handled

/-- Holds an event; holding a second one panics. -/
def setPending (event : DebugEventRecord) : Reducer (DebugHostWorker σ) (Fault ε) Unit := do
  let a ← attached
  refuse (a.pending ≠ none) (.panic "assertion failed: attached.pending.is_none()")
  refuse (a.pendingDisposition ≠ none)
    (.panic "assertion failed: attached.pending_disposition.is_none()")
  setState (.attached
    { a with pending := some event, pendingDisposition := some (initialDisposition event.kind) })

def closePendingDebugFile : Reducer (DebugHostWorker σ) (Fault ε) Unit := do
  let a ← attached
  setState (.attached { a with pending := a.pending.map .withoutFile })
  match a.pending.bind (·.kind.debugFile) with
  | some file => provider (backend.closeDebugFile file)
  | none => return ()

/-- Continues the pending event, and forgets it on success. -/
def continuePending : Reducer (DebugHostWorker σ) (Fault ε) (Except BackendFailure Unit) := do
  let a ← attached
  let event ← expect a.pending "continue requires one retained pending event"
  let disposition ← expect a.pendingDisposition "pending event requires one retained disposition"
  match ← provider (backend.continueDebugEvent event.processId event.threadId disposition) with
  | .error failure => return .error failure
  | .ok _ =>
    attachedMut fun a => { a with pending := none, pendingDisposition := none }
    return .ok ()

/-! ### Cleanup -/

/-- First step: exiting the thread must not kill the target. -/
def disableForCleanup (a : AttachedState) :
    Reducer (DebugHostWorker σ) (Fault ε) CleanupStepOutcome := do
  if a.detachOnThreadExit then return .notRequired
  else match ← provider backend.disableKillOnExit with
    | .ok _ =>
      attachedMut fun a => { a with detachOnThreadExit := true }
      return .succeeded
    | .error failure => return failure.step

/-- Second step: the pending event is let go. -/
def continueForCleanup : Reducer (DebugHostWorker σ) (Fault ε) CleanupStepOutcome := do
  if (← attached).pending.isSome then
    match ← continuePending backend with
    | .ok _ => return .succeeded
    | .error failure => return failure.step
  else return .notRequired

/-- Third step: the debugger leaves. -/
def detachForCleanup (processId : ProcessId) :
    Reducer (DebugHostWorker σ) (Fault ε) CleanupStepOutcome := do
  match ← provider (backend.detach processId) with
  | .ok _ =>
    provider backend.clearPreflight
    setState .detached
    return .succeeded
  | .error failure =>
    attachedMut fun a => { a with phase := .cleanupRequired }
    return failure.step

/-- The three steps, each tried whatever the others did. -/
def attemptCleanup : Reducer (DebugHostWorker σ) (Fault ε) DebugHostCleanupEvidence := do
  let a ← attached
  let detachOnThreadExit ← disableForCleanup backend a
  let continueEvent ← continueForCleanup backend
  let detach ← detachForCleanup backend a.binding.process.processId
  return { detachOnThreadExit, continueEvent, detach }

/-- Clean up after a failure of an attach, and fail. -/
def abortAttached (cause : DebugHostError) :
    Reducer (DebugHostWorker σ) (Fault DebugHostError) α := do
  let evidence ← attemptCleanup backend
  raise (.error (if evidence.complete then cause else .cleanupAfterFailure cause evidence))

/-! ### Attach -/

/-- Whether an initial event is drained, accepted or refused. -/
def classifyPendingInitialEvent (a : AttachedState) (expected : LiveTargetBinding)
    (eventIndex : ℕ) (sawCreateProcess : Bool) :
    Except (Fault DebugHostError) InitialDrainAction := do
  match a.pending with
  | none => .error (.panic "classification requires one retained pending event")
  | some event =>
    let expectedPid := expected.process.processId.val
    if event.processId.toNat ≠ expectedPid then
      .error (.error (.eventProcessMismatch expectedPid event.processId.toNat))
    else if hthread : event.threadId.toNat = 0 then
      .error (.error (.zeroEventThreadId event.processId))
    else if eventIndex = 0 && !event.kind.isCreateProcess then
      .error (.error (.createProcessNotFirst event.kind.code))
    else match event.kind with
      | .createProcess imageBase _ =>
        if sawCreateProcess then .error (.error .duplicateCreateProcess)
        else if imageBase ≠ expected.actualImageBase.val then
          .error (.error (.createProcessBaseMismatch expected.actualImageBase.val imageBase))
        else .ok (.proceed true)
      | .exception code firstChance address =>
        if !sawCreateProcess then .error (.error .initialBreakpointBeforeCreateProcess)
        else if code ≠ exceptionBreakpointCode || !firstChance then
          .error (.error (.unexpectedInitialException code firstChance))
        else .ok (.stop ⟨expected.process.processId,
          ⟨event.threadId.toNat, hthread, event.threadId.toNat_lt⟩, address⟩)
      | .exitProcess exitCode => .ok (.exit exitCode)
      | .rip | .unknown _ => .error (.error (.unexpectedInitialEvent event.kind.code))
      | .createThread | .exitThread | .loadDll _ | .unloadDll | .outputDebugString =>
        if !sawCreateProcess then .error (.error (.createProcessNotFirst event.kind.code))
        else .ok (.proceed false)

/-- Retain the event first: one that arrives late is cleaned up but never classified. -/
def receiveInitialEvent (expected : LiveTargetBinding) (timeout deadline eventIndex : ℕ)
    (sawCreateProcess : Bool) (event : DebugEventRecord) :
    Reducer (DebugHostWorker σ) (Fault DebugHostError) InitialDrainAction := do
  setPending event
  closePendingDebugFile backend
  let now ← provider backend.monotonicNow
  if now ≥ deadline then abortAttached backend (.initialDrainDeadlineExceeded timeout)
  else match classifyPendingInitialEvent (← attached) expected eventIndex sawCreateProcess with
    | .ok action => return action
    | .error (.error cause) => abortAttached backend cause
    | .error (.panic message) => raise (.panic message)

/-- Waits for one initial event, until the deadline. -/
def awaitInitialEvent (expected : LiveTargetBinding) (timeout deadline eventIndex : ℕ)
    (sawCreateProcess : Bool) :
    Reducer (DebugHostWorker σ) (Fault DebugHostError) InitialDrainAction := do
  let now ← provider backend.monotonicNow
  if now ≥ deadline then abortAttached backend (.initialDrainDeadlineExceeded timeout)
  else match ← provider (backend.waitForDebugEvent (deadline - now)) with
    | .ok (some event) =>
      receiveInitialEvent backend expected timeout deadline eventIndex sawCreateProcess event
    | .ok none => abortAttached backend (.initialDrainDeadlineExceeded timeout)
    | .error failure => abortAttached backend failure.intoPublic

/-- `for event_index in 0..MAX_INITIAL_DRAIN_EVENTS`, by the number of rounds left. -/
def drainInitialEvents (expected : LiveTargetBinding) (timeout deadline : ℕ) :
    (rounds eventIndex : ℕ) → (sawCreateProcess : Bool) →
      Reducer (DebugHostWorker σ) (Fault DebugHostError) PendingStopEvidence
  | 0, _, _ => abortAttached backend (.initialDrainLimitExceeded maxInitialDrainEvents)
  | rounds + 1, eventIndex, sawCreateProcess => do
    match ← awaitInitialEvent backend expected timeout deadline eventIndex sawCreateProcess with
    | .proceed sawCreate =>
      match ← continuePending backend with
      | .error failure => abortAttached backend failure.intoPublic
      | .ok _ =>
        drainInitialEvents expected timeout deadline rounds (eventIndex + 1)
          (sawCreateProcess || sawCreate)
    | .stop stop =>
      attachedMut fun a =>
        { a with phase := .stopped, pendingDisposition := some .handled, stop := some stop }
      refuse ((← attached).pending = none) (.panic "assertion failed: attached.pending.is_some()")
      return stop
    | .exit exitCode =>
      match ← continuePending backend with
      | .error failure => abortAttached backend failure.intoPublic
      | .ok _ =>
        provider backend.clearPreflight
        setState .detached
        raise (.error (.targetExitedDuringAttach exitCode))

/-- The part of an attach that follows a successful attach call. -/
def drainAttached (expected : LiveTargetBinding) (limits : DebugAttachLimits) :
    Reducer (DebugHostWorker σ) (Fault DebugHostError) PendingStopEvidence := do
  match ← provider backend.disableKillOnExit with
  | .error failure => abortAttached backend failure.intoPublic
  | .ok _ =>
    attachedMut fun a => { a with detachOnThreadExit := true }
    let timeout := limits.initialDrainTimeout
    let now ← provider backend.monotonicNow
    drainInitialEvents backend expected timeout (min (now + timeout) durationMax)
      maxInitialDrainEvents 0 false

/-- Give a preflight back and fail. -/
def failPreflight (cause : DebugHostError) :
    Reducer (DebugHostWorker σ) (Fault DebugHostError) α := do
  provider backend.clearPreflight
  raise (.error cause)

/-- Attaches and drains up to the initial breakpoint. -/
def attachAfterAuthorization (expected : LiveTargetBinding) (limits : DebugAttachLimits) :
    Reducer (DebugHostWorker σ) (Fault DebugHostError) PendingStopEvidence := do
  let w ← look
  refuse (w.workerState ≠ .detached) (.error (.attachWhileBusy w.workerState))
  match ← provider (backend.preflight expected) with
  | .error failure => failPreflight backend failure.intoPublic
  | .ok observed =>
    if observed ≠ expected then failPreflight backend .preflightBindingMismatch
    else match ← provider (backend.attach expected.process.processId) with
      | .error failure => failPreflight backend failure.intoPublic
      | .ok _ =>
        setState (.attached ⟨observed, .draining, false, none, none, none⟩)
        drainAttached backend expected limits

/-! ### Reads and writes -/

/-- Reads the image of a stopped target. -/
def readStoppedMainImage (address : MemoryAddress) (size : ℕ) :
    Reducer (DebugHostWorker σ) (Fault DebugHostError) (List UInt8) := do
  match (← look).state with
  | .attached a =>
    if a.phase = .stopped ∧ a.pending.isSome then
      let rva ← check ((a.binding.rvaForAddressSpan address (min size u64Max)).mapError
        .addressRange)
      check ((← provider (backend.readExactMainImageRva a.binding rva size)).mapError
        BackendFailure.intoPublic)
    else raise (.error .notStopped)
  | .detached => raise (.error .notStopped)

/-- The request is not one that may be sent to a target. -/
def writeRejection (expected replacement : List UInt8) : Option String :=
  if expected.isEmpty then some "live memory writes must replace at least one byte"
  else if expected.length > maxMemoryWriteBytes then
    some ("live memory write size " ++ toString expected.length ++ " exceeds the " ++
      toString maxMemoryWriteBytes ++ "-byte limit")
  else if expected.length ≠ replacement.length then some "compare-before-write lengths differ"
  else if expected = replacement then some "compare-before-write replacement is identical"
  else none

/-- Require an explicit cleanup, and fail. -/
def requireCleanup (cause : DebugHostMemoryWriteError) :
    Reducer (DebugHostWorker σ) (Fault DebugHostMemoryWriteError) α := do
  attachedMut fun a => { a with phase := .cleanupRequired }
  raise (.error cause)

/-- The evidence of a failed write is valid and about the request that was made. -/
def evidenceValid (failure : MemoryWriteFailure) (write : LocalLiveMemoryWriteAllocation) : Bool :=
  failure.validate.isOk && failure.stop = write.stop && failure.address = write.address &&
    failure.size.toNat = write.expected.length

/-- The answer of the backend to a write, checked against the request. -/
def resolveBackendWrite (binding : LiveTargetBinding) (pendingStop : PendingStopEvidence)
    (write : LocalLiveMemoryWriteAllocation) (rva : ℕ) :
    Except BackendWriteFailure BackendWriteReceipt →
      Reducer (DebugHostWorker σ) (Fault DebugHostMemoryWriteError) DebugHostMemoryWriteReceipt
  | .ok receipt =>
    if receipt.binding = binding ∧ receipt.rva = rva ∧
        receipt.bytesWritten = write.replacement.length then
      return ⟨write.commandId, write.stop, pendingStop, binding, write.address, write.expected,
        write.replacement⟩
    else requireCleanup (.invalidEvidence pendingStop
      "backend success receipt did not exactly match the request")
  | .error (.safeNoEffect detail) => raise (.error (.safeNoEffectRejected detail))
  | .error (.memoryWriteFailed failure) =>
    if !evidenceValid failure write then
      requireCleanup (.invalidEvidence pendingStop
        "backend failure evidence did not exactly match the request")
    else if !failure.recovery.isRollbackSafe then
      requireCleanup (.memoryWriteFailed pendingStop failure)
    else raise (.error (.memoryWriteFailed pendingStop failure))
  | .error (.invalidEvidence detail) => requireCleanup (.invalidEvidence pendingStop detail)
  | .error (.targetInvalidated detail) => requireCleanup (.targetInvalidated pendingStop detail)

/-- Writes to the image of the target stopped as expected. -/
def writeStoppedMainImageAfterProtocolValidation (expectedPendingStop : PendingStopEvidence)
    (checkpoint : RemoteCommandCheckpoint) (ticket : ValidatedLiveMemoryWrite) :
    Reducer (DebugHostWorker σ) (Fault DebugHostMemoryWriteError) DebugHostMemoryWriteReceipt := do
  refuse (ticket.matchesCheckpoint checkpoint = false) (.error .checkpointMismatch)
  match (← look).state with
  | .detached => raise (.error .notStopped)
  | .attached a =>
    refuse (a.phase ≠ .stopped ∨ a.pending = none) (.error .notStopped)
    let pendingStop ← require a.stop (.error .notStopped)
    refuse (pendingStop ≠ expectedPendingStop) (.error .pendingStopMismatch)
    let write := ticket.write.value
    refuse (write.binding ≠ a.binding) (.error .targetBindingMismatch)
    match writeRejection write.expected write.replacement with
    | some detail => raise (.error (.safeNoEffectRejected detail))
    | none =>
      let rva ← check ((a.binding.rvaForAddressSpan write.address write.expected.length).mapError
        fun e => .safeNoEffectRejected e.display)
      resolveBackendWrite a.binding pendingStop write rva
        (← provider (backend.writeExactMainImageRva a.binding write.stop write.address rva
          write.expected write.replacement))

/-! ### Release -/

/-- Releases the target by a cleanup that must be complete. -/
def detach : Reducer (DebugHostWorker σ) (Fault DebugHostError) Unit := do
  refuse ((← look).workerState = .detached) (.error .alreadyDetached)
  let evidence ← attemptCleanup backend
  refuse (evidence.complete = false) (.error (.detachCleanupIncomplete evidence))

/-- `Drop`: the evidence of the cleanup is discarded. -/
def drop : Reducer (DebugHostWorker σ) (Fault DebugHostError) Unit := do
  if (← look).workerState = .detached then return ()
  else
    let _evidence ← attemptCleanup backend
    return ()

end DebugHostWorker

end ReSymbol.DebugHost
