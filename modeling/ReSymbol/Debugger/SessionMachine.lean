import ReSymbol.Debugger.Authorization
import ReSymbol.Debugger.Events
import ReSymbol.Debugger.SandboxMachine

/-! The session reducer: one owner, one target, every state change of a debugger session.

    A command is accepted at once (`acceptCommand`), or begun for a remote host and resolved later:
    committed, or rejected with the visible state put back as it was. Identifiers are never put
    back: command ids, stop and run watermarks and consumed leases survive a rejection.

        visible      state, target, execution gate, sandbox, inherited binding   (rolled back)
        watermarks   last command id, last stop id, last run id                  (kept)
        authority    registered leases                                           (kept, one use) -/

namespace ReSymbol.Debugger
open Schemes Schemes.Reducer

def maxRegisteredAuthorizationLeases : ℕ := 64

inductive ExecutionGate where
  | notApplicable | hostRiskAccepted | inheritedSandbox | sandboxPending | sandboxAccepted
  deriving DecidableEq

inductive SessionMachineError where
  | protocol (error : ProtocolValidationError)
  | policy (error : PolicyValidationError)
  | sandbox (error : SandboxMachineError)
  | hostLaunchIntent (error : HostLaunchIntentError)
  | globalCommand
  | nonMonotonicCommandId (last received : CommandId)
  | remoteCommandPending (commandId : CommandId)
  | remoteCommandNotPending
  | remoteCommandReducerMismatch
  | remoteCommandCheckpointMismatch (pending presented : CommandId)
  | remoteCommandStateChanged
  | localLiveMemoryWriteReceiptMismatch
  | invalidTransition (source : SessionStateKind) (action : String)
  | sessionBindingMismatch
  | duplicateAuthorizationLease
  | tooManyAuthorizationLeases
  | provisioningEpochMismatch
  | hostRiskLeaseUnavailable
  | hostRiskLeaseMismatch
  | sandboxOwnershipLeaseUnavailable
  | sandboxOwnershipLeaseMismatch
  | sandboxNotPending
  | attestationNotAccepted
  | executionUnavailable
  | liveMemoryWriteRequiresDebugAttach
  | liveMemoryWriteTargetMismatch
  | liveMemoryWriteImageSpan (error : LiveTargetBindingError)
  | sandboxDetachForbidden
  | missingCleanupReceipt
  | unexpectedCleanupReceipt
  | inheritedCleanupReceiptMismatch
  | unexpectedSandboxFailure
  | sandboxFailure (error : SandboxFailureValidationError)
  | conflictingSandboxOwnership
  | invalidFailureMessage
  | stopIdOverflow
  | runIdOverflow

abbrev HostRiskLeases :=
  Std.ExtTreeMap HostRiskLeaseId (Option HostRiskVerifier) compare

abbrev SandboxOwnershipLeases :=
  Std.ExtTreeMap SandboxOwnershipLeaseId (Option SandboxOwnershipVerifier) compare

/-- One debugger session. `reducerInstance` is the address of its private allocation. -/
structure SessionMachine where
  reducerInstance : ℕ
  sessionId : SessionId
  provisioningEpoch : ProvisioningEpoch
  helperBuild : HelperBuildId
  state : SessionState
  target : Option DebugTargetRequest
  lastCommandId : Option CommandId
  lastStopId : ℕ
  lastRunId : ℕ
  executionGate : ExecutionGate
  sandbox : Option SandboxMachine
  inheritedSandbox : Option SandboxOwnershipBinding
  hostRiskLeases : HostRiskLeases
  sandboxOwnershipLeases : SandboxOwnershipLeases
  pendingRemoteCommand : Option CommandId

/-- A shared allocation: two references are the same one exactly when their addresses agree. -/
structure Arc (α : Type) where
  pointer : ℕ
  value : α

/-- Everything a rollback compares before it restores the visible state. -/
structure RemoteCommandPostAcceptState where
  state : SessionState
  target : Option DebugTargetRequest
  lastCommandId : Option CommandId
  lastStopId : ℕ
  lastRunId : ℕ
  executionGate : ExecutionGate
  sandbox : Option SandboxMachine
  inheritedSandbox : Option SandboxOwnershipBinding
  hostRiskLeases : HostRiskLeases
  sandboxOwnershipLeases : SandboxOwnershipLeases
  deriving DecidableEq

/-- Move-only transaction ticket of one remote command. -/
structure RemoteCommandCheckpoint where
  reducerInstance : ℕ
  localLiveMemoryWrite : Option (Arc LocalLiveMemoryWriteAllocation)
  commandId : CommandId
  state : SessionState
  target : Option DebugTargetRequest
  executionGate : ExecutionGate
  sandbox : Option SandboxMachine
  inheritedSandbox : Option SandboxOwnershipBinding
  postAccept : RemoteCommandPostAcceptState

/-- The part of a validated live-memory write its provider consumes. -/
structure ValidatedLiveMemoryWrite where
  reducerInstance : ℕ
  write : Arc LocalLiveMemoryWriteAllocation

/-- Move-only identity retained while one local write is dispatched. -/
structure LocalLiveMemoryWriteReceiptIdentity where
  write : Arc LocalLiveMemoryWriteAllocation

inductive UnsolicitedObservationError where
  | reducer (error : SessionMachineError)
  | stateMismatch (expected actual : SessionState)

/-- The states a host may report without being asked; its client admits no other. -/
inductive UnsolicitedObservation where
  | stopped (token : StopToken) (reason : StopReason) (threadId : ThreadId)
  | exited (token : StateToken) (exitCode : UInt32)

def UnsolicitedObservation.state : UnsolicitedObservation → SessionState
  | stopped token reason threadId => .stopped token reason threadId
  | exited token exitCode => .exited token exitCode

abbrev SessionReducer := Reducer SessionMachine SessionMachineError

def ValidatedLiveMemoryWrite.matchesCheckpoint (ticket : ValidatedLiveMemoryWrite)
    (checkpoint : RemoteCommandCheckpoint) : Bool :=
  ticket.write.value.commandId = checkpoint.commandId &&
    ticket.reducerInstance = checkpoint.reducerInstance &&
    checkpoint.localLiveMemoryWrite.any (·.pointer = ticket.write.pointer)

namespace SessionMachine

/-- An idle session, with no target and no leases. -/
def new (reducerInstance : ℕ) (sessionId : SessionId) (provisioningEpoch : ProvisioningEpoch)
    (helperBuild : HelperBuildId) : SessionMachine where
  reducerInstance := reducerInstance
  sessionId := sessionId
  provisioningEpoch := provisioningEpoch
  helperBuild := helperBuild
  state := .idle ⟨sessionId, 1⟩
  target := none
  lastCommandId := none
  lastStopId := 0
  lastRunId := 0
  executionGate := .notApplicable
  sandbox := none
  inheritedSandbox := none
  hostRiskLeases := ∅
  sandboxOwnershipLeases := ∅
  pendingRemoteCommand := none

/-! ### Checks and allocations -/

def requireState (m : SessionMachine) (action : String) (allowed : List SessionStateKind) :
    Except SessionMachineError Unit :=
  if m.state.kind ∈ allowed then .ok () else .error (.invalidTransition m.state.kind action)

def requireOpenTarget (m : SessionMachine) (action : String)
    (predicate : DebugTargetRequest → Bool) : Except SessionMachineError Unit := do
  m.requireState action [.opening]
  match m.target with
  | none => .error (.invalidTransition m.state.kind action)
  | some target =>
    if predicate target then .ok () else .error (.invalidTransition m.state.kind action)

def requireSession (m : SessionMachine) (actual : SessionId) : Except SessionMachineError Unit :=
  if actual = m.sessionId then .ok () else .error .sessionBindingMismatch

def requireNoRemoteCommandPending (m : SessionMachine) : Except SessionMachineError Unit :=
  match m.pendingRemoteCommand with
  | some commandId => .error (.remoteCommandPending commandId)
  | none => .ok ()

/-- The target may execute only behind an open gate. -/
def ensureExecutionAllowed (m : SessionMachine) : Except SessionMachineError Unit :=
  match m.executionGate with
  | .sandboxPending => .error .attestationNotAccepted
  | .notApplicable => .error .executionUnavailable
  | .hostRiskAccepted | .inheritedSandbox | .sandboxAccepted => .ok ()

/-- The token of the next generation. -/
def nextStateToken (m : SessionMachine) : Except SessionMachineError StateToken :=
  match m.state.stateToken.generation.checkedNext with
  | .ok generation => .ok ⟨m.sessionId, generation⟩
  | .error e => .error (.protocol e)

/-- A stop id above all earlier ones. -/
def allocateStopToken (state : StateToken) : SessionReducer StopToken := do
  let m ← look
  if h : m.lastStopId + 1 < 2 ^ 64 then
    update fun m => { m with lastStopId := m.lastStopId + 1 }
    return ⟨state, ⟨m.lastStopId + 1, by omega, h⟩⟩
  else raise .stopIdOverflow

/-- A run id above all earlier ones. -/
def allocateRunToken (state : StateToken) : SessionReducer RunToken := do
  let m ← look
  if h : m.lastRunId + 1 < 2 ^ 64 then
    update fun m => { m with lastRunId := m.lastRunId + 1 }
    return ⟨state, ⟨m.lastRunId + 1, by omega, h⟩⟩
  else raise .runIdOverflow

/-- Moves to a state that may follow the present one. -/
def transitionTo (next : SessionState) : SessionReducer Unit := do
  let m ← look
  lift ((m.state.validateSuccessor next).mapError .protocol)
  update fun m => { m with state := next }

/-- Command ids grow strictly. -/
def observeCommandId (commandId : CommandId) : SessionReducer Unit := do
  let m ← look
  match m.lastCommandId with
  | some last => refuse (commandId.val ≤ last.val) (.nonMonotonicCommandId last commandId)
  | none => pure ()
  update fun m => { m with lastCommandId := some commandId }

/-- The same stop, under a new id. -/
def refreshStoppedToken : SessionReducer Unit := do
  let m ← look
  match m.state with
  | .stopped _ reason threadId => do
    let next ← lift m.nextStateToken
    let stop ← allocateStopToken next
    transitionTo (.stopped stop reason threadId)
  | _ => raise (.invalidTransition m.state.kind "refresh stopped token")

/-- Run an operation of a sandbox value the machine owns, keeping what it wrote even if it fails. -/
def runSandbox {α : Type} (sandbox : SandboxMachine) (x : SandboxReducer α) : SessionReducer α :=
  within (fun _ => sandbox) (fun s m => { m with sandbox := some s }) .sandbox x

/-- An operation of the owned sandbox, if there is one. -/
def onSandbox {α : Type} (x : SandboxReducer α) : SessionReducer Unit := do
  let m ← look
  match m.sandbox with
  | some sandbox => do
    let _ ← runSandbox sandbox x
    return ()
  | none => return ()

/-- An operation of the owned sandbox, which has to exist. -/
def onPendingSandbox {α : Type} (x : SandboxReducer α) : SessionReducer Unit := do
  let m ← look
  let sandbox ← require m.sandbox .sandboxNotPending
  let _ ← runSandbox sandbox x
  return ()

/-- The state every transition reports. -/
def reportState : SessionReducer SessionState := do
  let m ← look
  return m.state

/-! ### Authority -/

/-- Registers the lease that a host launch or attach will use up. -/
def registerHostRiskVerifier (verifier : HostRiskVerifier) : SessionReducer Unit := do
  let m ← look
  lift (m.requireState "register host-risk lease" [.idle])
  lift (m.requireSession verifier.sessionId)
  refuse (verifier.provisioningEpoch ≠ m.provisioningEpoch) .provisioningEpochMismatch
  refuse (m.hostRiskLeases.contains verifier.id) .duplicateAuthorizationLease
  refuse (m.hostRiskLeases.size ≥ maxRegisteredAuthorizationLeases) .tooManyAuthorizationLeases
  update fun m => { m with hostRiskLeases := m.hostRiskLeases.insert verifier.id (some verifier) }

/-- Registers the lease of a sandbox someone else owns. -/
def registerSandboxOwnershipVerifier (verifier : SandboxOwnershipVerifier) :
    SessionReducer Unit := do
  let m ← look
  lift (m.requireState "register sandbox-ownership lease" [.idle])
  lift (m.requireSession verifier.binding.sessionId)
  refuse (verifier.binding.provisioningEpoch ≠ m.provisioningEpoch) .provisioningEpochMismatch
  refuse (m.sandboxOwnershipLeases.contains verifier.id) .duplicateAuthorizationLease
  refuse (m.sandboxOwnershipLeases.size ≥ maxRegisteredAuthorizationLeases)
    .tooManyAuthorizationLeases
  update fun m =>
    { m with
      sandboxOwnershipLeases := m.sandboxOwnershipLeases.insert verifier.id (some verifier) }

/-- The slot of the presented lease is emptied before the verifier is compared. -/
def consumeHostRiskLease (id : HostRiskLeaseId) (expected : HostRiskOperation) :
    SessionReducer Unit := do
  let m ← look
  let verifier ← require m.hostRiskLeases[id]?.join .hostRiskLeaseUnavailable
  update fun m => { m with hostRiskLeases := m.hostRiskLeases.insert id none }
  refuse (verifier.sessionId ≠ m.sessionId ∨ verifier.provisioningEpoch ≠ m.provisioningEpoch ∨
    verifier.operation ≠ expected) .hostRiskLeaseMismatch

/-- Uses up a lease, which must be for this process and mode. -/
def consumeSandboxOwnershipLease (id : SandboxOwnershipLeaseId) (process : ProcessIdentity)
    (mode : AttachMode) : SessionReducer SandboxOwnershipBinding := do
  let m ← look
  let verifier ← require m.sandboxOwnershipLeases[id]?.join .sandboxOwnershipLeaseUnavailable
  update fun m => { m with sandboxOwnershipLeases := m.sandboxOwnershipLeases.insert id none }
  refuse (verifier.binding.sessionId ≠ m.sessionId ∨
    verifier.binding.provisioningEpoch ≠ m.provisioningEpoch ∨
    verifier.binding.process ≠ process ∨ verifier.binding.mode ≠ mode)
    .sandboxOwnershipLeaseMismatch
  return verifier.binding

/-! ### Opening a target -/

variable [Sha256]

/-- What a target brings along: an owned sandbox, an execution gate, an inherited binding. -/
def provision (target : DebugTargetRequest) :
    SessionReducer (Option SandboxMachine × ExecutionGate × Option SandboxOwnershipBinding) := do
  let m ← look
  match target with
  | .launch launch =>
    match launch.environment with
    | .sandboxed policy => do
      lift (m.requireSession policy.sessionId)
      let expected ← lift ((ExpectedSandboxAttestation.fromPolicy launch.binaryId policy
        m.helperBuild m.provisioningEpoch).mapError .policy)
      let sandbox ← lift ((SandboxMachine.new expected).mapError .sandbox)
      match SandboxMachine.beginProvisioning sandbox with
      | (.ok _, sandbox) => return (some sandbox, .sandboxPending, none)
      | (.error e, _) => raise (.sandbox e)
    | .host riskLease => do
      let intent ← lift ((HostLaunchIntent.fromTarget launch).mapError .hostLaunchIntent)
      consumeHostRiskLease riskLease (.launch intent)
      return (none, .hostRiskAccepted, none)
  | .attach attach =>
    match attach.scope with
    | .host process riskLease => do
      consumeHostRiskLease riskLease (.attach process attach.mode)
      return (none, .hostRiskAccepted, none)
    | .ownedSandbox process ownershipLease => do
      let binding ← consumeSandboxOwnershipLease ownershipLease process attach.mode
      return (none, .inheritedSandbox, some binding)
  | .dump _ | .offline _ => return (none, .notApplicable, none)

/-- One target consumes the session: every unused lease is dropped. -/
def acceptOpen (target : DebugTargetRequest) : SessionReducer Unit := do
  let (sandbox, gate, inheritedSandbox) ← provision target
  let m ← look
  let next ← lift m.nextStateToken
  update fun m =>
    { m with
      executionGate := gate
      sandbox := sandbox
      inheritedSandbox := inheritedSandbox
      target := some target
      hostRiskLeases := ∅
      sandboxOwnershipLeases := ∅ }
  transitionTo (.opening next target)

/-! ### Commands -/

/-- The effect of an admitted command. -/
def applyCommand (command : DebugCommand) : SessionReducer Unit := do
  let m ← look
  match command with
  -- refused before a command gets here
  | .probeCapabilities => raise .globalCommand
  | .open target => acceptOpen target
  | .continue _ | .step _ _ _ => do
    lift m.ensureExecutionAllowed
    let next ← lift m.nextStateToken
    let run ← allocateRunToken next
    onSandbox SandboxMachine.markRunning
    transitionTo (.running run)
  | .pause _ => do
    let next ← lift m.nextStateToken
    transitionTo (.pausing next)
  | .writeMemory _ _ _ _ | .writeRegisters _ _ _ | .setBreakpoint _ _ _
  | .removeBreakpoint _ _ => refreshStoppedToken
  | .readMemory _ _ _ | .readRegisters _ _ | .captureSnapshot _ => return ()
  | .detach _ => do
    refuse (m.executionGate ∈ [.inheritedSandbox, .sandboxPending, .sandboxAccepted])
      .sandboxDetachForbidden
    let next ← lift m.nextStateToken
    transitionTo (.detached next)
  | .terminate _ | .close _ => do
    let next ← lift m.nextStateToken
    onSandbox SandboxMachine.beginCleanup
    transitionTo (.closing next)

/-- A well-formed command consumes its id even when it is refused afterwards. -/
def acceptCommandInner (envelope : CommandEnvelope) : SessionReducer SessionState := do
  lift (envelope.validate.mapError .protocol)
  observeCommandId envelope.commandId
  refuse (envelope.command = .probeCapabilities) .globalCommand
  let m ← look
  lift ((envelope.validateAgainst m.state).mapError .protocol)
  applyCommand envelope.command
  reportState

/-- One accepted command of a session that waits for no remote one. -/
def acceptCommand (envelope : CommandEnvelope) : SessionReducer SessionState := do
  let m ← look
  lift m.requireNoRemoteCommandPending
  acceptCommandInner envelope

/-! ### Remote commands -/

def remoteCommandPostAcceptState (m : SessionMachine) : RemoteCommandPostAcceptState where
  state := m.state
  target := m.target
  lastCommandId := m.lastCommandId
  lastStopId := m.lastStopId
  lastRunId := m.lastRunId
  executionGate := m.executionGate
  sandbox := m.sandbox
  inheritedSandbox := m.inheritedSandbox
  hostRiskLeases := m.hostRiskLeases
  sandboxOwnershipLeases := m.sandboxOwnershipLeases

/-- Accepts a command and keeps what it takes to undo that. -/
def beginRemoteCommand (envelope : CommandEnvelope) :
    SessionReducer RemoteCommandCheckpoint := do
  let before ← look
  lift before.requireNoRemoteCommandPending
  let _ ← acceptCommandInner envelope
  update fun m => { m with pendingRemoteCommand := some envelope.commandId }
  let after ← look
  return {
    reducerInstance := after.reducerInstance
    localLiveMemoryWrite := none
    commandId := envelope.commandId
    state := before.state
    target := before.target
    executionGate := before.executionGate
    sandbox := before.sandbox
    inheritedSandbox := before.inheritedSandbox
    postAccept := after.remoteCommandPostAcceptState }

/-- The attached process of a debug attach is the process of the binding. -/
def requireDebugAttach (m : SessionMachine) (binding : LiveTargetBinding) :
    Except SessionMachineError Unit :=
  match m.target with
  | some (.attach target) =>
    if target.mode = .debug then
      if target.scope.process = binding.process then .ok ()
      else .error .liveMemoryWriteTargetMismatch
    else .error .liveMemoryWriteRequiresDebugAttach
  | _ => .error .liveMemoryWriteRequiresDebugAttach

/-- `allocation` is the address the shared allocation of this write is placed at. -/
def beginLiveMemoryWrite (envelope : CommandEnvelope) (binding : LiveTargetBinding)
    (allocation : ℕ) : SessionReducer
      (RemoteCommandCheckpoint × ValidatedLiveMemoryWrite ×
        LocalLiveMemoryWriteReceiptIdentity) := do
  match envelope.command with
  | .writeMemory stop address expected replacement => do
    lift (envelope.validate.mapError .protocol)
    let m ← look
    lift (m.requireDebugAttach binding)
    let _ ← lift ((binding.rvaForAddressSpan address expected.length).mapError
      .liveMemoryWriteImageSpan)
    let checkpoint ← beginRemoteCommand envelope
    let write : Arc LocalLiveMemoryWriteAllocation :=
      ⟨allocation, ⟨envelope.commandId, stop, binding, address, expected, replacement⟩⟩
    return ({ checkpoint with localLiveMemoryWrite := some write },
      ⟨checkpoint.reducerInstance, write⟩, ⟨write⟩)
  | _ => raise (.protocol .notMemoryWriteCommand)

def validateRemoteCheckpoint (m : SessionMachine) (checkpoint : RemoteCommandCheckpoint)
    (commandId : CommandId) : Except SessionMachineError Unit :=
  if m.reducerInstance ≠ checkpoint.reducerInstance then .error .remoteCommandReducerMismatch
  else match m.pendingRemoteCommand with
    | none => .error .remoteCommandNotPending
    | some pending =>
      if commandId ≠ checkpoint.commandId ∨ pending ≠ checkpoint.commandId then
        .error (.remoteCommandCheckpointMismatch pending commandId)
      else .ok ()

/-- A local receipt must fit the checkpoint it resolves. -/
def validateLocalLiveMemoryWriteResolution (m : SessionMachine)
    (checkpoint : RemoteCommandCheckpoint) (identity : LocalLiveMemoryWriteReceiptIdentity) :
    Except SessionMachineError StopToken := do
  m.validateRemoteCheckpoint checkpoint identity.write.value.commandId
  if m.remoteCommandPostAcceptState ≠ checkpoint.postAccept then
    .error .remoteCommandStateChanged
  match checkpoint.localLiveMemoryWrite with
  | none => .error .localLiveMemoryWriteReceiptMismatch
  | some write =>
    if write.pointer ≠ identity.write.pointer then .error .localLiveMemoryWriteReceiptMismatch
    match checkpoint.state with
    | .stopped priorStop _ _ =>
      if priorStop ≠ identity.write.value.stop then .error .localLiveMemoryWriteReceiptMismatch
      match m.state with
      | .stopped resultingStop _ _ => .ok resultingStop
      | _ => .error .localLiveMemoryWriteReceiptMismatch
    | _ => .error .localLiveMemoryWriteReceiptMismatch

/-- Put the visible state of a checkpoint back and clear the pending command. -/
def restore (checkpoint : RemoteCommandCheckpoint) (m : SessionMachine) : SessionMachine :=
  { m with
    pendingRemoteCommand := none
    state := checkpoint.state
    target := checkpoint.target
    executionGate := checkpoint.executionGate
    sandbox := checkpoint.sandbox
    inheritedSandbox := checkpoint.inheritedSandbox }

/-- The write was made: the accepted state stays. -/
def resolveLiveMemoryWriteSuccess (checkpoint : RemoteCommandCheckpoint)
    (identity : LocalLiveMemoryWriteReceiptIdentity) :
    SessionReducer ValidatedLocalLivePatchReceipt := do
  let m ← look
  let resultingStop ← lift (m.validateLocalLiveMemoryWriteResolution checkpoint identity)
  update fun m => { m with pendingRemoteCommand := none }
  return ⟨identity.write.value, .committed resultingStop⟩

/-- The write was not made: back to the state before it. -/
def resolveLiveMemoryWriteNoEffect (checkpoint : RemoteCommandCheckpoint)
    (identity : LocalLiveMemoryWriteReceiptIdentity) :
    SessionReducer ValidatedLocalLivePatchReceipt := do
  let m ← look
  let _ ← lift (m.validateLocalLiveMemoryWriteResolution checkpoint identity)
  match checkpoint.state with
  | .stopped token _ _ => do
    refuse (token ≠ identity.write.value.stop) .localLiveMemoryWriteReceiptMismatch
    update (restore checkpoint)
    return ⟨identity.write.value, .rejectedNoEffect⟩
  | _ => raise .localLiveMemoryWriteReceiptMismatch

/-- Keeps the state that the accepted command led to. -/
def commitRemoteCommand (checkpoint : RemoteCommandCheckpoint) (commandId : CommandId) :
    SessionReducer SessionState := do
  let m ← look
  lift (m.validateRemoteCheckpoint checkpoint commandId)
  update fun m => { m with pendingRemoteCommand := none }
  reportState

/-- Puts back the state before the command. -/
def rejectRemoteCommand (checkpoint : RemoteCommandCheckpoint) (commandId : CommandId) :
    SessionReducer SessionState := do
  let m ← look
  lift (m.validateRemoteCheckpoint checkpoint commandId)
  refuse (m.remoteCommandPostAcceptState ≠ checkpoint.postAccept) .remoteCommandStateChanged
  update (restore checkpoint)
  reportState

/-! ### Observations of the target -/

omit [Sha256]

/-- The helper has created the target and not resumed it. -/
def targetCreatedSuspended (process : ProcessIdentity) : SessionReducer SessionState := do
  let m ← look
  lift (m.requireState "record suspended target" [.opening])
  refuse (m.executionGate ≠ .sandboxPending) .sandboxNotPending
  let next ← lift m.nextStateToken
  onPendingSandbox (SandboxMachine.targetCreatedSuspended process)
  transitionTo (.awaitingAttestation next process)
  reportState

/-- Opens the gate on evidence that fits the plan. -/
def acceptSandboxAttestation (actual : SandboxAttestation) : SessionReducer SessionState := do
  let m ← look
  lift (m.requireState "accept sandbox attestation" [.awaitingAttestation])
  let next ← lift m.nextStateToken
  onPendingSandbox (SandboxMachine.acceptAttestation actual)
  update fun m => { m with executionGate := .sandboxAccepted }
  transitionTo (.attestationAccepted next)
  reportState

/-- The shared shape of the three ways an open completes without a stop. -/
def completeOpen (action : String) (predicate : DebugTargetRequest → Bool)
    (next : StateToken → SessionState) : SessionReducer SessionState := do
  let m ← look
  lift (m.requireOpenTarget action predicate)
  let token ← lift m.nextStateToken
  transitionTo (next token)
  reportState

def completeOpenOffline : SessionReducer SessionState :=
  completeOpen "complete offline open"
    (fun target => match target with | .offline _ => true | _ => false) .offline

def completeOpenDump : SessionReducer SessionState :=
  completeOpen "complete dump open"
    (fun target => match target with | .dump _ => true | _ => false) .dump

def completeOpenObserving (processId : ProcessId) : SessionReducer SessionState :=
  completeOpen "complete observing attach"
    (fun target => match target with | .attach t => t.mode = .observeReadOnly | _ => false)
    (.observing · processId)

/-- The targets that can be stopped while they open. -/
def stopsWhileOpening : DebugTargetRequest → Bool
  | .launch _ => true
  | .attach target => target.mode = .debug
  | .dump _ | .offline _ => false

/-- The target reports a stop. -/
def markStopped (reason : StopReason) (threadId : ThreadId) : SessionReducer SessionState := do
  let m ← look
  lift (m.requireState "mark stopped" [.opening, .attestationAccepted, .running, .pausing])
  refuse (m.executionGate = .sandboxPending) .attestationNotAccepted
  if m.state.kind = .opening then lift (m.requireOpenTarget "mark stopped" stopsWhileOpening)
  let next ← lift m.nextStateToken
  let stop ← allocateStopToken next
  transitionTo (.stopped stop reason threadId)
  reportState

/-- The target reports its exit. -/
def markExited (exitCode : UInt32) : SessionReducer SessionState := do
  let m ← look
  lift (m.requireState "mark exited" [.attestationAccepted, .stopped, .running, .pausing])
  let next ← lift m.nextStateToken
  onSandbox SandboxMachine.beginCleanup
  transitionTo (.exited next exitCode)
  reportState

/-- Fail with the errors of another layer. -/
def liftError {α : Type} (x : SessionReducer α) :
    Reducer SessionMachine UnsolicitedObservationError α :=
  within id (fun s _ => s) .reducer x

/-- One report that no command asked for. -/
def applyObservation (observed : UnsolicitedObservation) :
    Reducer SessionMachine UnsolicitedObservationError Unit := do
  let applied ← liftError (match observed with
    | .stopped _ reason threadId => markStopped reason threadId
    | .exited _ exitCode => markExited exitCode)
  refuse (applied ≠ observed.state) (.stateMismatch applied observed.state)

/-- The batch up to its first failure. -/
def replayObservations :
    List UnsolicitedObservation → Reducer SessionMachine UnsolicitedObservationError Unit
  | [] => pure ()
  | observed :: rest => do
    applyObservation observed
    replayObservations rest

/-- A batch that fails anywhere puts back every field its transitions can have written. -/
def applyUnsolicitedObservations (observations : List UnsolicitedObservation) :
    Reducer SessionMachine UnsolicitedObservationError Unit := fun m =>
  match replayObservations observations m with
  | (.ok u, m') => (.ok u, m')
  | (.error e, m') =>
    (.error e, { m' with state := m.state, lastStopId := m.lastStopId, sandbox := m.sandbox })

/-- The session gives up, and its sandbox goes to cleanup. -/
def markFailed (message : String) : SessionReducer SessionState := do
  let m ← look
  refuse (m.state.kind = .closed) (.invalidTransition .closed "mark failed")
  refuse (trimmedEmpty message ∨ message.utf8ByteSize > maxReasonBytes ∨
    message.toList.any isControl) .invalidFailureMessage
  let next ← lift m.nextStateToken
  onSandbox (do
    let _ ← SandboxMachine.markFailed
    SandboxMachine.beginCleanup)
  transitionTo (.failed next message)
  reportState

/-! ### Closing -/

def validateInheritedCleanupBinding (binding : SandboxOwnershipBinding)
    (receipt : SandboxCleanupReceipt) : Except SessionMachineError Unit :=
  if receipt.sessionId ≠ binding.sessionId ∨
      receipt.provisioningEpoch ≠ binding.provisioningEpoch ∨
      receipt.provider ≠ binding.provider ∨ receipt.policyDigest ≠ binding.policyDigest ∨
      receipt.process ≠ some binding.process then
    .error .inheritedCleanupReceiptMismatch
  else
    (receipt.validateForBoundary (providerBoundary binding.provider)).mapError
      fun e => .sandbox (.cleanup e)

def validateInheritedCleanup (binding : SandboxOwnershipBinding)
    (receipt : SandboxCleanupReceipt) : Except SessionMachineError Unit := do
  validateInheritedCleanupBinding binding receipt
  if receipt.outcome ≠ .complete then .error (.sandbox .cleanupIncomplete)

/-- The cleanup evidence a close needs, checked against whatever the session owns. -/
def releaseSandbox (receipt : Option SandboxCleanupReceipt) : SessionReducer Unit := do
  let m ← look
  match m.sandbox, m.inheritedSandbox, receipt with
  | some sandbox, none, some receipt => do
    let _ ← runSandbox sandbox (SandboxMachine.close receipt)
    return ()
  | none, some binding, some receipt => lift (validateInheritedCleanup binding receipt)
  | some _, none, none | none, some _, none => raise .missingCleanupReceipt
  | none, none, some _ => raise .unexpectedCleanupReceipt
  | none, none, none => return ()
  | some _, some _, _ => raise .conflictingSandboxOwnership

/-- Closes the session, with the receipt that a sandbox needs. -/
def completeClose (receipt : Option SandboxCleanupReceipt) : SessionReducer SessionState := do
  let m ← look
  lift (m.requireState "complete close" [.closing])
  let next ← lift m.nextStateToken
  releaseSandbox receipt
  transitionTo (.closed next)
  reportState

/-- Whoever has a sandbox has to show that it is gone. -/
def requiresCleanupReceipt (m : SessionMachine) : Bool :=
  m.sandbox.isSome || m.inheritedSandbox.isSome

/-- The sandbox never held a target. -/
def recordSandboxTargetNotCreated : SessionReducer Unit := do
  let m ← look
  match m.sandbox, m.inheritedSandbox with
  | some sandbox, none => runSandbox sandbox SandboxMachine.recordTargetNotCreated
  | none, none => raise .unexpectedSandboxFailure
  | some _, some _ => raise .conflictingSandboxOwnership
  | none, some _ => raise (.sandboxFailure .contextKind)

/-! ### Failure and cleanup evidence -/

def validateSandboxFailure (m : SessionMachine) (failure : SandboxFailure) :
    Except SessionMachineError Unit :=
  match m.sandbox, m.inheritedSandbox with
  | some sandbox, none =>
    (failure.validateAgainstExpected sandbox.expected sandbox.targetCreation).mapError
      .sandboxFailure
  | none, some binding =>
    (failure.validateAgainstInherited binding.sessionId binding.provisioningEpoch
      binding.policyDigest binding.provider binding.process binding.mode).mapError .sandboxFailure
  | none, none => .error .unexpectedSandboxFailure
  | some _, some _ => .error .conflictingSandboxOwnership

def retainSandboxFailureTargetCreation (failure : SandboxFailure) : SessionReducer Unit := do
  let m ← look
  lift (m.validateSandboxFailure failure)
  if failure.stage = .policy ∨ failure.stage = .discovery then return ()
  else match m.sandbox, m.inheritedSandbox, failure.context with
    | some sandbox, none, .launch _ _ targetCreation => do
      refuse sandbox.targetCreation.isNone (.sandbox .targetCreationOutcomeMismatch)
      runSandbox sandbox (SandboxMachine.retainFailureTargetCreation targetCreation)
    | none, some _, .inheritedAttach _ _ => return ()
    | none, none, _ => raise .unexpectedSandboxFailure
    | some _, some _, _ => raise .conflictingSandboxOwnership
    | _, _, _ => raise (.sandboxFailure .contextKind)

end SessionMachine

/-! ### The operations as inputs of one reducer -/

inductive SessionOperation where
  | registerHostRiskVerifier (verifier : HostRiskVerifier)
  | registerSandboxOwnershipVerifier (verifier : SandboxOwnershipVerifier)
  | acceptCommand (envelope : CommandEnvelope)
  | beginRemoteCommand (envelope : CommandEnvelope)
  | beginLiveMemoryWrite (envelope : CommandEnvelope) (binding : LiveTargetBinding)
      (allocation : ℕ)
  | resolveLiveMemoryWriteSuccess (checkpoint : RemoteCommandCheckpoint)
      (identity : LocalLiveMemoryWriteReceiptIdentity)
  | resolveLiveMemoryWriteNoEffect (checkpoint : RemoteCommandCheckpoint)
      (identity : LocalLiveMemoryWriteReceiptIdentity)
  | commitRemoteCommand (checkpoint : RemoteCommandCheckpoint) (commandId : CommandId)
  | rejectRemoteCommand (checkpoint : RemoteCommandCheckpoint) (commandId : CommandId)
  | targetCreatedSuspended (process : ProcessIdentity)
  | acceptSandboxAttestation (actual : SandboxAttestation)
  | completeOpenOffline
  | completeOpenDump
  | completeOpenObserving (processId : ProcessId)
  | markStopped (reason : StopReason) (threadId : ThreadId)
  | markExited (exitCode : UInt32)
  | applyUnsolicitedObservations (observations : List UnsolicitedObservation)
  | markFailed (message : String)
  | completeClose (receipt : Option SandboxCleanupReceipt)
  | recordSandboxTargetNotCreated
  | retainSandboxFailureTargetCreation (failure : SandboxFailure)

inductive SessionAnswer where
  | done
  | state (state : SessionState)
  | checkpoint (checkpoint : RemoteCommandCheckpoint)
  | liveMemoryWrite (checkpoint : RemoteCommandCheckpoint) (ticket : ValidatedLiveMemoryWrite)
      (identity : LocalLiveMemoryWriteReceiptIdentity)
  | receipt (receipt : ValidatedLocalLivePatchReceipt)

open SessionMachine in
def SessionOperation.apply [Sha256] :
    SessionOperation → Reducer SessionMachine UnsolicitedObservationError SessionAnswer
  | registerHostRiskVerifier verifier => liftError do
    SessionMachine.registerHostRiskVerifier verifier
    return .done
  | registerSandboxOwnershipVerifier verifier => liftError do
    SessionMachine.registerSandboxOwnershipVerifier verifier
    return .done
  | acceptCommand envelope => liftError do
    return .state (← SessionMachine.acceptCommand envelope)
  | beginRemoteCommand envelope => liftError do
    return .checkpoint (← SessionMachine.beginRemoteCommand envelope)
  | beginLiveMemoryWrite envelope binding allocation => liftError do
    let (checkpoint, ticket, identity) ←
      SessionMachine.beginLiveMemoryWrite envelope binding allocation
    return .liveMemoryWrite checkpoint ticket identity
  | resolveLiveMemoryWriteSuccess checkpoint identity => liftError do
    return .receipt (← SessionMachine.resolveLiveMemoryWriteSuccess checkpoint identity)
  | resolveLiveMemoryWriteNoEffect checkpoint identity => liftError do
    return .receipt (← SessionMachine.resolveLiveMemoryWriteNoEffect checkpoint identity)
  | commitRemoteCommand checkpoint commandId => liftError do
    return .state (← SessionMachine.commitRemoteCommand checkpoint commandId)
  | rejectRemoteCommand checkpoint commandId => liftError do
    return .state (← SessionMachine.rejectRemoteCommand checkpoint commandId)
  | targetCreatedSuspended process => liftError do
    return .state (← SessionMachine.targetCreatedSuspended process)
  | acceptSandboxAttestation actual => liftError do
    return .state (← SessionMachine.acceptSandboxAttestation actual)
  | completeOpenOffline => liftError do return .state (← SessionMachine.completeOpenOffline)
  | completeOpenDump => liftError do return .state (← SessionMachine.completeOpenDump)
  | completeOpenObserving processId => liftError do
    return .state (← SessionMachine.completeOpenObserving processId)
  | markStopped reason threadId => liftError do
    return .state (← SessionMachine.markStopped reason threadId)
  | markExited exitCode => liftError do return .state (← SessionMachine.markExited exitCode)
  | applyUnsolicitedObservations observations => do
    SessionMachine.applyUnsolicitedObservations observations
    return .done
  | markFailed message => liftError do return .state (← SessionMachine.markFailed message)
  | completeClose receipt => liftError do return .state (← SessionMachine.completeClose receipt)
  | recordSandboxTargetNotCreated => liftError do
    SessionMachine.recordSandboxTargetNotCreated
    return .done
  | retainSandboxFailureTargetCreation failure => liftError do
    SessionMachine.retainSandboxFailureTargetCreation failure
    return .done

end ReSymbol.Debugger
