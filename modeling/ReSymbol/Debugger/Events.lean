import ReSymbol.Debugger.LiveTarget
import ReSymbol.Debugger.SessionState

/-! Correlated events: the evidence a host returns for a command, the receipts built from it, and
    the local proof of a resolved live write.

    A failed write reports its stage and a recovery claim. The claim is canonical only when it
    agrees with the stage: before the replacement is written there is nothing to restore, after it
    there is no "no write attempted". -/

namespace ReSymbol.Debugger

/-! ### Failed memory writes -/

/-- Whether the command checkpoint may be restored without hiding a target-side effect. -/
def MemoryWriteRecovery.isRollbackSafe : MemoryWriteRecovery → Bool
  | .noWriteAttempted protectionRestored => protectionRestored
  | .restored => true
  | .indeterminate _ _ _ => false

/-- The stages before the replacement is written. -/
def MemoryWriteStage.beforeWrite : MemoryWriteStage → Bool
  | .changeProtection | .protectionRace | .revalidateExpectedBytes => true
  | _ => false

/-- Stage and recovery agree, and an indeterminate claim is not a complete recovery in disguise. -/
def MemoryWriteRecovery.canonicalFor (stage : MemoryWriteStage) : MemoryWriteRecovery → Bool
  | .noWriteAttempted _ => stage.beforeWrite
  | .restored => !stage.beforeWrite
  | .indeterminate bytes cache protection => !(stage.beforeWrite || (bytes && cache && protection))

structure MemoryWriteFailure where
  stop : StopToken
  address : MemoryAddress
  size : UInt32
  stage : MemoryWriteStage
  recovery : MemoryWriteRecovery
  detail : String

def MemoryWriteFailure.validate (f : MemoryWriteFailure) : Except ProtocolValidationError Unit := do
  if f.size = 0 then .error .emptyMemoryWrite
  if f.size.toNat > maxMemoryWriteBytes then
    .error (.memoryWriteTooLarge f.size.toNat maxMemoryWriteBytes)
  f.address.validateSpan f.size.toNat
  validateReason f.detail
  if !f.recovery.canonicalFor f.stage then
    .error (.memoryWriteFailureRecoveryMismatch f.stage f.recovery)

/-! ### Events -/

inductive CapabilityUnavailableCode where
  | unsupportedPlatform | providerUnavailable | policyConflict | targetModeReadOnly
  | targetArchitectureUnsupported | insufficientAuthority | backendUnavailable

inductive CapabilityAvailability where
  | available
  | unavailable (code : CapabilityUnavailableCode) (reason : String)

structure CapabilityStatus where
  capability : DebugCapability
  availability : CapabilityAvailability

structure CapabilityReport where
  statuses : List CapabilityStatus

inductive BreakpointChange where
  | set (persistence : BreakpointPersistence)
  | removed

inductive CommandOutcome where
  | succeeded
  | rejected (code message : String)
  deriving DecidableEq

inductive DebugEvent where
  | capabilities (report : CapabilityReport)
  | stateChanged (state : SessionState)
  | liveTargetBound (state : StateToken) (binding : LiveTargetBinding)
  | memoryRead (view : ReadViewToken) (address : MemoryAddress) (bytes : List UInt8)
  | memoryWritten (stop : StopToken) (address : MemoryAddress) (before after : List UInt8)
  | registersRead (view : ReadViewToken) (threadId : ThreadId) (registers : RegisterSet)
  | registersWritten (stop : StopToken) (threadId : ThreadId) (before after : RegisterSet)
  | memoryWriteFailed (failure : MemoryWriteFailure)
  | breakpointChanged (stop : StopToken) (breakpoint : BreakpointSpec) (change : BreakpointChange)
  | sandboxAttested (attestation : SandboxAttestation)
  | sandboxLifecycle (event : SandboxLifecycleEvent)
  | commandResult (commandId : CommandId) (outcome : CommandOutcome)
  | warning (code message : String)

namespace DebugEvent

def stateContext : DebugEvent → Option StateToken
  | stateChanged state => some state.stateToken
  | liveTargetBound state _ => some state
  | memoryRead view _ _ | registersRead view _ _ => some view.state
  | memoryWritten stop _ _ _ | registersWritten stop _ _ _ | breakpointChanged stop _ _ =>
    some stop.state
  | memoryWriteFailed failure => some failure.stop.state
  | sandboxAttested _ | sandboxLifecycle _ | capabilities _ | commandResult _ _ | warning _ _ =>
    none

end DebugEvent

structure EventEnvelope where
  version : ProtocolVersion
  sequence : EventSequence
  sessionId : Option SessionId
  state : Option StateToken
  causedBy : Option CommandId
  event : DebugEvent

/-! ### Receipts -/

/-- A host client's receipt: the outcome of one command and its event batch. -/
structure CommandReceipt where
  commandId : CommandId
  outcome : CommandOutcome
  events : List EventEnvelope

/-- The exact write one local transaction was accepted for. -/
structure LocalLiveMemoryWriteAllocation where
  commandId : CommandId
  stop : StopToken
  binding : LiveTargetBinding
  address : MemoryAddress
  expected : List UInt8
  replacement : List UInt8

inductive ValidatedLocalLivePatchResolution where
  | committed (resultingStop : StopToken)
  | rejectedNoEffect

/-- Reducer proof of one resolved local live-memory write. -/
structure ValidatedLocalLivePatchReceipt where
  write : LocalLiveMemoryWriteAllocation
  resolution : ValidatedLocalLivePatchResolution

end ReSymbol.Debugger
