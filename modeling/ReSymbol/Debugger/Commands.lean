import ReSymbol.Debugger.SandboxEvidence

/-! Debugger commands: the requests a controller can send and the checks that make each one well
    formed on its own.

    Every state-sensitive command carries the exact token the backend issued; `stateContext` is that
    token, and comparing it with the current state is the business of the envelope. -/

namespace ReSymbol.Debugger

def protocolMajor : UInt16 := 1
def protocolMinor : UInt16 := 7
def maxLaunchArguments : ℕ := 128
def maxLaunchArgumentBytes : ℕ := 256 * 1024
def maxMemoryReadBytes : UInt32 := 1024 * 1024
def maxMemoryWriteBytes : ℕ := 64 * 1024
def maxReasonBytes : ℕ := 1024
def maxRegisters : ℕ := 256
def maxRegisterNameBytes : ℕ := 32
def memoryWriteFailureRejectionCode : String := "memory-write-failed"

/-! ### Vocabulary of the protocol errors -/

inductive SessionStateKind where
  | idle | opening | awaitingAttestation | attestationAccepted | offline | dump | snapshot
  | observing | stopped | running | pausing | closing | detached | exited | failed | closed
  deriving DecidableEq

inductive DebugCapability where
  | offlineAnalysis | dumpRead | snapshotRead | observeProcess | liveMemoryRead | liveMemoryWrite
  | executionControl | stepInto | stepOver | stepOut | registerRead | registerWrite
  | softwareBreakpoints | hardwareBreakpoints | sandboxedLaunch | hostLaunch | hostAttach

/-- Stage at which a compare-before-write mutation failed. -/
inductive MemoryWriteStage where
  | changeProtection | protectionRace | revalidateExpectedBytes | writeReplacement
  | flushReplacement | restoreProtection | verifyReplacement | validateFinalBinding
  deriving DecidableEq

/-- Recovery evidence of a failed mutation; the flags record only proven facts. -/
inductive MemoryWriteRecovery where
  | noWriteAttempted (protectionRestored : Bool)
  | restored
  | indeterminate (bytesRestored instructionCacheFlushed protectionRestored : Bool)
  deriving DecidableEq

inductive ProtocolValidationError where
  | sandboxFailure (error : SandboxFailureValidationError)
  | unsupportedProtocolVersion (major minor : UInt16)
  | stateGenerationOverflow
  | unexpectedStateGeneration (expected actual : ℕ)
  | invalidSessionStateTransition (source target : SessionStateKind)
  | emptyPath
  | tooManyLaunchArguments (actual maximum : ℕ)
  | launchArgumentsTooLarge (actual maximum : ℕ)
  | nulLaunchArgument
  | launchMustStopBeforeEntry
  | invalidReason
  | emptyMemoryRead
  | memoryReadTooLarge (actual maximum : UInt32)
  | emptyMemoryWrite
  | memoryWriteLengthMismatch (expected replacement : ℕ)
  | memoryWriteTooLarge (actual maximum : ℕ)
  | addressOverflow (address size : ℕ)
  | memoryWriteFailureRecoveryMismatch (stage : MemoryWriteStage) (recovery : MemoryWriteRecovery)
  | notMemoryWriteCommand
  | invalidRegisterName
  | tooManyRegisters (actual maximum : ℕ)
  | duplicateRegisterName (name : String)
  | invalidHardwareBreakpointSize (size : UInt8)
  | invalidExecuteBreakpointSize (size : UInt8)
  | unalignedHardwareBreakpoint (address : ℕ) (size : UInt8)
  | unexpectedSessionContext
  | missingSessionContext
  | missingStateToken
  | staleSession
  | staleStateToken
  | staleExecutionToken
  | commandNotAllowedInState
  deriving DecidableEq

/-- The last generation has no successor. -/
def StateGeneration.checkedNext (generation : StateGeneration) :
    Except ProtocolValidationError StateGeneration :=
  if h : generation.val + 1 < 2 ^ 64 then .ok ⟨generation.val + 1, by omega, h⟩
  else .error .stateGenerationOverflow

structure ProtocolVersion where
  major : UInt16
  minor : UInt16
  deriving DecidableEq

def ProtocolVersion.current : ProtocolVersion := ⟨protocolMajor, protocolMinor⟩

def ProtocolVersion.validate (v : ProtocolVersion) : Except ProtocolValidationError Unit :=
  if v = ProtocolVersion.current then .ok ()
  else .error (.unsupportedProtocolVersion v.major v.minor)

/-- The span check of a `u64` address; a `usize` length always fits in a `u64`. -/
def MemoryAddress.validateSpan (address : MemoryAddress) (size : ℕ) :
    Except ProtocolValidationError Unit :=
  match checkedAdd address.val size with
  | some _ => .ok ()
  | none => .error (.addressOverflow address.val size)

def validateReason (reason : String) : Except ProtocolValidationError Unit :=
  if reason.isEmpty || reason.utf8ByteSize > maxReasonBytes || reason.toList.any isControl then
    .error .invalidReason
  else .ok ()

/-! ### Targets -/

/-- A path up to the equality of `std::path`, which compares components; only the empty path has
    none. -/
structure PathBuf where
  components : List String
  deriving DecidableEq

def validatePath (path : PathBuf) : Except ProtocolValidationError Unit :=
  if path.components = [] then .error .emptyPath else .ok ()

inductive LaunchEnvironment where
  | sandboxed (policy : SandboxPolicy)
  | host (riskLease : HostRiskLeaseId)
  deriving DecidableEq

structure LaunchTarget where
  binaryId : BinaryId
  executable : PathBuf
  arguments : List String
  workingDirectory : Option PathBuf
  environment : LaunchEnvironment
  stopBeforeEntry : Bool
  deriving DecidableEq

def LaunchTarget.argumentBytes (t : LaunchTarget) : ℕ := (t.arguments.map String.utf8ByteSize).sum

/-- The running byte total of the source cannot overflow: it sums lengths of live strings. -/
def LaunchTarget.validate (t : LaunchTarget) : Except ProtocolValidationError Unit := do
  validatePath t.executable
  match t.workingDirectory with
  | some path => validatePath path
  | none => .ok ()
  if t.arguments.length > maxLaunchArguments then
    .error (.tooManyLaunchArguments t.arguments.length maxLaunchArguments)
  if t.arguments.any (fun argument => argument.toList.contains (Char.ofNat 0)) then
    .error .nulLaunchArgument
  if t.argumentBytes > maxLaunchArgumentBytes then
    .error (.launchArgumentsTooLarge t.argumentBytes maxLaunchArgumentBytes)
  if !t.stopBeforeEntry then .error .launchMustStopBeforeEntry

inductive AttachScope where
  | host (process : ProcessIdentity) (riskLease : HostRiskLeaseId)
  | ownedSandbox (process : ProcessIdentity) (ownershipLease : SandboxOwnershipLeaseId)
  deriving DecidableEq

def AttachScope.process : AttachScope → ProcessIdentity
  | .host process _ => process
  | .ownedSandbox process _ => process

structure AttachTarget where
  scope : AttachScope
  mode : AttachMode
  deriving DecidableEq

inductive DebugTargetRequest where
  | launch (target : LaunchTarget)
  | attach (target : AttachTarget)
  | dump (path : PathBuf)
  | offline (path : PathBuf)
  deriving DecidableEq

/-- The check of the target's own kind. -/
def DebugTargetRequest.validate : DebugTargetRequest → Except ProtocolValidationError Unit
  | .launch target => target.validate
  | .attach _ => .ok ()
  | .dump path => validatePath path
  | .offline path => validatePath path

/-! ### Breakpoints and registers -/

inductive HardwareAccess where
  | execute | write | readWrite
  deriving DecidableEq

inductive BreakpointKind where
  | software
  | hardware (access : HardwareAccess) (size : UInt8)
  deriving DecidableEq

inductive BreakpointScope where
  | process
  | thread (threadId : ThreadId)
  deriving DecidableEq

structure BreakpointSpec where
  id : BreakpointId
  address : MemoryAddress
  kind : BreakpointKind
  scope : BreakpointScope
  deriving DecidableEq

inductive BreakpointPersistence where
  | persistent | temporary
  deriving DecidableEq

def BreakpointSpec.validate (b : BreakpointSpec) : Except ProtocolValidationError Unit :=
  match b.kind with
  | .software => b.address.validateSpan 1
  | .hardware access size =>
    if size ∉ ([1, 2, 4, 8] : List UInt8) then .error (.invalidHardwareBreakpointSize size)
    else if access = .execute ∧ size ≠ 1 then .error (.invalidExecuteBreakpointSize size)
    else if access ≠ .execute ∧ b.address.val % size.toNat ≠ 0 then
      .error (.unalignedHardwareBreakpoint b.address.val size)
    else b.address.validateSpan size.toNat

inductive RegisterArch where
  | x86 | x86_64 | aarch64 | arm | mips32 | mips64 | riscv32 | riscv64 | powerPc32 | powerPc64
  deriving DecidableEq

def isRegisterNameChar (c : Char) : Bool := c.isAlphanum || c = '_' || c = '.'

def RegisterName.check (value : String) : Except ProtocolValidationError Unit :=
  if value.isEmpty || value.utf8ByteSize > maxRegisterNameBytes ||
      !value.toList.all isRegisterNameChar then .error .invalidRegisterName
  else .ok ()

structure RegisterName where
  value : String
  valid : RegisterName.check value = .ok ()
  deriving DecidableEq

structure RegisterValue where
  name : RegisterName
  value : UInt64
  deriving DecidableEq

/-- The first name that repeats an earlier one, scanning with the set of names seen so far. -/
def firstDuplicate : List String → List String → Option String
  | _, [] => none
  | seen, name :: rest => if name ∈ seen then some name else firstDuplicate (name :: seen) rest

def validateRegisterList (registers : List RegisterValue) : Except ProtocolValidationError Unit :=
  if registers.length > maxRegisters then
    .error (.tooManyRegisters registers.length maxRegisters)
  else match firstDuplicate [] (registers.map (·.name.value)) with
    | some name => .error (.duplicateRegisterName name)
    | none => .ok ()

structure RegisterSet where
  arch : RegisterArch
  registers : List RegisterValue

structure RegisterWrite where
  arch : RegisterArch
  registers : List RegisterValue
  deriving DecidableEq

def RegisterWrite.validate (r : RegisterWrite) : Except ProtocolValidationError Unit :=
  validateRegisterList r.registers

/-! ### Tokens a command presents -/

inductive ReadViewToken where
  | offline (state : StateToken)
  | dump (state : StateToken)
  | snapshot (state : StateToken) (snapshotId : SnapshotId)
  | observing (state : StateToken)
  | stopped (stop : StopToken)
  deriving DecidableEq

def ReadViewToken.state : ReadViewToken → StateToken
  | .offline state | .dump state | .snapshot state _ | .observing state => state
  | .stopped stop => stop.state

inductive ExecutionToken where
  | stopped (stop : StopToken)
  | running (run : RunToken)
  deriving DecidableEq

def ExecutionToken.state : ExecutionToken → StateToken
  | .stopped stop => stop.state
  | .running run => run.state

inductive LiveToken where
  | stopped (stop : StopToken)
  | running (run : RunToken)
  | observing (state : StateToken)
  deriving DecidableEq

def LiveToken.state : LiveToken → StateToken
  | .stopped stop => stop.state
  | .running run => run.state
  | .observing state => state

inductive StepKind where
  | into | over | out
  deriving DecidableEq

/-! ### Commands -/

inductive DebugCommand where
  | probeCapabilities
  | open (target : DebugTargetRequest)
  | continue (stop : StopToken)
  | pause (run : RunToken)
  | step (stop : StopToken) (threadId : ThreadId) (kind : StepKind)
  | readMemory (view : ReadViewToken) (address : MemoryAddress) (size : UInt32)
  | writeMemory (stop : StopToken) (address : MemoryAddress) (expected replacement : List UInt8)
  | readRegisters (view : ReadViewToken) (threadId : ThreadId)
  | writeRegisters (stop : StopToken) (threadId : ThreadId) (registers : RegisterWrite)
  | setBreakpoint (stop : StopToken) (breakpoint : BreakpointSpec)
      (persistence : BreakpointPersistence)
  | removeBreakpoint (stop : StopToken) (breakpointId : BreakpointId)
  | captureSnapshot (live : LiveToken)
  | detach (live : LiveToken)
  | terminate (execution : ExecutionToken)
  | close (state : StateToken)
  deriving DecidableEq

/-- A write replaces as many bytes as it expects, up to its limit. -/
def validateMemoryWrite (address : MemoryAddress) (expected replacement : List UInt8) :
    Except ProtocolValidationError Unit :=
  if expected.isEmpty then .error .emptyMemoryWrite
  else if expected.length ≠ replacement.length then
    .error (.memoryWriteLengthMismatch expected.length replacement.length)
  else if expected.length > maxMemoryWriteBytes then
    .error (.memoryWriteTooLarge expected.length maxMemoryWriteBytes)
  else address.validateSpan expected.length

/-- What is checked of a command without a session. -/
def DebugCommand.validate : DebugCommand → Except ProtocolValidationError Unit
  | .open target => target.validate
  | .readMemory _ address size =>
    if size = 0 then .error .emptyMemoryRead
    else if size > maxMemoryReadBytes then .error (.memoryReadTooLarge size maxMemoryReadBytes)
    else address.validateSpan size.toNat
  | .writeMemory _ address expected replacement => validateMemoryWrite address expected replacement
  | .writeRegisters _ _ registers => registers.validate
  | .setBreakpoint _ breakpoint _ => breakpoint.validate
  | _ => .ok ()

/-- The state that a command was issued for. -/
def DebugCommand.stateContext : DebugCommand → Option StateToken
  | .probeCapabilities | .open _ => none
  | .continue stop | .step stop _ _ | .writeMemory stop _ _ _ | .writeRegisters stop _ _
  | .setBreakpoint stop _ _ | .removeBreakpoint stop _ => some stop.state
  | .pause run => some run.state
  | .readMemory view _ _ | .readRegisters view _ => some view.state
  | .captureSnapshot live | .detach live => some live.state
  | .terminate execution => some execution.state
  | .close state => some state

end ReSymbol.Debugger
