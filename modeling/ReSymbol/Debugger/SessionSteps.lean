import ReSymbol.Debugger.SessionMachine

/-! What an operation of the session reducer can do.

    `Effect` lists every way a successful operation changes a machine, each with the guards that
    were checked; `Kept` is what a refused operation may still have changed: identifiers it used up
    and the slot of the lease it presented. On a coherent machine (visible state, gate and sandbox
    lifecycle in step) every operation is one or the other, because a transition that already wrote
    to the sandbox can no longer be refused. -/

namespace ReSymbol.Debugger
open Schemes Schemes.Reducer

/-- The part of a session that a rejected remote command puts back. -/
structure VisibleState where
  state : SessionState
  target : Option DebugTargetRequest
  executionGate : ExecutionGate
  sandbox : Option SandboxMachine
  inheritedSandbox : Option SandboxOwnershipBinding

/-- What never changes in the life of a reducer. -/
structure SessionIdentity where
  reducerInstance : ℕ
  sessionId : SessionId
  provisioningEpoch : ProvisioningEpoch
  helperBuild : HelperBuildId

def SessionMachine.visible (m : SessionMachine) : VisibleState :=
  ⟨m.state, m.target, m.executionGate, m.sandbox, m.inheritedSandbox⟩

def SessionMachine.identity (m : SessionMachine) : SessionIdentity :=
  ⟨m.reducerInstance, m.sessionId, m.provisioningEpoch, m.helperBuild⟩

def RemoteCommandCheckpoint.visible (c : RemoteCommandCheckpoint) : VisibleState :=
  ⟨c.state, c.target, c.executionGate, c.sandbox, c.inheritedSandbox⟩

/-- The sandbox with another lifecycle state. -/
def SandboxMachine.at (s : SandboxMachine) (state : SandboxLifecycleState) : SandboxMachine :=
  { s with state := state }

/-! ### Coherence of the visible state -/

/-- The evidence a sandbox retains follows its lifecycle state. -/
structure SandboxMachine.Valid (s : SandboxMachine) : Prop where
  binary : ∀ process, s.targetCreation = some (.created process) →
    process.binaryId = s.expected.binaryId
  attested : ∀ attestation, s.acceptedAttestation = some attestation →
    ∃ process, s.targetCreation = some (.created process) ∧
      attestation = s.expected.attestationFor process
  provisioning : s.state = .provisioning →
    s.acceptedAttestation = none ∧ ∀ process, s.targetCreation ≠ some (.created process)
  suspended : s.state = .targetCreatedSuspended → s.acceptedAttestation = none
  accepted : s.state = .attestationAccepted ∨ s.state = .running →
    s.acceptedAttestation.isSome = true
  closed : s.state = .closed → s.targetCreation.isSome = true

/-- The host-risk lease a target presents, with the exact operation it asks for. -/
def DebugTargetRequest.hostRiskOperation :
    DebugTargetRequest → Option (HostRiskLeaseId × HostRiskOperation)
  | .launch target =>
    match target.environment with
    | .sandboxed _ => none
    | .host riskLease => some (riskLease, .launch
        ⟨target.binaryId, target.executable, target.arguments, target.workingDirectory,
          target.stopBeforeEntry⟩)
  | .attach target =>
    match target.scope with
    | .host process riskLease => some (riskLease, .attach process target.mode)
    | .ownedSandbox _ _ => none
  | .dump _ | .offline _ => none

/-- The ownership lease a target presents. -/
def DebugTargetRequest.ownershipLease : DebugTargetRequest → Option SandboxOwnershipLeaseId
  | .attach ⟨.ownedSandbox _ ownershipLease, _⟩ => some ownershipLease
  | _ => none

/-- How a target is gated: which sandbox, gate and binding belong to it. -/
inductive Provisioned [Sha256] (id : SessionIdentity) : DebugTargetRequest → ExecutionGate →
    Option SandboxMachine → Option SandboxOwnershipBinding → Prop
  | sandboxed {launch : LaunchTarget} {policy : SandboxPolicy} {sandbox : SandboxMachine}
      (environment : launch.environment = .sandboxed policy)
      (session : policy.sessionId = id.sessionId)
      (expected : ExpectedSandboxAttestation.fromPolicy launch.binaryId policy id.helperBuild
        id.provisioningEpoch = .ok sandbox.expected) :
      Provisioned id (.launch launch)
        (if sandbox.acceptedAttestation.isSome then .sandboxAccepted else .sandboxPending)
        (some sandbox) none
  | hostRisk {target : DebugTargetRequest} {riskLease : HostRiskLeaseId}
      {operation : HostRiskOperation}
      (requested : target.hostRiskOperation = some (riskLease, operation)) :
      Provisioned id target .hostRiskAccepted none none
  | ownedSandbox {process : ProcessIdentity} {ownershipLease : SandboxOwnershipLeaseId}
      {mode : AttachMode} {binding : SandboxOwnershipBinding}
      (session : binding.sessionId = id.sessionId)
      (epoch : binding.provisioningEpoch = id.provisioningEpoch)
      (process_eq : binding.process = process) (mode_eq : binding.mode = mode) :
      Provisioned id (.attach ⟨.ownedSandbox process ownershipLease, mode⟩) .inheritedSandbox none
        (some binding)
  | dump {path : PathBuf} : Provisioned id (.dump path) .notApplicable none none
  | offline {path : PathBuf} : Provisioned id (.offline path) .notApplicable none none

/-- The lifecycle states an owned sandbox can be in; none where no sandbox is owned. -/
def SessionStateKind.sandboxStates : SessionStateKind → List SandboxLifecycleState
  | .opening => [.provisioning]
  | .awaitingAttestation => [.targetCreatedSuspended]
  | .attestationAccepted => [.attestationAccepted]
  | .stopped => [.attestationAccepted, .running]
  | .running | .pausing => [.running]
  | .closing | .exited | .failed => [.cleanup]
  | .closed => [.closed]
  | .idle | .offline | .dump | .snapshot | .observing | .detached => []

namespace VisibleState

/-- A target that execution can reach. -/
def Executable (v : VisibleState) : Prop :=
  ∃ target, v.target = some target ∧ SessionMachine.stopsWhileOpening target = true

/-- What each session state says about the target and the evidence retained. -/
def InStep (v : VisibleState) : Prop :=
  match v.state with
  | .idle _ => v.target = none
  | .opening _ target => v.target = some target
  | .awaitingAttestation _ process => ∃ sandbox, v.sandbox = some sandbox ∧
      sandbox.targetCreation = some (.created process)
  | .attestationAccepted _ => v.sandbox.isSome = true
  | .offline _ => ∃ path, v.target = some (.offline path)
  | .dump _ => ∃ path, v.target = some (.dump path)
  | .snapshot _ _ => False
  | .observing _ _ => ∃ target : AttachTarget, v.target = some (.attach target)
  | .stopped _ _ _ | .running _ | .pausing _ => v.Executable
  | .detached _ => v.inheritedSandbox = none
  | .exited _ _ | .failed _ _ =>
      ∀ sandbox, v.sandbox = some sandbox → sandbox.targetCreation.isSome = true
  | .closing _ | .closed _ => True

/-- The invariant of the visible state of one session. -/
structure Coherent [Sha256] (id : SessionIdentity) (v : VisibleState) : Prop where
  session : v.state.stateToken.sessionId = id.sessionId
  unopened : v.target = none →
    v.executionGate = .notApplicable ∧ v.sandbox = none ∧ v.inheritedSandbox = none
  provisioned : ∀ target, v.target = some target →
    Provisioned id target v.executionGate v.sandbox v.inheritedSandbox
  sandbox : ∀ sandbox, v.sandbox = some sandbox → sandbox.Valid
  lifecycle : ∀ sandbox, v.sandbox = some sandbox → sandbox.state ∈ v.state.kind.sandboxStates
  inStep : v.InStep

end VisibleState

/-! ### What a refused operation may keep -/

/-- The leases an operation presents. -/
structure PresentedLeases where
  hostRisk : Option HostRiskLeaseId
  ownership : Option SandboxOwnershipLeaseId

def PresentedLeases.none : PresentedLeases := ⟨.none, .none⟩

def DebugTargetRequest.presentedLeases (target : DebugTargetRequest) : PresentedLeases :=
  ⟨target.hostRiskOperation.map (·.1), target.ownershipLease⟩

def DebugCommand.presentedLeases : DebugCommand → PresentedLeases
  | .open target => target.presentedLeases
  | _ => .none

/-- A command id newer than the last one. -/
def NewerCommand (last : Option CommandId) (commandId : CommandId) : Prop :=
  ∀ previous, last = some previous → previous.val < commandId.val

/-- Either nothing was taken, or the presented slot was emptied. -/
def SlotTaken {κ ν : Type} [Ord κ] [Std.TransOrd κ]
    (leases leases' : Std.ExtTreeMap κ (Option ν) compare)
    (presented : Option κ) : Prop :=
  leases' = leases ∨ ∃ id value, presented = some id ∧ leases[id]? = some (some value) ∧
    leases' = leases.insert id none

/-- A refused operation leaves all but identifiers and the presented lease slots. -/
structure Kept (presented : PresentedLeases) (m m' : SessionMachine) : Prop where
  same : m' = { m with
    lastCommandId := m'.lastCommandId
    lastStopId := m'.lastStopId
    lastRunId := m'.lastRunId
    hostRiskLeases := m'.hostRiskLeases
    sandboxOwnershipLeases := m'.sandboxOwnershipLeases }
  command : m'.lastCommandId = m.lastCommandId ∨
    ∃ commandId, m'.lastCommandId = some commandId ∧ NewerCommand m.lastCommandId commandId
  stop : m.lastStopId ≤ m'.lastStopId
  run : m.lastRunId ≤ m'.lastRunId
  hostRisk : SlotTaken m.hostRiskLeases m'.hostRiskLeases presented.hostRisk
  ownership : SlotTaken m.sandboxOwnershipLeases m'.sandboxOwnershipLeases presented.ownership

namespace Kept

variable {presented : PresentedLeases} {m m' : SessionMachine}

theorem refl (presented : PresentedLeases) (m : SessionMachine) : Kept presented m m :=
  ⟨rfl, .inl rfl, le_refl _, le_refl _, .inl rfl, .inl rfl⟩

theorem visible_eq (h : Kept presented m m') : m'.visible = m.visible := by
  rw [h.same]
  rfl

theorem identity_eq (h : Kept presented m m') : m'.identity = m.identity := by
  rw [h.same]
  rfl

theorem pending_eq (h : Kept presented m m') :
    m'.pendingRemoteCommand = m.pendingRemoteCommand := by
  rw [h.same]

end Kept

/-! ### What a successful operation does -/

/-- The authority behind an accepted open, read off the machine that accepted it. -/
inductive Granted [Sha256] (m : SessionMachine) : DebugTargetRequest → ExecutionGate →
    Option SandboxMachine → Option SandboxOwnershipBinding → Prop
  | sandboxed {launch : LaunchTarget} {policy : SandboxPolicy}
      {expected : ExpectedSandboxAttestation}
      (environment : launch.environment = .sandboxed policy)
      (session : policy.sessionId = m.sessionId)
      (expected_eq : ExpectedSandboxAttestation.fromPolicy launch.binaryId policy m.helperBuild
        m.provisioningEpoch = .ok expected) :
      Granted m (.launch launch) .sandboxPending (some ⟨expected, .provisioning, none, none⟩) none
  | hostRisk {target : DebugTargetRequest} {riskLease : HostRiskLeaseId}
      {operation : HostRiskOperation} {verifier : HostRiskVerifier}
      (requested : target.hostRiskOperation = some (riskLease, operation))
      (available : m.hostRiskLeases[riskLease]? = some (some verifier))
      (session : verifier.sessionId = m.sessionId)
      (epoch : verifier.provisioningEpoch = m.provisioningEpoch)
      (operation_eq : verifier.operation = operation) :
      Granted m target .hostRiskAccepted none none
  | ownedSandbox {process : ProcessIdentity} {ownershipLease : SandboxOwnershipLeaseId}
      {mode : AttachMode} {verifier : SandboxOwnershipVerifier}
      (available : m.sandboxOwnershipLeases[ownershipLease]? = some (some verifier))
      (session : verifier.binding.sessionId = m.sessionId)
      (epoch : verifier.binding.provisioningEpoch = m.provisioningEpoch)
      (process_eq : verifier.binding.process = process) (mode_eq : verifier.binding.mode = mode) :
      Granted m (.attach ⟨.ownedSandbox process ownershipLease, mode⟩) .inheritedSandbox none
        (some verifier.binding)
  | dump {path : PathBuf} : Granted m (.dump path) .notApplicable none none
  | offline {path : PathBuf} : Granted m (.offline path) .notApplicable none none

theorem Granted.provisioned [Sha256] {m : SessionMachine} {target : DebugTargetRequest}
    {gate : ExecutionGate} {sandbox : Option SandboxMachine}
    {inherited : Option SandboxOwnershipBinding} (h : Granted m target gate sandbox inherited) :
    Provisioned m.identity target gate sandbox inherited := by
  cases h with
  | sandboxed environment session expected_eq =>
    exact @Provisioned.sandboxed _ m.identity _ _ ⟨_, .provisioning, none, none⟩ environment session
      expected_eq
  | hostRisk requested available session epoch operation_eq => exact .hostRisk requested
  | ownedSandbox available session epoch process_eq mode_eq =>
    exact .ownedSandbox session epoch process_eq mode_eq
  | dump => exact .dump
  | offline => exact .offline

/-- The receipt releases what the session owns, and this is the sandbox it leaves. -/
inductive Released (m : SessionMachine) : Option SandboxCleanupReceipt →
    Option SandboxMachine → Prop
  | owned {sandbox : SandboxMachine} {receipt : SandboxCleanupReceipt}
      (owns : m.sandbox = some sandbox) (alone : m.inheritedSandbox = none)
      (cleanup : sandbox.state = .cleanup) (closes : sandbox.Closes receipt) :
      Released m (some receipt) (some (sandbox.at .closed))
  | inherited {binding : SandboxOwnershipBinding} {receipt : SandboxCleanupReceipt}
      (alone : m.sandbox = none) (owns : m.inheritedSandbox = some binding)
      (session : receipt.sessionId = binding.sessionId)
      (epoch : receipt.provisioningEpoch = binding.provisioningEpoch)
      (provider : receipt.provider = binding.provider)
      (policy : receipt.policyDigest = binding.policyDigest)
      (process : receipt.process = some binding.process)
      (clean : receipt.CleanFor (providerBoundary binding.provider)) :
      Released m (some receipt) none
  | nothing (sandbox : m.sandbox = none) (inherited : m.inheritedSandbox = none) :
      Released m none none

/-- The ways an open completes without a stop. -/
def CompletesOpen : DebugTargetRequest → SessionState → Prop
  | .offline _, .offline _ => True
  | .dump _, .dump _ => True
  | .attach target, .observing _ _ => target.mode = .observeReadOnly
  | _, _ => False

/-- What a command asks of its session. -/
inductive CommandRequest where
  | probe | open | resume | pause | refresh | read | detach | close

def DebugCommand.request : DebugCommand → CommandRequest
  | .probeCapabilities => .probe
  | .open _ => .open
  | .continue _ | .step _ _ _ => .resume
  | .pause _ => .pause
  | .writeMemory _ _ _ _ | .writeRegisters _ _ _ | .setBreakpoint _ _ _
  | .removeBreakpoint _ _ => .refresh
  | .readMemory _ _ _ | .readRegisters _ _ | .captureSnapshot _ => .read
  | .detach _ => .detach
  | .terminate _ | .close _ => .close

/-- What asks for an effect. -/
inductive SessionAction where
  | command (command : DebugCommand)
  | targetCreatedSuspended (process : ProcessIdentity)
  | acceptSandboxAttestation (actual : SandboxAttestation)
  | completeOpen
  | markStopped
  | markExited
  | markFailed
  | completeClose (receipt : Option SandboxCleanupReceipt)
  | recordSandboxTargetNotCreated

/-- Every way a successful action changes a machine. -/
inductive Effect [Sha256] (m : SessionMachine) : SessionAction → SessionMachine → Prop
  | opened {target : DebugTargetRequest} {gate : ExecutionGate} {sandbox : Option SandboxMachine}
      {inherited : Option SandboxOwnershipBinding} {next : StateToken}
      (idle : m.state.kind = .idle) (granted : Granted m target gate sandbox inherited)
      (follows : m.state.Follows (.opening next target)) :
      Effect m (.command (.open target))
        { m with
          state := .opening next target
          target := some target
          executionGate := gate
          sandbox := sandbox
          inheritedSandbox := inherited
          hostRiskLeases := ∅
          sandboxOwnershipLeases := ∅ }
  | resumed {command : DebugCommand} {run : RunToken} (asks : command.request = .resume)
      (stopped : m.state.kind = .stopped) (gate : m.ensureExecutionAllowed = .ok ())
      (runId : run.runId.val = m.lastRunId + 1)
      (follows : m.state.Follows (.running run)) :
      Effect m (.command command)
        { m with
          state := .running run
          lastRunId := m.lastRunId + 1
          sandbox := m.sandbox.map (·.at .running) }
  | paused {command : DebugCommand} {next : StateToken} (asks : command.request = .pause)
      (running : m.state.kind = .running)
      (follows : m.state.Follows (.pausing next)) :
      Effect m (.command command) { m with state := .pausing next }
  | refreshed {command : DebugCommand} {old stop : StopToken} {reason : StopReason}
      {threadId : ThreadId} (asks : command.request = .refresh)
      (stopped : m.state = .stopped old reason threadId)
      (stopId : stop.stopId.val = m.lastStopId + 1)
      (follows : m.state.Follows (.stopped stop reason threadId)) :
      Effect m (.command command)
        { m with state := .stopped stop reason threadId, lastStopId := m.lastStopId + 1 }
  | read {command : DebugCommand} (asks : command.request = .read)
      (source : m.state.kind ∈
        [SessionStateKind.offline, .dump, .snapshot, .observing, .stopped, .running]) :
      Effect m (.command command) m
  | detached {command : DebugCommand} {next : StateToken} (asks : command.request = .detach)
      (gate : m.executionGate ∉ [ExecutionGate.inheritedSandbox, .sandboxPending, .sandboxAccepted])
      (follows : m.state.Follows (.detached next)) :
      Effect m (.command command) { m with state := .detached next }
  | closing {command : DebugCommand} {next : StateToken} (asks : command.request = .close)
      (follows : m.state.Follows (.closing next)) :
      Effect m (.command command)
        { m with state := .closing next, sandbox := m.sandbox.map (·.at .cleanup) }
  | created {process : ProcessIdentity} {sandbox : SandboxMachine} {next : StateToken}
      (opening : m.state.kind = .opening) (owns : m.sandbox = some sandbox)
      (provisioning : sandbox.state = .provisioning) (fresh : sandbox.targetCreation = none)
      (binary : process.binaryId = sandbox.expected.binaryId)
      (follows : m.state.Follows (.awaitingAttestation next process)) :
      Effect m (.targetCreatedSuspended process)
        { m with
          state := .awaitingAttestation next process
          sandbox := some { sandbox with
            state := .targetCreatedSuspended
            targetCreation := some (.created process) } }
  | attested {actual : SandboxAttestation} {sandbox : SandboxMachine} {process : ProcessIdentity}
      {next : StateToken} (awaiting : m.state.kind = .awaitingAttestation)
      (owns : m.sandbox = some sandbox) (suspended : sandbox.state = .targetCreatedSuspended)
      (created : sandbox.targetCreation = some (.created process))
      (exact_eq : actual = sandbox.expected.attestationFor process)
      (follows : m.state.Follows (.attestationAccepted next)) :
      Effect m (.acceptSandboxAttestation actual)
        { m with
          state := .attestationAccepted next
          executionGate := .sandboxAccepted
          sandbox := some { sandbox with
            acceptedAttestation := some actual
            state := .attestationAccepted } }
  | completed {target : DebugTargetRequest} {next : SessionState}
      (opening : m.state.kind = .opening) (retained : m.target = some target)
      (completes : CompletesOpen target next) (follows : m.state.Follows next) :
      Effect m .completeOpen { m with state := next }
  | stopped {stop : StopToken} {reason : StopReason} {threadId : ThreadId}
      (source : m.state.kind ∈
        [SessionStateKind.opening, .attestationAccepted, .running, .pausing])
      (gate : m.executionGate ≠ .sandboxPending)
      (opening : m.state.kind = .opening → m.visible.Executable)
      (stopId : stop.stopId.val = m.lastStopId + 1)
      (follows : m.state.Follows (.stopped stop reason threadId)) :
      Effect m .markStopped
        { m with state := .stopped stop reason threadId, lastStopId := m.lastStopId + 1 }
  | exited {next : StateToken} {exitCode : UInt32}
      (source : m.state.kind ∈
        [SessionStateKind.attestationAccepted, .stopped, .running, .pausing])
      (follows : m.state.Follows (.exited next exitCode)) :
      Effect m .markExited
        { m with state := .exited next exitCode, sandbox := m.sandbox.map (·.at .cleanup) }
  | failed {next : StateToken} {message : String} (source : m.state.kind ≠ .closed)
      (recorded : ∀ sandbox, m.sandbox = some sandbox → sandbox.targetCreation.isSome = true)
      (follows : m.state.Follows (.failed next message)) :
      Effect m .markFailed
        { m with state := .failed next message, sandbox := m.sandbox.map (·.at .cleanup) }
  | closed {receipt : Option SandboxCleanupReceipt} {sandbox : Option SandboxMachine}
      {next : StateToken} (closing : m.state.kind = .closing)
      (released : Released m receipt sandbox) (follows : m.state.Follows (.closed next)) :
      Effect m (.completeClose receipt) { m with state := .closed next, sandbox := sandbox }
  | notCreated {sandbox : SandboxMachine} (owns : m.sandbox = some sandbox)
      (alone : m.inheritedSandbox = none) (provisioning : sandbox.state = .provisioning)
      (fresh : sandbox.targetCreation = none ∨ sandbox.targetCreation = some .notCreated) :
      Effect m .recordSandboxTargetNotCreated
        { m with sandbox := some { sandbox with targetCreation := some .notCreated } }

/-- No effect touches the identity, the last command id or the pending command. -/
theorem Effect.frame [Sha256] {m m' : SessionMachine} {action : SessionAction}
    (h : Effect m action m') : m'.identity = m.identity ∧ m'.lastCommandId = m.lastCommandId ∧
      m'.pendingRemoteCommand = m.pendingRemoteCommand := by
  cases h <;> exact ⟨rfl, rfl, rfl⟩

/-- An effect keeps the session state or moves it along one edge. -/
theorem Effect.state [Sha256] {m m' : SessionMachine} {action : SessionAction}
    (h : Effect m action m') : m'.state = m.state ∨ m.state.Follows m'.state := by
  cases h with
  | read asks source => exact .inl rfl
  | notCreated owns alone provisioning fresh => exact .inl rfl
  | opened idle granted follows => exact .inr follows
  | resumed asks stopped gate runId follows => exact .inr follows
  | paused asks running follows => exact .inr follows
  | refreshed asks stopped stopId follows => exact .inr follows
  | detached asks gate follows => exact .inr follows
  | closing asks follows => exact .inr follows
  | created opening owns provisioning fresh binary follows => exact .inr follows
  | attested awaiting owns suspended created exact_eq follows => exact .inr follows
  | completed opening retained completes follows => exact .inr follows
  | stopped source gate opening stopId follows => exact .inr follows
  | exited source follows => exact .inr follows
  | failed source recorded follows => exact .inr follows
  | closed closing released follows => exact .inr follows

/-- A closed session admits no command. -/
theorem Effect.ne_closed [Sha256] {m m' : SessionMachine} {command : DebugCommand}
    (h : Effect m (.command command) m') : m.state.kind ≠ .closed := by
  intro hclosed
  have hedge : ∀ {next : SessionState}, ¬ m.state.Follows next := fun follows => by
    simpa [hclosed, SessionStateKind.successors] using follows.edge
  cases h with
  | read asks source => simp [hclosed] at source
  | opened idle granted follows => exact hedge follows
  | resumed asks stopped gate runId follows => exact hedge follows
  | paused asks running follows => exact hedge follows
  | refreshed asks stopped stopId follows => exact hedge follows
  | detached asks gate follows => exact hedge follows
  | closing asks follows => exact hedge follows

/-- A refreshing command stops the session anew, with the next stop id. -/
theorem Effect.refreshes [Sha256] {m m' : SessionMachine} {command : DebugCommand}
    (h : Effect m (.command command) m') (hasks : command.request = .refresh) :
    ∃ old next reason threadId, m.state = .stopped old reason threadId ∧
      m'.state = .stopped next reason threadId ∧ next.stopId.val = m.lastStopId + 1 ∧
      m.state.Follows (.stopped next reason threadId) := by
  cases h with
  | refreshed asks stopped stopId follows => exact ⟨_, _, _, _, stopped, rfl, stopId, follows⟩
  | opened idle granted follows => cases hasks
  | resumed asks | paused asks | read asks | detached asks | closing asks =>
    rw [hasks] at asks
    cases asks

/-- An open drops every lease once its own is granted; no other effect touches them. -/
theorem Effect.leases [Sha256] {m m' : SessionMachine} {action : SessionAction}
    (h : Effect m action m') :
    ((∀ target, action ≠ .command (.open target)) ∧ m'.hostRiskLeases = m.hostRiskLeases ∧
        m'.sandboxOwnershipLeases = m.sandboxOwnershipLeases) ∨
      ∃ target gate sandbox inherited, action = .command (.open target) ∧
        Granted m target gate sandbox inherited ∧
        m'.hostRiskLeases = ∅ ∧ m'.sandboxOwnershipLeases = ∅ := by
  cases h with
  | opened idle granted follows => exact .inr ⟨_, _, _, _, rfl, granted, rfl, rfl⟩
  | resumed asks | paused asks | refreshed asks | read asks | detached asks | closing asks =>
    refine .inl ⟨fun target h => ?_, rfl, rfl⟩
    obtain rfl := SessionAction.command.inj h
    cases asks
  | _ => exact .inl ⟨by simp, rfl, rfl⟩

/-! ### Effects keep the visible state coherent -/

theorem SandboxMachine.Valid.cleanup {s : SandboxMachine} (h : s.Valid) : (s.at .cleanup).Valid :=
  ⟨h.binary, h.attested, fun hs => by simp [SandboxMachine.at] at hs,
    fun hs => by simp [SandboxMachine.at] at hs, fun hs => by simp [SandboxMachine.at] at hs,
    fun hs => by simp [SandboxMachine.at] at hs⟩

theorem SandboxMachine.Valid.running {s : SandboxMachine} (h : s.Valid)
    (accepted : s.acceptedAttestation.isSome = true) : (s.at .running).Valid :=
  ⟨h.binary, h.attested, fun hs => by simp [SandboxMachine.at] at hs,
    fun hs => by simp [SandboxMachine.at] at hs, fun _ => accepted,
    fun hs => by simp [SandboxMachine.at] at hs⟩

section Coherence

variable [Sha256] {id : SessionIdentity} {v : VisibleState}

namespace VisibleState

/-- Only a launch owns a sandbox. -/
theorem Coherent.launch_of_sandbox (hc : v.Coherent id) {sandbox : SandboxMachine}
    (hs : v.sandbox = some sandbox) :
    ∃ launch policy, v.target = some (.launch launch) ∧
      launch.environment = .sandboxed policy ∧ policy.sessionId = id.sessionId ∧
      ExpectedSandboxAttestation.fromPolicy launch.binaryId policy id.helperBuild
        id.provisioningEpoch = .ok sandbox.expected ∧ v.inheritedSandbox = none ∧
      v.executionGate =
        if sandbox.acceptedAttestation.isSome then .sandboxAccepted else .sandboxPending := by
  cases htarget : v.target with
  | none => simp [(hc.unopened htarget).2.1] at hs
  | some target =>
    have hp := hc.provisioned target htarget
    rw [hs] at hp
    generalize hg : v.executionGate = gate at hp
    generalize hi : v.inheritedSandbox = inherited at hp
    cases hp with
    | sandboxed environment session expected =>
      exact ⟨_, _, rfl, environment, session, expected, rfl, rfl⟩

/-- A session that is not closed owns no closed sandbox. -/
theorem Coherent.sandbox_ne_closed (hc : v.Coherent id) (h : v.state.kind ≠ .closed)
    {sandbox : SandboxMachine} (hs : v.sandbox = some sandbox) : sandbox.state ≠ .closed := by
  have hin := hc.lifecycle sandbox hs
  intro hclosed
  rw [hclosed] at hin
  cases hkind : v.state.kind <;> simp_all [SessionStateKind.sandboxStates]

/-- A sandbox that is still provisioning belongs to a session that is opening. -/
theorem Coherent.opening_of_provisioning (hc : v.Coherent id) {sandbox : SandboxMachine}
    (hs : v.sandbox = some sandbox) (h : sandbox.state = .provisioning) :
    v.state.kind = .opening := by
  have hin := hc.lifecycle sandbox hs
  rw [h] at hin
  cases hkind : v.state.kind <;> simp_all [SessionStateKind.sandboxStates]

end VisibleState

theorem Provisioned.map_sandbox {target : DebugTargetRequest} {gate : ExecutionGate}
    {sandbox : Option SandboxMachine} {inherited : Option SandboxOwnershipBinding}
    (h : Provisioned id target gate sandbox inherited) (state : SandboxLifecycleState) :
    Provisioned id target gate (sandbox.map (·.at state)) inherited := by
  cases h with
  | sandboxed environment session expected =>
    rename_i launch policy sandbox
    exact @Provisioned.sandboxed _ id _ _ (sandbox.at state) environment session expected
  | hostRisk requested => exact .hostRisk requested
  | ownedSandbox session epoch process_eq mode_eq =>
    exact .ownedSandbox session epoch process_eq mode_eq
  | dump => exact .dump
  | offline => exact .offline

namespace VisibleState

theorem Coherent.move (hc : v.Coherent id) {next : SessionState} (follows : v.state.Follows next)
    (lifecycle : ∀ sandbox, v.sandbox = some sandbox → sandbox.state ∈ next.kind.sandboxStates)
    (inStep : ({ v with state := next } : VisibleState).InStep) :
    ({ v with state := next } : VisibleState).Coherent id :=
  ⟨follows.session.trans hc.session, hc.unopened, hc.provisioned, hc.sandbox, lifecycle, inStep⟩

theorem Coherent.moveBoth (hc : v.Coherent id) {next : SessionState}
    {lifecycle : SandboxLifecycleState} (follows : v.state.Follows next)
    (valid : ∀ sandbox, v.sandbox = some sandbox → (sandbox.at lifecycle).Valid)
    (hin : lifecycle ∈ next.kind.sandboxStates)
    (inStep : ({ v with state := next, sandbox := v.sandbox.map (·.at lifecycle) } :
      VisibleState).InStep) :
    ({ v with state := next, sandbox := v.sandbox.map (·.at lifecycle) } :
      VisibleState).Coherent id := by
  refine ⟨follows.session.trans hc.session, fun htarget => ?_, fun target htarget => ?_,
    fun sandbox hs => ?_, fun sandbox hs => ?_, inStep⟩
  · obtain ⟨hgate, hsandbox, hinherited⟩ := hc.unopened htarget
    exact ⟨hgate, by simp [hsandbox], hinherited⟩
  · exact (hc.provisioned target htarget).map_sandbox lifecycle
  · obtain ⟨s, howned, rfl⟩ := Option.map_eq_some_iff.mp hs
    exact valid s howned
  · obtain ⟨s, -, rfl⟩ := Option.map_eq_some_iff.mp hs
    exact hin

/-- Replacing the owned sandbox by one with the same expectation; the gate follows its
    attestation. -/
theorem Coherent.replaceSandbox (hc : v.Coherent id) {sandbox sandbox' : SandboxMachine}
    {next : SessionState} (session : next.stateToken.sessionId = v.state.stateToken.sessionId)
    (owns : v.sandbox = some sandbox) (valid : sandbox'.Valid)
    (expected : sandbox'.expected = sandbox.expected)
    (lifecycle : sandbox'.state ∈ next.kind.sandboxStates)
    (inStep : (⟨next, v.target, if sandbox'.acceptedAttestation.isSome then .sandboxAccepted
      else .sandboxPending, some sandbox', v.inheritedSandbox⟩ : VisibleState).InStep) :
    (⟨next, v.target, if sandbox'.acceptedAttestation.isSome then .sandboxAccepted
      else .sandboxPending, some sandbox', v.inheritedSandbox⟩ : VisibleState).Coherent id := by
  obtain ⟨launch, policy, htarget, henv, hsession, hexpected, hinherited, -⟩ :=
    hc.launch_of_sandbox owns
  refine ⟨session.trans hc.session, fun h => ?_, fun target h => ?_, fun s hs => ?_,
    fun s hs => ?_, inStep⟩
  · simp [htarget] at h
  · obtain rfl := Option.some.inj (htarget.symm.trans h)
    rw [hinherited]
    exact .sandboxed henv hsession (expected ▸ hexpected)
  · obtain rfl := Option.some.inj hs
    exact valid
  · obtain rfl := Option.some.inj hs
    exact lifecycle

/-- A sandbox whose session executes has its attestation accepted and its process recorded. -/
theorem Coherent.accepted_of_execution (hc : v.Coherent id)
    (source : v.state.kind ∈ [SessionStateKind.attestationAccepted, .stopped, .running, .pausing])
    {sandbox : SandboxMachine} (hs : v.sandbox = some sandbox) :
    sandbox.acceptedAttestation.isSome = true ∧ sandbox.targetCreation.isSome = true := by
  have hin := hc.lifecycle sandbox hs
  have haccepted : sandbox.acceptedAttestation.isSome = true := by
    refine (hc.sandbox sandbox hs).accepted ?_
    cases hkind : v.state.kind <;> simp_all [SessionStateKind.sandboxStates]
  obtain ⟨attestation, ha⟩ := Option.isSome_iff_exists.mp haccepted
  obtain ⟨process, hp, -⟩ := (hc.sandbox sandbox hs).attested attestation ha
  exact ⟨haccepted, by simp [hp]⟩

/-- The target of a session that executes, or is about to, is executable. -/
theorem Coherent.executable_of_execution (hc : v.Coherent id)
    (source : v.state.kind ∈ [SessionStateKind.attestationAccepted, .stopped, .running, .pausing]) :
    v.Executable := by
  have hstep := hc.inStep
  unfold InStep at hstep
  cases hstate : v.state <;> simp [hstate, SessionState.kind] at source <;>
    simp only [hstate] at hstep
  case attestationAccepted =>
    obtain ⟨sandbox, hs⟩ := Option.isSome_iff_exists.mp hstep
    obtain ⟨launch, -, htarget, -⟩ := hc.launch_of_sandbox hs
    exact ⟨.launch launch, htarget, rfl⟩
  all_goals exact hstep

/-- A session whose gate is open owns no sandbox that is still provisioning. -/
theorem Coherent.accepted_of_gate (hc : v.Coherent id) (gate : v.executionGate ≠ .sandboxPending)
    {sandbox : SandboxMachine} (hs : v.sandbox = some sandbox) :
    sandbox.acceptedAttestation.isSome = true := by
  obtain ⟨-, -, -, -, -, -, -, hgate⟩ := hc.launch_of_sandbox hs
  by_contra hnone
  rw [if_neg hnone] at hgate
  exact gate hgate

end VisibleState

section Effects

variable {m m' : SessionMachine} {action : SessionAction}

theorem coherent_opened {target : DebugTargetRequest} {gate : ExecutionGate}
    {sandbox : Option SandboxMachine} {inherited : Option SandboxOwnershipBinding}
    {next : StateToken} (hc : m.visible.Coherent m.identity)
    (granted : Granted m target gate sandbox inherited)
    (follows : m.state.Follows (.opening next target)) :
    (⟨.opening next target, some target, gate, sandbox, inherited⟩ : VisibleState).Coherent
      m.identity := by
  refine ⟨follows.session.trans hc.session, fun h => by simp at h, fun t ht => ?_, ?_, ?_, rfl⟩
  · obtain rfl := Option.some.inj ht
    exact granted.provisioned
  · rintro s rfl
    cases granted
    exact ⟨fun _ h => by simp at h, fun _ h => by simp at h, fun _ => ⟨rfl, fun _ => by simp⟩,
      fun h => by simp at h, fun h => by simp at h, fun h => by simp at h⟩
  · rintro s rfl
    cases granted
    exact List.mem_singleton.mpr rfl

theorem coherent_detached {next : StateToken} (hc : m.visible.Coherent m.identity)
    (gate : m.executionGate ∉ [ExecutionGate.inheritedSandbox, .sandboxPending, .sandboxAccepted])
    (follows : m.state.Follows (.detached next)) :
    ({ m with state := .detached next } : SessionMachine).visible.Coherent m.identity := by
  have hnone : m.sandbox = none ∧ m.inheritedSandbox = none := by
    cases htarget : m.target with
    | none => exact (hc.unopened htarget).2
    | some target =>
      have hp : Provisioned m.identity target m.executionGate m.sandbox m.inheritedSandbox :=
        hc.provisioned target htarget
      generalize m.executionGate = g at gate hp
      generalize m.sandbox = sandbox at hp
      generalize m.inheritedSandbox = inherited at hp
      cases hp with
      | sandboxed environment session expected => split_ifs at gate <;> simp at gate
      | ownedSandbox session epoch process_eq mode_eq => simp at gate
      | hostRisk requested => exact ⟨rfl, rfl⟩
      | dump => exact ⟨rfl, rfl⟩
      | offline => exact ⟨rfl, rfl⟩
  exact hc.move follows (fun s hs => by simp [SessionMachine.visible, hnone.1] at hs) hnone.2

theorem coherent_completed {target : DebugTargetRequest} {next : SessionState}
    (hc : m.visible.Coherent m.identity) (retained : m.target = some target)
    (completes : CompletesOpen target next) (follows : m.state.Follows next) :
    ({ m with state := next } : SessionMachine).visible.Coherent m.identity := by
  -- only launches own a sandbox, and no launch completes this way
  have hnone : ∀ sandbox, m.visible.sandbox ≠ some sandbox := by
    intro sandbox hs
    obtain ⟨launch, -, htarget, -⟩ := hc.launch_of_sandbox hs
    obtain rfl := Option.some.inj (retained.symm.trans htarget)
    cases next <;> exact completes.elim
  refine hc.move follows (fun s hs => absurd hs (hnone s)) ?_
  cases target with
  | launch launch => cases next <;> exact completes.elim
  | attach attach =>
    cases next <;> first | exact completes.elim | exact ⟨attach, retained⟩
  | dump path => cases next <;> first | exact completes.elim | exact ⟨path, retained⟩
  | offline path => cases next <;> first | exact completes.elim | exact ⟨path, retained⟩

/-- Whatever stops has its execution gate open, so its sandbox is attested. -/
theorem coherent_stopped {stop : StopToken} {reason : StopReason} {threadId : ThreadId}
    (hc : m.visible.Coherent m.identity)
    (source : m.state.kind ∈ [SessionStateKind.opening, .attestationAccepted, .running, .pausing])
    (gate : m.executionGate ≠ .sandboxPending)
    (opening : m.state.kind = .opening → m.visible.Executable)
    (follows : m.state.Follows (.stopped stop reason threadId)) :
    ({ m with state := .stopped stop reason threadId } : SessionMachine).visible.Coherent
      m.identity := by
  have hlifecycle : ∀ sandbox, m.visible.sandbox = some sandbox →
      sandbox.state ∈ SessionStateKind.stopped.sandboxStates := by
    intro sandbox hs
    have haccepted := hc.accepted_of_gate gate hs
    have hin := hc.lifecycle sandbox hs
    have hprov := (hc.sandbox sandbox hs).provisioning
    change sandbox.state ∈ m.state.kind.sandboxStates at hin
    cases hkind : m.state.kind <;> simp_all [SessionStateKind.sandboxStates]
  refine hc.move follows hlifecycle ?_
  by_cases hopening : m.state.kind = .opening
  · exact opening hopening
  · have hexec : m.visible.Executable := by
      refine hc.executable_of_execution ?_
      change m.state.kind ∈ _
      simp only [List.mem_cons] at source ⊢
      tauto
    exact hexec

theorem coherent_created {process : ProcessIdentity} {sandbox : SandboxMachine} {next : StateToken}
    (hc : m.visible.Coherent m.identity) (owns : m.sandbox = some sandbox)
    (provisioning : sandbox.state = .provisioning)
    (binary : process.binaryId = sandbox.expected.binaryId)
    (follows : m.state.Follows (.awaitingAttestation next process)) :
    (⟨.awaitingAttestation next process, m.target, m.executionGate, some { sandbox with
      state := .targetCreatedSuspended, targetCreation := some (.created process) },
      m.inheritedSandbox⟩ : VisibleState).Coherent m.identity := by
  have hnone := ((hc.sandbox sandbox owns).provisioning provisioning).1
  obtain ⟨-, -, -, -, -, -, -, hgate⟩ := hc.launch_of_sandbox owns
  have hvalid : ({ sandbox with
      state := .targetCreatedSuspended
      targetCreation := some (.created process) } : SandboxMachine).Valid :=
    ⟨fun p hp => by
      obtain rfl : process = p := by simpa using hp
      exact binary, fun a ha => by simp [hnone] at ha, fun h => by simp at h, fun _ => hnone,
      fun h => by simp at h, fun h => by simp at h⟩
  have h := hc.replaceSandbox follows.session owns hvalid rfl (List.mem_singleton.mpr rfl)
    ⟨_, rfl, rfl⟩
  rwa [← hgate] at h

theorem coherent_attested {process : ProcessIdentity} {sandbox : SandboxMachine}
    {next : StateToken} {actual : SandboxAttestation} (hc : m.visible.Coherent m.identity)
    (owns : m.sandbox = some sandbox) (created : sandbox.targetCreation = some (.created process))
    (exact_eq : actual = sandbox.expected.attestationFor process)
    (follows : m.state.Follows (.attestationAccepted next)) :
    (⟨.attestationAccepted next, m.target, .sandboxAccepted, some { sandbox with
      acceptedAttestation := some actual, state := .attestationAccepted },
      m.inheritedSandbox⟩ : VisibleState).Coherent m.identity := by
  have hvalid : ({ sandbox with
      acceptedAttestation := some actual
      state := .attestationAccepted } : SandboxMachine).Valid :=
    ⟨(hc.sandbox sandbox owns).binary, fun a ha => by
      obtain rfl : actual = a := by simpa using ha
      exact ⟨process, created, exact_eq⟩, fun h => by simp at h, fun h => by simp at h,
      fun _ => rfl, fun h => by simp at h⟩
  exact hc.replaceSandbox follows.session owns hvalid rfl (List.mem_singleton.mpr rfl) rfl

theorem coherent_closed {receipt : Option SandboxCleanupReceipt} {sandbox : Option SandboxMachine}
    {next : StateToken} (hc : m.visible.Coherent m.identity)
    (released : Released m receipt sandbox) (follows : m.state.Follows (.closed next)) :
    (⟨.closed next, m.target, m.executionGate, sandbox, m.inheritedSandbox⟩ :
      VisibleState).Coherent m.identity := by
  have hmove : m.sandbox = none → (⟨.closed next, m.target, m.executionGate, none,
      m.inheritedSandbox⟩ : VisibleState).Coherent m.identity := by
    intro hnone
    have h := hc.move follows (fun s hs => by simp [SessionMachine.visible, hnone] at hs) trivial
    simpa only [SessionMachine.visible, hnone] using h
  cases released with
  | owned owns alone cleanup closes =>
    rename_i sandbox receipt
    have hvalid := hc.sandbox sandbox owns
    obtain ⟨outcome, hout, -⟩ := closes.process
    obtain ⟨-, -, -, -, -, -, -, hgate⟩ := hc.launch_of_sandbox owns
    have hvalid' : (sandbox.at .closed).Valid :=
      ⟨hvalid.binary, hvalid.attested, fun h => by simp [SandboxMachine.at] at h,
        fun h => by simp [SandboxMachine.at] at h, fun h => by simp [SandboxMachine.at] at h,
        fun _ => by simp [SandboxMachine.at, hout]⟩
    have h := hc.replaceSandbox follows.session owns hvalid' rfl (List.mem_singleton.mpr rfl)
      trivial
    have hsame : (sandbox.at .closed).acceptedAttestation = sandbox.acceptedAttestation := rfl
    rwa [hsame, ← hgate] at h
  | inherited alone owns session epoch provider policy process clean => exact hmove alone
  | nothing alone inherited => exact hmove alone

theorem coherent_notCreated {sandbox : SandboxMachine} (hc : m.visible.Coherent m.identity)
    (owns : m.sandbox = some sandbox) (provisioning : sandbox.state = .provisioning) :
    (⟨m.state, m.target, m.executionGate, some { sandbox with targetCreation := some .notCreated },
      m.inheritedSandbox⟩ : VisibleState).Coherent m.identity := by
  have hnone := ((hc.sandbox sandbox owns).provisioning provisioning).1
  obtain ⟨-, -, -, -, -, -, -, hgate⟩ := hc.launch_of_sandbox owns
  have hvalid : ({ sandbox with targetCreation := some .notCreated } : SandboxMachine).Valid :=
    ⟨fun p hp => by simp at hp, fun a ha => by simp [hnone] at ha, fun _ => ⟨hnone, by simp⟩,
      fun h => by simp [provisioning] at h, fun h => by simp [provisioning] at h, fun _ => rfl⟩
  have hopening : m.state.kind = .opening := hc.opening_of_provisioning owns provisioning
  have hstep := hc.inStep
  cases hstate : m.state <;> simp [hstate, SessionState.kind] at hopening
  rename_i token target
  simp only [VisibleState.InStep, SessionMachine.visible, hstate] at hstep
  have hsession : (SessionState.opening token target).stateToken.sessionId =
      m.visible.state.stateToken.sessionId := by simp [SessionMachine.visible, hstate]
  have h := hc.replaceSandbox hsession owns hvalid rfl
    (List.mem_singleton.mpr provisioning) hstep
  rwa [← hgate] at h

theorem coherent_effect (hc : m.visible.Coherent m.identity) (effect : Effect m action m') :
    m'.visible.Coherent m.identity := by
  have hcleanup : ∀ sandbox, m.visible.sandbox = some sandbox → (sandbox.at .cleanup).Valid :=
    fun s hs => (hc.sandbox s hs).cleanup
  have hstep := hc.inStep
  cases effect with
  | opened idle granted follows => exact coherent_opened hc granted follows
  | resumed asks stopped gate runId follows =>
    have source : m.visible.state.kind ∈
        [SessionStateKind.attestationAccepted, .stopped, .running, .pausing] := by
      simp [SessionMachine.visible, stopped]
    have hexec : m.visible.Executable := hc.executable_of_execution source
    exact hc.moveBoth follows
      (fun s hs => (hc.sandbox s hs).running (hc.accepted_of_execution source hs).1)
      (List.mem_singleton.mpr rfl) hexec
  | paused asks running follows =>
    cases hstate : m.state <;> simp [hstate, SessionState.kind] at running
    simp only [VisibleState.InStep, SessionMachine.visible, hstate] at hstep
    refine hc.move follows (fun s hs => ?_) hstep
    simpa [SessionMachine.visible, hstate, SessionState.kind, SessionStateKind.sandboxStates] using
      hc.lifecycle s hs
  | refreshed asks stopped stopId follows =>
    simp only [VisibleState.InStep, SessionMachine.visible, stopped] at hstep
    refine hc.move follows (fun s hs => ?_) hstep
    simpa [SessionMachine.visible, stopped, SessionState.kind] using hc.lifecycle s hs
  | read asks source => exact hc
  | detached asks gate follows => exact coherent_detached hc gate follows
  | closing asks follows => exact hc.moveBoth follows hcleanup (List.mem_singleton.mpr rfl) trivial
  | created opening owns provisioning fresh binary follows =>
    exact coherent_created hc owns provisioning binary follows
  | attested awaiting owns suspended created exact_eq follows =>
    exact coherent_attested hc owns created exact_eq follows
  | completed opening retained completes follows =>
    exact coherent_completed hc retained completes follows
  | stopped source gate opening stopId follows =>
    exact coherent_stopped hc source gate opening follows
  | exited source follows =>
    refine hc.moveBoth follows hcleanup (List.mem_singleton.mpr rfl) fun s hs => ?_
    obtain ⟨t, ht, rfl⟩ := Option.map_eq_some_iff.mp hs
    exact (hc.accepted_of_execution source ht).2
  | failed source recorded follows =>
    refine hc.moveBoth follows hcleanup (List.mem_singleton.mpr rfl) fun s hs => ?_
    obtain ⟨t, ht, rfl⟩ := Option.map_eq_some_iff.mp hs
    exact recorded t ht
  | closed closing released follows => exact coherent_closed hc released follows
  | notCreated owns alone provisioning fresh => exact coherent_notCreated hc owns provisioning

end Effects

end Coherence

end ReSymbol.Debugger
