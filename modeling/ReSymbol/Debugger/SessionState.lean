import ReSymbol.Debugger.Commands

/-! Session states, the transitions a consumer admits between them, and the envelope that binds a
    command to the state it was issued for.

        idle ─▶ opening ─▶ awaitingAttestation ─▶ attestationAccepted ▶ stopped ⇄ running ─▶ pausing
                   ├─▶ offline / dump / observing
                   └─▶ stopped
        every live state ─▶ closing ─▶ closed,   every state but closed ─▶ failed

    Each transition advances the state generation by exactly one. -/

namespace ReSymbol.Debugger
open Schemes

inductive StopReason where
  | initial
  | userPause
  | breakpoint (breakpointId : BreakpointId)
  | singleStep
  | exception (code : UInt32) (firstChance : Bool) (address : MemoryAddress)
  deriving DecidableEq

inductive SessionState where
  | idle (token : StateToken)
  | opening (token : StateToken) (target : DebugTargetRequest)
  | awaitingAttestation (token : StateToken) (process : ProcessIdentity)
  | attestationAccepted (token : StateToken)
  | offline (token : StateToken)
  | dump (token : StateToken)
  | snapshot (token : StateToken) (snapshotId : SnapshotId)
  | observing (token : StateToken) (processId : ProcessId)
  | stopped (token : StopToken) (reason : StopReason) (threadId : ThreadId)
  | running (token : RunToken)
  | pausing (token : StateToken)
  | closing (token : StateToken)
  | detached (token : StateToken)
  | exited (token : StateToken) (exitCode : UInt32)
  | failed (token : StateToken) (message : String)
  | closed (token : StateToken)
  deriving DecidableEq

namespace SessionState

def stateToken : SessionState → StateToken
  | idle token | opening token _ | awaitingAttestation token _ | attestationAccepted token
  | offline token | dump token | snapshot token _ | observing token _ | pausing token
  | closing token | detached token | exited token _ | failed token _ | closed token => token
  | stopped token _ _ => token.state
  | running token => token.state

def kind : SessionState → SessionStateKind
  | idle _ => .idle
  | opening _ _ => .opening
  | awaitingAttestation _ _ => .awaitingAttestation
  | attestationAccepted _ => .attestationAccepted
  | offline _ => .offline
  | dump _ => .dump
  | snapshot _ _ => .snapshot
  | observing _ _ => .observing
  | stopped _ _ _ => .stopped
  | running _ => .running
  | pausing _ => .pausing
  | closing _ => .closing
  | detached _ => .detached
  | exited _ _ => .exited
  | failed _ _ => .failed
  | closed _ => .closed

/-- Visible generation of a state. -/
def generation (s : SessionState) : ℕ := s.stateToken.generation.val

end SessionState

/-- The state kinds each kind may move to. -/
def SessionStateKind.successors : SessionStateKind → List SessionStateKind
  | .idle => [.opening, .closing, .failed]
  | .opening => [.awaitingAttestation, .offline, .dump, .observing, .stopped, .closing, .failed]
  | .awaitingAttestation => [.attestationAccepted, .closing, .failed]
  | .attestationAccepted => [.stopped, .exited, .closing, .failed]
  | .offline | .dump | .snapshot => [.closing, .failed]
  | .observing => [.detached, .closing, .failed]
  | .stopped => [.stopped, .running, .detached, .exited, .closing, .failed]
  | .running => [.stopped, .pausing, .detached, .exited, .closing, .failed]
  | .pausing => [.stopped, .exited, .closing, .failed]
  | .detached | .exited => [.closing, .failed]
  | .failed => [.failed, .closing]
  | .closing => [.closed, .failed]
  | .closed => []

namespace SessionState

def validateSuccessor (current next : SessionState) : Except ProtocolValidationError Unit :=
  if next.stateToken.sessionId ≠ current.stateToken.sessionId then .error .staleSession
  else match checkedAdd current.stateToken.generation.val 1 with
    | none => .error .stateGenerationOverflow
    | some expectedGeneration =>
      if next.stateToken.generation.val ≠ expectedGeneration then
        .error (.unexpectedStateGeneration expectedGeneration next.stateToken.generation.val)
      else if next.kind ∈ current.kind.successors then .ok ()
      else .error (.invalidSessionStateTransition current.kind next.kind)

/-- One admitted transition: same session, next generation, an edge of the state diagram. -/
structure Follows (current next : SessionState) : Prop where
  session : next.stateToken.sessionId = current.stateToken.sessionId
  generation : next.generation = current.generation + 1
  edge : next.kind ∈ current.kind.successors

theorem validateSuccessor_eq_ok {current next : SessionState} :
    current.validateSuccessor next = .ok () ↔ Follows current next := by
  unfold validateSuccessor
  rw [ite_error_eq_ok, not_not]
  constructor
  · rintro ⟨hsession, h⟩
    rcases hadd : checkedAdd current.stateToken.generation.val 1 with _ | expectedGeneration
    · simp [hadd] at h
    · simp only [hadd, ite_error_eq_ok, not_not] at h
      obtain ⟨hgen, hedge⟩ := h
      rw [checkedAdd_eq_some] at hadd
      refine ⟨hsession, by unfold SessionState.generation; omega, ?_⟩
      by_contra hne
      simp [hne] at hedge
  · rintro ⟨hsession, hgen, hedge⟩
    have hlt := next.stateToken.generation.lt
    unfold SessionState.generation at hgen
    have hadd : checkedAdd current.stateToken.generation.val 1 =
        some next.stateToken.generation.val := by
      rw [checkedAdd_eq_some]
      exact ⟨hgen.symm, hlt⟩
    refine ⟨hsession, ?_⟩
    simp [hadd, hedge]

def matchesReadView (s : SessionState) (view : ReadViewToken) : Bool :=
  match view, s with
  | .offline state, offline token => state = token
  | .dump state, dump token => state = token
  | .observing state, observing token _ => state = token
  | .snapshot state snapshotId, snapshot token actual => state = token ∧ snapshotId = actual
  | .stopped stop, stopped token _ _ => stop = token
  | _, _ => false

def matchesLive (s : SessionState) (live : LiveToken) : Bool :=
  match live, s with
  | .stopped stop, stopped token _ _ => stop = token
  | .running run, running token => run = token
  | .observing state, observing token _ => state = token
  | _, _ => false

def matchesExecution (s : SessionState) (execution : ExecutionToken) : Bool :=
  match execution, s with
  | .stopped stop, stopped token _ _ => stop = token
  | .running run, running token => run = token
  | _, _ => false

end SessionState

/-! ### Command envelopes -/

structure CommandEnvelope where
  version : ProtocolVersion
  commandId : CommandId
  sessionId : Option SessionId
  expectedState : Option StateToken
  command : DebugCommand

namespace CommandEnvelope

def validate (e : CommandEnvelope) : Except ProtocolValidationError Unit := do
  e.version.validate
  e.command.validate
  if e.command = .probeCapabilities then
    if e.sessionId.isSome || e.expectedState.isSome then .error .unexpectedSessionContext
  else
    match e.sessionId, e.expectedState with
    | none, _ => .error .missingSessionContext
    | some _, none => .error .missingStateToken
    | some sessionId, some expected =>
      if expected.sessionId ≠ sessionId then .error .staleSession
      match e.command.stateContext with
      | some commandState => if commandState ≠ expected then .error .staleStateToken
      | none => .ok ()

/-- The commands a state admits, each with the exact token of that state. -/
def allowed (command : DebugCommand) (state : SessionState) : Bool :=
  match command, state with
  | .open _, .idle _ => true
  | .continue stop, .stopped token _ _ | .step stop _ _, .stopped token _ _
  | .writeMemory stop _ _ _, .stopped token _ _ | .writeRegisters stop _ _, .stopped token _ _
  | .setBreakpoint stop _ _, .stopped token _ _
  | .removeBreakpoint stop _, .stopped token _ _ => stop = token
  | .pause run, .running token => run = token
  | .readMemory view _ _, state | .readRegisters view _, state => state.matchesReadView view
  | .captureSnapshot live, state | .detach live, state => state.matchesLive live
  | .terminate execution, state => state.matchesExecution execution
  | .close _, state => state.kind ≠ .closed
  | _, _ => false

def validateAgainst (e : CommandEnvelope) (state : SessionState) :
    Except ProtocolValidationError Unit := do
  e.validate
  if e.command = .probeCapabilities then return ()
  if e.sessionId ≠ some state.stateToken.sessionId then .error .staleSession
  if e.expectedState ≠ some state.stateToken then .error .staleStateToken
  if allowed e.command state then .ok ()
  else match e.command with
    | .close _ => .error .commandNotAllowedInState
    | command =>
      if command.stateContext.isSome then .error .staleExecutionToken
      else .error .commandNotAllowedInState

end CommandEnvelope

end ReSymbol.Debugger
