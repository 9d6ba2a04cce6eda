import ReSymbol.Debugger.SessionCommands
import ReSymbol.Schemes.Runs

/-! Runs of a session: every operation is one move, and every move keeps the session coherent.

    A session is driven through its reducer and through the tickets it handed out. A ticket is
    opaque and bound to the allocation of its reducer, so a presented ticket either belongs to
    another reducer or was issued by this one; nothing else is assumed about callers.

        operation ──▶ refused     ids and one lease slot at most
                  ──▶ registered  one lease more
                  ──▶ effect      commands and observations
                  ──▶ begun       effect, and a ticket with the visible state before it
                  ──▶ committed   the pending command is cleared
                  ──▶ restored    the visible state of a ticket is put back -/

namespace ReSymbol.Debugger
open Schemes Schemes.Reducer

/-! ### Reading operations and answers -/

namespace SessionOperation

def presentedLeases : SessionOperation → PresentedLeases
  | acceptCommand envelope | beginRemoteCommand envelope | beginLiveMemoryWrite envelope _ _ =>
    envelope.command.presentedLeases
  | _ => .none

/-- The ticket an operation resolves. -/
def presentedCheckpoint : SessionOperation → Option RemoteCommandCheckpoint
  | resolveLiveMemoryWriteSuccess checkpoint _ | resolveLiveMemoryWriteNoEffect checkpoint _
  | commitRemoteCommand checkpoint _ | rejectRemoteCommand checkpoint _ => some checkpoint
  | _ => none

/-- The command an operation begins for a remote host. -/
def begins : SessionOperation → Option CommandEnvelope
  | beginRemoteCommand envelope | beginLiveMemoryWrite envelope _ _ => some envelope
  | _ => none

/-- The command an operation puts to the session, at once or for a remote host. -/
def command : SessionOperation → Option CommandEnvelope
  | acceptCommand envelope => some envelope
  | operation => operation.begins

/-- The operation commits the pending command. -/
def commits : SessionOperation → Bool
  | resolveLiveMemoryWriteSuccess _ _ | commitRemoteCommand _ _ => true
  | _ => false

/-- The operation undoes the pending command. -/
def restores : SessionOperation → Bool
  | resolveLiveMemoryWriteNoEffect _ _ | rejectRemoteCommand _ _ => true
  | _ => false

/-- What an observation or a lifecycle call asks for. -/
def action : SessionOperation → Option SessionAction
  | targetCreatedSuspended process => some (.targetCreatedSuspended process)
  | acceptSandboxAttestation actual => some (.acceptSandboxAttestation actual)
  | completeOpenOffline | completeOpenDump | completeOpenObserving _ => some .completeOpen
  | markStopped _ _ => some .markStopped
  | markExited _ => some .markExited
  | markFailed _ => some .markFailed
  | completeClose receipt => some (.completeClose receipt)
  | recordSandboxTargetNotCreated => some .recordSandboxTargetNotCreated
  | _ => none

end SessionOperation

/-- The ticket an answer hands out. -/
def SessionAnswer.ticket : SessionAnswer → Option RemoteCommandCheckpoint
  | .checkpoint ticket | .liveMemoryWrite ticket _ _ => some ticket
  | _ => none

def UnsolicitedObservation.action : UnsolicitedObservation → SessionAction
  | stopped _ _ _ => .markStopped
  | exited _ _ => .markExited

/-! ### Moves -/

/-- What a ticket records: the machine before its command and the comparison record after it. -/
structure RemoteCommandCheckpoint.IssuedBy (c : RemoteCommandCheckpoint) (before : SessionMachine)
    (commandId : CommandId) (after : SessionMachine) : Prop where
  reducer : c.reducerInstance = before.reducerInstance
  command : c.commandId = commandId
  visible : c.visible = before.visible
  postAccept : c.postAccept = after.remoteCommandPostAcceptState

/-- The pending command of `m` is the one of this ticket. -/
structure RemoteCommandCheckpoint.Resolves (c : RemoteCommandCheckpoint) (m : SessionMachine) :
    Prop where
  reducer : m.reducerInstance = c.reducerInstance
  pending : m.pendingRemoteCommand = some c.commandId

/-- A batch of observations, each applied to the machine the earlier ones left. -/
inductive Observed [Sha256] : SessionMachine → List UnsolicitedObservation → SessionMachine → Prop
  | nil {m : SessionMachine} : Observed m [] m
  | cons {m m₁ m' : SessionMachine} {observed : UnsolicitedObservation}
      {rest : List UnsolicitedObservation} (effect : Effect m observed.action m₁)
      (reported : m₁.state = observed.state) (batch : Observed m₁ rest m') :
      Observed m (observed :: rest) m'

/-- Everything an operation can do to a machine. -/
inductive Move [Sha256] (m : SessionMachine) :
    SessionOperation → Except UnsolicitedObservationError SessionAnswer → SessionMachine → Prop
  | refused {operation : SessionOperation} {e : UnsolicitedObservationError} {m' : SessionMachine}
      (kept : Kept operation.presentedLeases m m') : Move m operation (.error e) m'
  | registeredHostRisk {verifier : HostRiskVerifier} (idle : m.state.kind = .idle)
      (fresh : m.hostRiskLeases[verifier.id]? = none) :
      Move m (.registerHostRiskVerifier verifier) (.ok .done)
        { m with hostRiskLeases := m.hostRiskLeases.insert verifier.id (some verifier) }
  | registeredOwnership {verifier : SandboxOwnershipVerifier} (idle : m.state.kind = .idle)
      (fresh : m.sandboxOwnershipLeases[verifier.id]? = none) :
      Move m (.registerSandboxOwnershipVerifier verifier) (.ok .done)
        { m with
            sandboxOwnershipLeases := m.sandboxOwnershipLeases.insert verifier.id (some verifier) }
  | accepted {envelope : CommandEnvelope} {m' : SessionMachine}
      (free : m.pendingRemoteCommand = none)
      (newer : NewerCommand m.lastCommandId envelope.commandId)
      (effect : Effect (m.observed envelope.commandId) (.command envelope.command) m') :
      Move m (.acceptCommand envelope) (.ok (.state m'.state)) m'
  | begun {operation : SessionOperation} {envelope : CommandEnvelope} {answer : SessionAnswer}
      {ticket : RemoteCommandCheckpoint} {m' : SessionMachine}
      (begins : operation.begins = some envelope) (free : m.pendingRemoteCommand = none)
      (newer : NewerCommand m.lastCommandId envelope.commandId)
      (effect : Effect (m.observed envelope.commandId) (.command envelope.command) m')
      (answered : answer.ticket = some ticket)
      (issued : ticket.IssuedBy m envelope.commandId m') :
      Move m operation (.ok answer) { m' with pendingRemoteCommand := some envelope.commandId }
  | committed {operation : SessionOperation} {answer : SessionAnswer}
      {checkpoint : RemoteCommandCheckpoint} (commits : operation.commits = true)
      (presents : operation.presentedCheckpoint = some checkpoint)
      (resolves : checkpoint.Resolves m) (answered : answer.ticket = none) :
      Move m operation (.ok answer) { m with pendingRemoteCommand := none }
  | restored {operation : SessionOperation} {answer : SessionAnswer}
      {checkpoint : RemoteCommandCheckpoint} (restores : operation.restores = true)
      (presents : operation.presentedCheckpoint = some checkpoint)
      (resolves : checkpoint.Resolves m)
      (unchanged : m.remoteCommandPostAcceptState = checkpoint.postAccept)
      (answered : answer.ticket = none) :
      Move m operation (.ok answer) (SessionMachine.restore checkpoint m)
  | observed {operation : SessionOperation} {action : SessionAction} {answer : SessionAnswer}
      {m' : SessionMachine} (asks : operation.action = some action) (effect : Effect m action m')
      (answered : answer.ticket = none) : Move m operation (.ok answer) m'
  | batch {observations : List UnsolicitedObservation} {m' : SessionMachine}
      (observed : Observed m observations m') :
      Move m (.applyUnsolicitedObservations observations) (.ok .done) m'
  | retained {failure : SandboxFailure} :
      Move m (.retainSandboxFailureTargetCreation failure) (.ok .done) m

section Moves

variable [Sha256] {m m' : SessionMachine}

/-! ### Every operation is a move -/

section LiftError

variable {α β : Type} {x : SessionReducer α} {wrap : α → β}

omit [Sha256] in
theorem liftError_ok {a : α} (h : x m = (.ok a, m')) :
    SessionMachine.liftError (x >>= fun a => pure (wrap a)) m = (.ok (wrap a), m') := by
  simp [SessionMachine.liftError, within, bind_run, h]

omit [Sha256] in
theorem liftError_error {e : SessionMachineError} (h : x m = (.error e, m')) :
    SessionMachine.liftError (x >>= fun a => pure (wrap a)) m = (.error (.reducer e), m') := by
  simp [SessionMachine.liftError, within, bind_run, h]

end LiftError

/-- The result of an operation is a move. -/
def Moves (m : SessionMachine) (operation : SessionOperation)
    (result : Except UnsolicitedObservationError SessionAnswer × SessionMachine) : Prop :=
  Move m operation result.1 result.2

/-- An operation that fails and leaves the machine as it was is refused. -/
theorem moves_of_error {operation : SessionOperation} {α : Type} {x : SessionReducer α}
    {wrap : α → SessionAnswer} {e : SessionMachineError} (hx : x m = (.error e, m)) :
    Moves m operation (SessionMachine.liftError (x >>= fun a => pure (wrap a)) m) := by
  rw [liftError_error hx]
  exact .refused (.refl _ _)

/-- An operation that wraps the answer of a reducer moves as its outcome says. -/
theorem moves_of_outcome {operation : SessionOperation} {action : SessionAction} {α : Type}
    {x : SessionReducer α} {answer : SessionMachine → α} {wrap : α → SessionAnswer}
    (asks : operation.action = some action) (leases : operation.presentedLeases = .none)
    (ticketless : ∀ a, (wrap a).ticket = none) (h : Outcome .none m action answer (x m)) :
    Moves m operation (SessionMachine.liftError (x >>= fun a => pure (wrap a)) m) := by
  rcases hx : x m with ⟨e | a, m'⟩ <;> rw [hx] at h
  · rw [liftError_error hx]
    cases h with
    | refused _ kept => exact .refused (leases ▸ kept)
  · rw [liftError_ok hx]
    cases h with
    | done effect => exact .observed asks effect (ticketless _)

omit [Sha256] in
theorem free_of_requireNoRemoteCommandPending {u : Unit}
    (h : m.requireNoRemoteCommandPending = .ok u) : m.pendingRemoteCommand = none := by
  unfold SessionMachine.requireNoRemoteCommandPending at h
  cases hp : m.pendingRemoteCommand with
  | none => rfl
  | some commandId => simp [hp] at h

theorem registerHostRiskVerifier_moves (verifier : HostRiskVerifier) :
    Moves m (.registerHostRiskVerifier verifier)
      ((SessionOperation.registerHostRiskVerifier verifier).apply m) := by
  rcases hx : SessionMachine.registerHostRiskVerifier verifier m with ⟨e | u, m'⟩
  · have hatomic : Atomic (SessionMachine.registerHostRiskVerifier verifier) :=
      readOnly_look.bind_atomic fun _ => (readOnly_lift _).bind_atomic fun _ =>
        (readOnly_lift _).bind_atomic fun _ => (readOnly_refuse _ _).bind_atomic fun _ =>
        (readOnly_refuse _ _).bind_atomic fun _ => (readOnly_refuse _ _).bind_atomic fun _ =>
        (total_update _).atomic
    obtain rfl := hatomic _ _ _ hx
    exact moves_of_error hx
  · rw [SessionOperation.apply, liftError_ok hx]
    simp only [SessionMachine.registerHostRiskVerifier, look_bind_run, bind_eq_ok, lift_eq_ok,
      refuse_eq_ok, update_eq_ok] at hx
    obtain ⟨_, _, ⟨hstate, rfl⟩, _, _, ⟨-, rfl⟩, _, _, ⟨-, rfl⟩, _, _, ⟨hfresh, rfl⟩, _, _,
      ⟨-, rfl⟩, rfl⟩ := hx
    have hidle : m.state.kind = .idle := by simpa using kind_of_requireState hstate
    exact .registeredHostRisk hidle (by simpa using hfresh)

theorem registerSandboxOwnershipVerifier_moves (verifier : SandboxOwnershipVerifier) :
    Moves m (.registerSandboxOwnershipVerifier verifier)
      ((SessionOperation.registerSandboxOwnershipVerifier verifier).apply m) := by
  rcases hx : SessionMachine.registerSandboxOwnershipVerifier verifier m with ⟨e | u, m'⟩
  · have hatomic : Atomic (SessionMachine.registerSandboxOwnershipVerifier verifier) :=
      readOnly_look.bind_atomic fun _ => (readOnly_lift _).bind_atomic fun _ =>
        (readOnly_lift _).bind_atomic fun _ => (readOnly_refuse _ _).bind_atomic fun _ =>
        (readOnly_refuse _ _).bind_atomic fun _ => (readOnly_refuse _ _).bind_atomic fun _ =>
        (total_update _).atomic
    obtain rfl := hatomic _ _ _ hx
    exact moves_of_error hx
  · rw [SessionOperation.apply, liftError_ok hx]
    simp only [SessionMachine.registerSandboxOwnershipVerifier, look_bind_run, bind_eq_ok,
      lift_eq_ok, refuse_eq_ok, update_eq_ok] at hx
    obtain ⟨_, _, ⟨hstate, rfl⟩, _, _, ⟨-, rfl⟩, _, _, ⟨-, rfl⟩, _, _, ⟨hfresh, rfl⟩, _, _,
      ⟨-, rfl⟩, rfl⟩ := hx
    have hidle : m.state.kind = .idle := by simpa using kind_of_requireState hstate
    exact .registeredOwnership hidle (by simpa using hfresh)

theorem acceptCommand_moves (hc : m.visible.Coherent m.identity) (envelope : CommandEnvelope) :
    Moves m (.acceptCommand envelope) ((SessionOperation.acceptCommand envelope).apply m) := by
  cases hfree : m.requireNoRemoteCommandPending with
  | error e =>
    have hx : SessionMachine.acceptCommand envelope m = (.error e, m) := by
      simp only [SessionMachine.acceptCommand, look_bind_run, hfree]
      rfl
    exact moves_of_error hx
  | ok u =>
    have hinner : SessionMachine.acceptCommand envelope m =
        SessionMachine.acceptCommandInner envelope m := by
      simp only [SessionMachine.acceptCommand, look_bind_run, hfree, lift_ok_bind_run]
    rcases acceptCommandInner_run hc envelope with ⟨e, m', hx, hkept⟩ | ⟨m', hx, hnewer, heffect⟩
    · rw [SessionOperation.apply, liftError_error (hinner.trans hx)]
      exact .refused hkept
    · rw [SessionOperation.apply, liftError_ok (hinner.trans hx)]
      exact .accepted (free_of_requireNoRemoteCommandPending hfree) hnewer heffect

/-- Beginning a command for a remote host: the effect of the command, and its ticket. -/
theorem beginRemoteCommand_run (hc : m.visible.Coherent m.identity) (envelope : CommandEnvelope) :
    (∃ e m', SessionMachine.beginRemoteCommand envelope m = (.error e, m') ∧
        Kept envelope.command.presentedLeases m m') ∨
      ∃ ticket m', SessionMachine.beginRemoteCommand envelope m =
          (.ok ticket, { m' with pendingRemoteCommand := some envelope.commandId }) ∧
        m.pendingRemoteCommand = none ∧ NewerCommand m.lastCommandId envelope.commandId ∧
        Effect (m.observed envelope.commandId) (.command envelope.command) m' ∧
        ticket.IssuedBy m envelope.commandId m' := by
  simp only [SessionMachine.beginRemoteCommand, look_bind_run]
  cases hfree : m.requireNoRemoteCommandPending with
  | error e => exact .inl ⟨e, m, rfl, .refl _ _⟩
  | ok u =>
    simp only [lift_ok_bind_run]
    rcases acceptCommandInner_run hc envelope with ⟨e, m', hx, hkept⟩ | ⟨m', hx, hnewer, heffect⟩
    · exact .inl ⟨e, m', bind_of_error hx, hkept⟩
    · refine .inr ⟨_, m', bind_of_ok hx, free_of_requireNoRemoteCommandPending hfree, hnewer,
        heffect, ?_⟩
      have hreducer : m'.reducerInstance = m.reducerInstance :=
        congrArg SessionIdentity.reducerInstance heffect.frame.1
      exact ⟨hreducer, rfl, rfl, rfl⟩

theorem beginRemoteCommand_moves (hc : m.visible.Coherent m.identity)
    (envelope : CommandEnvelope) :
    Moves m (.beginRemoteCommand envelope)
      ((SessionOperation.beginRemoteCommand envelope).apply m) := by
  rcases beginRemoteCommand_run hc envelope with
    ⟨e, m', hx, hkept⟩ | ⟨ticket, m', hx, hfree, hnewer, heffect, hissued⟩
  · rw [SessionOperation.apply, liftError_error hx]
    exact .refused hkept
  · rw [SessionOperation.apply, liftError_ok hx]
    exact .begun rfl hfree hnewer heffect rfl hissued

/-- A local write is a remote write command whose ticket also carries the shared allocation. -/
theorem beginLiveMemoryWrite_run (hc : m.visible.Coherent m.identity) (envelope : CommandEnvelope)
    (binding : LiveTargetBinding) (allocation : ℕ) :
    (∃ e m', SessionMachine.beginLiveMemoryWrite envelope binding allocation m = (.error e, m') ∧
        Kept envelope.command.presentedLeases m m') ∨
      ∃ (write : LocalLiveMemoryWriteAllocation) (ticket : RemoteCommandCheckpoint)
        (m' : SessionMachine), write.commandId = envelope.commandId ∧ write.binding = binding ∧
        envelope.command = .writeMemory write.stop write.address write.expected write.replacement ∧
        SessionMachine.beginLiveMemoryWrite envelope binding allocation m =
          (.ok (ticket, ⟨ticket.reducerInstance, ⟨allocation, write⟩⟩, ⟨⟨allocation, write⟩⟩),
            { m' with pendingRemoteCommand := some envelope.commandId }) ∧
        ticket.localLiveMemoryWrite = some ⟨allocation, write⟩ ∧
        m.pendingRemoteCommand = none ∧ NewerCommand m.lastCommandId envelope.commandId ∧
        Effect (m.observed envelope.commandId) (.command envelope.command) m' ∧
        ticket.IssuedBy m envelope.commandId m' := by
  have hkept := Kept.refl envelope.command.presentedLeases m
  unfold SessionMachine.beginLiveMemoryWrite
  cases hcommand : envelope.command with
  | writeMemory stop address expected replacement =>
    simp only
    cases hvalid : envelope.validate with
    | error e => exact .inl ⟨_, m, rfl, hcommand ▸ hkept⟩
    | ok u =>
      simp only [Except.mapError, lift_ok_bind_run, look_bind_run]
      cases hattach : m.requireDebugAttach binding with
      | error e => exact .inl ⟨_, m, rfl, hcommand ▸ hkept⟩
      | ok u =>
        simp only [lift_ok_bind_run]
        cases hspan : binding.rvaForAddressSpan address expected.length with
        | error e => exact .inl ⟨_, m, rfl, hcommand ▸ hkept⟩
        | ok rva =>
          simp only [lift_ok_bind_run]
          rw [← hcommand]
          rcases beginRemoteCommand_run hc envelope with
            ⟨e, m', hx, hkept⟩ | ⟨ticket, m', hx, hfree, hnewer, heffect, hissued⟩
          · exact .inl ⟨e, m', bind_of_error hx, hkept⟩
          · set write : LocalLiveMemoryWriteAllocation :=
              ⟨envelope.commandId, stop, binding, address, expected, replacement⟩
            refine .inr ⟨write, { ticket with localLiveMemoryWrite := some ⟨allocation, write⟩ },
              m', rfl, rfl, hcommand, bind_of_ok hx, rfl, hfree, hnewer, heffect, ?_⟩
            exact ⟨hissued.reducer, hissued.command, hissued.visible, hissued.postAccept⟩
  | _ => exact .inl ⟨_, m, rfl, hcommand ▸ hkept⟩

theorem beginLiveMemoryWrite_moves (hc : m.visible.Coherent m.identity)
    (envelope : CommandEnvelope) (binding : LiveTargetBinding) (allocation : ℕ) :
    Moves m (.beginLiveMemoryWrite envelope binding allocation)
      ((SessionOperation.beginLiveMemoryWrite envelope binding allocation).apply m) := by
  rcases beginLiveMemoryWrite_run hc envelope binding allocation with ⟨e, m', hx, hkept⟩ |
    ⟨write, ticket, m', -, -, -, hx, -, hfree, hnewer, heffect, hissued⟩
  · rw [SessionOperation.apply, liftError_error hx]
    exact .refused hkept
  · rw [SessionOperation.apply, liftError_ok hx]
    exact .begun rfl hfree hnewer heffect rfl hissued

omit [Sha256] in
theorem validateRemoteCheckpoint_eq_ok {checkpoint : RemoteCommandCheckpoint}
    {commandId : CommandId} {u : Unit}
    (h : m.validateRemoteCheckpoint checkpoint commandId = .ok u) :
    checkpoint.Resolves m ∧ commandId = checkpoint.commandId := by
  unfold SessionMachine.validateRemoteCheckpoint at h
  rw [ite_error_eq_ok, ne_eq, not_not] at h
  obtain ⟨hreducer, h⟩ := h
  cases hpending : m.pendingRemoteCommand with
  | none => simp [hpending] at h
  | some pending =>
    simp only [hpending, ite_error_eq_ok, not_or, ne_eq, not_not] at h
    obtain ⟨⟨hcommand, rfl⟩, -⟩ := h
    exact ⟨⟨hreducer, hpending⟩, hcommand⟩

omit [Sha256] in
/-- What a local resolution has checked before it answers the resulting stop. -/
theorem validateLocalLiveMemoryWriteResolution_eq_ok {checkpoint : RemoteCommandCheckpoint}
    {identity : LocalLiveMemoryWriteReceiptIdentity} {stop : StopToken}
    (h : m.validateLocalLiveMemoryWriteResolution checkpoint identity = .ok stop) :
    checkpoint.Resolves m ∧ m.remoteCommandPostAcceptState = checkpoint.postAccept ∧
      (∃ reason threadId,
        checkpoint.state = .stopped identity.write.value.stop reason threadId) ∧
      ∃ reason threadId, m.state = .stopped stop reason threadId := by
  unfold SessionMachine.validateLocalLiveMemoryWriteResolution at h
  obtain ⟨_, hcheckpoint, h⟩ := except_bind_eq_ok.mp h
  by_cases hpost : m.remoteCommandPostAcceptState ≠ checkpoint.postAccept
  · simp [hpost, bind, Except.bind] at h
  rw [if_neg hpost] at h
  refine ⟨(validateRemoteCheckpoint_eq_ok hcheckpoint).1, not_not.mp hpost, ?_⟩
  cases hwrite : checkpoint.localLiveMemoryWrite with
  | none => simp [hwrite] at h
  | some write =>
    simp only [hwrite] at h
    by_cases hpointer : write.pointer ≠ identity.write.pointer
    · simp [hpointer, bind, Except.bind] at h
    rw [if_neg hpointer] at h
    split at h
    case h_2 => simp at h
    case h_1 prior reason threadId hprior =>
    by_cases hstop : prior ≠ identity.write.value.stop
    · simp [hstop, bind, Except.bind] at h
    rw [if_neg hstop] at h
    split at h
    case h_2 => simp at h
    case h_1 resulting reason' threadId' hstate =>
    obtain rfl := Except.ok.inj h
    exact ⟨⟨reason, threadId, by rw [hprior, not_not.mp hstop]⟩, reason', threadId', hstate⟩

theorem commitRemoteCommand_moves (checkpoint : RemoteCommandCheckpoint) (commandId : CommandId) :
    Moves m (.commitRemoteCommand checkpoint commandId)
      ((SessionOperation.commitRemoteCommand checkpoint commandId).apply m) := by
  cases hv : m.validateRemoteCheckpoint checkpoint commandId with
  | error e =>
    have hx : SessionMachine.commitRemoteCommand checkpoint commandId m = (.error e, m) := by
      simp only [SessionMachine.commitRemoteCommand, look_bind_run, hv]
      rfl
    exact moves_of_error hx
  | ok u =>
    have hx : SessionMachine.commitRemoteCommand checkpoint commandId m =
        (.ok m.state, { m with pendingRemoteCommand := none }) := by
      simp only [SessionMachine.commitRemoteCommand, look_bind_run, hv]
      rfl
    rw [SessionOperation.apply, liftError_ok hx]
    exact .committed rfl rfl (validateRemoteCheckpoint_eq_ok hv).1 rfl

theorem rejectRemoteCommand_moves (checkpoint : RemoteCommandCheckpoint) (commandId : CommandId) :
    Moves m (.rejectRemoteCommand checkpoint commandId)
      ((SessionOperation.rejectRemoteCommand checkpoint commandId).apply m) := by
  cases hv : m.validateRemoteCheckpoint checkpoint commandId with
  | error e =>
    have hx : SessionMachine.rejectRemoteCommand checkpoint commandId m = (.error e, m) := by
      simp only [SessionMachine.rejectRemoteCommand, look_bind_run, hv]
      rfl
    exact moves_of_error hx
  | ok u =>
    by_cases hpost : m.remoteCommandPostAcceptState ≠ checkpoint.postAccept
    · have hx : SessionMachine.rejectRemoteCommand checkpoint commandId m =
          (.error .remoteCommandStateChanged, m) := by
        simp only [SessionMachine.rejectRemoteCommand, look_bind_run, hv, lift_ok_bind_run,
          refuse_bind_run, if_pos hpost]
      exact moves_of_error hx
    · have hx : SessionMachine.rejectRemoteCommand checkpoint commandId m =
          (.ok checkpoint.state, SessionMachine.restore checkpoint m) := by
        simp only [SessionMachine.rejectRemoteCommand, look_bind_run, hv, lift_ok_bind_run,
          refuse_bind_run, if_neg hpost]
        rfl
      rw [SessionOperation.apply, liftError_ok hx]
      exact .restored rfl rfl (validateRemoteCheckpoint_eq_ok hv).1 (not_not.mp hpost) rfl

omit [Sha256] in
theorem resolveLiveMemoryWriteSuccess_run (checkpoint : RemoteCommandCheckpoint)
    (identity : LocalLiveMemoryWriteReceiptIdentity) :
    SessionMachine.resolveLiveMemoryWriteSuccess checkpoint identity m =
      match m.validateLocalLiveMemoryWriteResolution checkpoint identity with
      | .error e => (.error e, m)
      | .ok stop => (.ok ⟨identity.write.value, .committed stop⟩,
          { m with pendingRemoteCommand := none }) := by
  simp only [SessionMachine.resolveLiveMemoryWriteSuccess, look_bind_run]
  cases m.validateLocalLiveMemoryWriteResolution checkpoint identity <;> rfl

omit [Sha256] in
/-- The second comparison of the stop a no-effect resolution makes never fails. -/
theorem resolveLiveMemoryWriteNoEffect_run (checkpoint : RemoteCommandCheckpoint)
    (identity : LocalLiveMemoryWriteReceiptIdentity) :
    SessionMachine.resolveLiveMemoryWriteNoEffect checkpoint identity m =
      match m.validateLocalLiveMemoryWriteResolution checkpoint identity with
      | .error e => (.error e, m)
      | .ok _ => (.ok ⟨identity.write.value, .rejectedNoEffect⟩,
          SessionMachine.restore checkpoint m) := by
  simp only [SessionMachine.resolveLiveMemoryWriteNoEffect, look_bind_run]
  cases hv : m.validateLocalLiveMemoryWriteResolution checkpoint identity with
  | error e => rfl
  | ok stop =>
    obtain ⟨-, -, ⟨reason, threadId, hstate⟩, -⟩ :=
      validateLocalLiveMemoryWriteResolution_eq_ok hv
    simp [hstate]

theorem resolveLiveMemoryWriteSuccess_moves (checkpoint : RemoteCommandCheckpoint)
    (identity : LocalLiveMemoryWriteReceiptIdentity) :
    Moves m (.resolveLiveMemoryWriteSuccess checkpoint identity)
      ((SessionOperation.resolveLiveMemoryWriteSuccess checkpoint identity).apply m) := by
  have hx := resolveLiveMemoryWriteSuccess_run (m := m) checkpoint identity
  cases hv : m.validateLocalLiveMemoryWriteResolution checkpoint identity with
  | error e =>
    rw [SessionOperation.apply, liftError_error (by rw [hx, hv])]
    exact .refused (.refl _ _)
  | ok stop =>
    rw [SessionOperation.apply, liftError_ok (by rw [hx, hv])]
    exact .committed rfl rfl (validateLocalLiveMemoryWriteResolution_eq_ok hv).1 rfl

theorem resolveLiveMemoryWriteNoEffect_moves (checkpoint : RemoteCommandCheckpoint)
    (identity : LocalLiveMemoryWriteReceiptIdentity) :
    Moves m (.resolveLiveMemoryWriteNoEffect checkpoint identity)
      ((SessionOperation.resolveLiveMemoryWriteNoEffect checkpoint identity).apply m) := by
  have hx := resolveLiveMemoryWriteNoEffect_run (m := m) checkpoint identity
  cases hv : m.validateLocalLiveMemoryWriteResolution checkpoint identity with
  | error e =>
    rw [SessionOperation.apply, liftError_error (by rw [hx, hv])]
    exact .refused (.refl _ _)
  | ok stop =>
    obtain ⟨hresolves, hpost, -⟩ := validateLocalLiveMemoryWriteResolution_eq_ok hv
    rw [SessionOperation.apply, liftError_ok (by rw [hx, hv])]
    exact .restored rfl rfl hresolves hpost rfl

omit [Sha256] in
/-- A failure report confirms what is retained; it never records anything. -/
theorem readOnly_retainSandboxFailureTargetCreation (failure : SandboxFailure) :
    ReadOnly (SessionMachine.retainSandboxFailureTargetCreation failure) := by
  intro m
  simp only [SessionMachine.retainSandboxFailureTargetCreation, look_bind_run]
  cases m.validateSandboxFailure failure with
  | error e => rfl
  | ok u =>
    rw [lift_ok_bind_run]
    split
    · rfl
    · cases hs : m.sandbox <;> cases m.inheritedSandbox <;> cases failure.context <;> try rfl
      rename_i sandbox binaryId helperBuild outcome
      simp only [refuse_bind_run]
      split
      · rfl
      · rename_i hsome
        rcases hrun : SandboxMachine.retainFailureTargetCreation outcome sandbox with ⟨e | u, s'⟩
        · obtain rfl := SandboxMachine.atomic_retainFailureTargetCreation outcome _ _ _ hrun
          rw [runSandbox_error hs hrun]
        · obtain ⟨hout, rfl⟩ := SandboxMachine.retainFailureTargetCreation_eq_ok.mp hrun
          have hretained : sandbox.targetCreation = some outcome :=
            hout.resolve_left fun h => hsome (by simp [h.1])
          have hsame : ({ m with sandbox := some { sandbox with
              targetCreation := some outcome } } : SessionMachine) = m := by
            rw [← hretained, ← hs]
          rw [runSandbox_ok hrun, hsame]

/-! ### Batches -/

/-- All of a machine but the three fields a batch of observations can write. -/
def SessionMachine.unobserved (m : SessionMachine) :
    SessionState → ℕ → Option SandboxMachine → SessionMachine :=
  fun state lastStopId sandbox =>
    { m with state := state, lastStopId := lastStopId, sandbox := sandbox }

omit [Sha256] in
theorem preserves_allocateStopToken (token : StateToken) :
    Preserves SessionMachine.unobserved (SessionMachine.allocateStopToken token) := by
  intro m
  simp only [SessionMachine.allocateStopToken, look_bind_run]
  split <;> rfl

omit [Sha256] in
theorem preserves_transitionTo (next : SessionState) :
    Preserves SessionMachine.unobserved (SessionMachine.transitionTo next) :=
  readOnly_look.preserves.bind fun _ => (readOnly_lift _).preserves.bind fun _ =>
    preserves_update fun _ => rfl

omit [Sha256] in
theorem preserves_reportState : Preserves SessionMachine.unobserved SessionMachine.reportState :=
  fun _ => rfl

omit [Sha256] in
theorem preserves_onSandbox {α : Type} (x : SandboxReducer α) :
    Preserves SessionMachine.unobserved (SessionMachine.onSandbox x) := by
  intro m
  simp only [SessionMachine.onSandbox, look_bind_run]
  cases m.sandbox with
  | none => rfl
  | some sandbox =>
    rcases hx : x sandbox with ⟨_ | _, s⟩ <;>
      simp [SessionMachine.runSandbox, within, bind_run, hx] <;> rfl

omit [Sha256] in
theorem preserves_markStopped (reason : StopReason) (threadId : ThreadId) :
    Preserves SessionMachine.unobserved (SessionMachine.markStopped reason threadId) := by
  refine readOnly_look.preserves.bind fun m => (readOnly_lift _).preserves.bind fun _ =>
    (readOnly_refuse _ _).preserves.bind fun _ => ?_
  have hlast : Preserves SessionMachine.unobserved (do
      let next ← lift m.nextStateToken
      let stop ← SessionMachine.allocateStopToken next
      SessionMachine.transitionTo (.stopped stop reason threadId)
      SessionMachine.reportState : SessionReducer SessionState) :=
    (readOnly_lift _).preserves.bind fun _ => (preserves_allocateStopToken _).bind fun _ =>
      (preserves_transitionTo _).bind fun _ => preserves_reportState
  split
  · exact (readOnly_lift _).preserves.bind fun _ => hlast
  · exact hlast

omit [Sha256] in
theorem preserves_markExited (exitCode : UInt32) :
    Preserves SessionMachine.unobserved (SessionMachine.markExited exitCode) :=
  readOnly_look.preserves.bind fun _ => (readOnly_lift _).preserves.bind fun _ =>
    (readOnly_lift _).preserves.bind fun _ => (preserves_onSandbox _).bind fun _ =>
    (preserves_transitionTo _).bind fun _ => preserves_reportState

omit [Sha256] in
theorem preserves_liftError {α : Type} {x : SessionReducer α}
    (h : Preserves SessionMachine.unobserved x) :
    Preserves SessionMachine.unobserved (SessionMachine.liftError x) := by
  intro m
  have hm := h m
  rcases hx : x m with ⟨_ | _, m'⟩ <;> simpa [SessionMachine.liftError, within, hx] using hm

omit [Sha256] in
theorem preserves_replayObservations (observations : List UnsolicitedObservation) :
    Preserves SessionMachine.unobserved (SessionMachine.replayObservations observations) := by
  induction observations with
  | nil => exact preserves_pure ()
  | cons observed rest ih =>
    have happly : Preserves SessionMachine.unobserved
      (SessionMachine.applyObservation observed) := by
      refine (preserves_liftError ?_).bind fun _ => (readOnly_refuse _ _).preserves
      cases observed with
      | stopped token reason threadId => exact preserves_markStopped reason threadId
      | exited token exitCode => exact preserves_markExited exitCode
    exact happly.bind fun _ => ih

omit [Sha256] in
/-- A batch that fails at any position leaves the machine exactly as it was. -/
theorem atomic_applyUnsolicitedObservations (observations : List UnsolicitedObservation) :
    Atomic (SessionMachine.applyUnsolicitedObservations observations) := by
  intro m e m' h
  have hview := preserves_replayObservations observations m
  unfold SessionMachine.applyUnsolicitedObservations at h
  rcases hrun : SessionMachine.replayObservations observations m with ⟨e' | u, m₁⟩
  · rw [hrun] at h hview
    have hsame : ({ m₁ with
        state := m.state, lastStopId := m.lastStopId, sandbox :=
          m.sandbox } : SessionMachine) = m :=
      congrFun (congrFun (congrFun hview m.state) m.lastStopId) m.sandbox
    simp only [Prod.mk.injEq] at h
    rw [← h.2, hsame]
  · simp [hrun] at h

/-- One observation that is applied has the effect it reports. -/
theorem applyObservation_effect (hc : m.visible.Coherent m.identity)
    {observed : UnsolicitedObservation} {u : Unit}
    (h : SessionMachine.applyObservation observed m = (.ok u, m')) :
    Effect m observed.action m' ∧ m'.state = observed.state := by
  obtain ⟨applied, m₁, hx, hrefuse⟩ := bind_eq_ok.mp h
  obtain ⟨hstate, rfl⟩ := refuse_eq_ok.mp hrefuse
  have hmove : ∀ {x : SessionReducer SessionState},
    SessionMachine.liftError x m = (.ok applied, m₁) →
      Outcome .none m observed.action (·.state) (x m) →
      Effect m observed.action m₁ ∧ m₁.state = observed.state := by
    intro x hlift hout
    rcases hrun : x m with ⟨e | a, m₂⟩
    · simp [SessionMachine.liftError, within, hrun] at hlift
    · simp only [SessionMachine.liftError, within, hrun, id_eq, Prod.mk.injEq,
        Except.ok.injEq] at hlift
      obtain ⟨rfl, rfl⟩ := hlift
      rw [hrun] at hout
      cases hout with
      | done effect => exact ⟨effect, not_not.mp hstate⟩
  cases observed with
  | stopped token reason threadId => exact hmove hx (markStopped_outcome hc reason threadId)
  | exited token exitCode => exact hmove hx (markExited_outcome hc exitCode)

theorem replayObservations_observed {observations : List UnsolicitedObservation} {u : Unit}
    (hc : m.visible.Coherent m.identity)
    (h : SessionMachine.replayObservations observations m = (.ok u, m')) :
    Observed m observations m' := by
  induction observations generalizing m with
  | nil =>
    obtain ⟨-, rfl⟩ := pure_eq_ok.mp h
    exact .nil
  | cons observed rest ih =>
    obtain ⟨_, m₁, hfirst, hrest⟩ := bind_eq_ok.mp h
    obtain ⟨heffect, hreported⟩ := applyObservation_effect hc hfirst
    have hc₁ : m₁.visible.Coherent m₁.identity := heffect.frame.1 ▸ coherent_effect hc heffect
    exact .cons heffect hreported (ih hc₁ hrest)

theorem applyUnsolicitedObservations_moves (hc : m.visible.Coherent m.identity)
    (observations : List UnsolicitedObservation) :
    Moves m (.applyUnsolicitedObservations observations)
      ((SessionOperation.applyUnsolicitedObservations observations).apply m) := by
  rcases hx : SessionMachine.applyUnsolicitedObservations observations m with ⟨e | u, m'⟩
  · obtain rfl := atomic_applyUnsolicitedObservations observations _ _ _ hx
    rw [SessionOperation.apply, bind_of_error hx]
    exact .refused (.refl _ _)
  · rw [SessionOperation.apply, bind_of_ok hx]
    unfold SessionMachine.applyUnsolicitedObservations at hx
    rcases hrun : SessionMachine.replayObservations observations m with ⟨e | v, m₁⟩
    · simp [hrun] at hx
    · simp only [hrun, Prod.mk.injEq] at hx
      obtain ⟨-, rfl⟩ := hx
      exact .batch (replayObservations_observed hc hrun)

theorem apply_moves (hc : m.visible.Coherent m.identity) (operation : SessionOperation) :
    Moves m operation (operation.apply m) := by
  cases operation with
  | registerHostRiskVerifier verifier => exact registerHostRiskVerifier_moves verifier
  | registerSandboxOwnershipVerifier verifier =>
    exact registerSandboxOwnershipVerifier_moves verifier
  | acceptCommand envelope => exact acceptCommand_moves hc envelope
  | beginRemoteCommand envelope => exact beginRemoteCommand_moves hc envelope
  | beginLiveMemoryWrite envelope binding allocation =>
    exact beginLiveMemoryWrite_moves hc envelope binding allocation
  | resolveLiveMemoryWriteSuccess checkpoint identity =>
    exact resolveLiveMemoryWriteSuccess_moves checkpoint identity
  | resolveLiveMemoryWriteNoEffect checkpoint identity =>
    exact resolveLiveMemoryWriteNoEffect_moves checkpoint identity
  | commitRemoteCommand checkpoint commandId => exact commitRemoteCommand_moves checkpoint commandId
  | rejectRemoteCommand checkpoint commandId => exact rejectRemoteCommand_moves checkpoint commandId
  | targetCreatedSuspended process =>
    exact moves_of_outcome rfl rfl (fun _ => rfl) (targetCreatedSuspended_outcome hc process)
  | acceptSandboxAttestation actual =>
    exact moves_of_outcome rfl rfl (fun _ => rfl) (acceptSandboxAttestation_outcome hc actual)
  | completeOpenOffline =>
    exact moves_of_outcome rfl rfl (fun _ => rfl) (completeOpenOffline_outcome hc)
  | completeOpenDump => exact moves_of_outcome rfl rfl (fun _ => rfl) (completeOpenDump_outcome hc)
  | completeOpenObserving processId =>
    exact moves_of_outcome rfl rfl (fun _ => rfl) (completeOpenObserving_outcome hc processId)
  | markStopped reason threadId =>
    exact moves_of_outcome rfl rfl (fun _ => rfl) (markStopped_outcome hc reason threadId)
  | markExited exitCode =>
    exact moves_of_outcome rfl rfl (fun _ => rfl) (markExited_outcome hc exitCode)
  | applyUnsolicitedObservations observations =>
    exact applyUnsolicitedObservations_moves hc observations
  | markFailed message =>
    exact moves_of_outcome rfl rfl (fun _ => rfl) (markFailed_outcome hc message)
  | completeClose receipt =>
    exact moves_of_outcome rfl rfl (fun _ => rfl) (completeClose_outcome hc receipt)
  | recordSandboxTargetNotCreated =>
    exact moves_of_outcome rfl rfl (fun _ => rfl) recordSandboxTargetNotCreated_outcome
  | retainSandboxFailureTargetCreation failure =>
    have hsame := readOnly_retainSandboxFailureTargetCreation failure m
    rcases hx : SessionMachine.retainSandboxFailureTargetCreation failure m with ⟨e | u, m'⟩
    · obtain rfl : m' = m := by rwa [hx] at hsame
      exact moves_of_error hx
    · obtain rfl : m' = m := by rwa [hx] at hsame
      rw [SessionOperation.apply, liftError_ok hx]
      exact .retained

end Moves

end ReSymbol.Debugger
