import ReSymbol.Debugger.SessionAuthority

/-! How a session ends.

    A session that owns a sandbox becomes closed only by `completeClose` with a receipt for exactly
    that sandbox. Conversely a session can be led to closed from almost everywhere: record a target
    that was not created, close, complete with the receipt. Two kinds of state are stranded for
    good. A sandbox that went to cleanup before anything was recorded about its target accepts no
    receipt and nothing more can be recorded; and once the largest command id is used up no close is
    admitted.

        open, not created recorded ──Close──▶ closing ──receipt──▶ closed
        opening, nothing recorded  ──Close──▶ closing, no receipt fits          (stranded) -/

namespace ReSymbol.Debugger.SessionSystem
open Schemes Schemes.Reducer

section Closing

variable [Sha256] {m m' : SessionMachine} {operation : SessionOperation} {result : SessionResult}
  {action : SessionAction}

/-! ### Only exact cleanup closes -/

/-- The receipt is bound to what the session owns and reports a complete cleanup of it. -/
inductive ExactCleanup (m : SessionMachine) (receipt : SandboxCleanupReceipt) : Prop
  | owned {sandbox : SandboxMachine} {outcome : SandboxTargetCreationOutcome}
      (owns : m.sandbox = some sandbox) (session : receipt.sessionId = m.sessionId)
      (epoch : receipt.provisioningEpoch = m.provisioningEpoch)
      (provider : receipt.provider = sandbox.expected.provider)
      (policy : receipt.policyDigest = sandbox.expected.policyDigest)
      (recorded : sandbox.targetCreation = some outcome)
      (process : receipt.process = outcome.process)
      (clean : receipt.CleanFor sandbox.expected.boundary)
  | inherited {binding : SandboxOwnershipBinding} (owns : m.inheritedSandbox = some binding)
      (session : receipt.sessionId = m.sessionId)
      (epoch : receipt.provisioningEpoch = m.provisioningEpoch)
      (provider : receipt.provider = binding.provider)
      (policy : receipt.policyDigest = binding.policyDigest)
      (process : receipt.process = some binding.process)
      (clean : receipt.CleanFor (providerBoundary binding.provider))

theorem fromPolicy_binding {binaryId : BinaryId} {policy : SandboxPolicy}
    {helperBuild : HelperBuildId} {epoch : ProvisioningEpoch}
    {expected : ExpectedSandboxAttestation}
    (h : ExpectedSandboxAttestation.fromPolicy binaryId policy helperBuild epoch = .ok expected) :
    expected.sessionId = policy.sessionId ∧ expected.provisioningEpoch = epoch := by
  unfold ExpectedSandboxAttestation.fromPolicy at h
  obtain ⟨digest, -, h⟩ := except_bind_eq_ok.mp h
  obtain rfl := Except.ok.inj h
  exact ⟨rfl, rfl⟩

/-- What an owning session releases is released by exact cleanup of it. -/
theorem exactCleanup_of_released (hc : m.visible.Coherent m.identity)
    {receipt : Option SandboxCleanupReceipt} {sandbox : Option SandboxMachine}
    (h : Released m receipt sandbox) (owns : m.requiresCleanupReceipt = true) :
    ∃ r, receipt = some r ∧ ExactCleanup m r := by
  cases h with
  | owned owns alone cleanup closes =>
    obtain ⟨launch, policy, -, -, hsession, hexpected, -⟩ := hc.launch_of_sandbox owns
    obtain ⟨hs, he⟩ := fromPolicy_binding hexpected
    obtain ⟨outcome, hrecorded, hprocess⟩ := closes.process
    exact ⟨_, rfl, .owned owns (closes.session.trans (hs.trans hsession)) (closes.epoch.trans he)
      closes.provider closes.policy hrecorded hprocess closes.clean⟩
  | @inherited binding receipt alone owns session epoch provider policy process clean =>
    obtain ⟨hs, he⟩ : binding.sessionId = m.sessionId ∧
        binding.provisioningEpoch = m.provisioningEpoch := by
      cases htarget : m.target with
      | none =>
        have hnone : m.inheritedSandbox = none := (hc.unopened htarget).2.2
        simp [hnone] at owns
      | some target =>
        have hp : Provisioned m.identity target m.executionGate m.sandbox m.inheritedSandbox :=
          hc.provisioned target htarget
        rw [owns] at hp
        generalize m.executionGate = gate at hp
        generalize m.sandbox = sandbox at hp
        cases hp with
        | ownedSandbox session epoch process_eq mode_eq => exact ⟨session, epoch⟩
    exact ⟨_, rfl, .inherited owns (session.trans hs) (epoch.trans he) provider policy process
      clean⟩
  | nothing alone inherited =>
    simp [SessionMachine.requiresCleanupReceipt, alone, inherited] at owns

/-- The only effect that closes a session is the completion of a close. -/
theorem released_of_effect (h : Effect m action m') (hopen : m.state.kind ≠ .closed)
    (hclosed : m'.state.kind = .closed) :
    ∃ receipt sandbox, action = .completeClose receipt ∧ Released m receipt sandbox := by
  cases h with
  | closed closing released follows => exact ⟨_, _, rfl, released⟩
  | read asks source => exact absurd hclosed hopen
  | notCreated owns alone provisioning fresh => exact absurd hclosed hopen
  | @completed target next opening retained completes follows =>
    cases target <;> cases next <;> first | exact completes.elim | cases hclosed
  | _ => cases hclosed

theorem not_closed_of_observed {observations : List UnsolicitedObservation}
    (h : Observed m observations m') (hopen : m.state.kind ≠ .closed) :
    m'.state.kind ≠ .closed := by
  induction h with
  | nil => exact hopen
  | @cons m m₁ m' observed rest effect reported batch ih =>
    refine ih fun hclosed => ?_
    obtain ⟨receipt, sandbox, haction, -⟩ := released_of_effect effect hopen hclosed
    cases observed <;> cases haction

/-- The only call that closes a session is the completion of a close. -/
theorem released_of_move (h : Move m operation result m') (hopen : m.state.kind ≠ .closed)
    (htickets : ∀ checkpoint, operation.presentedCheckpoint = some checkpoint →
      checkpoint.Resolves m → checkpoint.state.kind ≠ .closed)
    (hclosed : m'.state.kind = .closed) :
    ∃ receipt sandbox, operation = .completeClose receipt ∧ Released m receipt sandbox ∧
      ∃ answer, result = .ok answer := by
  -- no command closes a session at once
  have hcommand : ∀ {commandId command m₁}, Effect (m.observed commandId) (.command command) m₁ →
      m₁.state.kind ≠ .closed := by
    intro commandId command m₁ effect hclosed
    obtain ⟨_, _, haction, -⟩ := released_of_effect effect hopen hclosed
    cases haction
  cases h with
  | refused kept =>
    have hstate : m'.state = m.state := congrArg VisibleState.state kept.visible_eq
    exact absurd (hstate ▸ hclosed) hopen
  | registeredHostRisk idle fresh => exact absurd hclosed hopen
  | registeredOwnership idle fresh => exact absurd hclosed hopen
  | accepted free newer effect => exact absurd hclosed (hcommand effect)
  | begun begins free newer effect answered issued =>
    have hne := hcommand effect
    exact absurd hclosed hne
  | committed commits presents resolves answered => exact absurd hclosed hopen
  | restored restores presents resolves unchanged answered =>
    exact absurd hclosed (htickets _ presents resolves)
  | observed asks effect answered =>
    obtain ⟨receipt, sandbox, rfl, hreleased⟩ := released_of_effect effect hopen hclosed
    cases operation <;> simp [SessionOperation.action] at asks
    subst asks
    exact ⟨_, sandbox, rfl, hreleased, _, rfl⟩
  | batch observed => exact absurd hclosed (not_closed_of_observed observed hopen)
  | retained => exact absurd hclosed hopen

/-! ### Stranded sessions -/

/-- No receipt can fit any more, or no close can be admitted any more. -/
def Stranded (m : SessionMachine) : Prop :=
  (m.state.kind = .closing ∧ ∃ sandbox, m.sandbox = some sandbox ∧ sandbox.targetCreation = none) ∨
    (m.state.kind ∉ [SessionStateKind.closing, .closed] ∧
      ∃ last, m.lastCommandId = some last ∧ last.val = u64Max)

/-- Closing with nothing recorded about the target: no effect applies. -/
theorem no_effect_of_unrecorded (hc : m.visible.Coherent m.identity)
    (hclosing : m.state.kind = .closing) {sandbox : SandboxMachine}
    (hs : m.sandbox = some sandbox) (hnone : sandbox.targetCreation = none) :
    ¬ Effect m action m' := by
  intro h
  have hcleanup : sandbox.state = .cleanup := by
    have hin := hc.lifecycle sandbox hs
    simpa [SessionMachine.visible, hclosing, SessionStateKind.sandboxStates] using hin
  have hedge : ∀ {next : SessionState}, m.state.Follows next →
      next.kind = .closed ∨ next.kind = .failed := fun follows => by
    simpa [hclosing, SessionStateKind.successors] using follows.edge
  cases h with
  | opened idle granted follows => simp [hclosing] at idle
  | resumed asks stopped gate runId follows => simp [hclosing] at stopped
  | paused asks running follows => simp [hclosing] at running
  | refreshed asks stopped stopId follows => simp [stopped, SessionState.kind] at hclosing
  | read asks source => simp [hclosing] at source
  | detached asks gate follows => rcases hedge follows with h | h <;> cases h
  | closing asks follows => rcases hedge follows with h | h <;> cases h
  | created opening owns provisioning fresh binary follows => simp [hclosing] at opening
  | attested awaiting owns suspended created exact_eq follows => simp [hclosing] at awaiting
  | completed opening retained completes follows => simp [hclosing] at opening
  | stopped source gate opening stopId follows => simp [hclosing] at source
  | exited source follows => simp [hclosing] at source
  | failed source recorded follows => simpa [hnone] using recorded sandbox hs
  | closed closing released follows =>
    cases released with
    | owned owns alone cleanup closes =>
      obtain rfl := Option.some.inj (hs.symm.trans owns)
      obtain ⟨outcome, hout, -⟩ := closes.process
      simp [hnone] at hout
    | inherited alone owns session epoch provider policy process clean => simp [hs] at alone
    | nothing alone inherited => simp [hs] at alone
  | notCreated owns alone provisioning fresh =>
    obtain rfl := Option.some.inj (hs.symm.trans owns)
    simp [hcleanup] at provisioning

omit [Sha256] in
theorem not_newer_of_max {last commandId : CommandId} (hlast : m.lastCommandId = some last)
    (hmax : last.val = u64Max) : ¬ NewerCommand m.lastCommandId commandId := by
  intro newer
  have hlt := newer last hlast
  have hbound := commandId.lt
  simp only [u64Max, IdKind.bits] at hmax hbound
  omega

/-- Only a command makes a session close. -/
theorem not_closing_of_effect (h : Effect m action m') (hcommand : ∀ c, action ≠ .command c)
    (hkind : m.state.kind ∉ [SessionStateKind.closing, .closed]) :
    m'.state.kind ∉ [SessionStateKind.closing, .closed] := by
  cases h with
  | created opening owns provisioning fresh binary follows => simp [SessionState.kind]
  | attested awaiting owns suspended created exact_eq follows => simp [SessionState.kind]
  | stopped source gate opening stopId follows => simp [SessionState.kind]
  | exited source follows => simp [SessionState.kind]
  | failed source recorded follows => simp [SessionState.kind]
  | closed closing released follows => simp [closing] at hkind
  | notCreated owns alone provisioning fresh => exact hkind
  | @completed target next opening retained completes follows =>
    cases target <;> cases next <;> first | exact completes.elim | simp [SessionState.kind]
  | _ => exact absurd rfl (hcommand _)

/-- A session that is closing with nothing recorded does not move at all. -/
theorem unrecorded_move (hc : m.visible.Coherent m.identity)
    (hfree : m.pendingRemoteCommand = none) (hclosing : m.state.kind = .closing)
    {sandbox : SandboxMachine} (hs : m.sandbox = some sandbox)
    (hnone : sandbox.targetCreation = none) (h : Move m operation result m') :
    m'.pendingRemoteCommand = none ∧ m'.visible = m.visible := by
  have hcommand : ∀ {commandId command m₁},
      ¬ Effect (m.observed commandId) (.command command) m₁ := fun effect =>
    no_effect_of_unrecorded (m := m.observed _) hc hclosing hs hnone effect
  have hpending : ∀ {checkpoint : RemoteCommandCheckpoint}, ¬ checkpoint.Resolves m :=
    fun resolves => by simpa [hfree] using resolves.pending
  cases h with
  | refused kept => exact ⟨kept.pending_eq.trans hfree, kept.visible_eq⟩
  | registeredHostRisk idle fresh => simp [hclosing] at idle
  | registeredOwnership idle fresh => simp [hclosing] at idle
  | accepted free newer effect => exact absurd effect hcommand
  | begun begins free newer effect answered issued => exact absurd effect hcommand
  | committed commits presents resolves answered => exact absurd resolves hpending
  | restored restores presents resolves unchanged answered => exact absurd resolves hpending
  | observed asks effect answered =>
    exact absurd effect (no_effect_of_unrecorded hc hclosing hs hnone)
  | batch observed =>
    cases observed with
    | nil => exact ⟨hfree, rfl⟩
    | cons effect reported batch =>
      exact absurd effect (no_effect_of_unrecorded hc hclosing hs hnone)
  | retained => exact ⟨hfree, rfl⟩

theorem exhausted_observed {observations : List UnsolicitedObservation}
    (h : Observed m observations m')
    (hkind : m.state.kind ∉ [SessionStateKind.closing, .closed]) :
    m'.pendingRemoteCommand = m.pendingRemoteCommand ∧ m'.lastCommandId = m.lastCommandId ∧
      m'.state.kind ∉ [SessionStateKind.closing, .closed] := by
  induction h with
  | nil => exact ⟨rfl, rfl, hkind⟩
  | @cons m m₁ m' observed rest effect reported batch ih =>
    have hcommand : ∀ command, observed.action ≠ .command command := by
      cases observed <;> simp [UnsolicitedObservation.action]
    have hkind₁ := not_closing_of_effect effect hcommand hkind
    obtain ⟨hpending, hlast, hkind'⟩ := ih hkind₁
    exact ⟨hpending.trans effect.frame.2.2, hlast.trans effect.frame.2.1, hkind'⟩

/-- A session that has used up the largest command id admits no command, so it never closes. -/
theorem exhausted_move (hfree : m.pendingRemoteCommand = none)
    (hkind : m.state.kind ∉ [SessionStateKind.closing, .closed]) {last : CommandId}
    (hlast : m.lastCommandId = some last) (hmax : last.val = u64Max)
    (h : Move m operation result m') :
    m'.pendingRemoteCommand = none ∧ m'.lastCommandId = some last ∧
      m'.state.kind ∉ [SessionStateKind.closing, .closed] := by
  have hpending : ∀ {checkpoint : RemoteCommandCheckpoint}, ¬ checkpoint.Resolves m :=
    fun resolves => by simpa [hfree] using resolves.pending
  cases h with
  | refused kept =>
    have hstate : m'.state = m.state := congrArg VisibleState.state kept.visible_eq
    refine ⟨kept.pending_eq.trans hfree, ?_, hstate ▸ hkind⟩
    rcases kept.command with hsame | ⟨commandId, -, newer⟩
    · exact hsame.trans hlast
    · exact absurd newer (not_newer_of_max hlast hmax)
  | registeredHostRisk idle fresh => exact ⟨hfree, hlast, hkind⟩
  | registeredOwnership idle fresh => exact ⟨hfree, hlast, hkind⟩
  | accepted free newer effect => exact absurd newer (not_newer_of_max hlast hmax)
  | begun begins free newer effect answered issued =>
    exact absurd newer (not_newer_of_max hlast hmax)
  | committed commits presents resolves answered => exact absurd resolves hpending
  | restored restores presents resolves unchanged answered => exact absurd resolves hpending
  | observed asks effect answered =>
    refine ⟨effect.frame.2.2.trans hfree, effect.frame.2.1.trans hlast, ?_⟩
    refine not_closing_of_effect effect (fun c hcommand => ?_) hkind
    subst hcommand
    cases operation <;> simp [SessionOperation.action] at asks
  | batch observed =>
    obtain ⟨h1, h2, h3⟩ := exhausted_observed observed hkind
    exact ⟨h1.trans hfree, h2.trans hlast, h3⟩
  | retained => exact ⟨hfree, hlast, hkind⟩

theorem stranded_move (hc : m.visible.Coherent m.identity) (hfree : m.pendingRemoteCommand = none)
    (hstranded : Stranded m) (h : Move m operation result m') :
    m'.pendingRemoteCommand = none ∧ Stranded m' := by
  rcases hstranded with ⟨hclosing, sandbox, hs, hnone⟩ | ⟨hkind, last, hlast, hmax⟩
  · obtain ⟨hpending, hvisible⟩ := unrecorded_move hc hfree hclosing hs hnone h
    have hstate : m'.state = m.state := congrArg VisibleState.state hvisible
    have hsandbox : m'.sandbox = m.sandbox := congrArg VisibleState.sandbox hvisible
    exact ⟨hpending, .inl ⟨hstate ▸ hclosing, sandbox, hsandbox.trans hs, hnone⟩⟩
  · obtain ⟨hpending, hlast', hkind'⟩ := exhausted_move hfree hkind hlast hmax h
    exact ⟨hpending, .inr ⟨hkind', last, hlast', hmax⟩⟩

omit [Sha256] in
theorem not_closed_of_stranded (h : Stranded m) : m.state.kind ≠ .closed := by
  rcases h with ⟨hclosing, -⟩ | ⟨hkind, -⟩
  · simp [hclosing]
  · exact fun hclosed => hkind (by simp [hclosed])

/-- No run leads a stranded session to closed. -/
theorem stranded_run {s s' : SessionSystem} {es : List SessionEvent} (hc : s.Coherent)
    (hfree : s.machine.pendingRemoteCommand = none) (hstranded : Stranded s.machine)
    (run : Run Step s es s') : s'.machine.state.kind ≠ .closed := by
  have hinv := run.invariant (fun s => s.Coherent ∧ s.machine.pendingRemoteCommand = none ∧
    Stranded s.machine) ⟨hc, hfree, hstranded⟩ fun s i o s' h hstep => by
      obtain ⟨hc', hmove, -⟩ := coherent_step h.1 hstep
      exact ⟨hc', stranded_move h.1.machine h.2.1 h.2.2 hmove⟩
  exact not_closed_of_stranded hinv.2.2

/-! ### The calls that close -/

omit [Sha256] in
theorem nextStateToken_of_room (h : m.state.generation + 1 ≤ u64Max) :
    ∃ token, m.nextStateToken = .ok token := by
  have hlt : m.state.stateToken.generation.val + 1 < 2 ^ 64 := by
    unfold SessionState.generation u64Max at h
    omega
  exact ⟨⟨m.sessionId, ⟨m.state.stateToken.generation.val + 1, by omega, hlt⟩⟩,
    by simp only [SessionMachine.nextStateToken, StateGeneration.checkedNext, dif_pos hlt]⟩

/-- The receipt of a complete cleanup within a boundary. -/
def cleanReceipt (sessionId : SessionId) (provisioningEpoch : ProvisioningEpoch)
    (provider : SandboxProviderSelection) (policyDigest : PolicyDigest)
    (process : Option ProcessIdentity) (boundary : IsolationBoundary) :
    SandboxCleanupReceipt where
  receiptId := ⟨"cleanup", by decide⟩
  sessionId := sessionId
  provisioningEpoch := provisioningEpoch
  provider := provider
  policyDigest := policyDigest
  process := process
  outcome := .complete
  processTreeTerminatedAndReaped := true
  handlesClosed := true
  fileSystemRolledBack := true
  registryRolledBack := true
  networkTornDown := true
  ownedPathsDeleted := true
  appcontainerProfileDeleted := if boundary = .userMode then some true else none
  differencingDiskDiscarded := if boundary = .userMode then none else some true
  controlChannelClosed := if boundary = .userMode then none else some true
  terminatedProcesses := 0
  residuals := []

omit [Sha256] in
theorem cleanFor_cleanReceipt (sessionId : SessionId) (provisioningEpoch : ProvisioningEpoch)
    (provider : SandboxProviderSelection) (policyDigest : PolicyDigest)
    (process : Option ProcessIdentity) (boundary : IsolationBoundary) :
    (cleanReceipt sessionId provisioningEpoch provider policyDigest process boundary).CleanFor
      boundary :=
  ⟨rfl, rfl, by cases boundary <;> rfl, rfl⟩

/-- Once the fate of its target is recorded, a closing session can be released. -/
theorem released_of_recorded (hc : m.visible.Coherent m.identity)
    (hclosing : m.state.kind = .closing)
    (hrecorded : ∀ sandbox, m.sandbox = some sandbox → sandbox.targetCreation.isSome = true) :
    ∃ receipt sandbox, Released m receipt sandbox := by
  rcases m.sandbox.eq_none_or_eq_some with hs | ⟨sandbox, hs⟩
  · rcases m.inheritedSandbox.eq_none_or_eq_some with hi | ⟨binding, hi⟩
    · exact ⟨none, none, .nothing hs hi⟩
    · exact ⟨some (cleanReceipt binding.sessionId binding.provisioningEpoch binding.provider
        binding.policyDigest (some binding.process) (providerBoundary binding.provider)), none,
        .inherited hs hi rfl rfl rfl rfl rfl (cleanFor_cleanReceipt _ _ _ _ _ _)⟩
  · obtain ⟨outcome, hout⟩ := Option.isSome_iff_exists.mp (hrecorded sandbox hs)
    obtain ⟨-, -, -, -, -, -, hi, -⟩ := hc.launch_of_sandbox hs
    have hcleanup : sandbox.state = .cleanup := by
      have hin := hc.lifecycle sandbox hs
      simpa [SessionMachine.visible, hclosing, SessionStateKind.sandboxStates] using hin
    exact ⟨some (cleanReceipt sandbox.expected.sessionId sandbox.expected.provisioningEpoch
      sandbox.expected.provider sandbox.expected.policyDigest outcome.process
      sandbox.expected.boundary), some (sandbox.at .closed), .owned hs hi hcleanup
        ⟨rfl, rfl, rfl, rfl, ⟨outcome, hout, rfl⟩, cleanFor_cleanReceipt _ _ _ _ _ _⟩⟩

theorem completeClose_of_released (hc : m.visible.Coherent m.identity)
    (hclosing : m.state.kind = .closing) (hroom : m.state.generation + 1 ≤ u64Max)
    {receipt : Option SandboxCleanupReceipt} {sandbox : Option SandboxMachine}
    (h : Released m receipt sandbox) :
    ∃ token, SessionMachine.completeClose receipt m =
      (.ok (.closed token), { m with state := .closed token, sandbox := sandbox }) := by
  obtain ⟨token, htoken⟩ := nextStateToken_of_room hroom
  have hedge : SessionStateKind.closed ∈ m.state.kind.successors := by
    rw [hclosing]
    decide
  have hfollows : m.state.Follows (.closed token) := follows_of_token hc htoken rfl rfl hedge
  have hstate : m.requireState "complete close" [.closing] = .ok () := by
    simp [SessionMachine.requireState, hclosing]
  refine ⟨token, ?_⟩
  simp only [SessionMachine.completeClose, look_bind_run, hstate, htoken, lift_ok_bind_run]
  rw [bind_of_ok (releaseSandbox_of_released h),
    bind_of_ok (transitionTo_run (m := { m with sandbox := sandbox }) hfollows)]
  rfl

/-- The command that closes the session from its current state. -/
def closeEnvelope (m : SessionMachine) (commandId : CommandId) : CommandEnvelope where
  version := .current
  commandId := commandId
  sessionId := some m.state.stateToken.sessionId
  expectedState := some m.state.stateToken
  command := .close m.state.stateToken

theorem acceptCommand_close (hc : m.visible.Coherent m.identity)
    (hfree : m.pendingRemoteCommand = none)
    (hkind : m.state.kind ∉ [SessionStateKind.closing, .closed])
    (hroom : m.state.generation + 1 ≤ u64Max) {commandId : CommandId}
    (hnewer : NewerCommand m.lastCommandId commandId) :
    ∃ token, m.state.Follows (.closing token) ∧
      SessionMachine.acceptCommand (closeEnvelope m commandId) m =
        (.ok (.closing token), { m.observed commandId with
          state := .closing token
          sandbox := m.sandbox.map (·.at .cleanup) }) := by
  obtain ⟨token, htoken⟩ := nextStateToken_of_room hroom
  have hopen : m.state.kind ≠ .closed := fun h => hkind (by simp [h])
  have hedge : SessionStateKind.closing ∈ m.state.kind.successors := by
    revert hkind
    cases m.state.kind <;> decide
  have hfollows : m.state.Follows (.closing token) := follows_of_token hc htoken rfl rfl hedge
  have hvalid : (closeEnvelope m commandId).validate = .ok () := by
    simp [closeEnvelope, CommandEnvelope.validate, ProtocolVersion.validate, DebugCommand.validate,
      DebugCommand.stateContext, bind, Except.bind]
    rfl
  have hagainst : (closeEnvelope m commandId).validateAgainst m.state = .ok () := by
    simp only [CommandEnvelope.validateAgainst, hvalid]
    simp [closeEnvelope, CommandEnvelope.allowed, hopen, bind, Except.bind]
  refine ⟨token, hfollows, ?_⟩
  have haccept : SessionMachine.acceptCommand (closeEnvelope m commandId) m =
      SessionMachine.acceptCommandInner (closeEnvelope m commandId) m := by
    simp only [SessionMachine.acceptCommand, look_bind_run,
      SessionMachine.requireNoRemoteCommandPending, hfree, lift_ok_bind_run]
  have happly : SessionMachine.applyCommand (.close m.state.stateToken) (m.observed commandId) =
      (.ok (), { m.observed commandId with
        state := .closing token
        sandbox := m.sandbox.map (·.at .cleanup) }) := by
    have htoken' : (m.observed commandId).nextStateToken = .ok token := htoken
    simp only [SessionMachine.applyCommand, look_bind_run, htoken', lift_ok_bind_run]
    rw [bind_of_ok (onSandbox_beginCleanup (m := m.observed commandId) hc hopen)]
    exact transitionTo_run hfollows
  have hprobe : (closeEnvelope m commandId).command ≠ .probeCapabilities := by simp [closeEnvelope]
  rw [haccept, acceptCommandInner_of_valid hvalid hnewer hprobe hagainst]
  exact bind_of_ok happly

/-! ### Leading a session to closed -/

/-- Some continuation of the run closes the session. -/
def CanClose (s : SessionSystem) : Prop :=
  ∃ es s', Run Step s es s' ∧ s'.machine.state.kind = .closed

theorem CanClose.after {s : SessionSystem} (operation : SessionOperation)
    (hnone : operation.presentedCheckpoint = none)
    (happly : operation.apply s.machine = (result, m'))
    (hc : s.Coherent) (rest : (⟨m', s.issued ++ tickets result⟩ : SessionSystem).Coherent →
      CanClose ⟨m', s.issued ++ tickets result⟩) : CanClose s := by
  have hstep : Step s operation result ⟨m', s.issued ++ tickets result⟩ :=
    ⟨by simp only [call, happly], fun c h => by simp [hnone] at h⟩
  obtain ⟨es, s', run, hclosed⟩ := rest (coherent_step hc hstep).1
  exact ⟨_, s', (Run.start.next hstep).trans run, hclosed⟩

theorem canClose_of_closing {s : SessionSystem} (hc : s.Coherent)
    (hclosing : s.machine.state.kind = .closing)
    (hroom : s.machine.state.generation + 1 ≤ u64Max)
    (hrecorded : ∀ sandbox, s.machine.sandbox = some sandbox →
      sandbox.targetCreation.isSome = true) : CanClose s := by
  obtain ⟨receipt, sandbox, hreleased⟩ := released_of_recorded hc.machine hclosing hrecorded
  obtain ⟨token, hrun⟩ := completeClose_of_released hc.machine hclosing hroom hreleased
  exact .after (.completeClose receipt) rfl (liftError_ok hrun) hc
    fun _ => ⟨[], _, .start, rfl⟩

theorem canClose_of_open {s : SessionSystem} (hc : s.Coherent)
    (hfree : s.machine.pendingRemoteCommand = none)
    (hkind : s.machine.state.kind ∉ [SessionStateKind.closing, .closed])
    (hroom : s.machine.state.generation + 2 ≤ u64Max) {commandId : CommandId}
    (hnewer : NewerCommand s.machine.lastCommandId commandId)
    (hrecorded : ∀ sandbox, s.machine.sandbox = some sandbox →
      sandbox.targetCreation.isSome = true) : CanClose s := by
  obtain ⟨token, hfollows, hrun⟩ :=
    acceptCommand_close hc.machine hfree hkind (by omega) hnewer
  refine .after (.acceptCommand (closeEnvelope s.machine commandId)) rfl (liftError_ok hrun) hc
    fun hc' => ?_
  have hgeneration := hfollows.generation
  refine canClose_of_closing hc' rfl ?_ fun sandbox hs => ?_
  · show (SessionState.closing token).generation + 1 ≤ u64Max
    omega
  · obtain ⟨before, hbefore, rfl⟩ := Option.map_eq_some_iff.mp hs
    exact hrecorded before hbefore

/-- Outside opening and closing, the fate of an owned target is always recorded. -/
theorem recorded_of_kind (hc : m.visible.Coherent m.identity)
    (hkind : m.state.kind ∉ [SessionStateKind.opening, .closing]) {sandbox : SandboxMachine}
    (hs : m.sandbox = some sandbox) : sandbox.targetCreation.isSome = true := by
  have hin : sandbox.state ∈ m.state.kind.sandboxStates := hc.lifecycle sandbox hs
  have hstep : m.visible.InStep := hc.inStep
  have hexecution : m.state.kind ∈
      [SessionStateKind.attestationAccepted, .stopped, .running, .pausing] →
        sandbox.targetCreation.isSome = true := fun source =>
    (hc.accepted_of_execution (v := m.visible) source hs).2
  unfold VisibleState.InStep SessionMachine.visible at hstep
  cases hstate : m.state <;> simp only [hstate, SessionState.kind] at hkind hin hstep hexecution <;>
    simp [SessionStateKind.sandboxStates] at hkind hin
  case awaitingAttestation =>
    obtain ⟨owned, howned, hcreated⟩ := hstep
    obtain rfl := Option.some.inj (howned.symm.trans hs)
    simp [hcreated]
  case attestationAccepted => exact hexecution (by decide)
  case stopped => exact hexecution (by decide)
  case running => exact hexecution (by decide)
  case pausing => exact hexecution (by decide)
  case exited => exact hstep sandbox hs
  case failed => exact hstep sandbox hs
  case closed => exact (hc.sandbox sandbox hs).closed hin

omit [Sha256] in
theorem exists_newer (h : ∀ last, m.lastCommandId = some last → last.val ≠ u64Max) :
    ∃ commandId, NewerCommand m.lastCommandId commandId := by
  cases hlast : m.lastCommandId with
  | none => exact ⟨1, by simp [NewerCommand]⟩
  | some last =>
    have hne := h last hlast
    have hlt := last.lt
    simp only [u64Max, IdKind.bits] at hne hlt
    exact ⟨⟨last.val + 1, by omega, by simp only [IdKind.bits]; omega⟩, by simp [NewerCommand]⟩

/-- A session that is not stranded can be closed. -/
theorem canClose_of_not_stranded {s : SessionSystem} (hc : s.Coherent)
    (hfree : s.machine.pendingRemoteCommand = none)
    (hroom : s.machine.state.generation + 2 ≤ u64Max) (h : ¬ Stranded s.machine) :
    CanClose s := by
  by_cases hclosed : s.machine.state.kind = .closed
  · exact ⟨[], s, .start, hclosed⟩
  by_cases hclosing : s.machine.state.kind = .closing
  · refine canClose_of_closing hc hclosing (by omega) fun sandbox hs => ?_
    by_contra hnone
    exact h (.inl ⟨hclosing, sandbox, hs, Option.not_isSome_iff_eq_none.mp hnone⟩)
  have hkind : s.machine.state.kind ∉ [SessionStateKind.closing, .closed] := by
    simp [hclosing, hclosed]
  obtain ⟨commandId, hnewer⟩ : ∃ commandId, NewerCommand s.machine.lastCommandId commandId :=
    exists_newer fun last hlast hmax => h (.inr ⟨hkind, last, hlast, hmax⟩)
  by_cases hrecorded : ∀ sandbox, s.machine.sandbox = some sandbox →
      sandbox.targetCreation.isSome = true
  · exact canClose_of_open hc hfree hkind hroom hnewer hrecorded
  -- an owned target without a fate: the session is opening and can still record that there is none
  simp only [not_forall] at hrecorded
  obtain ⟨sandbox, hs, hnone⟩ := hrecorded
  have hopening : s.machine.state.kind = .opening := by
    by_contra hne
    exact hnone (recorded_of_kind hc.machine (by simp [hne, hclosing]) hs)
  have hprovisioning : sandbox.state = .provisioning := by
    have hin : sandbox.state ∈ s.machine.state.kind.sandboxStates := hc.machine.lifecycle sandbox hs
    simpa [hopening, SessionStateKind.sandboxStates] using hin
  obtain ⟨-, -, -, -, -, -, hi, -⟩ := hc.machine.launch_of_sandbox hs
  have hrecord := SandboxMachine.recordTargetNotCreated_eq_ok (u := ()).mpr
    ⟨hprovisioning, .inl (Option.not_isSome_iff_eq_none.mp hnone), rfl⟩
  have hrun : SessionMachine.recordSandboxTargetNotCreated s.machine = (.ok (), { s.machine with
      sandbox := some { sandbox with targetCreation := some .notCreated } }) := by
    have hi : s.machine.inheritedSandbox = none := hi
    have howned : SessionMachine.recordSandboxTargetNotCreated s.machine =
        SessionMachine.runSandbox sandbox SandboxMachine.recordTargetNotCreated s.machine := by
      simp only [SessionMachine.recordSandboxTargetNotCreated, look_bind_run, hs, hi]
    exact howned.trans (runSandbox_ok hrecord)
  refine .after .recordSandboxTargetNotCreated rfl (liftError_ok hrun) hc fun hc' => ?_
  exact canClose_of_open hc' hfree hkind hroom hnewer fun recorded hr => by
    obtain rfl := Option.some.inj hr
    rfl

/-! ### How sessions end -/

variable {reducerInstance : ℕ} {sessionId : SessionId} {provisioningEpoch : ProvisioningEpoch}
  {helperBuild : HelperBuildId} {es : List SessionEvent} {s : SessionSystem}

theorem tickets_ne_closed
    (run : Run Step (start reducerInstance sessionId provisioningEpoch helperBuild) es s) :
    ∀ e ∈ es, e.pre.Coherent ∧ Step e.pre e.input e.output e.post ∧
      ∀ ticket ∈ e.pre.issued, ticket.state.kind ≠ .closed :=
  (run.event_invariant
    (fun s => s.Coherent ∧ ∀ ticket ∈ s.issued, ticket.state.kind ≠ .closed)
    (fun e => e.pre.Coherent ∧ Step e.pre e.input e.output e.post ∧
      ∀ ticket ∈ e.pre.issued, ticket.state.kind ≠ .closed)
    ⟨coherent_start _ _ _ _, by simp [start]⟩ fun s i o s' h hstep => by
      obtain ⟨hc, hmove, -, hissued⟩ := coherent_step h.1 hstep
      refine ⟨⟨hc, fun ticket hin => ?_⟩, h.1, hstep, h.2⟩
      rw [hissued] at hin
      rcases List.mem_append.mp hin with hold | hnew
      · exact h.2 ticket hold
      · obtain ⟨-, -, hsame, -, -, -, -, hopen⟩ := move_ticket hmove hnew
        have hstate : ticket.state = s.machine.state := congrArg VisibleState.state hsame
        exact hstate ▸ hopen).2

/-- CORRECT (cleanup before closed): a session that owns a sandbox becomes closed only by
    `completeClose` with a receipt of its exact and complete cleanup; and from a state of a run
    with no command pending and generations left, closed can be reached unless the state is
    stranded. -/
theorem closes_exactly_unless_stranded
    (run : Run Step (start reducerInstance sessionId provisioningEpoch helperBuild) es s) :
    (∀ e ∈ es, e.pre.machine.requiresCleanupReceipt = true →
      e.pre.machine.state.kind ≠ .closed → e.post.machine.state.kind = .closed →
      ∃ receipt answer, e.input = .completeClose (some receipt) ∧ e.output = .ok answer ∧
        ExactCleanup e.pre.machine receipt) ∧
    (s.machine.pendingRemoteCommand = none → s.machine.state.generation + 4 ≤ u64Max →
      ((∃ es' s', Run Step s es' s' ∧ s'.machine.state.kind = .closed) ↔
        ¬ Stranded s.machine)) := by
  refine ⟨?_, fun hfree hroom => ⟨?_, canClose_of_not_stranded (run_moves run).1 hfree
    (by omega)⟩⟩
  · rintro ⟨pre, operation, result, post⟩ he howns hopen hclosed
    obtain ⟨hc, hstep, htickets⟩ := tickets_ne_closed run _ he
    obtain ⟨-, hmove, -⟩ := coherent_step hc hstep
    obtain ⟨receipt, sandbox, rfl, hreleased, answer, rfl⟩ := released_of_move hmove hopen
      (fun checkpoint hpresents hresolves =>
        htickets checkpoint (hstep.2 checkpoint hpresents hresolves.reducer.symm)) hclosed
    obtain ⟨exact_receipt, rfl, hexact⟩ := exactCleanup_of_released hc.machine hreleased howns
    exact ⟨exact_receipt, answer, rfl, rfl, hexact⟩
  · rintro ⟨es', s', run', hclosed⟩ hstranded
    exact stranded_run (run_moves run).1 hfree hstranded run' hclosed

end Closing

/-- A sandbox every provider check accepts. -/
def samplePolicy : SandboxPolicy where
  sessionId := sampleSession
  policyApproval := ⟨sampleSession, ⟨"approval", by decide⟩⟩
  provider := .localAppContainer
  requiredBoundary := .userMode
  requiredGuarantees := {.fileSystemRedirection, .registryRedirection, .rollbackOnClose,
    .networkDisabled, .resourceLimits, .childProcessControl, .processMitigations,
    .jobAssignmentAtCreation}
  network := .disabled
  resources := ⟨64 * 1024 * 1024, 64 * 1024 * 1024, 4, 5000, 60000⟩
  processMitigations := .strictV1
  childProcesses := .deny
  dynamicCode := .prohibit
  win32k := .disable
  rollbackOnClose := true
  vmIdentity := none

/-- Launch the sample binary in the sample sandbox. -/
def sampleLaunch : SessionOperation := .acceptCommand (sampleEnvelope 1 1 (.open (.launch
  ⟨sampleProcess.binaryId, ⟨["sample.exe"]⟩, [], none, .sandboxed samplePolicy, true⟩)))

/-- Close the launch of the sample binary while it opens. -/
def sampleClose : SessionOperation :=
  .acceptCommand (sampleEnvelope 2 2 (.close ⟨sampleSession, 2⟩))

/-- A launch that creates no target and is cleaned up. -/
def sampleCleanup : List SessionOperation :=
  [sampleLaunch, .recordSandboxTargetNotCreated, sampleClose,
    .completeClose (some (cleanReceipt sampleSession sampleStart.machine.provisioningEpoch
      .localAppContainer
      ⟨"0000000000000000000000000000000000000000000000000000000000000000", by decide⟩
      none .userMode))]

theorem closes_exactly_unless_stranded_sampleCleanup :
    (execute (@call sampleHash) sampleStart sampleCleanup).1.map
      (fun e => (e.pre.machine.requiresCleanupReceipt, e.post.machine.state.kind)) =
      [(false, .opening), (true, .opening), (true, .closing), (true, .closed)] ∧
    (∀ e ∈ (execute (@call sampleHash) sampleStart sampleCleanup).1,
      e.pre.machine.requiresCleanupReceipt = true → e.pre.machine.state.kind ≠ .closed →
      e.post.machine.state.kind = .closed →
      ∃ receipt answer, e.input = .completeClose (some receipt) ∧ e.output = .ok answer ∧
        ExactCleanup e.pre.machine receipt) ∧
    ((∃ es' s', Run (@Step sampleHash)
        (execute (@call sampleHash) sampleStart sampleCleanup).2 es' s' ∧
        s'.machine.state.kind = .closed) ↔
      ¬ Stranded (execute (@call sampleHash) sampleStart sampleCleanup).2.machine) := by
  have h := @closes_exactly_unless_stranded sampleHash _ _ _ _ _ _
    (@run_calls sampleHash sampleStart sampleCleanup (by decide))
  exact ⟨by decide, h.1, h.2 (by decide) (by decide)⟩

/-- A launch that is closed before anything is recorded about its target has no command pending and
    nearly all generations left, and no run closes it any more. -/
theorem unrecorded_launch_never_closes :
    ∃ es s, Run (@Step sampleHash) sampleStart es s ∧ s.machine.pendingRemoteCommand = none ∧
      s.machine.state.generation + 4 ≤ u64Max ∧
      ∀ es' s', Run (@Step sampleHash) s es' s' → s'.machine.state.kind ≠ .closed := by
  have run := @run_calls sampleHash sampleStart [sampleLaunch, sampleClose] (by decide)
  refine ⟨_, _, run, by decide, by decide, fun es' s' run' => ?_⟩
  exact @stranded_run sampleHash _ _ _ (@run_moves sampleHash _ _ _ _ _ _ run).1 (by decide)
    (.inl ⟨by decide, _, by rfl, by rfl⟩) run'

end ReSymbol.Debugger.SessionSystem
