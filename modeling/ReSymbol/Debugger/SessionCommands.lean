import ReSymbol.Debugger.SessionOutcomes

/-! Accepting a command.

    A well-formed command uses up its id, then the state has to admit it, then its effect follows.
    A refusal on the way keeps the id and, for an open, the slot of the lease it presented; the
    rest of the machine is as before. An accepted command is one effect on the machine that has
    already recorded the id.

        validate ──▶ observe id ──▶ admitted by the state ──▶ effect
           │             │                  │                   │
           ▼             ▼                  ▼                   ▼
        nothing       nothing            id kept        id, watermark, slot kept -/

namespace ReSymbol.Debugger
open Schemes Schemes.Reducer

section Commands

variable [Sha256] {m m' : SessionMachine}

/-! ### Opening a target -/

/-- At most lease slots were taken. -/
structure LeasesTaken (presented : PresentedLeases) (m m' : SessionMachine) : Prop where
  same : m' = { m with
    hostRiskLeases := m'.hostRiskLeases
    sandboxOwnershipLeases := m'.sandboxOwnershipLeases }
  hostRisk : SlotTaken m.hostRiskLeases m'.hostRiskLeases presented.hostRisk
  ownership : SlotTaken m.sandboxOwnershipLeases m'.sandboxOwnershipLeases presented.ownership

omit [Sha256] in
theorem LeasesTaken.refl (presented : PresentedLeases) (m : SessionMachine) :
    LeasesTaken presented m m := ⟨rfl, .inl rfl, .inl rfl⟩

omit [Sha256] in
theorem LeasesTaken.kept {presented : PresentedLeases} (h : LeasesTaken presented m m') :
    Kept presented m m' := by
  obtain ⟨hostRisk, ownership, rfl⟩ : ∃ hostRisk ownership, m' = { m with
      hostRiskLeases := hostRisk, sandboxOwnershipLeases := ownership } := ⟨_, _, h.same⟩
  exact ⟨rfl, .inl rfl, le_refl _, le_refl _, h.hostRisk, h.ownership⟩

omit [Sha256] in
/-- The presented slot is emptied before the verifier is compared, so a mismatch keeps it empty. -/
theorem consumeHostRiskLease_run (id : HostRiskLeaseId) (expected : HostRiskOperation)
    (ownership : Option SandboxOwnershipLeaseId) :
    ∃ outcome m', SessionMachine.consumeHostRiskLease id expected m = (outcome, m') ∧
      LeasesTaken ⟨some id, ownership⟩ m m' ∧ (outcome = .ok () → ∃ verifier,
        m.hostRiskLeases[id]? = some (some verifier) ∧ verifier.sessionId = m.sessionId ∧
        verifier.provisioningEpoch = m.provisioningEpoch ∧ verifier.operation = expected) := by
  simp only [SessionMachine.consumeHostRiskLease, look_bind_run]
  cases hslot : m.hostRiskLeases[id]?.join with
  | none => exact ⟨_, m, rfl, .refl _ _, by simp⟩
  | some verifier =>
    have havailable := Option.join_eq_some_iff.mp hslot
    have htaken : LeasesTaken ⟨some id, ownership⟩ m
        { m with hostRiskLeases := m.hostRiskLeases.insert id none } :=
      ⟨rfl, .inr ⟨id, verifier, rfl, havailable, rfl⟩, .inl rfl⟩
    refine ⟨_, _, rfl, ?_, fun hok => ?_⟩
    · show LeasesTaken _ m (refuse _ _ { m with
        hostRiskLeases := m.hostRiskLeases.insert id none }).2
      rw [readOnly_refuse]
      exact htaken
    · have hfields : ¬ (verifier.sessionId ≠ m.sessionId ∨
          verifier.provisioningEpoch ≠ m.provisioningEpoch ∨ verifier.operation ≠ expected) := by
        intro hne
        change (refuse _ _ { m with hostRiskLeases := m.hostRiskLeases.insert id none }).1 =
          _ at hok
        simp [refuse, hne] at hok
      simp only [not_or, ne_eq, not_not] at hfields
      exact ⟨verifier, havailable, hfields.1, hfields.2.1, hfields.2.2⟩

omit [Sha256] in
theorem consumeSandboxOwnershipLease_run (id : SandboxOwnershipLeaseId)
    (process : ProcessIdentity) (mode : AttachMode) (hostRisk : Option HostRiskLeaseId) :
    ∃ outcome m', SessionMachine.consumeSandboxOwnershipLease id process mode m = (outcome, m') ∧
      LeasesTaken ⟨hostRisk, some id⟩ m m' ∧ ∀ binding, outcome = .ok binding → ∃ verifier,
        m.sandboxOwnershipLeases[id]? = some (some verifier) ∧ verifier.binding = binding ∧
        binding.sessionId = m.sessionId ∧ binding.provisioningEpoch = m.provisioningEpoch ∧
        binding.process = process ∧ binding.mode = mode := by
  simp only [SessionMachine.consumeSandboxOwnershipLease, look_bind_run]
  cases hslot : m.sandboxOwnershipLeases[id]?.join with
  | none => exact ⟨_, m, rfl, .refl _ _, by simp⟩
  | some verifier =>
    have havailable := Option.join_eq_some_iff.mp hslot
    set m₁ : SessionMachine :=
      { m with sandboxOwnershipLeases := m.sandboxOwnershipLeases.insert id none }
    have htaken : LeasesTaken ⟨hostRisk, some id⟩ m m₁ :=
      ⟨rfl, .inl rfl, .inr ⟨id, verifier, rfl, havailable, rfl⟩⟩
    by_cases hne : verifier.binding.sessionId ≠ m.sessionId ∨
        verifier.binding.provisioningEpoch ≠ m.provisioningEpoch ∨
        verifier.binding.process ≠ process ∨ verifier.binding.mode ≠ mode
    · refine ⟨.error .sandboxOwnershipLeaseMismatch, m₁, ?_, htaken, by simp⟩
      show (refuse _ _ >>= fun _ => pure _ : SessionReducer _) m₁ = _
      rw [refuse_bind_run, if_pos hne]
    · refine ⟨.ok verifier.binding, m₁, ?_, htaken, ?_⟩
      · show (refuse _ _ >>= fun _ => pure _ : SessionReducer _) m₁ = _
        rw [refuse_bind_run, if_neg hne]
        rfl
      · rintro binding hok
        obtain rfl := Except.ok.inj hok
        simp only [not_or, ne_eq, not_not] at hne
        exact ⟨verifier, havailable, rfl, hne⟩

omit [Sha256] in
/-- Reading a host launch as an intent asks for exactly the operation the target presents. -/
theorem hostRiskOperation_of_fromTarget {launch : LaunchTarget} {riskLease : HostRiskLeaseId}
    {intent : HostLaunchIntent} (henv : launch.environment = .host riskLease)
    (h : HostLaunchIntent.fromTarget launch = .ok intent) :
    (DebugTargetRequest.launch launch).hostRiskOperation = some (riskLease, .launch intent) := by
  simp only [HostLaunchIntent.fromTarget, henv] at h
  obtain rfl := Except.ok.inj h
  simp [DebugTargetRequest.hostRiskOperation, henv]

/-- Provisioning takes at most the presented slot, and answers only with granted authority. -/
theorem provision_run (target : DebugTargetRequest) :
    ∃ outcome m', SessionMachine.provision target m = (outcome, m') ∧
      LeasesTaken target.presentedLeases m m' ∧
      ∀ sandbox gate inherited, outcome = .ok (sandbox, gate, inherited) →
        Granted m target gate sandbox inherited := by
  simp only [SessionMachine.provision, look_bind_run]
  cases target with
  | dump path => exact ⟨_, m, rfl, .refl _ _, by rintro _ _ _ h; cases h; exact .dump⟩
  | offline path => exact ⟨_, m, rfl, .refl _ _, by rintro _ _ _ h; cases h; exact .offline⟩
  | attach attach =>
    obtain ⟨scope, mode⟩ := attach
    cases scope with
    | host process riskLease =>
      obtain ⟨outcome, m', hrun, htaken, hgrant⟩ :=
        consumeHostRiskLease_run (m := m) riskLease (.attach process mode) none
      cases outcome with
      | error e => exact ⟨.error e, m', bind_of_error hrun, htaken, by simp⟩
      | ok u =>
        refine ⟨_, m', bind_of_ok hrun, htaken, ?_⟩
        rintro _ _ _ h
        cases h
        obtain ⟨verifier, h1, h2, h3, h4⟩ := hgrant rfl
        exact .hostRisk rfl h1 h2 h3 h4
    | ownedSandbox process ownershipLease =>
      obtain ⟨outcome, m', hrun, htaken, hgrant⟩ :=
        consumeSandboxOwnershipLease_run (m := m) ownershipLease process mode none
      cases outcome with
      | error e => exact ⟨.error e, m', bind_of_error hrun, htaken, by simp⟩
      | ok binding =>
        refine ⟨_, m', bind_of_ok hrun, htaken, ?_⟩
        rintro _ _ _ h
        cases h
        obtain ⟨verifier, h1, rfl, h2, h3, h4, h5⟩ := hgrant binding rfl
        exact .ownedSandbox h1 h2 h3 h4 h5
  | launch launch =>
    cases henv : launch.environment with
    | host riskLease =>
      simp only [henv]
      cases hintent : HostLaunchIntent.fromTarget launch with
      | error e => exact ⟨_, m, rfl, .refl _ _, by rintro _ _ _ h; cases h⟩
      | ok intent =>
        obtain ⟨outcome, m', hrun, htaken, hgrant⟩ :=
          consumeHostRiskLease_run (m := m) riskLease (.launch intent) none
        have hrequest := hostRiskOperation_of_fromTarget henv hintent
        have hleases : (DebugTargetRequest.launch launch).presentedLeases =
            ⟨some riskLease, none⟩ := by
          simp [DebugTargetRequest.presentedLeases, hrequest, DebugTargetRequest.ownershipLease]
        rw [hleases]
        cases outcome with
        | error e =>
          refine ⟨.error e, m', ?_, htaken, by simp⟩
          exact bind_of_error (x := SessionMachine.consumeHostRiskLease riskLease _) hrun
        | ok u =>
          refine ⟨.ok (none, .hostRiskAccepted, none), m', ?_, htaken, ?_⟩
          · exact bind_of_ok (x := SessionMachine.consumeHostRiskLease riskLease _) hrun
          · rintro _ _ _ h
            cases h
            obtain ⟨verifier, h1, h2, h3, h4⟩ := hgrant rfl
            exact .hostRisk hrequest h1 h2 h3 h4
    | sandboxed policy =>
      simp only [henv]
      by_cases hsession : policy.sessionId = m.sessionId
      case neg =>
        have hrun : m.requireSession policy.sessionId = .error .sessionBindingMismatch :=
          if_neg hsession
        rw [hrun]
        exact ⟨_, m, rfl, .refl _ _, by rintro _ _ _ h; cases h⟩
      have hrun : m.requireSession policy.sessionId = .ok () := if_pos hsession
      rw [hrun]
      cases hexpected : ExpectedSandboxAttestation.fromPolicy launch.binaryId policy m.helperBuild
        m.provisioningEpoch with
      | error e => exact ⟨_, m, rfl, .refl _ _, by rintro _ _ _ h; cases h⟩
      | ok expected =>
        simp only [Except.mapError, lift_ok_bind_run]
        cases hnew : SandboxMachine.new expected with
        | error e => exact ⟨_, m, rfl, .refl _ _, by rintro _ _ _ h; cases h⟩
        | ok sandbox =>
          obtain rfl := SandboxMachine.new_eq_ok hnew
          refine ⟨.ok (some ⟨expected, .provisioning, none, none⟩, .sandboxPending, none), m, rfl,
            .refl _ _, ?_⟩
          rintro _ _ _ h
          cases h
          exact .sandboxed henv hsession hexpected

theorem acceptOpen_outcome (hc : m.visible.Coherent m.identity) (hidle : m.state.kind = .idle)
    (target : DebugTargetRequest) :
    Outcome target.presentedLeases m (.command (.open target)) (fun _ => ())
      (SessionMachine.acceptOpen target m) := by
  obtain ⟨outcome, m', hrun, htaken, hgranted⟩ := provision_run (m := m) target
  cases outcome with
  | error e =>
    have hopen : SessionMachine.acceptOpen target m = (.error e, m') := bind_of_error hrun
    rw [hopen]
    exact .refused e htaken.kept
  | ok answer =>
    obtain ⟨sandbox, gate, inherited⟩ := answer
    have hedge : SessionStateKind.opening ∈ m.state.kind.successors := by
      rw [hidle]
      decide
    obtain ⟨hostRisk, ownership, rfl⟩ : ∃ hostRisk ownership, m' = { m with
        hostRiskLeases := hostRisk, sandboxOwnershipLeases := ownership } := ⟨_, _, htaken.same⟩
    rw [SessionMachine.acceptOpen, bind_of_ok hrun]
    refine .lift_bind htaken.kept fun token htoken => ?_
    have hfollows : m.state.Follows (.opening token target) :=
      follows_of_token hc htoken rfl rfl hedge
    exact .transition_unit hfollows (.opened hidle (hgranted _ _ _ rfl) hfollows)

/-! ### Commands over an open target -/

theorem resume_outcome (hc : m.visible.Coherent m.identity) (hstopped : m.state.kind = .stopped)
    {command : DebugCommand} (hasks : command.request = .resume) :
    Outcome command.presentedLeases m (.command command) (fun _ => ()) ((do
      lift m.ensureExecutionAllowed
      let next ← lift m.nextStateToken
      let run ← SessionMachine.allocateRunToken next
      SessionMachine.onSandbox SandboxMachine.markRunning
      SessionMachine.transitionTo (.running run) : SessionReducer Unit) m) := by
  have hkept := Kept.refl command.presentedLeases m
  refine .lift_bind hkept fun _ hgate => .lift_bind hkept fun token htoken =>
    .allocateRun_bind fun run hrun hid => ?_
  have hedge : SessionStateKind.running ∈ m.state.kind.successors := by
    rw [hstopped]
    decide
  have hfollows : m.state.Follows (.running run) := follows_of_token hc htoken hrun rfl hedge
  -- a stopped session owns only an attested sandbox, which may run
  have hmark : ∀ sandbox, m.sandbox = some sandbox →
      ∃ a, SandboxMachine.markRunning sandbox = (.ok a, sandbox.at .running) := by
    intro sandbox hs
    have hsource : m.visible.state.kind ∈
        [SessionStateKind.attestationAccepted, .stopped, .running, .pausing] := by
      simp [SessionMachine.visible, hstopped]
    have hstate := hc.lifecycle sandbox hs
    simp only [SessionMachine.visible, hstopped, SessionStateKind.sandboxStates, List.mem_cons,
      List.not_mem_nil, or_false] at hstate
    exact ⟨.running, SandboxMachine.markRunning_eq_ok.mpr
      ⟨(hc.accepted_of_execution hsource hs).1, hstate, rfl, rfl⟩⟩
  rw [bind_of_ok (onSandbox_run (m := { m with lastRunId := m.lastRunId + 1 }) hmark)]
  exact .transition_unit hfollows (.resumed hasks hstopped hgate hid hfollows)

theorem refreshStoppedToken_outcome (hc : m.visible.Coherent m.identity) {old : StopToken}
    {reason : StopReason} {threadId : ThreadId} (hstate : m.state = .stopped old reason threadId)
    {command : DebugCommand} (hasks : command.request = .refresh) :
    Outcome command.presentedLeases m (.command command) (fun _ => ())
      (SessionMachine.refreshStoppedToken m) := by
  simp only [SessionMachine.refreshStoppedToken, look_bind_run, hstate]
  refine .lift_bind (.refl _ m) fun token htoken => .allocateStop_bind fun stop hstop hid => ?_
  have hedge : SessionStateKind.stopped ∈ m.state.kind.successors := by
    rw [hstate]
    exact List.mem_cons_self
  have hfollows : m.state.Follows (.stopped stop reason threadId) :=
    follows_of_token hc htoken hstop rfl hedge
  exact .transition_unit hfollows (.refreshed hasks hstate hid hfollows)

omit [Sha256] in
theorem transitionTo_refused {next : SessionState} (h : next.kind ∉ m.state.kind.successors) :
    ∃ e, SessionMachine.transitionTo next m = (.error e, m) := by
  cases hv : m.state.validateSuccessor next with
  | ok u => exact absurd (SessionState.validateSuccessor_eq_ok.mp hv).edge h
  | error e =>
    refine ⟨.protocol e, ?_⟩
    simp only [SessionMachine.transitionTo, look_bind_run, hv]
    rfl

/-- Closing a session that is already closing finds its sandbox in cleanup and is refused without
    a trace. -/
theorem close_outcome (hc : m.visible.Coherent m.identity) (hopen : m.state.kind ≠ .closed)
    {command : DebugCommand} (hasks : command.request = .close) :
    Outcome command.presentedLeases m (.command command) (fun _ => ()) ((do
      let next ← lift m.nextStateToken
      SessionMachine.onSandbox SandboxMachine.beginCleanup
      SessionMachine.transitionTo (.closing next) : SessionReducer Unit) m) := by
  have hkept := Kept.refl command.presentedLeases m
  refine .lift_bind hkept fun token htoken => ?_
  rw [bind_of_ok (onSandbox_beginCleanup hc hopen)]
  by_cases hedge : SessionStateKind.closing ∈ m.state.kind.successors
  · have hfollows : m.state.Follows (.closing token) := follows_of_token hc htoken rfl rfl hedge
    exact .transition_unit hfollows (.closing hasks hfollows)
  · have hclosing : m.state.kind = .closing := by
      revert hedge hopen
      cases m.state.kind <;> decide
    have hsame : m.sandbox.map (·.at .cleanup) = m.sandbox := by
      cases hs : m.sandbox with
      | none => rfl
      | some sandbox =>
        have hin := hc.lifecycle sandbox hs
        simp only [SessionMachine.visible, hclosing, SessionStateKind.sandboxStates,
          List.mem_singleton] at hin
        simp [SandboxMachine.at, ← hin]
    rw [hsame]
    obtain ⟨e, he⟩ : ∃ e, SessionMachine.transitionTo (.closing token) m = (.error e, m) :=
      transitionTo_refused hedge
    exact he ▸ .refused e hkept

omit [Sha256] in
/-- The commands that need a stopped target are admitted only on its exact token. -/
theorem stopped_of_allowed {command : DebugCommand} {stop : StopToken}
    (hadmitted : CommandEnvelope.allowed command m.state = true)
    (hcommand : match command with
      | .continue s | .step s _ _ | .writeMemory s _ _ _ | .writeRegisters s _ _
      | .setBreakpoint s _ _ | .removeBreakpoint s _ => s = stop
      | _ => False) :
    ∃ reason threadId, m.state = .stopped stop reason threadId := by
  cases command <;> simp only at hcommand <;> subst hcommand <;> cases hstate : m.state <;>
    simp [CommandEnvelope.allowed, hstate] at hadmitted
  all_goals exact ⟨_, _, by rw [hadmitted]⟩

omit [Sha256] in
theorem kind_of_matchesReadView {state : SessionState} {view : ReadViewToken}
    (h : state.matchesReadView view = true) : state.kind ∈
      [SessionStateKind.offline, .dump, .snapshot, .observing, .stopped, .running] := by
  cases state <;> cases view <;> simp [SessionState.matchesReadView] at h <;>
    simp [SessionState.kind]

omit [Sha256] in
theorem kind_of_matchesLive {state : SessionState} {live : LiveToken}
    (h : state.matchesLive live = true) : state.kind ∈
      [SessionStateKind.offline, .dump, .snapshot, .observing, .stopped, .running] := by
  cases state <;> cases live <;> simp [SessionState.matchesLive] at h <;>
    simp [SessionState.kind]

/-- Every admitted command is refused with little kept, or has one effect. -/
theorem applyCommand_outcome (hc : m.visible.Coherent m.identity) {command : DebugCommand}
    (hadmitted : CommandEnvelope.allowed command m.state = true) :
    Outcome command.presentedLeases m (.command command) (fun _ => ())
      (SessionMachine.applyCommand command m) := by
  have hkept := Kept.refl command.presentedLeases m
  simp only [SessionMachine.applyCommand, look_bind_run]
  cases command with
  | probeCapabilities => simp [CommandEnvelope.allowed] at hadmitted
  | «open» target =>
    have hidle : m.state.kind = .idle := by
      cases hstate : m.state <;> simp [CommandEnvelope.allowed, hstate] at hadmitted
      rfl
    exact acceptOpen_outcome hc hidle target
  | «continue» stop =>
    obtain ⟨_, _, hstate⟩ := stopped_of_allowed hadmitted rfl
    exact resume_outcome hc (by rw [hstate]; rfl) rfl
  | step stop threadId kind =>
    obtain ⟨_, _, hstate⟩ := stopped_of_allowed hadmitted rfl
    exact resume_outcome hc (by rw [hstate]; rfl) rfl
  | pause run =>
    refine .lift_bind hkept fun token htoken => ?_
    have hrunning : m.state.kind = .running := by
      cases hstate : m.state <;> simp [CommandEnvelope.allowed, hstate] at hadmitted
      rfl
    have hedge : SessionStateKind.pausing ∈ m.state.kind.successors := by
      rw [hrunning]
      decide
    have hfollows : m.state.Follows (.pausing token) := follows_of_token hc htoken rfl rfl hedge
    exact .transition_unit hfollows (.paused rfl hrunning hfollows)
  | readMemory view address size => exact .done (.read rfl (kind_of_matchesReadView hadmitted))
  | readRegisters view threadId => exact .done (.read rfl (kind_of_matchesReadView hadmitted))
  | captureSnapshot live => exact .done (.read rfl (kind_of_matchesLive hadmitted))
  | writeMemory stop address expected replacement =>
    obtain ⟨_, _, hstate⟩ := stopped_of_allowed hadmitted rfl
    exact refreshStoppedToken_outcome hc hstate rfl
  | writeRegisters stop threadId registers =>
    obtain ⟨_, _, hstate⟩ := stopped_of_allowed hadmitted rfl
    exact refreshStoppedToken_outcome hc hstate rfl
  | setBreakpoint stop breakpoint persistence =>
    obtain ⟨_, _, hstate⟩ := stopped_of_allowed hadmitted rfl
    exact refreshStoppedToken_outcome hc hstate rfl
  | removeBreakpoint stop breakpointId =>
    obtain ⟨_, _, hstate⟩ := stopped_of_allowed hadmitted rfl
    exact refreshStoppedToken_outcome hc hstate rfl
  | detach live =>
    refine .refuse_bind hkept fun hgate => .lift_bind hkept fun token htoken => ?_
    have hedge : SessionStateKind.detached ∈ m.state.kind.successors := by
      cases hstate : m.state <;> cases live <;>
        simp [CommandEnvelope.allowed, SessionState.matchesLive, hstate] at hadmitted <;>
        simp [SessionState.kind, SessionStateKind.successors]
    have hfollows : m.state.Follows (.detached token) := follows_of_token hc htoken rfl rfl hedge
    exact .transition_unit hfollows (.detached rfl hgate hfollows)
  | terminate execution =>
    refine close_outcome hc ?_ rfl
    cases hstate : m.state <;> cases execution <;>
      simp [CommandEnvelope.allowed, SessionState.matchesExecution, hstate] at hadmitted <;>
      simp [SessionState.kind]
  | close state => exact close_outcome hc (by simpa [CommandEnvelope.allowed] using hadmitted) rfl

/-! ### Accepting a command -/

/-- The machine once the id of a command is used up. -/
def SessionMachine.observed (m : SessionMachine) (commandId : CommandId) : SessionMachine :=
  { m with lastCommandId := some commandId }

omit [Sha256] in
theorem observeCommandId_of_newer {commandId : CommandId}
    (newer : NewerCommand m.lastCommandId commandId) :
    SessionMachine.observeCommandId commandId m = (.ok (), m.observed commandId) := by
  simp only [SessionMachine.observeCommandId, look_bind_run]
  cases hlast : m.lastCommandId with
  | none => rfl
  | some last =>
    have hlt := newer last hlast
    show (refuse _ _ >>= _ : SessionReducer Unit) m = _
    rw [refuse_bind_run, if_neg (by omega)]
    rfl

omit [Sha256] in
theorem observeCommandId_run (commandId : CommandId) :
    (∃ e, SessionMachine.observeCommandId commandId m = (.error e, m)) ∨
      NewerCommand m.lastCommandId commandId ∧
        SessionMachine.observeCommandId commandId m = (.ok (), m.observed commandId) := by
  by_cases hnewer : NewerCommand m.lastCommandId commandId
  · exact .inr ⟨hnewer, observeCommandId_of_newer hnewer⟩
  · simp only [NewerCommand, not_forall, not_lt] at hnewer
    obtain ⟨last, hlast, hle⟩ := hnewer
    refine .inl ⟨.nonMonotonicCommandId last commandId, ?_⟩
    simp only [SessionMachine.observeCommandId, look_bind_run, hlast]
    rw [refuse_bind_run, if_pos hle]

omit [Sha256] in
/-- What a refusal keeps after the id was used up. -/
theorem Kept.of_observed {presented : PresentedLeases} {commandId : CommandId}
    (newer : NewerCommand m.lastCommandId commandId)
    (h : Kept presented (m.observed commandId) m') : Kept presented m m' := by
  refine ⟨h.same, .inr ?_, h.stop, h.run, h.hostRisk, h.ownership⟩
  rcases h.command with heq | ⟨later, heq, hlater⟩
  · exact ⟨commandId, heq, newer⟩
  · exact ⟨later, heq, fun previous hp => (newer previous hp).trans (hlater commandId rfl)⟩

omit [Sha256] in
theorem allowed_of_validateAgainst {envelope : CommandEnvelope} {state : SessionState} {u : Unit}
    (hcommand : envelope.command ≠ .probeCapabilities)
    (h : envelope.validateAgainst state = .ok u) :
    CommandEnvelope.allowed envelope.command state = true := by
  by_contra hne
  unfold CommandEnvelope.validateAgainst at h
  obtain ⟨_, -, h⟩ := except_bind_eq_ok.mp h
  rw [if_neg hcommand] at h
  by_cases hsession : envelope.sessionId ≠ some state.stateToken.sessionId
  · simp [hsession, bind, Except.bind] at h
  by_cases hstate : envelope.expectedState ≠ some state.stateToken
  · simp [hsession, hstate, bind, Except.bind] at h
  simp only [if_neg hsession, if_neg hstate, if_neg hne] at h
  split at h
  · simp at h
  · split_ifs at h

theorem Outcome.report {presented : PresentedLeases} {action : SessionAction}
    {x : SessionReducer Unit} (h : Outcome presented m action (fun _ => ()) (x m)) :
    Outcome presented m action (·.state) ((x >>= fun _ => SessionMachine.reportState) m) := by
  rcases hx : x m with ⟨e | u, m'⟩ <;> rw [hx] at h
  · rw [bind_of_error hx]
    cases h with
    | refused _ kept => exact .refused e kept
  · rw [bind_of_ok hx]
    cases h with
    | done effect => exact .done effect

/-- A command its state admits is its effect on the machine that has recorded its id. -/
theorem acceptCommandInner_of_valid {envelope : CommandEnvelope}
    (hvalid : envelope.validate = .ok ()) (hnewer : NewerCommand m.lastCommandId envelope.commandId)
    (hprobe : envelope.command ≠ .probeCapabilities)
    (hadmitted : envelope.validateAgainst m.state = .ok ()) :
    SessionMachine.acceptCommandInner envelope m =
      (SessionMachine.applyCommand envelope.command >>= fun _ => SessionMachine.reportState)
        (m.observed envelope.commandId) := by
  simp only [SessionMachine.acceptCommandInner, hvalid, Except.mapError, lift_ok_bind_run]
  rw [bind_of_ok (observeCommandId_of_newer hnewer), refuse_bind_run, if_neg hprobe]
  simp only [look_bind_run, SessionMachine.observed, hadmitted, lift_ok_bind_run]

/-- Accepting a command is refused with little kept, or is one effect after its id. -/
theorem acceptCommandInner_run (hc : m.visible.Coherent m.identity) (envelope : CommandEnvelope) :
    (∃ e m', SessionMachine.acceptCommandInner envelope m = (.error e, m') ∧
        Kept envelope.command.presentedLeases m m') ∨
      ∃ m', SessionMachine.acceptCommandInner envelope m = (.ok m'.state, m') ∧
        NewerCommand m.lastCommandId envelope.commandId ∧
        Effect (m.observed envelope.commandId) (.command envelope.command) m' := by
  cases hvalid : envelope.validate with
  | error e =>
    refine .inl ⟨.protocol e, m, ?_, .refl _ m⟩
    simp only [SessionMachine.acceptCommandInner, hvalid]
    rfl
  | ok u =>
    simp only [SessionMachine.acceptCommandInner, hvalid, Except.mapError, lift_ok_bind_run]
    rcases observeCommandId_run (m := m) envelope.commandId with ⟨e, hrun⟩ | ⟨hnewer, hrun⟩
    · exact .inl ⟨e, m, bind_of_error hrun, .refl _ m⟩
    · rw [bind_of_ok hrun]
      have hkept := Kept.refl envelope.command.presentedLeases (m.observed envelope.commandId)
      have hout : Outcome envelope.command.presentedLeases (m.observed envelope.commandId)
          (.command envelope.command) (·.state) ((do
            refuse (envelope.command = .probeCapabilities) .globalCommand
            let m ← look
            lift ((envelope.validateAgainst m.state).mapError .protocol)
            SessionMachine.applyCommand envelope.command
            SessionMachine.reportState : SessionReducer SessionState)
            (m.observed envelope.commandId)) :=
        .refuse_bind hkept fun hprobe => .lift_bind hkept fun _ hadmitted =>
          .report (applyCommand_outcome (m := m.observed envelope.commandId) hc
            (allowed_of_validateAgainst hprobe (mapError_eq_ok.mp hadmitted)))
      rcases hresult : (do
            refuse (envelope.command = .probeCapabilities) .globalCommand
            let m ← look
            lift ((envelope.validateAgainst m.state).mapError .protocol)
            SessionMachine.applyCommand envelope.command
            SessionMachine.reportState : SessionReducer SessionState)
            (m.observed envelope.commandId) with ⟨outcome, m'⟩
      rw [hresult] at hout
      cases hout with
      | refused e kept => exact .inl ⟨e, m', hresult, .of_observed hnewer kept⟩
      | done effect => exact .inr ⟨m', hresult, hnewer, effect⟩

end Commands

end ReSymbol.Debugger
