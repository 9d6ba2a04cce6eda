import ReSymbol.Debugger.SessionSteps

/-! Every operation of the session reducer is refused with little kept, or has one effect.

    `Outcome` is that dichotomy for one run of a reducer. Its rules follow the reducers step by
    step: a check that fails ends in a refusal, a check that passes hands its fact on, and once the
    sandbox has been written to, coherence of the machine shows that the last transition is an edge
    of the state diagram. -/

namespace ReSymbol.Debugger
open Schemes Schemes.Reducer

section Outcomes

variable [Sha256]

/-- The result of a reducer started on `m`: refused, or the effect of `action`. -/
inductive Outcome (presented : PresentedLeases) (m : SessionMachine) (action : SessionAction)
    {α : Type} (answer : SessionMachine → α) : Except SessionMachineError α × SessionMachine → Prop
  | refused (e : SessionMachineError) {m' : SessionMachine} (kept : Kept presented m m') :
      Outcome presented m action answer (.error e, m')
  | done {m' : SessionMachine} (effect : Effect m action m') :
      Outcome presented m action answer (.ok (answer m'), m')

namespace Outcome

variable {presented : PresentedLeases} {m m₁ : SessionMachine} {action : SessionAction}
  {α β : Type} {answer : SessionMachine → β} {f : α → SessionReducer β}

/-- A check on the way. -/
theorem lift_bind (kept : Kept presented m m₁) {x : Except SessionMachineError α}
    (h : ∀ a, x = .ok a → Outcome presented m action answer (f a m₁)) :
    Outcome presented m action answer ((lift x >>= f) m₁) := by
  cases hx : x with
  | error e => exact .refused e kept
  | ok a => exact h a hx

theorem refuse_bind {f : Unit → SessionReducer β} (kept : Kept presented m m₁) {c : Prop}
    [Decidable c] {e : SessionMachineError}
    (h : ¬ c → Outcome presented m action answer (f () m₁)) :
    Outcome presented m action answer ((refuse c e >>= f) m₁) := by
  rw [refuse_bind_run]
  by_cases hc : c
  · rw [if_pos hc]
    exact .refused e kept
  · rw [if_neg hc]
    exact h hc

end Outcome

/-! ### Tokens and transitions -/

variable {presented : PresentedLeases} {m m₁ : SessionMachine} {action : SessionAction}

omit [Sha256] in
theorem nextStateToken_eq_ok {token : StateToken} (h : m.nextStateToken = .ok token) :
    token.sessionId = m.sessionId ∧ token.generation.val = m.state.generation + 1 := by
  unfold SessionMachine.nextStateToken StateGeneration.checkedNext at h
  by_cases hlt : m.state.stateToken.generation.val + 1 < 2 ^ 64
  · rw [dif_pos hlt] at h
    obtain rfl := Except.ok.inj h
    exact ⟨rfl, rfl⟩
  · rw [dif_neg hlt] at h
    simp at h

/-- A state that carries the next token follows along every edge of the diagram. -/
theorem follows_of_token (hc : m.visible.Coherent m.identity) {token : StateToken}
    (htoken : m.nextStateToken = .ok token) {next : SessionState} {kind : SessionStateKind}
    (hnext : next.stateToken = token) (hkind : next.kind = kind)
    (edge : kind ∈ m.state.kind.successors) : m.state.Follows next := by
  obtain ⟨hsession, hgeneration⟩ := nextStateToken_eq_ok htoken
  refine ⟨?_, ?_, hkind ▸ edge⟩
  · rw [hnext, hsession]
    exact hc.session.symm
  · rw [SessionState.generation, hnext, hgeneration]

omit [Sha256] in
theorem transitionTo_run {next : SessionState} (follows : m.state.Follows next) :
    SessionMachine.transitionTo next m = (.ok (), { m with state := next }) := by
  have h : (m.state.validateSuccessor next).mapError SessionMachineError.protocol = .ok () := by
    rw [SessionState.validateSuccessor_eq_ok.mpr follows]
    rfl
  simp only [SessionMachine.transitionTo, look_bind_run, h]
  rfl

/-- The last step of an operation: the transition and the report of the new state. -/
theorem Outcome.transition {next : SessionState} (follows : m₁.state.Follows next)
    (effect : Effect m action { m₁ with state := next }) :
    Outcome presented m action (·.state)
      ((SessionMachine.transitionTo next >>= fun _ => SessionMachine.reportState) m₁) := by
  rw [bind_of_ok (transitionTo_run follows)]
  exact .done effect

theorem Outcome.transition_unit {next : SessionState} (follows : m₁.state.Follows next)
    (effect : Effect m action { m₁ with state := next }) :
    Outcome presented m action (fun _ => ()) (SessionMachine.transitionTo next m₁) := by
  rw [transitionTo_run follows]
  exact .done effect

theorem Outcome.allocateStop_bind {β : Type} {answer : SessionMachine → β}
    {f : StopToken → SessionReducer β} {token : StateToken}
    (h : ∀ stop : StopToken, stop.state = token → stop.stopId.val = m.lastStopId + 1 →
      Outcome presented m action answer (f stop { m with lastStopId := m.lastStopId + 1 })) :
    Outcome presented m action answer ((SessionMachine.allocateStopToken token >>= f) m) := by
  by_cases hlt : m.lastStopId + 1 < 2 ^ 64
  · have hrun : SessionMachine.allocateStopToken token m =
        (.ok ⟨token, ⟨m.lastStopId + 1, by omega, hlt⟩⟩,
          { m with lastStopId := m.lastStopId + 1 }) := by
      simp only [SessionMachine.allocateStopToken, look_bind_run, dif_pos hlt]
      rfl
    rw [bind_of_ok hrun]
    exact h _ rfl rfl
  · have hrun : SessionMachine.allocateStopToken token m = (.error .stopIdOverflow, m) := by
      simp only [SessionMachine.allocateStopToken, look_bind_run, dif_neg hlt]
      rfl
    rw [bind_of_error hrun]
    exact .refused _ (.refl _ _)

theorem Outcome.allocateRun_bind {β : Type} {answer : SessionMachine → β}
    {f : RunToken → SessionReducer β} {token : StateToken}
    (h : ∀ run : RunToken, run.state = token → run.runId.val = m.lastRunId + 1 →
      Outcome presented m action answer (f run { m with lastRunId := m.lastRunId + 1 })) :
    Outcome presented m action answer ((SessionMachine.allocateRunToken token >>= f) m) := by
  by_cases hlt : m.lastRunId + 1 < 2 ^ 64
  · have hrun : SessionMachine.allocateRunToken token m =
        (.ok ⟨token, ⟨m.lastRunId + 1, by omega, hlt⟩⟩,
          { m with lastRunId := m.lastRunId + 1 }) := by
      simp only [SessionMachine.allocateRunToken, look_bind_run, dif_pos hlt]
      rfl
    rw [bind_of_ok hrun]
    exact h _ rfl rfl
  · have hrun : SessionMachine.allocateRunToken token m = (.error .runIdOverflow, m) := by
      simp only [SessionMachine.allocateRunToken, look_bind_run, dif_neg hlt]
      rfl
    rw [bind_of_error hrun]
    exact .refused _ (.refl _ _)

/-! ### Running the owned sandbox -/

omit [Sha256] in
theorem runSandbox_ok {α : Type} {x : SandboxReducer α} {sandbox sandbox' : SandboxMachine}
    {a : α} (h : x sandbox = (.ok a, sandbox')) :
    SessionMachine.runSandbox sandbox x m = (.ok a, { m with sandbox := some sandbox' }) := by
  simp only [SessionMachine.runSandbox, within, h]

omit [Sha256] in
/-- A refused operation of the owned sandbox leaves the session as it was. -/
theorem runSandbox_error {α : Type} {x : SandboxReducer α} {sandbox : SandboxMachine}
    {e : SandboxMachineError} (owns : m.sandbox = some sandbox)
    (h : x sandbox = (.error e, sandbox)) :
    SessionMachine.runSandbox sandbox x m = (.error (.sandbox e), m) := by
  have hsame : ({ m with sandbox := some sandbox } : SessionMachine) = m := by rw [← owns]
  simp only [SessionMachine.runSandbox, within, h, hsame]

omit [Sha256] in
/-- An operation that moves every owned sandbox to one lifecycle state. -/
theorem onSandbox_run {α : Type} {x : SandboxReducer α} {state : SandboxLifecycleState}
    (h : ∀ sandbox, m.sandbox = some sandbox → ∃ a, x sandbox = (.ok a, sandbox.at state)) :
    SessionMachine.onSandbox x m =
      (.ok (), { m with sandbox := m.sandbox.map (·.at state) }) := by
  cases hs : m.sandbox with
  | none =>
    have hsame : ({ m with sandbox := none } : SessionMachine) = m := by rw [← hs]
    simp only [SessionMachine.onSandbox, look_bind_run, hs, Option.map_none, hsame]
    rfl
  | some sandbox =>
    obtain ⟨a, ha⟩ := h sandbox hs
    simp only [SessionMachine.onSandbox, look_bind_run, hs]
    rw [bind_of_ok (runSandbox_ok ha)]
    rfl

omit [Sha256] in
theorem onSandbox_error {α : Type} {x : SandboxReducer α} {sandbox : SandboxMachine}
    {e : SandboxMachineError} (owns : m.sandbox = some sandbox)
    (h : x sandbox = (.error e, sandbox)) :
    SessionMachine.onSandbox x m = (.error (.sandbox e), m) := by
  simp only [SessionMachine.onSandbox, look_bind_run, owns]
  rw [bind_of_error (runSandbox_error owns h)]

/-- On a session that is not closed every owned sandbox can go to cleanup. -/
theorem onSandbox_beginCleanup (hc : m.visible.Coherent m.identity)
    (hopen : m.state.kind ≠ .closed) :
    SessionMachine.onSandbox SandboxMachine.beginCleanup m =
      (.ok (), { m with sandbox := m.sandbox.map (·.at .cleanup) }) :=
  onSandbox_run fun _ hs => ⟨_, SandboxMachine.beginCleanup_run (hc.sandbox_ne_closed hopen hs)⟩

/-- An atomic operation of the owned sandbox, which has to exist. -/
theorem Outcome.onPendingSandbox_bind {α β : Type} {answer : SessionMachine → β}
    {x : SandboxReducer α} {f : Unit → SessionReducer β} (atomic : Atomic x)
    (h : ∀ sandbox a sandbox', m.sandbox = some sandbox → x sandbox = (.ok a, sandbox') →
      Outcome presented m action answer (f () { m with sandbox := some sandbox' })) :
    Outcome presented m action answer ((SessionMachine.onPendingSandbox x >>= f) m) := by
  cases howns : m.sandbox with
  | none =>
    have hrun : SessionMachine.onPendingSandbox x m = (.error .sandboxNotPending, m) := by
      simp only [SessionMachine.onPendingSandbox, look_bind_run, howns]
      rfl
    rw [bind_of_error hrun]
    exact .refused _ (.refl _ _)
  | some sandbox =>
    rcases hx : x sandbox with ⟨e | a, sandbox'⟩
    · obtain rfl := atomic _ _ _ hx
      have hrun : SessionMachine.onPendingSandbox x m = (.error (.sandbox e), m) := by
        simp only [SessionMachine.onPendingSandbox, look_bind_run, howns]
        show (SessionMachine.runSandbox sandbox' x >>= fun _ => pure ()) m = _
        rw [bind_of_error (runSandbox_error howns hx)]
      rw [bind_of_error hrun]
      exact .refused _ (.refl _ _)
    · have hrun : SessionMachine.onPendingSandbox x m =
          (.ok (), { m with sandbox := some sandbox' }) := by
        simp only [SessionMachine.onPendingSandbox, look_bind_run, howns]
        show (SessionMachine.runSandbox sandbox x >>= fun _ => pure ()) m = _
        rw [bind_of_ok (runSandbox_ok hx)]
        rfl
      rw [bind_of_ok hrun]
      exact h sandbox a sandbox' howns hx

/-! ### Observations of the target -/

omit [Sha256] in
theorem kind_of_requireState {action : String} {allowed : List SessionStateKind} {u : Unit}
    (h : m.requireState action allowed = .ok u) : m.state.kind ∈ allowed := by
  unfold SessionMachine.requireState at h
  split_ifs at h with hin
  exact hin

omit [Sha256] in
theorem target_of_requireOpenTarget {action : String} {predicate : DebugTargetRequest → Bool}
    {u : Unit} (h : m.requireOpenTarget action predicate = .ok u) :
    m.state.kind = .opening ∧ ∃ target, m.target = some target ∧ predicate target = true := by
  unfold SessionMachine.requireOpenTarget at h
  obtain ⟨_, hstate, h⟩ := except_bind_eq_ok.mp h
  refine ⟨by simpa using kind_of_requireState hstate, ?_⟩
  cases htarget : m.target with
  | none => simp [htarget] at h
  | some target =>
    simp only [htarget] at h
    split_ifs at h with hp
    exact ⟨target, rfl, hp⟩

theorem targetCreatedSuspended_outcome (hc : m.visible.Coherent m.identity)
    (process : ProcessIdentity) :
    Outcome .none m (.targetCreatedSuspended process) (·.state)
      (SessionMachine.targetCreatedSuspended process m) := by
  have hkept := Kept.refl .none m
  refine .lift_bind hkept fun _ hstate => .refuse_bind hkept fun _ => .lift_bind hkept
    fun token htoken => .onPendingSandbox_bind
      (SandboxMachine.atomic_targetCreatedSuspended process) fun sandbox _ sandbox' howns hrun => ?_
  have hopening : m.state.kind = .opening := by simpa using kind_of_requireState hstate
  obtain ⟨hprovisioning, hfresh, hbinary, -, rfl⟩ :=
    SandboxMachine.targetCreatedSuspended_eq_ok.mp hrun
  have hedge : SessionStateKind.awaitingAttestation ∈ m.state.kind.successors := by
    rw [hopening]
    decide
  have hfollows : m.state.Follows (.awaitingAttestation token process) :=
    follows_of_token hc htoken rfl rfl hedge
  exact .transition hfollows (.created hopening howns hprovisioning hfresh hbinary hfollows)

theorem acceptSandboxAttestation_outcome (hc : m.visible.Coherent m.identity)
    (actual : SandboxAttestation) :
    Outcome .none m (.acceptSandboxAttestation actual) (·.state)
      (SessionMachine.acceptSandboxAttestation actual m) := by
  have hkept := Kept.refl .none m
  refine .lift_bind hkept fun _ hstate => .lift_bind hkept fun token htoken =>
    .onPendingSandbox_bind (SandboxMachine.atomic_acceptAttestation actual)
      fun sandbox _ sandbox' howns hrun => ?_
  have hawaiting : m.state.kind = .awaitingAttestation := by
    simpa using kind_of_requireState hstate
  obtain ⟨hsuspended, -, process, hcreated, hexact, -, rfl⟩ :=
    SandboxMachine.acceptAttestation_eq_ok.mp hrun
  have hedge : SessionStateKind.attestationAccepted ∈ m.state.kind.successors := by
    rw [hawaiting]
    decide
  have hfollows : m.state.Follows (.attestationAccepted token) :=
    follows_of_token hc htoken rfl rfl hedge
  exact .transition hfollows
    (.attested hawaiting howns hsuspended hcreated hexact hfollows)

theorem completeOpen_outcome (hc : m.visible.Coherent m.identity) {name : String}
    {predicate : DebugTargetRequest → Bool} {next : StateToken → SessionState}
    {kind : SessionStateKind} (htoken : ∀ token, (next token).stateToken = token)
    (hkind : ∀ token, (next token).kind = kind)
    (hedge : kind ∈ SessionStateKind.opening.successors)
    (hcompletes : ∀ target token, predicate target = true → CompletesOpen target (next token)) :
    Outcome .none m .completeOpen (·.state)
      (SessionMachine.completeOpen name predicate next m) := by
  have hkept := Kept.refl .none m
  refine .lift_bind hkept fun _ hopen => .lift_bind hkept fun token hnext => ?_
  obtain ⟨hopening, target, htarget, hpredicate⟩ := target_of_requireOpenTarget hopen
  have hfollows : m.state.Follows (next token) :=
    follows_of_token hc hnext (htoken token) (hkind token) (by rw [hopening]; exact hedge)
  exact .transition hfollows
    (.completed hopening htarget (hcompletes target token hpredicate) hfollows)

theorem completeOpenOffline_outcome (hc : m.visible.Coherent m.identity) :
    Outcome .none m .completeOpen (·.state) (SessionMachine.completeOpenOffline m) :=
  completeOpen_outcome hc (fun _ => rfl) (fun _ => rfl) (by decide) fun target _ h => by
    cases target <;> first | exact trivial | simp at h

theorem completeOpenDump_outcome (hc : m.visible.Coherent m.identity) :
    Outcome .none m .completeOpen (·.state) (SessionMachine.completeOpenDump m) :=
  completeOpen_outcome hc (fun _ => rfl) (fun _ => rfl) (by decide) fun target _ h => by
    cases target <;> first | exact trivial | simp at h

theorem completeOpenObserving_outcome (hc : m.visible.Coherent m.identity)
    (processId : ProcessId) :
    Outcome .none m .completeOpen (·.state) (SessionMachine.completeOpenObserving processId m) :=
  completeOpen_outcome hc (fun _ => rfl) (fun _ => rfl) (by decide) fun target _ h => by
    cases target <;> simp at h
    exact h

theorem markStopped_outcome (hc : m.visible.Coherent m.identity) (reason : StopReason)
    (threadId : ThreadId) :
    Outcome .none m .markStopped (·.state) (SessionMachine.markStopped reason threadId m) := by
  have hkept := Kept.refl .none m
  refine .lift_bind hkept fun _ hstate => .refuse_bind hkept fun hgate => ?_
  have hsource := kind_of_requireState hstate
  have hedge : SessionStateKind.stopped ∈ m.state.kind.successors := by
    revert hsource
    cases m.state.kind <;> decide
  have hlast : (m.state.kind = .opening → m.visible.Executable) →
      Outcome .none m .markStopped (·.state) ((do
        let next ← lift m.nextStateToken
        let stop ← SessionMachine.allocateStopToken next
        SessionMachine.transitionTo (.stopped stop reason threadId)
        SessionMachine.reportState : SessionReducer SessionState) m) := by
    intro hopening
    refine .lift_bind hkept fun token htoken => .allocateStop_bind fun stop hstop hid => ?_
    have hfollows : m.state.Follows (.stopped stop reason threadId) :=
      follows_of_token hc htoken hstop rfl hedge
    exact .transition hfollows (.stopped hsource hgate hopening hid hfollows)
  by_cases hopening : m.state.kind = .opening
  · simp only [hopening, if_true]
    refine .lift_bind hkept fun _ hopen => ?_
    obtain ⟨-, target, htarget, hexec⟩ := target_of_requireOpenTarget hopen
    exact hlast fun _ => ⟨target, htarget, hexec⟩
  · simp only [hopening, if_false]
    exact hlast fun h => absurd h hopening

theorem markExited_outcome (hc : m.visible.Coherent m.identity) (exitCode : UInt32) :
    Outcome .none m .markExited (·.state) (SessionMachine.markExited exitCode m) := by
  have hkept := Kept.refl .none m
  refine .lift_bind hkept fun _ hstate => .lift_bind hkept fun token htoken => ?_
  have hsource := kind_of_requireState hstate
  have hopen : m.state.kind ≠ .closed := by
    intro h
    simp [h] at hsource
  rw [bind_of_ok (onSandbox_beginCleanup hc hopen)]
  have hedge : SessionStateKind.exited ∈ m.state.kind.successors := by
    revert hsource
    cases m.state.kind <;> decide
  have hfollows : m.state.Follows (.exited token exitCode) :=
    follows_of_token hc htoken rfl rfl hedge
  exact .transition hfollows (.exited hsource hfollows)

theorem markFailed_outcome (hc : m.visible.Coherent m.identity) (message : String) :
    Outcome .none m .markFailed (·.state) (SessionMachine.markFailed message m) := by
  have hkept := Kept.refl .none m
  refine .refuse_bind hkept fun hopen => .refuse_bind hkept fun _ => .lift_bind hkept
    fun token htoken => ?_
  have hedge : SessionStateKind.failed ∈ m.state.kind.successors := by
    revert hopen
    cases m.state.kind <;> decide
  have hfollows : m.state.Follows (.failed token message) :=
    follows_of_token hc htoken rfl rfl hedge
  by_cases hrecorded : ∀ sandbox, m.sandbox = some sandbox →
      sandbox.targetCreation.isSome = true
  · have hrun := onSandbox_run (m := m) (x := do
        let _ ← SandboxMachine.markFailed
        SandboxMachine.beginCleanup) fun sandbox hs => by
      have hne := hc.sandbox_ne_closed hopen hs
      rw [bind_of_ok (SandboxMachine.markFailed_run hne (hrecorded sandbox hs))]
      exact ⟨_, SandboxMachine.beginCleanup_run (by simp)⟩
    rw [bind_of_ok hrun]
    exact .transition hfollows (.failed hopen hrecorded hfollows)
  · -- a sandbox without a recorded outcome refuses to fail
    push Not at hrecorded
    obtain ⟨sandbox, hs, hnone⟩ := hrecorded
    obtain ⟨e, he⟩ := SandboxMachine.markFailed_refused (s := sandbox)
      (.inr (Option.not_isSome_iff_eq_none.mp hnone))
    have hrun := onSandbox_error (x := do
        let _ ← SandboxMachine.markFailed
        SandboxMachine.beginCleanup) hs (bind_of_error he)
    rw [bind_of_error hrun]
    exact .refused _ hkept

/-! ### Closing -/

omit [Sha256] in
theorem validateInheritedCleanup_eq_ok {binding : SandboxOwnershipBinding}
    {receipt : SandboxCleanupReceipt} :
    SessionMachine.validateInheritedCleanup binding receipt = .ok () ↔
    receipt.sessionId = binding.sessionId ∧
      receipt.provisioningEpoch = binding.provisioningEpoch ∧
      receipt.provider = binding.provider ∧ receipt.policyDigest = binding.policyDigest ∧
      receipt.process = some binding.process ∧
      receipt.CleanFor (providerBoundary binding.provider) := by
  unfold SessionMachine.validateInheritedCleanup SessionMachine.validateInheritedCleanupBinding
  rw [except_bind_eq_ok]
  constructor
  · rintro ⟨_, hbinding, hcomplete⟩
    have hcomplete : receipt.outcome = .complete := by
      by_contra hne
      simp [hne] at hcomplete
    split_ifs at hbinding with hfields
    simp only [not_or, ne_eq, not_not] at hfields
    obtain ⟨h1, h2, h3, h4, h5⟩ := hfields
    exact ⟨h1, h2, h3, h4, h5,
      (validateForBoundary_complete hcomplete).mp (mapError_eq_ok.mp hbinding)⟩
  · rintro ⟨h1, h2, h3, h4, h5, hclean⟩
    have hboundary := (validateForBoundary_complete hclean.outcome).mpr hclean
    refine ⟨(), ?_, by simp [hclean.outcome]; rfl⟩
    simp [h1, h2, h3, h4, h5, hboundary, Except.mapError]

omit [Sha256] in
/-- Releasing depends on the two owners and the receipt only. -/
theorem releaseSandbox_of_owners {sandbox : Option SandboxMachine}
    {inherited : Option SandboxOwnershipBinding} (receipt : Option SandboxCleanupReceipt) :
    m.sandbox = sandbox → m.inheritedSandbox = inherited →
    SessionMachine.releaseSandbox receipt m = (match sandbox, inherited, receipt with
      | some sandbox, none, some receipt => do
        let _ ← SessionMachine.runSandbox sandbox (SandboxMachine.close receipt)
        return ()
      | none, some binding, some receipt =>
        lift (SessionMachine.validateInheritedCleanup binding receipt)
      | some _, none, none | none, some _, none => raise .missingCleanupReceipt
      | none, none, some _ => raise .unexpectedCleanupReceipt
      | none, none, none => return ()
      | some _, some _, _ => raise .conflictingSandboxOwnership : SessionReducer Unit) m := by
  rintro rfl rfl
  rfl

omit [Sha256] in
theorem releaseSandbox_of_released {receipt : Option SandboxCleanupReceipt}
    {sandbox : Option SandboxMachine} (h : Released m receipt sandbox) :
    SessionMachine.releaseSandbox receipt m = (.ok (), { m with sandbox := sandbox }) := by
  cases h with
  | owned owns alone cleanup closes =>
    have hclose := SandboxMachine.close_eq_ok.mpr ⟨cleanup, rfl, closes, rfl⟩
    rw [releaseSandbox_of_owners _ owns alone]
    exact bind_of_ok (runSandbox_ok hclose)
  | inherited alone owns session epoch provider policy process clean =>
    have hvalid := validateInheritedCleanup_eq_ok.mpr
      ⟨session, epoch, provider, policy, process, clean⟩
    have hsame : ({ m with sandbox := none } : SessionMachine) = m := by rw [← alone]
    rw [releaseSandbox_of_owners _ alone owns, hsame]
    exact congrArg (·, m) hvalid
  | nothing alone inherited =>
    have hsame : ({ m with sandbox := none } : SessionMachine) = m := by rw [← alone]
    rw [releaseSandbox_of_owners _ alone inherited, hsame]
    rfl

omit [Sha256] in
/-- Releasing what the session owns changes at most the sandbox, and nothing when refused. -/
theorem releaseSandbox_run (receipt : Option SandboxCleanupReceipt) :
    (∃ e, SessionMachine.releaseSandbox receipt m = (.error e, m)) ∨
      ∃ sandbox, Released m receipt sandbox ∧ SessionMachine.releaseSandbox receipt m =
        (.ok (), { m with sandbox := sandbox }) := by
  have hdone : ∀ sandbox, Released m receipt sandbox →
      ∃ sandbox, Released m receipt sandbox ∧ SessionMachine.releaseSandbox receipt m =
        (.ok (), { m with sandbox := sandbox }) :=
    fun sandbox h => ⟨sandbox, h, releaseSandbox_of_released h⟩
  rcases m.sandbox.eq_none_or_eq_some with hs | ⟨sandbox, hs⟩ <;>
    rcases m.inheritedSandbox.eq_none_or_eq_some with hi | ⟨binding, hi⟩ <;>
    rcases receipt with _ | receipt
  · exact .inr (hdone _ (.nothing hs hi))
  · exact .inl ⟨_, releaseSandbox_of_owners _ hs hi⟩
  · exact .inl ⟨_, releaseSandbox_of_owners _ hs hi⟩
  · cases hv : SessionMachine.validateInheritedCleanup binding receipt with
    | error e =>
      exact .inl ⟨e, (releaseSandbox_of_owners _ hs hi).trans (congrArg (·, m) hv)⟩
    | ok u =>
      obtain ⟨h1, h2, h3, h4, h5, h6⟩ := validateInheritedCleanup_eq_ok.mp hv
      exact .inr (hdone _ (.inherited hs hi h1 h2 h3 h4 h5 h6))
  · exact .inl ⟨_, releaseSandbox_of_owners _ hs hi⟩
  · rcases hclose : SandboxMachine.close receipt sandbox with ⟨e | state, sandbox'⟩
    · obtain rfl := SandboxMachine.atomic_close receipt _ _ _ hclose
      exact .inl ⟨.sandbox e, (releaseSandbox_of_owners _ hs hi).trans
        (bind_of_error (runSandbox_error hs hclose))⟩
    · obtain ⟨hcleanup, -, hcloses, rfl⟩ := SandboxMachine.close_eq_ok.mp hclose
      exact .inr (hdone _ (.owned hs hi hcleanup hcloses))
  · exact .inl ⟨_, releaseSandbox_of_owners _ hs hi⟩
  · exact .inl ⟨_, releaseSandbox_of_owners _ hs hi⟩

theorem completeClose_outcome (hc : m.visible.Coherent m.identity)
    (receipt : Option SandboxCleanupReceipt) :
    Outcome .none m (.completeClose receipt) (·.state)
      (SessionMachine.completeClose receipt m) := by
  have hkept := Kept.refl .none m
  refine .lift_bind hkept fun _ hstate => .lift_bind hkept fun token htoken => ?_
  have hclosing : m.state.kind = .closing := by simpa using kind_of_requireState hstate
  have hedge : SessionStateKind.closed ∈ m.state.kind.successors := by
    rw [hclosing]
    decide
  have hfollows : m.state.Follows (.closed token) := follows_of_token hc htoken rfl rfl hedge
  rcases releaseSandbox_run (m := m) receipt with ⟨e, hrun⟩ | ⟨sandbox, hreleased, hrun⟩
  · rw [bind_of_error hrun]
    exact .refused _ hkept
  · rw [bind_of_ok hrun]
    exact .transition hfollows (.closed hclosing hreleased hfollows)

theorem recordSandboxTargetNotCreated_outcome :
    Outcome .none m .recordSandboxTargetNotCreated (fun _ => ())
      (SessionMachine.recordSandboxTargetNotCreated m) := by
  have hkept := Kept.refl .none m
  simp only [SessionMachine.recordSandboxTargetNotCreated, look_bind_run]
  cases hs : m.sandbox with
  | none =>
    cases hi : m.inheritedSandbox with
    | none => exact .refused _ hkept
    | some binding => exact .refused _ hkept
  | some sandbox =>
    cases hi : m.inheritedSandbox with
    | some binding => exact .refused _ hkept
    | none =>
      rcases hrun : SandboxMachine.recordTargetNotCreated sandbox with ⟨e | u, sandbox'⟩
      · obtain rfl := SandboxMachine.atomic_recordTargetNotCreated _ _ _ hrun
        show Outcome _ _ _ _ (SessionMachine.runSandbox _ _ m)
        rw [runSandbox_error hs hrun]
        exact .refused _ hkept
      · obtain ⟨hprovisioning, hfresh, rfl⟩ := SandboxMachine.recordTargetNotCreated_eq_ok.mp hrun
        show Outcome _ _ _ _ (SessionMachine.runSandbox _ _ m)
        rw [runSandbox_ok hrun]
        exact .done (.notCreated hs hi hprovisioning hfresh)

end Outcomes

end ReSymbol.Debugger
