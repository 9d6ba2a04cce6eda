import ReSymbol.Debugger.SandboxEvidence

/-! The sandbox lifecycle reducer.

        requested ─▶ provisioning ─▶ targetCreatedSuspended ─▶ attestationAccepted ─▶ running
        every state but closed ─▶ failed,   every state but closed ─▶ cleanup ─▶ closed

    Every operation checks first and writes last, so a refused operation leaves the machine as it
    was (`Atomic`); what an accepted one does is stated once per operation. -/

namespace ReSymbol.Debugger
open Schemes Schemes.Reducer

inductive SandboxMachineError where
  | invalidExpectedAttestation
  | createdProcessIdentityMismatch
  | createdProcessIdentityMissing
  | targetCreationOutcomeMissing
  | targetCreationOutcomeMismatch
  | attestationNotAccepted
  | invalidTransition (source : SandboxLifecycleState) (action : String)
  | attestation (mismatch : AttestationMismatch)
  | cleanup (error : CleanupReceiptError)
  | cleanupIncomplete

structure SandboxMachine where
  expected : ExpectedSandboxAttestation
  state : SandboxLifecycleState
  targetCreation : Option SandboxTargetCreationOutcome
  acceptedAttestation : Option SandboxAttestation
  deriving DecidableEq

abbrev SandboxReducer := Reducer SandboxMachine SandboxMachineError

namespace SandboxMachine

/-- The virtual-machine identity has the shape its boundary needs. -/
def vmShapeValid (expected : ExpectedSandboxAttestation) : Bool :=
  match expected.boundary with
  | .userMode => expected.vmIdentity.isNone
  | .hypervisor => expected.vmIdentity.any (·.validate.isOk)

def providerValid (expected : ExpectedSandboxAttestation) : Bool :=
  (match expected.provider with
    | .registered descriptor => descriptor.validate.isOk
    | _ => true) &&
  (guaranteeList expected.guarantees).all (providerSupports expected.provider)

def new (expected : ExpectedSandboxAttestation) : Except SandboxMachineError SandboxMachine :=
  if !expected.jobAssignedAtCreation ∨ .jobAssignmentAtCreation ∉ expected.guarantees ∨
      providerBoundary expected.provider ≠ expected.boundary ∨ !providerValid expected ∨
      !vmShapeValid expected then
    .error .invalidExpectedAttestation
  else .ok ⟨expected, .requested, none, none⟩

def createdProcess (s : SandboxMachine) : Option ProcessIdentity :=
  match s.targetCreation with
  | some (.created process) => some process
  | some .notCreated | none => none

def requireState (action : String) (allowed : List SandboxLifecycleState) :
    SandboxReducer Unit := do
  let s ← look
  refuse (s.state ∉ allowed) (.invalidTransition s.state action)

def transition (action : String) (allowed : List SandboxLifecycleState)
    (next : SandboxLifecycleState) : SandboxReducer SandboxLifecycleState := do
  requireState action allowed
  update fun s => { s with state := next }
  return next

def retainFailureTargetCreation (outcome : SandboxTargetCreationOutcome) :
    SandboxReducer Unit := do
  let s ← look
  match s.targetCreation, outcome with
  | none, .notCreated => update fun s => { s with targetCreation := some .notCreated }
  | none, .created _ => raise .targetCreationOutcomeMismatch
  | some retained, claimed => refuse (retained ≠ claimed) .targetCreationOutcomeMismatch

def recordTargetNotCreated : SandboxReducer Unit := do
  requireState "record target not created" [.provisioning]
  retainFailureTargetCreation .notCreated

def beginProvisioning : SandboxReducer SandboxLifecycleState :=
  transition "begin provisioning" [.requested] .provisioning

def targetCreatedSuspended (process : ProcessIdentity) :
    SandboxReducer SandboxLifecycleState := do
  let s ← look
  refuse s.targetCreation.isSome .targetCreationOutcomeMismatch
  refuse (process.binaryId ≠ s.expected.binaryId) .createdProcessIdentityMismatch
  let state ← transition "record suspended target" [.provisioning] .targetCreatedSuspended
  update fun s => { s with targetCreation := some (.created process) }
  return state

def acceptAttestation (actual : SandboxAttestation) : SandboxReducer SandboxLifecycleState := do
  requireState "accept attestation" [.targetCreatedSuspended]
  let s ← look
  let createdProcess ← require s.createdProcess .createdProcessIdentityMissing
  lift ((s.expected.validateExact actual createdProcess).mapError .attestation)
  update fun s => { s with acceptedAttestation := some actual, state := .attestationAccepted }
  return .attestationAccepted

def markRunning : SandboxReducer SandboxLifecycleState := do
  let s ← look
  refuse s.acceptedAttestation.isNone .attestationNotAccepted
  transition "mark target running" [.attestationAccepted, .running] .running

def markFailed : SandboxReducer SandboxLifecycleState := do
  let s ← look
  refuse (s.state = .closed) (.invalidTransition s.state "mark failed")
  refuse s.targetCreation.isNone .targetCreationOutcomeMissing
  update fun s => { s with state := .failed }
  return .failed

def beginCleanup : SandboxReducer SandboxLifecycleState := do
  let s ← look
  if s.state = .cleanup then return s.state
  else do
    refuse (s.state = .closed) (.invalidTransition s.state "begin cleanup")
    update fun s => { s with state := .cleanup }
    return .cleanup

def validateCleanupReceipt (s : SandboxMachine) (receipt : SandboxCleanupReceipt) :
    Except SandboxMachineError Unit :=
  match s.targetCreation with
  | none => .error .targetCreationOutcomeMissing
  | some outcome => (receipt.validateAgainst s.expected outcome.process).mapError .cleanup

def close (receipt : SandboxCleanupReceipt) : SandboxReducer SandboxLifecycleState := do
  requireState "close" [.cleanup]
  let s ← look
  lift (s.validateCleanupReceipt receipt)
  refuse (receipt.outcome ≠ .complete) .cleanupIncomplete
  update fun s => { s with state := .closed }
  return .closed

/-! ### Refused operations change nothing -/

theorem readOnly_requireState (action : String) (allowed : List SandboxLifecycleState) :
    ReadOnly (requireState action allowed) :=
  readOnly_look.bind fun _ => readOnly_refuse _ _

theorem atomic_transition (action : String) (allowed : List SandboxLifecycleState)
    (next : SandboxLifecycleState) : Atomic (transition action allowed next) :=
  (readOnly_requireState action allowed).atomic.bind_total fun _ =>
    (total_update _).bind fun _ => total_pure _

theorem atomic_retainFailureTargetCreation (outcome : SandboxTargetCreationOutcome) :
    Atomic (retainFailureTargetCreation outcome) := by
  refine readOnly_look.bind_atomic fun s => ?_
  rcases s.targetCreation with _ | retained
  · cases outcome with
    | notCreated => exact (total_update _).atomic
    | created process => exact (readOnly_raise _).atomic
  · exact (readOnly_refuse _ _).atomic

theorem atomic_recordTargetNotCreated : Atomic recordTargetNotCreated :=
  (readOnly_requireState _ _).bind_atomic fun _ => atomic_retainFailureTargetCreation _

theorem atomic_targetCreatedSuspended (process : ProcessIdentity) :
    Atomic (targetCreatedSuspended process) :=
  readOnly_look.bind_atomic fun _ => (readOnly_refuse _ _).bind_atomic fun _ =>
    (readOnly_refuse _ _).bind_atomic fun _ => (atomic_transition _ _ _).bind_total fun _ =>
      (total_update _).bind fun _ => total_pure _

theorem atomic_acceptAttestation (actual : SandboxAttestation) :
    Atomic (acceptAttestation actual) :=
  (readOnly_requireState _ _).bind_atomic fun _ => readOnly_look.bind_atomic fun _ =>
    (readOnly_require _ _).bind_atomic fun _ => (readOnly_lift _).bind_atomic fun _ =>
      ((total_update _).bind fun _ => total_pure _).atomic

theorem atomic_close (receipt : SandboxCleanupReceipt) : Atomic (close receipt) :=
  (readOnly_requireState _ _).bind_atomic fun _ => readOnly_look.bind_atomic fun _ =>
    (readOnly_lift _).bind_atomic fun _ => (readOnly_refuse _ _).bind_atomic fun _ =>
      ((total_update _).bind fun _ => total_pure _).atomic

/-! ### What accepted operations do -/

section Accepted

variable {s s' : SandboxMachine} {state : SandboxLifecycleState}

theorem new_eq_ok {expected : ExpectedSandboxAttestation} (h : new expected = .ok s) :
    s = ⟨expected, .requested, none, none⟩ := by
  unfold new at h
  split_ifs at h
  exact (Except.ok.inj h).symm

theorem transition_eq_ok {action : String} {allowed : List SandboxLifecycleState}
    {next : SandboxLifecycleState} :
    transition action allowed next s = (.ok state, s') ↔
      s.state ∈ allowed ∧ state = next ∧ s' = { s with state := next } := by
  simp only [transition, requireState, bind_eq_ok, look_eq_ok, refuse_eq_ok, update_eq_ok,
    pure_eq_ok, not_not]
  constructor
  · rintro ⟨_, _, ⟨_, _, ⟨rfl, rfl⟩, hstate, rfl⟩, _, _, rfl, rfl, rfl⟩
    exact ⟨hstate, rfl, rfl⟩
  · rintro ⟨hstate, rfl, rfl⟩
    exact ⟨(), _, ⟨_, _, ⟨rfl, rfl⟩, hstate, rfl⟩, (), _, rfl, rfl, rfl⟩

theorem targetCreatedSuspended_eq_ok {process : ProcessIdentity} :
    targetCreatedSuspended process s = (.ok state, s') ↔
      s.state = .provisioning ∧ s.targetCreation = none ∧ process.binaryId = s.expected.binaryId ∧
        state = .targetCreatedSuspended ∧
        s' = { s with
          state := .targetCreatedSuspended
          targetCreation := some (.created process) } := by
  simp only [targetCreatedSuspended, bind_eq_ok, look_eq_ok, refuse_eq_ok, transition_eq_ok,
    update_eq_ok, pure_eq_ok]
  constructor
  · rintro ⟨_, _, ⟨rfl, rfl⟩, _, _, ⟨hnone, rfl⟩, _, _, ⟨hbinary, rfl⟩, _, _, ⟨hstate, rfl, rfl⟩,
      _, _, rfl, rfl, rfl⟩
    exact ⟨by simpa using hstate, by simpa using hnone, by simpa using hbinary, rfl, rfl⟩
  · rintro ⟨hstate, hnone, hbinary, rfl, rfl⟩
    exact ⟨_, _, ⟨rfl, rfl⟩, (), _, ⟨by simp [hnone], rfl⟩, (), _, ⟨by simp [hbinary], rfl⟩, _, _,
      ⟨by simp [hstate], rfl, rfl⟩, (), _, rfl, rfl, rfl⟩

theorem acceptAttestation_eq_ok {actual : SandboxAttestation} :
    acceptAttestation actual s = (.ok state, s') ↔
      s.state = .targetCreatedSuspended ∧ state = .attestationAccepted ∧
        ∃ process, s.targetCreation = some (.created process) ∧
          actual = s.expected.attestationFor process ∧
          process.binaryId = s.expected.binaryId ∧
          s' = { s with acceptedAttestation := some actual, state := .attestationAccepted } := by
  have hcreated : ∀ process, s.createdProcess = some process ↔
      s.targetCreation = some (.created process) := by
    intro process
    rcases h : s.targetCreation with _ | _ | p <;> simp [createdProcess, h]
  have hexact : ∀ process, (s.expected.validateExact actual process).mapError
      SandboxMachineError.attestation = .ok () ↔
        actual = s.expected.attestationFor process ∧ process.binaryId = s.expected.binaryId := by
    intro process
    rw [← validateExact_eq_ok]
    cases s.expected.validateExact actual process <;> simp [Except.mapError]
  simp only [acceptAttestation, requireState, bind_eq_ok, look_eq_ok, refuse_eq_ok, require_eq_ok,
    lift_eq_ok, update_eq_ok, pure_eq_ok]
  constructor
  · rintro ⟨_, _, ⟨_, _, ⟨rfl, rfl⟩, hstate, rfl⟩, _, _, ⟨rfl, rfl⟩, process, _, ⟨hp, rfl⟩, _, _,
      ⟨hv, rfl⟩, _, _, rfl, rfl, rfl⟩
    obtain ⟨hactual, hbinary⟩ := (hexact process).mp hv
    exact ⟨by simpa using hstate, rfl, process, (hcreated process).mp hp, hactual, hbinary, rfl⟩
  · rintro ⟨hstate, rfl, process, hp, hactual, hbinary, rfl⟩
    exact ⟨(), _, ⟨_, _, ⟨rfl, rfl⟩, by simp [hstate], rfl⟩, _, _, ⟨rfl, rfl⟩, process, _,
      ⟨(hcreated process).mpr hp, rfl⟩, (), _, ⟨(hexact process).mpr ⟨hactual, hbinary⟩, rfl⟩, (),
      _, rfl, rfl, rfl⟩

theorem markRunning_eq_ok :
    markRunning s = (.ok state, s') ↔
      s.acceptedAttestation.isSome = true ∧ (s.state = .attestationAccepted ∨ s.state = .running) ∧
        state = .running ∧ s' = { s with state := .running } := by
  simp only [markRunning, look_bind_run, bind_eq_ok, refuse_eq_ok, transition_eq_ok]
  constructor
  · rintro ⟨_, _, ⟨haccepted, rfl⟩, hstate, rfl, rfl⟩
    exact ⟨by simpa [Option.isSome_iff_ne_none] using haccepted, by simpa using hstate, rfl, rfl⟩
  · rintro ⟨haccepted, hstate, rfl, rfl⟩
    exact ⟨(), _, ⟨by simpa [Option.isSome_iff_ne_none] using haccepted, rfl⟩, by simpa
      using hstate,
      rfl, rfl⟩

theorem beginCleanup_run (h : s.state ≠ .closed) :
    beginCleanup s = (.ok .cleanup, { s with state := .cleanup }) := by
  by_cases hc : s.state = .cleanup
  · have hs : ({ s with state := .cleanup } : SandboxMachine) = s := by rw [← hc]
    rw [hs]
    simp [beginCleanup, hc]
  · simp [beginCleanup, hc, h]

theorem markFailed_run (h : s.state ≠ .closed) (hcreated : s.targetCreation.isSome = true) :
    markFailed s = (.ok .failed, { s with state := .failed }) := by
  have hnone : ¬ s.targetCreation.isNone = true := by
    rw [Option.isNone_iff_eq_none, ← Option.not_isSome_iff_eq_none, not_not]
    exact hcreated
  simp [markFailed, h, hnone]

theorem markFailed_refused (h : s.state = .closed ∨ s.targetCreation = none) :
    ∃ e, markFailed s = (.error e, s) := by
  by_cases hc : s.state = .closed
  · exact ⟨_, by simp [markFailed, hc]; rfl⟩
  · have hnone := h.resolve_left hc
    exact ⟨.targetCreationOutcomeMissing, by simp [markFailed, hc, hnone]⟩

/-- A receipt that closes exactly this sandbox: every binding field and a complete cleanup. -/
structure Closes (s : SandboxMachine) (receipt : SandboxCleanupReceipt) : Prop where
  session : receipt.sessionId = s.expected.sessionId
  epoch : receipt.provisioningEpoch = s.expected.provisioningEpoch
  provider : receipt.provider = s.expected.provider
  policy : receipt.policyDigest = s.expected.policyDigest
  process : ∃ outcome, s.targetCreation = some outcome ∧ receipt.process = outcome.process
  clean : receipt.CleanFor s.expected.boundary

theorem close_eq_ok {receipt : SandboxCleanupReceipt} :
    close receipt s = (.ok state, s') ↔
      s.state = .cleanup ∧ state = .closed ∧ s.Closes receipt ∧
        s' = { s with state := .closed } := by
  simp only [close, requireState, bind_eq_ok, look_eq_ok, refuse_eq_ok, lift_eq_ok, update_eq_ok,
    pure_eq_ok]
  constructor
  · rintro ⟨_, _, ⟨_, _, ⟨rfl, rfl⟩, hstate, rfl⟩, _, _, ⟨rfl, rfl⟩, _, _, ⟨hvalid, rfl⟩, _, _,
      ⟨hcomplete, rfl⟩, _, _, rfl, rfl, rfl⟩
    rw [not_not] at hcomplete
    refine ⟨by simpa using hstate, rfl, ?_, rfl⟩
    cases hout : s.targetCreation with
    | none => simp [validateCleanupReceipt, hout] at hvalid
    | some outcome =>
      have hagainst : receipt.validateAgainst s.expected outcome.process = .ok () := by
        cases h : receipt.validateAgainst s.expected outcome.process with
        | ok u => rfl
        | error e => simp [validateCleanupReceipt, hout, h, Except.mapError] at hvalid
      obtain ⟨h1, h2, h3, h4, h5, h6⟩ := validateAgainst_eq_ok.mp hagainst
      exact ⟨h1, h2, h3, h4, ⟨outcome, hout, h5⟩, (validateForBoundary_complete hcomplete).mp h6⟩
  · rintro ⟨hstate, rfl, hcloses, rfl⟩
    obtain ⟨outcome, hout, hprocess⟩ := hcloses.process
    have hagainst := validateAgainst_eq_ok.mpr ⟨hcloses.session, hcloses.epoch, hcloses.provider,
      hcloses.policy, hprocess,
      (validateForBoundary_complete hcloses.clean.outcome).mpr hcloses.clean⟩
    have hvalid : s.validateCleanupReceipt receipt = .ok () := by
      simp only [validateCleanupReceipt, hout, hagainst]
      rfl
    exact ⟨(), _, ⟨_, _, ⟨rfl, rfl⟩, by simp [hstate], rfl⟩, _, _, ⟨rfl, rfl⟩, (), _,
      ⟨hvalid, rfl⟩, (), _, ⟨by simp [hcloses.clean.outcome], rfl⟩, (), _, rfl, rfl, rfl⟩

/-- Retaining an outcome records `notCreated` or confirms what is retained. -/
theorem retainFailureTargetCreation_eq_ok {outcome : SandboxTargetCreationOutcome} {u : Unit} :
    retainFailureTargetCreation outcome s = (.ok u, s') ↔
      (s.targetCreation = none ∧ outcome = .notCreated ∨ s.targetCreation = some outcome) ∧
        s' = { s with targetCreation := some outcome } := by
  simp only [retainFailureTargetCreation, look_bind_run]
  rcases h : s.targetCreation with _ | retained
  · cases outcome with
    | notCreated => simp [eq_comm]
    | created process => simp
  · have hs : retained = outcome → ({ s with
      targetCreation := some outcome } : SandboxMachine) = s :=
      fun heq => by rw [← heq, ← h]
    simp only [ne_eq, refuse_eq_ok, not_not, reduceCtorEq, false_and, Option.some.injEq, false_or]
    constructor
    · rintro ⟨heq, rfl⟩
      exact ⟨heq, (hs heq).symm⟩
    · rintro ⟨heq, rfl⟩
      exact ⟨heq, (hs heq).symm⟩

theorem recordTargetNotCreated_eq_ok {u : Unit} :
    recordTargetNotCreated s = (.ok u, s') ↔
      s.state = .provisioning ∧
        (s.targetCreation = none ∨ s.targetCreation = some .notCreated) ∧
        s' = { s with targetCreation := some .notCreated } := by
  simp only [recordTargetNotCreated, requireState, bind_eq_ok, look_eq_ok, refuse_eq_ok,
    retainFailureTargetCreation_eq_ok]
  constructor
  · rintro ⟨_, _, ⟨_, _, ⟨rfl, rfl⟩, hstate, rfl⟩, hout, rfl⟩
    exact ⟨by simpa using hstate, by simpa using hout, rfl⟩
  · rintro ⟨hstate, hout, rfl⟩
    exact ⟨(), _, ⟨_, _, ⟨rfl, rfl⟩, by simp [hstate], rfl⟩, by simpa using hout, rfl⟩

end Accepted

end SandboxMachine

end ReSymbol.Debugger
