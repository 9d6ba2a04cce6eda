import ReSymbol.Debugger.SandboxPolicy

/-! Sandbox evidence: the attestation a launch must present, the failures it may report and the
    cleanup receipt that ends it.

    None of it is authority. An attestation is accepted only when every field equals what the policy
    promised and its process is the one recorded at creation; a receipt may claim `complete` only
    with every cleanup flag its boundary needs and no residual. -/

namespace ReSymbol.Debugger
open Schemes

/-! ### Attestations -/

/-- What the controller expects, derived from the policy before any process exists. -/
structure ExpectedSandboxAttestation where
  binaryId : BinaryId
  sessionId : SessionId
  provisioningEpoch : ProvisioningEpoch
  policyDigest : PolicyDigest
  provider : SandboxProviderSelection
  boundary : IsolationBoundary
  guarantees : Finset SandboxGuarantee
  jobAssignedAtCreation : Bool
  helperBuild : HelperBuildId
  vmIdentity : Option VmIsolationIdentity
  deriving DecidableEq

def ExpectedSandboxAttestation.fromPolicy [Sha256] (binaryId : BinaryId) (policy : SandboxPolicy)
    (helperBuild : HelperBuildId) (provisioningEpoch : ProvisioningEpoch) :
    Except PolicyValidationError ExpectedSandboxAttestation := do
  let policyDigest ← policy.digest binaryId
  return { binaryId, sessionId := policy.sessionId, provisioningEpoch, policyDigest,
           provider := policy.provider, boundary := policy.requiredBoundary,
           guarantees := policy.requiredGuarantees, jobAssignedAtCreation := true, helperBuild,
           vmIdentity := policy.vmIdentity }

/-- What the provider measured. -/
structure SandboxAttestation where
  binaryId : BinaryId
  process : ProcessIdentity
  sessionId : SessionId
  provisioningEpoch : ProvisioningEpoch
  policyDigest : PolicyDigest
  provider : SandboxProviderSelection
  boundary : IsolationBoundary
  guarantees : Finset SandboxGuarantee
  jobAssignedAtCreation : Bool
  helperBuild : HelperBuildId
  vmIdentity : Option VmIsolationIdentity
  deriving DecidableEq

inductive AttestationMismatch where
  | binaryIdentity | processIdentity | session | provisioningEpoch | policyDigest | provider
  | boundary | guarantees | jobAssignment | helperBuild | vmIdentity

def ExpectedSandboxAttestation.validateExact (expected : ExpectedSandboxAttestation)
    (actual : SandboxAttestation) (createdProcess : ProcessIdentity) :
    Except AttestationMismatch Unit :=
  if expected.binaryId ≠ actual.binaryId then .error .binaryIdentity
  else if actual.process ≠ createdProcess ∨ actual.process.binaryId ≠ actual.binaryId then
    .error .processIdentity
  else if expected.sessionId ≠ actual.sessionId then .error .session
  else if expected.provisioningEpoch ≠ actual.provisioningEpoch then .error .provisioningEpoch
  else if expected.policyDigest ≠ actual.policyDigest then .error .policyDigest
  else if expected.provider ≠ actual.provider then .error .provider
  else if expected.boundary ≠ actual.boundary then .error .boundary
  else if expected.guarantees ≠ actual.guarantees then .error .guarantees
  else if expected.jobAssignedAtCreation ≠ actual.jobAssignedAtCreation then .error .jobAssignment
  else if expected.helperBuild ≠ actual.helperBuild then .error .helperBuild
  else if expected.vmIdentity ≠ actual.vmIdentity then .error .vmIdentity
  else .ok ()

/-- The attestation that states exactly what is expected, for one created process. -/
def ExpectedSandboxAttestation.attestationFor (expected : ExpectedSandboxAttestation)
    (process : ProcessIdentity) : SandboxAttestation where
  binaryId := expected.binaryId
  process := process
  sessionId := expected.sessionId
  provisioningEpoch := expected.provisioningEpoch
  policyDigest := expected.policyDigest
  provider := expected.provider
  boundary := expected.boundary
  guarantees := expected.guarantees
  jobAssignedAtCreation := expected.jobAssignedAtCreation
  helperBuild := expected.helperBuild
  vmIdentity := expected.vmIdentity

/-- Exact validation leaves no freedom: the only accepted attestation is the expected one for the
    created process. -/
theorem validateExact_eq_ok {expected : ExpectedSandboxAttestation} {actual : SandboxAttestation}
    {createdProcess : ProcessIdentity} :
    expected.validateExact actual createdProcess = .ok () ↔
      actual = expected.attestationFor createdProcess ∧
        createdProcess.binaryId = expected.binaryId := by
  obtain ⟨b, p, s, e, d, pr, bo, g, j, hb, v⟩ := actual
  simp only [ExpectedSandboxAttestation.validateExact, ite_error_eq_ok, not_or, not_not, ne_eq,
    and_true, ExpectedSandboxAttestation.attestationFor, SandboxAttestation.mk.injEq]
  constructor
  · rintro ⟨rfl, ⟨rfl, hbin⟩, rfl, rfl, rfl, rfl, rfl, rfl, rfl, rfl, rfl⟩
    exact ⟨⟨rfl, rfl, rfl, rfl, rfl, rfl, rfl, rfl, rfl, rfl, rfl⟩, hbin⟩
  · rintro ⟨⟨rfl, rfl, rfl, rfl, rfl, rfl, rfl, rfl, rfl, rfl, rfl⟩, hbin⟩
    exact ⟨rfl, ⟨rfl, hbin⟩, rfl, rfl, rfl, rfl, rfl, rfl, rfl, rfl, rfl⟩

/-! ### Target creation and failures -/

inductive SandboxFailureStage where
  | policy | discovery | provisioning | attestation | launch | runtime | cleanup
  deriving DecidableEq

inductive SandboxFailureKind where
  | invalidPolicy | providerUnavailable | attestationRejected | launchDenied | resourceLimitReached
  | helperFailure | cleanupIncomplete | protocolViolation
  deriving DecidableEq

/-- Explicit target-creation result; the absence of an event is never read as `notCreated`. -/
inductive SandboxTargetCreationOutcome where
  | notCreated
  | created (process : ProcessIdentity)
  deriving DecidableEq

def SandboxTargetCreationOutcome.process : SandboxTargetCreationOutcome → Option ProcessIdentity
  | .notCreated => none
  | .created process => some process

inductive SandboxFailureContext where
  | launch (binaryId : BinaryId) (helperBuild : HelperBuildId)
      (targetCreation : SandboxTargetCreationOutcome)
  | inheritedAttach (process : ProcessIdentity) (mode : AttachMode)

structure SandboxFailure where
  sessionId : SessionId
  provisioningEpoch : ProvisioningEpoch
  policyDigest : PolicyDigest
  provider : SandboxProviderSelection
  context : SandboxFailureContext
  stage : SandboxFailureStage
  kind : SandboxFailureKind
  retryable : Bool
  detail : DiagnosticText

inductive SandboxFailureValidationError where
  | stageKind (stage : SandboxFailureStage) (kind : SandboxFailureKind)
  | session | provisioningEpoch | policyDigest | provider | contextKind | binaryIdentity
  | helperBuild | targetCreationOutcome | processIdentity | attachMode
  deriving DecidableEq

/-- The failure kinds each stage can report. -/
def SandboxFailureStage.kinds : SandboxFailureStage → List SandboxFailureKind
  | .policy => [.invalidPolicy, .protocolViolation]
  | .discovery => [.providerUnavailable, .helperFailure, .protocolViolation]
  | .provisioning =>
    [.providerUnavailable, .resourceLimitReached, .helperFailure, .protocolViolation]
  | .attestation => [.attestationRejected, .helperFailure, .protocolViolation]
  | .launch => [.launchDenied, .resourceLimitReached, .helperFailure, .protocolViolation]
  | .runtime => [.resourceLimitReached, .helperFailure, .protocolViolation]
  | .cleanup => [.cleanupIncomplete]

def SandboxFailure.validateStageKind (f : SandboxFailure) :
    Except SandboxFailureValidationError Unit :=
  if f.kind ∈ f.stage.kinds then .ok () else .error (.stageKind f.stage f.kind)

def SandboxFailure.validateAgainstExpected (f : SandboxFailure)
    (expected : ExpectedSandboxAttestation)
    (retainedTargetCreation : Option SandboxTargetCreationOutcome) :
    Except SandboxFailureValidationError Unit := do
  f.validateStageKind
  if f.sessionId ≠ expected.sessionId then .error .session
  if f.provisioningEpoch ≠ expected.provisioningEpoch then .error .provisioningEpoch
  if f.policyDigest ≠ expected.policyDigest then .error .policyDigest
  if f.provider ≠ expected.provider then .error .provider
  match f.context with
  | .launch binaryId helperBuild targetCreation =>
    if binaryId = expected.binaryId ∧ helperBuild = expected.helperBuild then
      if retainedTargetCreation = some targetCreation then .ok ()
      else .error .targetCreationOutcome
    else if binaryId ≠ expected.binaryId then .error .binaryIdentity
    else .error .helperBuild
  | .inheritedAttach _ _ => .error .contextKind

def SandboxFailure.validateAgainstInherited (f : SandboxFailure) (sessionId : SessionId)
    (provisioningEpoch : ProvisioningEpoch) (policyDigest : PolicyDigest)
    (provider : SandboxProviderSelection) (process : ProcessIdentity) (mode : AttachMode) :
    Except SandboxFailureValidationError Unit := do
  f.validateStageKind
  if f.sessionId ≠ sessionId then .error .session
  if f.provisioningEpoch ≠ provisioningEpoch then .error .provisioningEpoch
  if f.policyDigest ≠ policyDigest then .error .policyDigest
  if f.provider ≠ provider then .error .provider
  match f.context with
  | .inheritedAttach actual actualMode =>
    if actual = process ∧ actualMode = mode then .ok ()
    else if actual ≠ process then .error .processIdentity
    else .error .attachMode
  | .launch _ _ _ => .error .contextKind

/-! ### Cleanup receipts -/

inductive CleanupOutcome where
  | complete | incomplete
  deriving DecidableEq

inductive CleanupResidualKind where
  | process | fileSystem | registry | network | handles | appContainerProfile | differencingDisk
  | controlChannel | provider

structure CleanupResidual where
  kind : CleanupResidualKind
  detail : DiagnosticText

structure SandboxCleanupReceipt where
  receiptId : CleanupReceiptId
  sessionId : SessionId
  provisioningEpoch : ProvisioningEpoch
  provider : SandboxProviderSelection
  policyDigest : PolicyDigest
  process : Option ProcessIdentity
  outcome : CleanupOutcome
  processTreeTerminatedAndReaped : Bool
  handlesClosed : Bool
  fileSystemRolledBack : Bool
  registryRolledBack : Bool
  networkTornDown : Bool
  ownedPathsDeleted : Bool
  appcontainerProfileDeleted : Option Bool
  differencingDiskDiscarded : Option Bool
  controlChannelClosed : Option Bool
  terminatedProcesses : UInt32
  residuals : List CleanupResidual

inductive CleanupReceiptError where
  | bindingMismatch | tooManyResiduals | falseComplete | missingResidual

def maxCleanupResiduals : ℕ := 32

/-- The cleanup flags every boundary needs. -/
def SandboxCleanupReceipt.commonClean (r : SandboxCleanupReceipt) : Bool :=
  r.processTreeTerminatedAndReaped && r.handlesClosed && r.fileSystemRolledBack &&
    r.registryRolledBack && r.networkTornDown && r.ownedPathsDeleted

/-- The cleanup flags of one boundary; the other boundary's flags must be absent. -/
def SandboxCleanupReceipt.providerClean (r : SandboxCleanupReceipt) : IsolationBoundary → Bool
  | .userMode =>
    r.appcontainerProfileDeleted == some true && r.differencingDiskDiscarded.isNone &&
      r.controlChannelClosed.isNone
  | .hypervisor =>
    r.appcontainerProfileDeleted.isNone && r.differencingDiskDiscarded == some true &&
      r.controlChannelClosed == some true

def SandboxCleanupReceipt.validateForBoundary (r : SandboxCleanupReceipt)
    (boundary : IsolationBoundary) : Except CleanupReceiptError Unit :=
  if r.residuals.length > maxCleanupResiduals then .error .tooManyResiduals
  else match r.outcome with
    | .complete =>
      if !(r.commonClean && r.providerClean boundary) || !r.residuals.isEmpty then
        .error .falseComplete
      else .ok ()
    | .incomplete => if r.residuals.isEmpty then .error .missingResidual else .ok ()

def SandboxCleanupReceipt.validateAgainst (r : SandboxCleanupReceipt)
    (expected : ExpectedSandboxAttestation) (createdProcess : Option ProcessIdentity) :
    Except CleanupReceiptError Unit :=
  if r.sessionId ≠ expected.sessionId ∨ r.provisioningEpoch ≠ expected.provisioningEpoch ∨
      r.provider ≠ expected.provider ∨ r.policyDigest ≠ expected.policyDigest ∨
      r.process ≠ createdProcess then
    .error .bindingMismatch
  else r.validateForBoundary expected.boundary

/-- A receipt that claims completion and is entitled to it. -/
structure SandboxCleanupReceipt.CleanFor (r : SandboxCleanupReceipt)
    (boundary : IsolationBoundary) : Prop where
  outcome : r.outcome = .complete
  common : r.commonClean = true
  provider : r.providerClean boundary = true
  residuals : r.residuals = []

/-- For a receipt that claims completion, the boundary check is exactly the entitlement. -/
theorem validateForBoundary_complete {r : SandboxCleanupReceipt} {boundary : IsolationBoundary}
    (hc : r.outcome = .complete) :
    r.validateForBoundary boundary = .ok () ↔ r.CleanFor boundary := by
  simp only [SandboxCleanupReceipt.validateForBoundary, hc, ite_error_eq_ok]
  constructor
  · rintro ⟨-, hclean, -⟩
    simp only [Bool.or_eq_true, Bool.not_eq_true', Bool.and_eq_false_iff, not_or,
      Bool.not_eq_false, List.isEmpty_iff] at hclean
    exact ⟨hc, hclean.1.1, hclean.1.2, hclean.2⟩
  · rintro ⟨-, hcommon, hprov, hres⟩
    simp [hcommon, hprov, hres, maxCleanupResiduals]

theorem validateAgainst_eq_ok {r : SandboxCleanupReceipt} {expected : ExpectedSandboxAttestation}
    {createdProcess : Option ProcessIdentity} :
    r.validateAgainst expected createdProcess = .ok () ↔
      r.sessionId = expected.sessionId ∧ r.provisioningEpoch = expected.provisioningEpoch ∧
        r.provider = expected.provider ∧ r.policyDigest = expected.policyDigest ∧
        r.process = createdProcess ∧ r.validateForBoundary expected.boundary = .ok () := by
  unfold SandboxCleanupReceipt.validateAgainst
  split_ifs with h
  · simp only [false_iff]
    rintro ⟨h1, h2, h3, h4, h5, -⟩
    simp [h1, h2, h3, h4, h5] at h
  · simp only [not_or, ne_eq, not_not] at h
    simp [h]

/-- Evidence of a cleanup attempt that did not release ownership. -/
structure SandboxCleanupAttemptFailure where
  failure : SandboxFailure
  receipt : SandboxCleanupReceipt

/-! ### Lifecycle events -/

inductive SandboxLifecycleState where
  | requested | provisioning | targetCreatedSuspended | attestationAccepted | running | cleanup
  | closed | failed
  deriving DecidableEq

inductive ProviderUnavailableReason where
  | notInstalled | featureDisabled | administrativePolicy | unsupportedPolicy
  | resourceUnavailable | versionMismatch | backendOffline

structure ProviderUnavailable where
  sessionId : SessionId
  provider : SandboxProviderSelection
  reason : ProviderUnavailableReason
  retryable : Bool
  detail : DiagnosticText

inductive SandboxLifecycleEvent where
  | state (sessionId : SessionId) (state : SandboxLifecycleState)
  | attested (attestation : SandboxAttestation)
  | providerUnavailable (unavailable : ProviderUnavailable)
  | failed (failure : SandboxFailure)
  | cleanupAttemptFailed (attempt : SandboxCleanupAttemptFailure)
  | closed (receipt : SandboxCleanupReceipt)

end ReSymbol.Debugger
