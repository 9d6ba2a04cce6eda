import ReSymbol.Debugger.Identity

/-! Sandbox policies: what a launch asks of its provider, the checks that make a policy coherent,
    and the canonical digest that binds a policy to one artifact.

    A policy is admitted only when the selected provider can supply every guarantee it requires and
    the required boundary is the provider's own. The digest hashes a canonical byte string; the hash
    function itself is a parameter of the development (`Sha256`). -/

namespace ReSymbol.Debugger

/-- The SHA-256 implementation the debugger links against: 32 bytes for every input. -/
class Sha256 where
  finalize : List UInt8 → Vector UInt8 32

inductive IsolationBoundary where
  | userMode | hypervisor
  deriving DecidableEq

inductive SandboxGuarantee where
  | fileSystemRedirection | registryRedirection | disposableFileSystem | disposableRegistry
  | rollbackOnClose | networkDisabled | isolatedNetworkSimulation | resourceLimits
  | childProcessControl | processMitigations | jobAssignmentAtCreation | hypervisorBoundary
  deriving DecidableEq

/-- All guarantees in their declaration order, which is the iteration order of a set of them. -/
def SandboxGuarantee.all : List SandboxGuarantee :=
  [.fileSystemRedirection, .registryRedirection, .disposableFileSystem, .disposableRegistry,
   .rollbackOnClose, .networkDisabled, .isolatedNetworkSimulation, .resourceLimits,
   .childProcessControl, .processMitigations, .jobAssignmentAtCreation, .hypervisorBoundary]

/-- The members of a guarantee set in iteration order. -/
def guaranteeList (guarantees : Finset SandboxGuarantee) : List SandboxGuarantee :=
  SandboxGuarantee.all.filter (· ∈ guarantees)

@[simp] theorem mem_guaranteeList {guarantees : Finset SandboxGuarantee} {g : SandboxGuarantee} :
    g ∈ guaranteeList guarantees ↔ g ∈ guarantees := by
  simp only [guaranteeList, List.mem_filter, decide_eq_true_eq, and_iff_right_iff_imp]
  intro _
  cases g <;> decide

inductive SandboxNetworkMode where
  | disabled | isolatedSimulation
  deriving DecidableEq

inductive ProcessMitigationProfile where
  | strictV1 | compatibilityV1
  deriving DecidableEq

inductive ChildProcessProfile where
  | deny | sameSandboxOnly
  deriving DecidableEq

inductive DynamicCodeProfile where
  | prohibit | microsoftSignedOnly | allow
  deriving DecidableEq

inductive Win32kProfile where
  | disable | allow
  deriving DecidableEq

inductive ResourceLimitError where
  | memory | disk | processCount | cpuRate | wallClock
  deriving DecidableEq

structure SandboxResourceLimits where
  memoryBytes : UInt64
  diskBytes : UInt64
  activeProcessLimit : UInt32
  cpuRateBasisPoints : UInt16
  wallClockMillis : UInt64
  deriving DecidableEq

def SandboxResourceLimits.validate (r : SandboxResourceLimits) : Except ResourceLimitError Unit :=
  let mib : ℕ := 1024 * 1024
  let gib : ℕ := 1024 * mib
  if ¬ (32 * mib ≤ r.memoryBytes.toNat ∧ r.memoryBytes.toNat ≤ 128 * gib) then .error .memory
  else if ¬ (16 * mib ≤ r.diskBytes.toNat ∧ r.diskBytes.toNat ≤ 512 * gib) then .error .disk
  else if ¬ (1 ≤ r.activeProcessLimit.toNat ∧ r.activeProcessLimit.toNat ≤ 128) then
    .error .processCount
  else if ¬ (1 ≤ r.cpuRateBasisPoints.toNat ∧ r.cpuRateBasisPoints.toNat ≤ 10000) then
    .error .cpuRate
  else if ¬ (1000 ≤ r.wallClockMillis.toNat ∧ r.wallClockMillis.toNat ≤ 86400000) then
    .error .wallClock
  else .ok ()

inductive PolicyValidationError where
  | resource (error : ResourceLimitError)
  | rollbackRequired
  | approvalSessionMismatch
  | providerBoundaryMismatch
  | localSimulationUnsupported
  | strictProfileConflict
  | missingGuarantee (guarantee : SandboxGuarantee)
  | conflictingNetworkGuarantees
  | impossibleBoundaryGuarantee
  | reservedProviderId
  | emptyProviderGuarantees
  | missingVmIdentity
  | unexpectedVmIdentity
  | invalidVmChannelVersion
  | unsupportedGuarantee (guarantee : SandboxGuarantee)
  deriving DecidableEq

/-- Authenticated description of a registered provider. -/
structure SandboxProviderDescriptor where
  id : ProviderId
  boundary : IsolationBoundary
  guarantees : Finset SandboxGuarantee
  buildIdentity : HelperBuildId
  deriving DecidableEq

/-- `id.to_ascii_lowercase()` names a built-in provider. -/
def isReservedProviderId (id : String) : Bool :=
  id.map Char.toLower ∈ ["local-appcontainer", "windows-sandbox", "hyper-v"]

def SandboxProviderDescriptor.validate (d : SandboxProviderDescriptor) :
    Except PolicyValidationError Unit :=
  if d.guarantees = ∅ then .error .emptyProviderGuarantees
  else if isReservedProviderId d.id.value then .error .reservedProviderId
  else .ok ()

inductive SandboxProviderSelection where
  | localAppContainer
  | windowsSandbox
  | hyperV
  | registered (descriptor : SandboxProviderDescriptor)
  deriving DecidableEq

def providerBoundary : SandboxProviderSelection → IsolationBoundary
  | .localAppContainer => .userMode
  | .windowsSandbox => .hypervisor
  | .hyperV => .hypervisor
  | .registered descriptor => descriptor.boundary

/-- The guarantees a provider can give. -/
def providerSupports (provider : SandboxProviderSelection) (guarantee : SandboxGuarantee) : Bool :=
  match provider with
  | .localAppContainer =>
    guarantee ∈ [SandboxGuarantee.fileSystemRedirection, .registryRedirection, .rollbackOnClose,
      .networkDisabled, .resourceLimits, .childProcessControl, .processMitigations,
      .jobAssignmentAtCreation]
  | .windowsSandbox | .hyperV =>
    guarantee ∉ [SandboxGuarantee.fileSystemRedirection, .registryRedirection]
  | .registered descriptor => guarantee ∈ descriptor.guarantees

/-- Exact disposable-VM identity requested before any sample bytes are sent. -/
structure VmIsolationIdentity where
  sealedImageId : SealedImageId
  sealedImageDigest : SealedImageDigest
  differencingDiskId : DifferencingDiskId
  channelNonce : AuthenticatedChannelNonce
  channelProtocolVersion : UInt16
  guestAgentBuild : HelperBuildId
  deriving DecidableEq

def VmIsolationIdentity.validate (v : VmIsolationIdentity) : Except PolicyValidationError Unit :=
  if v.channelProtocolVersion = 0 then .error .invalidVmChannelVersion else .ok ()

structure SandboxPolicyApprovalId where
  sessionId : SessionId
  nonce : SandboxPolicyApprovalNonce
  deriving DecidableEq

structure SandboxPolicy where
  sessionId : SessionId
  policyApproval : SandboxPolicyApprovalId
  provider : SandboxProviderSelection
  requiredBoundary : IsolationBoundary
  requiredGuarantees : Finset SandboxGuarantee
  network : SandboxNetworkMode
  resources : SandboxResourceLimits
  processMitigations : ProcessMitigationProfile
  childProcesses : ChildProcessProfile
  dynamicCode : DynamicCodeProfile
  win32k : Win32kProfile
  rollbackOnClose : Bool
  vmIdentity : Option VmIsolationIdentity
  deriving DecidableEq

def requireGuarantee (guarantees : Finset SandboxGuarantee) (required : SandboxGuarantee) :
    Except PolicyValidationError Unit :=
  if required ∈ guarantees then .ok () else .error (.missingGuarantee required)

/-- The network guarantee a mode needs, and the one it contradicts. -/
def SandboxNetworkMode.guarantee : SandboxNetworkMode → SandboxGuarantee
  | .disabled => .networkDisabled
  | .isolatedSimulation => .isolatedNetworkSimulation

def SandboxNetworkMode.conflicting : SandboxNetworkMode → SandboxGuarantee
  | .disabled => .isolatedNetworkSimulation
  | .isolatedSimulation => .networkDisabled

/-- The guarantees each boundary adds, and the one it excludes. -/
def IsolationBoundary.requireGuarantees (boundary : IsolationBoundary)
    (guarantees : Finset SandboxGuarantee) : Except PolicyValidationError Unit :=
  match boundary with
  | .userMode => do
    requireGuarantee guarantees .fileSystemRedirection
    requireGuarantee guarantees .registryRedirection
    if .hypervisorBoundary ∈ guarantees then .error .impossibleBoundaryGuarantee else .ok ()
  | .hypervisor => do
    requireGuarantee guarantees .disposableFileSystem
    requireGuarantee guarantees .disposableRegistry
    requireGuarantee guarantees .hypervisorBoundary

/-- A VM identity is carried exactly by hypervisor policies. -/
def IsolationBoundary.checkVmIdentity :
    IsolationBoundary → Option VmIsolationIdentity → Except PolicyValidationError Unit
  | .userMode, none => .ok ()
  | .userMode, some _ => .error .unexpectedVmIdentity
  | .hypervisor, some identity => identity.validate
  | .hypervisor, none => .error .missingVmIdentity

/-- The first required guarantee, in iteration order, that the provider cannot supply. -/
def firstUnsupported (provider : SandboxProviderSelection) (guarantees : Finset SandboxGuarantee) :
    Option SandboxGuarantee :=
  (guaranteeList guarantees).find? (fun g => !providerSupports provider g)

/-- What a policy must satisfy before it is digested. -/
def SandboxPolicy.validate (p : SandboxPolicy) : Except PolicyValidationError Unit := do
  p.resources.validate.mapError .resource
  if !p.rollbackOnClose then .error .rollbackRequired
  if p.policyApproval.sessionId ≠ p.sessionId then .error .approvalSessionMismatch
  match p.provider with
  | .registered descriptor => descriptor.validate
  | _ => .ok ()
  if providerBoundary p.provider ≠ p.requiredBoundary then .error .providerBoundaryMismatch
  if p.provider = .localAppContainer ∧ p.network = .isolatedSimulation then
    .error .localSimulationUnsupported
  if p.processMitigations = .strictV1 ∧ (p.dynamicCode ≠ .prohibit ∨ p.win32k ≠ .disable) then
    .error .strictProfileConflict
  requireGuarantee p.requiredGuarantees .rollbackOnClose
  requireGuarantee p.requiredGuarantees .resourceLimits
  requireGuarantee p.requiredGuarantees .childProcessControl
  requireGuarantee p.requiredGuarantees .processMitigations
  requireGuarantee p.requiredGuarantees .jobAssignmentAtCreation
  requireGuarantee p.requiredGuarantees p.network.guarantee
  if p.network.conflicting ∈ p.requiredGuarantees then .error .conflictingNetworkGuarantees
  p.requiredBoundary.requireGuarantees p.requiredGuarantees
  p.requiredBoundary.checkVmIdentity p.vmIdentity
  match firstUnsupported p.provider p.requiredGuarantees with
  | some guarantee => .error (.unsupportedGuarantee guarantee)
  | none => .ok ()

/-! ### The canonical digest -/

namespace CanonicalPolicyDigest

/-- `value.to_le_bytes()` of a `width`-byte integer. -/
def littleEndian (width value : ℕ) : List UInt8 :=
  (List.range width).map fun i => UInt8.ofNat (value / 256 ^ i)

def text (value : String) : List UInt8 :=
  littleEndian 4 value.utf8ByteSize ++ value.toUTF8.toList

def boolean (value : Bool) : List UInt8 := [if value then 1 else 0]

def boundary : IsolationBoundary → List UInt8
  | .userMode => [1]
  | .hypervisor => [2]

def network : SandboxNetworkMode → List UInt8
  | .disabled => [1]
  | .isolatedSimulation => [2]

def mitigations : ProcessMitigationProfile → List UInt8
  | .strictV1 => [1]
  | .compatibilityV1 => [2]

def children : ChildProcessProfile → List UInt8
  | .deny => [1]
  | .sameSandboxOnly => [2]

def dynamicCode : DynamicCodeProfile → List UInt8
  | .prohibit => [1]
  | .microsoftSignedOnly => [2]
  | .allow => [3]

def win32k : Win32kProfile → List UInt8
  | .disable => [1]
  | .allow => [2]

def guarantee : SandboxGuarantee → UInt8
  | .fileSystemRedirection => 1
  | .registryRedirection => 2
  | .disposableFileSystem => 3
  | .disposableRegistry => 4
  | .rollbackOnClose => 5
  | .networkDisabled => 6
  | .isolatedNetworkSimulation => 7
  | .resourceLimits => 8
  | .childProcessControl => 9
  | .processMitigations => 10
  | .jobAssignmentAtCreation => 11
  | .hypervisorBoundary => 12

def guarantees (values : Finset SandboxGuarantee) : List UInt8 :=
  littleEndian 4 values.card ++ (guaranteeList values).map guarantee

def provider : SandboxProviderSelection → List UInt8
  | .localAppContainer => [1]
  | .windowsSandbox => [2]
  | .hyperV => [3]
  | .registered descriptor =>
    [4] ++ text descriptor.id.value ++ boundary descriptor.boundary ++
      guarantees descriptor.guarantees ++ text descriptor.buildIdentity.value

def vmIdentity : Option VmIsolationIdentity → List UInt8
  | some identity =>
    boolean true ++ text identity.sealedImageId.value ++ text identity.sealedImageDigest.value ++
      text identity.differencingDiskId.value ++ text identity.channelNonce.value ++
      littleEndian 2 identity.channelProtocolVersion.toNat ++ text identity.guestAgentBuild.value
  | none => boolean false

/-- One hexadecimal digit of `0123456789abcdef`. -/
def hexDigit (n : ℕ) : Char := Char.ofNat (if n < 10 then 48 + n else 87 + n)

/-- The digits written for one byte by the format `02x`. -/
def hexByte (byte : UInt8) : List Char := [hexDigit (byte.toNat / 16), hexDigit (byte.toNat % 16)]

theorem isLowerHex_hexDigit : ∀ n < 16, isLowerHex (hexDigit n) = true := by decide

/-- Each byte is written as two lowercase digits. -/
theorem hexByte_valid (byte : UInt8) :
    (hexByte byte).length = 2 ∧ (hexByte byte).all isLowerHex = true := by
  have hb : byte.toNat < 256 := byte.toNat_lt
  have hhi := isLowerHex_hexDigit (byte.toNat / 16) (by omega)
  have hlo := isLowerHex_hexDigit (byte.toNat % 16) (by omega)
  exact ⟨rfl, by simp [hexByte, hhi, hlo]⟩

theorem flatMap_hexByte_valid (bytes : List UInt8) :
    (bytes.flatMap hexByte).length = 2 * bytes.length ∧
      (bytes.flatMap hexByte).all isLowerHex = true := by
  induction bytes with
  | nil => simp
  | cons b bs ih =>
    obtain ⟨hlen, hall⟩ := hexByte_valid b
    rw [List.flatMap_cons, List.length_append, List.all_append, hlen, hall, ih.1, ih.2]
    exact ⟨by rw [List.length_cons]; omega, rfl⟩

/-- The hexadecimal digest: 32 hashed bytes are 64 lowercase digits, so the source's `expect` on
    the digest text never fires. -/
def finish [Sha256] (canonical : List UInt8) : PolicyDigest where
  value := String.ofList ((Sha256.finalize canonical).toList.flatMap hexByte)
  valid := by
    obtain ⟨hlen, hall⟩ := flatMap_hexByte_valid (Sha256.finalize canonical).toList
    refine ⟨?_, by simpa using hall⟩
    rw [String.length_ofList, hlen, Vector.length_toList]

/-- The canonical v1 byte string of a policy for one artifact. -/
def canonical (p : SandboxPolicy) (binaryId : BinaryId) : List UInt8 :=
  text "resymbol-sandbox-policy" ++ littleEndian 2 1 ++ text binaryId.value ++
    littleEndian 8 p.sessionId.val ++ text p.policyApproval.nonce.value ++ provider p.provider ++
    boundary p.requiredBoundary ++ guarantees p.requiredGuarantees ++ network p.network ++
    littleEndian 8 p.resources.memoryBytes.toNat ++ littleEndian 8 p.resources.diskBytes.toNat ++
    littleEndian 4 p.resources.activeProcessLimit.toNat ++
    littleEndian 2 p.resources.cpuRateBasisPoints.toNat ++
    littleEndian 8 p.resources.wallClockMillis.toNat ++ mitigations p.processMitigations ++
    children p.childProcesses ++ dynamicCode p.dynamicCode ++ win32k p.win32k ++
    boolean p.rollbackOnClose ++ vmIdentity p.vmIdentity

end CanonicalPolicyDigest

/-- The hash that an attestation has to repeat. -/
def SandboxPolicy.digest [Sha256] (p : SandboxPolicy) (binaryId : BinaryId) :
    Except PolicyValidationError PolicyDigest := do
  p.validate
  return CanonicalPolicyDigest.finish (CanonicalPolicyDigest.canonical p binaryId)

end ReSymbol.Debugger
