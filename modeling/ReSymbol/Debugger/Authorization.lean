import ReSymbol.Debugger.Commands

/-! One-use authority for live operations, as the session reducer sees it.

    A verifier is what a registered lease is compared with: a host-risk verifier names the exact
    operation the user approved, a sandbox-ownership verifier the exact process a provider owns.
    Commands carry only the lease id. How leases are minted (entropy, hashing) is not modelled. -/

namespace ReSymbol.Debugger

/-- Exact description of one approved host launch. -/
structure HostLaunchIntent where
  binaryId : BinaryId
  executable : PathBuf
  arguments : List String
  workingDirectory : Option PathBuf
  stopBeforeEntry : Bool
  deriving DecidableEq

inductive HostLaunchIntentError where
  | sandboxedTarget

namespace HostLaunchIntent

def fromTarget (target : LaunchTarget) : Except HostLaunchIntentError HostLaunchIntent :=
  match target.environment with
  | .sandboxed _ => .error .sandboxedTarget
  | .host _ => .ok
      { binaryId := target.binaryId
        executable := target.executable
        arguments := target.arguments
        workingDirectory := target.workingDirectory
        stopBeforeEntry := target.stopBeforeEntry }

end HostLaunchIntent

inductive HostRiskOperation where
  | launch (intent : HostLaunchIntent)
  | attach (process : ProcessIdentity) (mode : AttachMode)
  deriving DecidableEq

/-- Comparison record of one host-risk lease. -/
structure HostRiskVerifier where
  id : HostRiskLeaseId
  sessionId : SessionId
  provisioningEpoch : ProvisioningEpoch
  operation : HostRiskOperation
  deriving DecidableEq

/-- Provider proof that one exact process belongs to one exact provisioning instance. -/
structure SandboxOwnershipBinding where
  sessionId : SessionId
  process : ProcessIdentity
  mode : AttachMode
  provider : SandboxProviderSelection
  policyDigest : PolicyDigest
  provisioningEpoch : ProvisioningEpoch
  deriving DecidableEq

/-- Comparison record of one sandbox-ownership lease. -/
structure SandboxOwnershipVerifier where
  id : SandboxOwnershipLeaseId
  binding : SandboxOwnershipBinding
  deriving DecidableEq

end ReSymbol.Debugger
