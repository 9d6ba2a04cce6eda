import ReSymbol.Schemes.Reducer

/-! Identities shared by the debugger protocol, the sandbox contracts and the reducers.

    Every identifier type of the source is a validated newtype with a private constructor, so each
    one here carries the fact its constructor checks: numeric identifiers are nonzero machine
    integers, nonces and digests are 64 lowercase hexadecimal characters, bounded identifiers pass
    `validateIdentifier`. Identifier types that differ only in name are one structure with a tag. -/

namespace ReSymbol.Debugger

/-! ### Nonzero numeric identifiers -/

/-- The numeric identifier types of the protocol. -/
inductive IdKind where
  | session | command | eventSequence | stateGeneration | stop | run | process | processStartKey
  | thread | breakpoint | snapshot

/-- Width of the machine integer behind an identifier type. -/
def IdKind.bits : IdKind → ℕ
  | .process => 32
  | .thread => 32
  | _ => 64

/-- A nonzero machine integer tagged with what it identifies. -/
structure NonzeroId (kind : IdKind) where
  val : ℕ
  ne_zero : val ≠ 0
  lt : val < 2 ^ kind.bits
  deriving DecidableEq

@[ext] theorem NonzeroId.ext {kind : IdKind} {a b : NonzeroId kind}
    (h : a.val = b.val) : a = b := by
  cases a; cases b; simpa using h

/-- Identifiers are written as literals; one that is too wide for its type writes 1. -/
instance NonzeroId.instOfNat {kind : IdKind} {n : ℕ} : OfNat (NonzeroId kind) (n + 1) where
  ofNat := {
    val := if n + 1 < 2 ^ kind.bits then n + 1 else 1
    ne_zero := by split <;> simp
    lt := by
      split
      · assumption
      · cases kind <;> simp [IdKind.bits] }

abbrev SessionId := NonzeroId .session
abbrev CommandId := NonzeroId .command
abbrev EventSequence := NonzeroId .eventSequence
abbrev StateGeneration := NonzeroId .stateGeneration
abbrev StopId := NonzeroId .stop
abbrev RunId := NonzeroId .run
abbrev ProcessId := NonzeroId .process
abbrev ProcessStartKey := NonzeroId .processStartKey
abbrev ThreadId := NonzeroId .thread
abbrev BreakpointId := NonzeroId .breakpoint
abbrev SnapshotId := NonzeroId .snapshot

instance {kind : IdKind} : Ord (NonzeroId kind) := ⟨fun a b => compare a.val b.val⟩

instance {kind : IdKind} : Std.TransOrd (NonzeroId kind) where
  eq_swap := Std.OrientedOrd.eq_swap (α := ℕ)
  isLE_trans := Std.TransOrd.isLE_trans (α := ℕ)

instance {kind : IdKind} : Std.LawfulEqOrd (NonzeroId kind) where
  eq_of_compare h := NonzeroId.ext (Std.LawfulEqOrd.eq_of_compare (α := ℕ) h)

/-- Largest `u64`. -/
def u64Max : ℕ := 2 ^ 64 - 1

/-- `u64::checked_add`. -/
def checkedAdd (a b : ℕ) : Option ℕ := (Schemes.bounded 64 (a + b) ()).toOption

@[simp] theorem checkedAdd_eq_some {a b c : ℕ} :
    checkedAdd a b = some c ↔ a + b = c ∧ c < 2 ^ 64 := by
  unfold checkedAdd Schemes.bounded
  split
  · simp [Except.toOption]; omega
  · simp [Except.toOption]; omega

/-! ### Lowercase hexadecimal identities -/

/-- The 64-character lowercase hexadecimal identity types. -/
inductive HexKind where
  | binaryId | hostRiskLeaseId | sandboxOwnershipLeaseId | provisioningEpoch | policyDigest
  | sealedImageDigest | authenticatedChannelNonce

/-- `matches!(byte, b'0'..=b'9' | b'a'..=b'f')`. -/
def isLowerHex (c : Char) : Bool := ('0' ≤ c && c ≤ '9') || ('a' ≤ c && c ≤ 'f')

/-- A validated 256-bit identity in its textual form. -/
structure LowerHex (kind : HexKind) where
  value : String
  valid : value.length = 64 ∧ value.toList.all isLowerHex = true
  deriving DecidableEq

@[ext] theorem LowerHex.ext {kind : HexKind} {a b : LowerHex kind} (h : a.value = b.value) :
    a = b := by
  cases a; cases b; simpa using h

abbrev BinaryId := LowerHex .binaryId
abbrev HostRiskLeaseId := LowerHex .hostRiskLeaseId
abbrev SandboxOwnershipLeaseId := LowerHex .sandboxOwnershipLeaseId
abbrev ProvisioningEpoch := LowerHex .provisioningEpoch
abbrev PolicyDigest := LowerHex .policyDigest
abbrev SealedImageDigest := LowerHex .sealedImageDigest
abbrev AuthenticatedChannelNonce := LowerHex .authenticatedChannelNonce

instance {kind : HexKind} : Ord (LowerHex kind) := ⟨fun a b => compare a.value b.value⟩

instance {kind : HexKind} : Std.TransOrd (LowerHex kind) where
  eq_swap := Std.OrientedOrd.eq_swap (α := String)
  isLE_trans := Std.TransOrd.isLE_trans (α := String)

instance {kind : HexKind} : Std.LawfulEqOrd (LowerHex kind) where
  eq_of_compare h := LowerHex.ext (Std.LawfulEqOrd.eq_of_compare (α := String) h)

/-! ### Bounded identifiers and texts -/

inductive BoundedValueError where
  | empty (field : String)
  | tooLong (field : String) (maximum : ℕ)
  | invalidCharacter (field : String)
  deriving DecidableEq

/-- A byte admitted in a bounded identifier. All of them are ASCII, so the test on characters is
    the test on bytes. -/
def isIdentifierChar (c : Char) : Bool := c.isAlphanum || c ∈ ['-', '_', '.', ':', '+']

def validateIdentifier (value field : String) (maximum : ℕ) : Except BoundedValueError Unit :=
  if value.isEmpty then .error (.empty field)
  else if value.utf8ByteSize > maximum then .error (.tooLong field maximum)
  else if !value.toList.all isIdentifierChar then .error (.invalidCharacter field)
  else .ok ()

/-- An identifier that passed `validateIdentifier` for its field. -/
structure BoundedIdentifier (field : String) (maximum : ℕ) where
  value : String
  valid : validateIdentifier value field maximum = .ok ()
  deriving DecidableEq

abbrev ProviderId := BoundedIdentifier "provider id" 96
abbrev SandboxPolicyApprovalNonce := BoundedIdentifier "sandbox policy approval id" 128
abbrev HelperBuildId := BoundedIdentifier "helper build id" 128
abbrev CleanupReceiptId := BoundedIdentifier "cleanup receipt id" 128
abbrev SealedImageId := BoundedIdentifier "sealed image id" 128
abbrev DifferencingDiskId := BoundedIdentifier "differencing disk id" 128

/-- `char::is_control`: the general category Cc. -/
def isControl (c : Char) : Bool := c.toNat < 0x20 || (0x7f ≤ c.toNat && c.toNat ≤ 0x9f)

/-- `char::is_whitespace`: the Unicode property White_Space. -/
def isWhitespace (c : Char) : Bool :=
  (9 ≤ c.toNat && c.toNat ≤ 13) || (0x2000 ≤ c.toNat && c.toNat ≤ 0x200a) ||
    c.toNat ∈ [0x20, 0x85, 0xa0, 0x1680, 0x2028, 0x2029, 0x202f, 0x205f, 0x3000]

/-- `text.trim().is_empty()`. -/
def trimmedEmpty (text : String) : Bool := text.toList.all isWhitespace

def maxDiagnosticBytes : ℕ := 512

def DiagnosticText.check (value : String) : Except BoundedValueError Unit :=
  if value.isEmpty then .error (.empty "diagnostic")
  else if value.utf8ByteSize > maxDiagnosticBytes then
    .error (.tooLong "diagnostic" maxDiagnosticBytes)
  else if value.toList.any isControl then .error (.invalidCharacter "diagnostic")
  else .ok ()

/-- Bounded single-line diagnostic detail. -/
structure DiagnosticText where
  value : String
  valid : DiagnosticText.check value = .ok ()

/-! ### Processes and tokens -/

/-- One concrete process instance, not merely a reusable PID. -/
structure ProcessIdentity where
  processId : ProcessId
  startKey : ProcessStartKey
  binaryId : BinaryId
  deriving DecidableEq

structure StateToken where
  sessionId : SessionId
  generation : StateGeneration
  deriving DecidableEq

structure StopToken where
  state : StateToken
  stopId : StopId
  deriving DecidableEq

structure RunToken where
  state : StateToken
  runId : RunId
  deriving DecidableEq

inductive AttachMode where
  | debug | observeReadOnly | snapshot
  deriving DecidableEq

/-- A target address: a `u64`. -/
structure MemoryAddress where
  val : ℕ
  lt : val < 2 ^ 64
  deriving DecidableEq

/-- Addresses are written as literals, wrapped to 64 bits. -/
instance MemoryAddress.instOfNat {n : ℕ} : OfNat MemoryAddress n where
  ofNat := ⟨n % 2 ^ 64, Nat.mod_lt _ (by decide)⟩

/-- A session and a process to instantiate results at. -/
def sampleSession : SessionId := 1

def sampleProcess : ProcessIdentity where
  processId := 7
  startKey := 11
  binaryId := ⟨"00000000000000000000000000000000000000000000000000000000000000aa", by decide⟩

/-- The stop token of the sample session with a generation and a stop id. -/
def sampleStop (generation : StateGeneration) (stopId : StopId) : StopToken :=
  ⟨⟨sampleSession, generation⟩, stopId⟩

end ReSymbol.Debugger
