import ReSymbol.Debugger.Events
import ReSymbol.Schemes.Triples

/-! The live compare-before-write transaction.

    The bytes of a code span are replaced only where they are what the caller expects: the page is
    made writable, the bytes are compared once more, replaced, flushed from the instruction cache,
    and the protection is put back. Each call can fail, and from the first write on every failure
    runs a recovery that checks the target again before it touches it.

        compare ─▶ protect ─▶ compare ─▶ write ─▶ flush ─▶ restore ─▶ verify ─▶ identity
                     │           │         │        │         │          │          │
                     ▼           ▼         └────────┴────┬────┴──────────┴──────────┘
               no write attempted                   recover: restored / indeterminate -/

namespace ReSymbol.LiveAccess
open Schemes Schemes.Reducer Debugger

/-! ### Errors -/

inductive MutationStage where
  | changeProtection | protectionRace | revalidateExpectedBytes | writeReplacement
  | flushReplacement | restoreProtection | verifyReplacement | validateFinalBinding

inductive MutationRecovery where
  | noWriteAttempted (protectionRestored : Bool)
  | restored
  | indeterminate (bytesRestored instructionCacheFlushed protectionRestored : Bool)

inductive AccessRequestError where
  | emptyWrite
  | writeTooLarge (actual maximum : ℕ)
  | writeLengthMismatch (expected replacement : ℕ)
  | noopWrite

/-- The errors this transaction and its caller make themselves. What the operating system calls
    report is kept by its text, which is all that is read of it. -/
inductive LiveAccessError where
  | invalidRequest (error : AccessRequestError)
  | rvaRange (error : LiveTargetBindingError)
  | compareMismatch (rva size : ℕ)
  | mutationFailed (stage : MutationStage) (failure : String) (recovery : MutationRecovery)
  | operation (display : String)

/-! ### Operations on the target -/

/-- `PAGE_EXECUTE_READWRITE`. -/
def pageExecuteReadwrite : UInt32 := 0x40

structure WritableCodeRegion where
  protection : UInt32

/-- What a transaction can ask of its target; an error carries the text it is reported with. -/
structure MutationOperations (σ : Type) where
  ensureExactBinding (expected : LiveTargetBinding) : Reducer σ String Unit
  readExact (address size : ℕ) : Reducer σ String (List UInt8)
  writableCodeRegion (expected : LiveTargetBinding) (address size : ℕ) :
    Reducer σ String WritableCodeRegion
  protect (address size : ℕ) (protection : UInt32) : Reducer σ String UInt32
  writeExact (address : ℕ) (bytes : List UInt8) : Reducer σ String Unit
  flush (address size : ℕ) : Reducer σ String Unit
  restore (address size : ℕ) (protection : UInt32) : Reducer σ String Unit

section Transaction

variable {σ ε : Type} (operations : MutationOperations σ) (binding : LiveTargetBinding)
  (address : ℕ)

/-- An operation whose failure is reported as it is. -/
def propagate {α : Type} (x : Reducer σ String α) : Reducer σ LiveAccessError α :=
  within id (fun s _ => s) .operation x

/-- The exact binding is still there and its region has this protection. -/
def protectionIs (size : ℕ) (protection : UInt32) : Reducer σ ε Bool :=
  andThen (isOk (operations.ensureExactBinding binding))
    (isOkAnd (operations.writableCodeRegion binding address size) (·.protection = protection))

def restorePrewriteProtection (size : ℕ) (originalProtection : UInt32) : Reducer σ ε Bool :=
  andThen (protectionIs operations binding address size pageExecuteReadwrite)
    (andThen (isOk (operations.restore address size originalProtection))
      (protectionIs operations binding address size originalProtection))

def indeterminateRecovery : MutationRecovery := .indeterminate false false false

/-- The end of a recovery, from the write of the original bytes on: flush, put the protection back
    by the same checks as before a write, read the bytes back. -/
def settleRecovery (expected : List UInt8) (originalProtection : UInt32) (wrote : Bool) :
    Reducer σ ε MutationRecovery := do
  let flushed ← andThen (pure wrote)
    (andThen (protectionIs operations binding address expected.length pageExecuteReadwrite)
      (isOk (operations.flush address expected.length)))
  let protectionRestored ← restorePrewriteProtection operations binding address expected.length
    originalProtection
  let bytesRestored ← andThen (pure wrote)
    (andThen (isOk (operations.ensureExactBinding binding))
      (andThen (isOk (operations.writableCodeRegion binding address expected.length))
        (isOkAnd (operations.readExact address expected.length) (· = expected))))
  return if bytesRestored && flushed && protectionRestored then .restored
    else .indeterminate bytesRestored flushed protectionRestored

/-- Make the page writable for the recovery, unless the transaction left it so. -/
def makeWritable (size : ℕ) (originalProtection : UInt32) (protectionIsChanged : Bool) :
    Reducer σ ε Bool := do
  if protectionIsChanged then return true
  match ← attempt (operations.protect address size pageExecuteReadwrite) with
  | .ok observed =>
    if observed = originalProtection then return true
    else
      let _restored ← isOk (operations.restore address size observed)
      return false
  | .error _ => return false

def recoverOriginalBytesChecked (expected : List UInt8) (originalProtection : UInt32)
    (protectionIsChanged : Bool) : Reducer σ ε MutationRecovery := do
  let writable ← makeWritable operations address expected.length originalProtection
    protectionIsChanged
  if ← andThen (pure writable)
      (protectionIs operations binding address expected.length pageExecuteReadwrite) then
    let wrote ← isOk (operations.writeExact address expected)
    settleRecovery operations binding address expected originalProtection wrote
  else return indeterminateRecovery

/-- Recovers only a page whose protection is as it was left. -/
def recoverOriginalBytes (expected : List UInt8) (originalProtection : UInt32)
    (protectionMayBeChanged : Bool) : Reducer σ ε MutationRecovery := do
  match ← attempt (operations.ensureExactBinding binding) with
  | .error _ => return indeterminateRecovery
  | .ok _ =>
  match ← attempt (operations.writableCodeRegion binding address expected.length) with
  | .error _ => return indeterminateRecovery
  | .ok region =>
    if protectionMayBeChanged && region.protection = pageExecuteReadwrite then
      recoverOriginalBytesChecked operations binding address expected originalProtection true
    else if region.protection = originalProtection then
      recoverOriginalBytesChecked operations binding address expected originalProtection false
    else return indeterminateRecovery

/-- End the transaction after undoing only the protection change. -/
def failPrewrite {α : Type} (size : ℕ) (originalProtection : UInt32) (stage : MutationStage)
    (failure : String) : Reducer σ LiveAccessError α := do
  let protectionRestored ← restorePrewriteProtection operations binding address size
    originalProtection
  raise (.mutationFailed stage failure (.noWriteAttempted protectionRestored))

/-- End the transaction after recovering the bytes. -/
def failRecovering {α : Type} (expected : List UInt8) (originalProtection : UInt32)
    (protectionMayBeChanged : Bool) (stage : MutationStage) (failure : String) :
    Reducer σ LiveAccessError α := do
  let recovery ← recoverOriginalBytes operations binding address expected originalProtection
    protectionMayBeChanged
  raise (.mutationFailed stage failure recovery)

/-- The writes of a transaction, once the page is writable and the bytes were compared again. -/
def replaceBytes (expected replacement : List UInt8) (originalProtection : UInt32) :
    Reducer σ LiveAccessError Unit := do
  let fail (stage : MutationStage) (mayBeChanged : Bool) (failure : String) :
      Reducer σ LiveAccessError Unit :=
    failRecovering operations binding address expected originalProtection mayBeChanged stage failure
  match ← attempt (operations.writeExact address replacement) with
  | .error error => fail .writeReplacement true error
  | .ok _ =>
  match ← attempt (operations.flush address replacement.length) with
  | .error error => fail .flushReplacement true error
  | .ok _ =>
  match ← attempt (operations.restore address replacement.length originalProtection) with
  | .error error => fail .restoreProtection true error
  | .ok _ =>
  match ← attempt (operations.readExact address replacement.length) with
  | .error error => fail .verifyReplacement false error
  | .ok readback =>
  if readback ≠ replacement then
    fail .verifyReplacement false "replacement readback did not match"
  else match ← attempt (operations.ensureExactBinding binding) with
  | .error error => fail .validateFinalBinding false error
  | .ok _ => return ()

/-- Compares, writes, checks, and recovers on failure. -/
def compareBeforeWriteTransaction (rva : ℕ) (expected replacement : List UInt8) :
    Reducer σ LiveAccessError Unit := do
  let actual ← propagate (operations.readExact address expected.length)
  refuse (actual ≠ expected) (.compareMismatch rva expected.length)
  propagate (operations.ensureExactBinding binding)
  let region ← propagate (operations.writableCodeRegion binding address expected.length)
  match ← attempt (operations.protect address expected.length pageExecuteReadwrite) with
  | .error error =>
    let protectionRestored ← protectionIs operations binding address expected.length
      region.protection
    raise (.mutationFailed .changeProtection error (.noWriteAttempted protectionRestored))
  | .ok originalProtection =>
  if originalProtection ≠ region.protection then
    failPrewrite operations binding address expected.length originalProtection .protectionRace
      ("queried protection " ++ hex region.protection.toNat ++ " changed to " ++
        hex originalProtection.toNat)
  else match ← attempt (operations.readExact address expected.length) with
  | .error error =>
    failPrewrite operations binding address expected.length originalProtection
      .revalidateExpectedBytes error
  | .ok actual =>
  if actual ≠ expected then
    failPrewrite operations binding address expected.length originalProtection
      .revalidateExpectedBytes "live bytes changed after the initial comparison"
  else replaceBytes operations binding address expected replacement originalProtection

end Transaction

/-! ### The caller -/

/-- Both sides are given, bounded, of one length, and differ. -/
def validateWriteRequest (expected replacement : List UInt8) : Except AccessRequestError Unit :=
  if expected.isEmpty then .error .emptyWrite
  else if expected.length > maxMemoryWriteBytes then
    .error (.writeTooLarge expected.length maxMemoryWriteBytes)
  else if expected.length ≠ replacement.length then
    .error (.writeLengthMismatch expected.length replacement.length)
  else if expected = replacement then .error .noopWrite
  else .ok ()

structure WriteReceipt where
  binding : LiveTargetBinding
  rva : ℕ
  bytesWritten : ℕ

/-- The public call: checks, then the transaction. -/
def compareBeforeWriteRva {σ : Type} (operations : MutationOperations σ)
    (binding : LiveTargetBinding) (rva : ℕ) (expected replacement : List UInt8) :
    Reducer σ LiveAccessError WriteReceipt := do
  lift ((validateWriteRequest expected replacement).mapError .invalidRequest)
  propagate (operations.ensureExactBinding binding)
  let address ← lift ((binding.addressForRvaSpan rva expected.length).mapError .rvaRange)
  compareBeforeWriteTransaction operations binding address.val rva expected replacement
  return ⟨binding, rva, replacement.length⟩

/-! ### Evidence for the protocol -/

def MutationStage.protocolStage : MutationStage → MemoryWriteStage
  | .changeProtection => .changeProtection
  | .protectionRace => .protectionRace
  | .revalidateExpectedBytes => .revalidateExpectedBytes
  | .writeReplacement => .writeReplacement
  | .flushReplacement => .flushReplacement
  | .restoreProtection => .restoreProtection
  | .verifyReplacement => .verifyReplacement
  | .validateFinalBinding => .validateFinalBinding

def MutationRecovery.protocolRecovery : MutationRecovery → MemoryWriteRecovery
  | .noWriteAttempted protectionRestored => .noWriteAttempted protectionRestored
  | .restored => .restored
  | .indeterminate bytesRestored instructionCacheFlushed protectionRestored =>
    .indeterminate bytesRestored instructionCacheFlushed protectionRestored

def blankControl (c : Char) : Char := if isControl c then ' ' else c

/-- The characters of a detail with control characters blanked, as long as their bytes fit. -/
def boundDetail (room : ℕ) : List Char → List Char
  | [] => []
  | c :: rest =>
    if (blankControl c).utf8Size > room then []
    else blankControl c :: boundDetail (room - (blankControl c).utf8Size) rest

def boundedProtocolDetail (detail : String) : String :=
  let bounded := String.ofList (boundDetail maxReasonBytes detail.toList)
  if trimmedEmpty bounded then "live memory mutation failed without diagnostic detail" else bounded

def LiveAccessError.toMemoryWriteFailure (error : LiveAccessError) (stop : StopToken)
    (address : MemoryAddress) (size : ℕ) :
    Except ProtocolValidationError (Option MemoryWriteFailure) :=
  match error with
  | .mutationFailed stage failure recovery =>
    if size > maxMemoryWriteBytes then .error (.memoryWriteTooLarge size maxMemoryWriteBytes)
    else do
      let evidence : MemoryWriteFailure :=
        { stop, address
          size := UInt32.ofNat size
          stage := stage.protocolStage
          recovery := recovery.protocolRecovery
          detail := boundedProtocolDetail failure }
      evidence.validate
      return some evidence
  | _ => .ok none

/-- Evidence repeats the recovery of the mutation failure it was made from. -/
theorem toMemoryWriteFailure_eq_some {error : LiveAccessError} {stop : StopToken}
    {address : MemoryAddress} {size : ℕ} {evidence : MemoryWriteFailure}
    (h : error.toMemoryWriteFailure stop address size = .ok (some evidence)) :
    ∃ stage failure recovery, error = .mutationFailed stage failure recovery ∧
      evidence.recovery = recovery.protocolRecovery := by
  cases error with
  | mutationFailed stage failure recovery =>
    refine ⟨stage, failure, recovery, rfl, ?_⟩
    simp only [LiveAccessError.toMemoryWriteFailure] at h
    split at h
    · cases h
    · obtain ⟨-, -, h⟩ := except_bind_eq_ok.mp h
      cases h
      rfl
  | _ => cases h

end ReSymbol.LiveAccess
