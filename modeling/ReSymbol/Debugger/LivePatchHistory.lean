import ReSymbol.Debugger.Events

/-! The live patch history: a bounded, receipt-driven undo stack for compare-before-write patches.

    An operation is reserved, marked for dispatch, and then resolved by evidence. Only an exact
    successful receipt pushes or pops an entry; evidence that is unknown or contradictory freezes
    the history for good.

        ready ──begin──▶ reserved ──mark──▶ dispatched ──receipt──▶ ready (pushed, popped, as was)
          ◀──cancel──────────┘                    └──mismatch / unknown──▶ frozen

    `expect`, the debug assertions and machine-integer overflow are modelled as panics. -/

namespace ReSymbol.Debugger
open Schemes Schemes.Reducer

def maxLivePatchHistoryEntries : ℕ := 256
def maxLivePatchHistoryStoredBytes : ℕ := 1024 * 1024

/-- Largest `usize` of a 64-bit host. -/
def usizeMax : ℕ := 2 ^ 64 - 1

structure LivePatchEntry where
  address : MemoryAddress
  before : List UInt8
  after : List UInt8
  appliedStop : StopToken
  resultingStop : StopToken
  commandId : CommandId

def LivePatchEntry.storedBytes (e : LivePatchEntry) : ℕ := e.before.length + e.after.length

inductive LivePatchOperationKind where
  | forwardWrite | undo

inductive LivePatchOperationPhase where
  | reserved | dispatched
  deriving DecidableEq

structure PendingLivePatchOperation where
  kind : LivePatchOperationKind
  phase : LivePatchOperationPhase
  stop : StopToken
  address : MemoryAddress
  expected : List UInt8
  replacement : List UInt8

namespace PendingLivePatchOperation

def command (p : PendingLivePatchOperation) : DebugCommand :=
  .writeMemory p.stop p.address p.expected p.replacement

end PendingLivePatchOperation

inductive LivePatchReceiptMismatch where
  | nonMonotonicCommandId (previous actual : CommandId)
  | sessionDrift | targetDrift | emptyReceipt | eventCorrelation | eventSession
  | commandResultCount | commandResultMismatch | commandResultNotLast
  | duplicateWriteEvidence | duplicateFailureEvidence
  | writeEvidenceMismatch | failureEvidenceMismatch | stateEvidenceMismatch
  | contradictoryWriteEvidence | missingSuccessEvidence | failureReportedAsSuccess
  | unexpectedSuccessEffect | reservedFailureCodeWithoutEvidence | rejectionProducedEffect
  | safeFailureProducedStateChange | indeterminateStateEvidenceMismatch

inductive LivePatchFreezeCause where
  | transportOutcomeUnknown
  | indeterminateWrite (failure : MemoryWriteFailure)
  | receiptMismatch (mismatch : LivePatchReceiptMismatch)

structure LivePatchFreezeEvidence where
  pending : PendingLivePatchOperation
  receiptCommandId : Option CommandId
  cause : LivePatchFreezeCause

inductive LivePatchResolution where
  | forwardCommitted (entry : LivePatchEntry)
  | undoCommitted (entry : LivePatchEntry)
  | rejectedNoEffect
  | frozen

inductive LivePatchHistoryError where
  | inspectionOnly | operationPending | noPendingOperation | operationAlreadyDispatched
  | operationNotDispatched | cannotCancelDispatched
  | duplicateReceipt (commandId : CommandId)
  | outOfOrderReceipt (last received : CommandId)
  | nothingToUndo | sessionDrift | targetDrift | stopSessionDrift | nonMonotonicStopToken
  | emptyPatch
  | lengthMismatch (before after : ℕ)
  | unchangedPatch
  | patchTooLarge (actual maximum : ℕ)
  | invalidImageSpan (error : LiveTargetBindingError)
  | entryLimit (maximum : ℕ)
  | byteLimit (actual maximum : ℕ)

structure LivePatchHistory where
  sessionId : SessionId
  binding : LiveTargetBinding
  entries : List LivePatchEntry
  storedBytes : ℕ
  lastStop : Option StopToken
  lastReceiptCommandId : Option CommandId
  pending : Option PendingLivePatchOperation
  freezeEvidence : Option LivePatchFreezeEvidence

abbrev HistoryReducer := Reducer LivePatchHistory (Fault LivePatchHistoryError)

namespace LivePatchHistory

def new (sessionId : SessionId) (binding : LiveTargetBinding) : LivePatchHistory where
  sessionId := sessionId
  binding := binding
  entries := []
  storedBytes := 0
  lastStop := none
  lastReceiptCommandId := none
  pending := none
  freezeEvidence := none

def isInspectionOnly (h : LivePatchHistory) : Bool := h.freezeEvidence.isSome

/-! ### Checks -/

/-- Generation and stop id both stay, or both advance. -/
def coherentStop (previous stop : StopToken) : Bool :=
  match compare stop.state.generation.val previous.state.generation.val,
    compare stop.stopId.val previous.stopId.val with
  | .eq, .eq => true
  | .gt, .gt => true
  | _, _ => false

/-- Idle, and asked under the session, binding and stop it is for. -/
def requireReadyContext (h : LivePatchHistory) (sessionId : SessionId)
    (binding : LiveTargetBinding) (stop : StopToken) : Except LivePatchHistoryError Unit :=
  if h.freezeEvidence.isSome then .error .inspectionOnly
  else if h.pending.isSome then .error .operationPending
  else if sessionId ≠ h.sessionId then .error .sessionDrift
  else if binding ≠ h.binding then .error .targetDrift
  else if stop.state.sessionId ≠ h.sessionId then .error .stopSessionDrift
  else match h.lastStop with
    | some previous => if coherentStop previous stop then .ok () else .error .nonMonotonicStopToken
    | none => .ok ()

/-- Something must be in flight. -/
def requireDispatchedPending (h : LivePatchHistory) : Except LivePatchHistoryError Unit :=
  if h.freezeEvidence.isSome then .error .inspectionOnly
  else match h.pending with
    | none => .error .noPendingOperation
    | some pending =>
      if pending.phase = .reserved then .error .operationNotDispatched else .ok ()

/-- Both sides of a patch are bounded, of one length, and differ. -/
def validatePatchBytes (before after : List UInt8) : Except LivePatchHistoryError Unit :=
  if before.isEmpty then .error .emptyPatch
  else if before.length ≠ after.length then .error (.lengthMismatch before.length after.length)
  else if before = after then .error .unchangedPatch
  else if before.length > maxMemoryWriteBytes then
    .error (.patchTooLarge before.length maxMemoryWriteBytes)
  else .ok ()

/-- The next generation and the next stop id of one session. -/
def isExactSuccessorStop (prior resulting : StopToken) : Bool :=
  resulting.state.sessionId = prior.state.sessionId ∧
    checkedAdd prior.state.generation.val 1 = some resulting.state.generation.val ∧
    checkedAdd prior.stopId.val 1 = some resulting.stopId.val

/-- The patch must lie in the image. -/
def validateImageSpan (h : LivePatchHistory) (address : MemoryAddress) (size : ℕ) :
    Except LivePatchHistoryError Unit :=
  match h.binding.rvaForAddressSpan address size with
  | .ok _ => .ok ()
  | .error error => .error (.invalidImageSpan error)

/-! ### Reserving, dispatching, cancelling -/

/-- Reserves room for a new patch. -/
def beginForwardWrite (sessionId : SessionId) (binding : LiveTargetBinding) (stop : StopToken)
    (address : MemoryAddress) (before after : List UInt8) : HistoryReducer Unit := do
  let h ← look
  check (h.requireReadyContext sessionId binding stop)
  check (validatePatchBytes before after)
  check (h.validateImageSpan address before.length)
  refuse (h.entries.length ≥ maxLivePatchHistoryEntries)
    (.error (.entryLimit maxLivePatchHistoryEntries))
  match checkedAdd h.storedBytes (before.length + after.length) with
  | none => raise (.error (.byteLimit usizeMax maxLivePatchHistoryStoredBytes))
  | some prospective =>
    refuse (prospective > maxLivePatchHistoryStoredBytes)
      (.error (.byteLimit prospective maxLivePatchHistoryStoredBytes))
    update fun h =>
      { h with
        lastStop := some stop
        pending := some ⟨.forwardWrite, .reserved, stop, address, before, after⟩ }

/-- Prepares to write the top patch back. -/
def beginUndo (sessionId : SessionId) (binding : LiveTargetBinding) (currentStop : StopToken) :
    HistoryReducer Unit := do
  let h ← look
  check (h.requireReadyContext sessionId binding currentStop)
  match h.entries.getLast? with
  | none => raise (.error .nothingToUndo)
  | some entry =>
    check (h.validateImageSpan entry.address entry.after.length)
    update fun h =>
      { h with
        lastStop := some currentStop
        pending := some ⟨.undo, .reserved, currentStop, entry.address, entry.after, entry.before⟩ }

/-- Hands the command out, once. -/
def markForDispatch : HistoryReducer DebugCommand := do
  let h ← look
  refuse h.freezeEvidence.isSome (.error .inspectionOnly)
  match h.pending with
  | none => raise (.error .noPendingOperation)
  | some pending =>
    refuse (pending.phase = .dispatched) (.error .operationAlreadyDispatched)
    update fun h => { h with pending := some { pending with phase := .dispatched } }
    return pending.command

/-- Forgets what was not handed out. -/
def cancelBeforeDispatch : HistoryReducer Unit := do
  let h ← look
  refuse h.freezeEvidence.isSome (.error .inspectionOnly)
  match h.pending with
  | none => raise (.error .noPendingOperation)
  | some pending =>
    refuse (pending.phase = .dispatched) (.error .cannotCancelDispatched)
    update fun h => { h with pending := none }

/-! ### Settling a dispatched operation -/

/-- Keeps the evidence and lets nothing happen any more. -/
def freeze (receiptCommandId : Option CommandId) (cause : LivePatchFreezeCause) :
    HistoryReducer LivePatchResolution := do
  let h ← look
  let pending ← expect h.pending "pending checked before freeze"
  update fun h =>
    { h with
      pending := none
      freezeEvidence := some ⟨pending, receiptCommandId, cause⟩ }
  return .frozen

/-- `freeze` with a receipt mismatch, the way every rejected receipt ends. -/
def freezeMismatch (commandId : CommandId) (mismatch : LivePatchReceiptMismatch) :
    HistoryReducer LivePatchResolution :=
  freeze (some commandId) (.receiptMismatch mismatch)

/-- Nothing was written: the stack stays. -/
def clearSafeRejection (commandId : CommandId) : HistoryReducer Unit := do
  let h ← look
  let pending ← expect h.pending "pending checked before rejection"
  update fun h =>
    { h with
      lastReceiptCommandId := some commandId
      pending := none
      lastStop := some pending.stop }

/-- Pushes a forward patch, pops an undone one. -/
def commitSuccess (commandId : CommandId) (resultingStop : StopToken) :
    HistoryReducer LivePatchResolution := do
  let h ← look
  let pending ← expect h.pending "pending checked before commit"
  update fun h =>
    { h with
      pending := none
      lastReceiptCommandId := some commandId
      lastStop := some resultingStop }
  match pending.kind with
  | .forwardWrite =>
    let entry : LivePatchEntry :=
      ⟨pending.address, pending.expected, pending.replacement, pending.stop, resultingStop,
        commandId⟩
    let storedBytes ← expect (checkedAdd h.storedBytes entry.storedBytes)
      "attempt to add with overflow"
    update fun h => { h with storedBytes := storedBytes, entries := h.entries ++ [entry] }
    return .forwardCommitted entry
  | .undo =>
    let entry ← expect h.entries.getLast? "undo reservation requires a history entry"
    update fun h => { h with entries := h.entries.dropLast }
    refuse (entry.address ≠ pending.address ∨ entry.after ≠ pending.expected ∨
      entry.before ≠ pending.replacement) (.panic "assertion left == right failed")
    refuse (h.storedBytes < entry.storedBytes) (.panic "attempt to subtract with overflow")
    update fun h => { h with storedBytes := h.storedBytes - entry.storedBytes }
    return .undoCommitted entry

/-! ### Receipts of a remote host -/

/-- What the scan of a receipt's events has found so far. -/
structure ReceiptScan where
  memoryWritten : Bool := false
  failure : Option MemoryWriteFailure := none
  commandResults : ℕ := 0
  resultIndex : Option ℕ := none
  stateChanges : ℕ := 0
  states : List SessionState := []
  commandResultState : Option StateToken := none
  unexpectedEffect : Bool := false

namespace ReceiptScan

/-- One iteration of the scan: the event at `index`. -/
def observe (sessionId : SessionId) (pending : PendingLivePatchOperation) (receipt : CommandReceipt)
    (scan : ReceiptScan) (envelope : EventEnvelope × ℕ) :
    Except LivePatchReceiptMismatch ReceiptScan :=
  let (envelope, index) := envelope
  if envelope.causedBy ≠ some receipt.commandId then .error .eventCorrelation
  else if envelope.sessionId ≠ some sessionId then .error .eventSession
  else match envelope.event with
    | .commandResult commandId outcome =>
      if commandId ≠ receipt.commandId ∨ outcome ≠ receipt.outcome then
        .error .commandResultMismatch
      else .ok { scan with
        commandResults := scan.commandResults + 1
        resultIndex := some index
        commandResultState := envelope.state }
    | .memoryWritten stop address before after =>
      if scan.memoryWritten then .error .duplicateWriteEvidence
      else if stop ≠ pending.stop ∨ address ≠ pending.address ∨ before ≠ pending.expected ∨
          after ≠ pending.replacement ∨ envelope.state ≠ some pending.stop.state then
        .error .writeEvidenceMismatch
      else .ok { scan with memoryWritten := true }
    | .memoryWriteFailed actual =>
      if scan.failure.isSome then .error .duplicateFailureEvidence
      else if actual.stop ≠ pending.stop ∨ actual.address ≠ pending.address ∨
          actual.size.toNat ≠ pending.expected.length ∨
          envelope.state ≠ some pending.stop.state ∨ actual.validate ≠ .ok () then
        .error .failureEvidenceMismatch
      else .ok { scan with failure := some actual }
    | .stateChanged state =>
      if envelope.state ≠ some state.stateToken then .error .stateEvidenceMismatch
      else .ok { scan with
        stateChanges := scan.stateChanges + 1
        states := scan.states ++ [state] }
    | .warning _ _ => .ok scan
    | _ => .ok { scan with unexpectedEffect := true }

def inspect (sessionId : SessionId) (pending : PendingLivePatchOperation)
    (receipt : CommandReceipt) : Except LivePatchReceiptMismatch ReceiptScan := do
  if receipt.events.isEmpty then .error .emptyReceipt
  let scan ← receipt.events.zipIdx.foldlM (observe sessionId pending receipt) {}
  if scan.commandResults ≠ 1 then .error .commandResultCount
  if scan.resultIndex ≠ some (receipt.events.length - 1) then .error .commandResultNotLast
  return scan

def indeterminateStateEvidenceMatches (scan : ReceiptScan) (pending : PendingLivePatchOperation)
    (failure : MemoryWriteFailure) : Bool :=
  match scan.states with
  | [.stopped refreshed _ _, .failed token message] =>
    isExactSuccessorStop pending.stop refreshed ∧
      token.sessionId = pending.stop.state.sessionId ∧
      checkedAdd refreshed.state.generation.val 1 = some token.generation.val ∧
      scan.commandResultState = some token ∧ message = failure.detail
  | _ => false

/-- The stop that a successful write led to. -/
def successStop (scan : ReceiptScan) (pending : PendingLivePatchOperation) : Option StopToken :=
  match scan.states with
  | [.stopped token _ _] =>
    if isExactSuccessorStop pending.stop token ∧ scan.commandResultState = some token.state then
      some token
    else none
  | _ => none

end ReceiptScan

/-- The error of a receipt that arrives while nothing is pending. -/
def unpendedReceiptError (h : LivePatchHistory) (commandId : CommandId) : LivePatchHistoryError :=
  match h.lastReceiptCommandId with
  | some last =>
    if commandId = last then .duplicateReceipt commandId
    else if commandId.val < last.val then .outOfOrderReceipt last commandId
    else .noPendingOperation
  | none => .noPendingOperation

/-- The receipt id that `commandId` fails to exceed, if there is one. -/
def staleReceipt (h : LivePatchHistory) (commandId : CommandId) : Option CommandId :=
  h.lastReceiptCommandId.filter (fun previous => commandId.val ≤ previous.val)

/-- A success commits if its reports fit, and freezes otherwise. -/
def resolveSucceeded (pending : PendingLivePatchOperation) (commandId : CommandId)
    (scan : ReceiptScan) : HistoryReducer LivePatchResolution :=
  if scan.failure.isSome then freezeMismatch commandId .failureReportedAsSuccess
  else if scan.unexpectedEffect then freezeMismatch commandId .unexpectedSuccessEffect
  else if !scan.memoryWritten then freezeMismatch commandId .missingSuccessEvidence
  else match scan.successStop pending with
    | none => freezeMismatch commandId .unexpectedSuccessEffect
    | some resultingStop => commitSuccess commandId resultingStop

def rejectNoEffect (commandId : CommandId) : HistoryReducer LivePatchResolution := do
  clearSafeRejection commandId
  return .rejectedNoEffect

/-- A rejection clears if nothing was written, and freezes otherwise. -/
def resolveRejected (pending : PendingLivePatchOperation) (commandId : CommandId)
    (code message : String) (scan : ReceiptScan) : HistoryReducer LivePatchResolution :=
  if scan.memoryWritten then freezeMismatch commandId .contradictoryWriteEvidence
  else match scan.failure with
    | none =>
      if code = memoryWriteFailureRejectionCode then
        freezeMismatch commandId .reservedFailureCodeWithoutEvidence
      else if scan.stateChanges ≠ 0 ∨ scan.unexpectedEffect ∨
          scan.commandResultState ≠ some pending.stop.state then
        freezeMismatch commandId .rejectionProducedEffect
      else rejectNoEffect commandId
    | some failure =>
      if code ≠ memoryWriteFailureRejectionCode ∨ message ≠ failure.detail then
        freezeMismatch commandId .failureEvidenceMismatch
      else if scan.unexpectedEffect then freezeMismatch commandId .rejectionProducedEffect
      else if failure.recovery.isRollbackSafe then
        if scan.stateChanges ≠ 0 ∨ scan.commandResultState ≠ some pending.stop.state then
          freezeMismatch commandId .safeFailureProducedStateChange
        else rejectNoEffect commandId
      else if scan.indeterminateStateEvidenceMatches pending failure then
        freeze (some commandId) (.indeterminateWrite failure)
      else freezeMismatch commandId .indeterminateStateEvidenceMismatch

/-- Settles the pending write by the helper's receipt. -/
def resolveReceipt (sessionId : SessionId) (binding : LiveTargetBinding)
    (receipt : CommandReceipt) : HistoryReducer LivePatchResolution := do
  let h ← look
  refuse h.freezeEvidence.isSome (.error .inspectionOnly)
  match h.pending with
  | none => raise (.error (h.unpendedReceiptError receipt.commandId))
  | some pending =>
    refuse (pending.phase ≠ .dispatched) (.error .operationNotDispatched)
    if sessionId ≠ h.sessionId then freezeMismatch receipt.commandId .sessionDrift
    else if binding ≠ h.binding then freezeMismatch receipt.commandId .targetDrift
    else match h.staleReceipt receipt.commandId with
      | some previous =>
        freezeMismatch receipt.commandId (.nonMonotonicCommandId previous receipt.commandId)
      | none =>
        match ReceiptScan.inspect h.sessionId pending receipt with
        | .error mismatch => freezeMismatch receipt.commandId mismatch
        | .ok scan =>
          match receipt.outcome with
          | .succeeded => resolveSucceeded pending receipt.commandId scan
          | .rejected code message =>
            resolveRejected pending receipt.commandId code message scan

/-! ### Receipts of the local reducer -/

/-- Settles it by a receipt that the session machine checked. -/
def resolveLocalReceipt (receipt : ValidatedLocalLivePatchReceipt) :
    HistoryReducer LivePatchResolution := do
  let h ← look
  refuse h.freezeEvidence.isSome (.error .inspectionOnly)
  let commandId := receipt.write.commandId
  match h.pending with
  | none => raise (.error (h.unpendedReceiptError commandId))
  | some pending =>
    refuse (pending.phase ≠ .dispatched) (.error .operationNotDispatched)
    if receipt.write.stop.state.sessionId ≠ h.sessionId then freezeMismatch commandId .sessionDrift
    else if receipt.write.binding ≠ h.binding then freezeMismatch commandId .targetDrift
    else match h.staleReceipt commandId with
      | some previous => freezeMismatch commandId (.nonMonotonicCommandId previous commandId)
      | none =>
        if pending.stop ≠ receipt.write.stop ∨ pending.address ≠ receipt.write.address ∨
            pending.expected ≠ receipt.write.expected ∨
            pending.replacement ≠ receipt.write.replacement then
          freezeMismatch commandId .writeEvidenceMismatch
        else match receipt.resolution with
          | .committed resultingStop =>
            if !isExactSuccessorStop pending.stop resultingStop then
              freezeMismatch commandId .stateEvidenceMismatch
            else commitSuccess commandId resultingStop
          | .rejectedNoEffect => rejectNoEffect commandId

/-- Without an answer nobody knows: freeze. -/
def markTransportOutcomeUnknown : HistoryReducer LivePatchResolution := do
  let h ← look
  check h.requireDispatchedPending
  freeze none .transportOutcomeUnknown

end LivePatchHistory

/-! ### The operations as inputs of one reducer -/

inductive HistoryOperation where
  | beginForwardWrite (sessionId : SessionId) (binding : LiveTargetBinding) (stop : StopToken)
      (address : MemoryAddress) (before after : List UInt8)
  | beginUndo (sessionId : SessionId) (binding : LiveTargetBinding) (currentStop : StopToken)
  | markForDispatch
  | cancelBeforeDispatch
  | resolveReceipt (sessionId : SessionId) (binding : LiveTargetBinding) (receipt : CommandReceipt)
  | resolveLocalReceipt (receipt : ValidatedLocalLivePatchReceipt)
  | markTransportOutcomeUnknown

inductive HistoryAnswer where
  | done
  | command (command : DebugCommand)
  | resolution (resolution : LivePatchResolution)

def HistoryOperation.apply : HistoryOperation → HistoryReducer HistoryAnswer
  | beginForwardWrite sessionId binding stop address before after => do
    LivePatchHistory.beginForwardWrite sessionId binding stop address before after
    return .done
  | beginUndo sessionId binding currentStop => do
    LivePatchHistory.beginUndo sessionId binding currentStop
    return .done
  | markForDispatch => do
    let command ← LivePatchHistory.markForDispatch
    return .command command
  | cancelBeforeDispatch => do
    LivePatchHistory.cancelBeforeDispatch
    return .done
  | resolveReceipt sessionId binding receipt => do
    let resolution ← LivePatchHistory.resolveReceipt sessionId binding receipt
    return .resolution resolution
  | resolveLocalReceipt receipt => do
    let resolution ← LivePatchHistory.resolveLocalReceipt receipt
    return .resolution resolution
  | markTransportOutcomeUnknown => do
    let resolution ← LivePatchHistory.markTransportOutcomeUnknown
    return .resolution resolution

end ReSymbol.Debugger
