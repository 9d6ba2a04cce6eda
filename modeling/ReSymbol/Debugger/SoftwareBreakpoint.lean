import ReSymbol.Debugger.Commands

/-! The software-breakpoint reducer: transactional planning of one-byte compare/replace actions.

    Planning reserves an operation id and the sole pending slot and leaves the table alone; the
    table advances only when an acknowledgement equals the pending plan. Any other acknowledgement
    poisons the reducer for good, with a snapshot of the table and of the pending plan.

                 arm                restore (persistent)              single step
        absent ─────▶ armed ────────────────────────▶ awaiting ──────────────────▶ ready
           ▲            │ ▲                                                          │
           └─ remove ───┘ └──────────────────────── rearm ──────────────────────────┘
           └─ restore (temporary)                                                      -/

namespace ReSymbol.Debugger
open Schemes Schemes.Reducer

/-- The x86 one-byte breakpoint opcode. -/
def int3Opcode : UInt8 := 0xcc

def maxSoftwareBreakpoints : ℕ := 1024

/-- Monotonic identity of one planned byte operation: a `u64`. -/
structure SoftwareBreakpointOperationId where
  val : ℕ
  deriving DecidableEq

inductive SoftwareBreakpointAction where
  | arm | restore | rearm | remove
  deriving DecidableEq

structure SoftwareBreakpointBytePlan where
  operationId : SoftwareBreakpointOperationId
  sessionId : SessionId
  stopToken : StopToken
  breakpoint : BreakpointSpec
  expectedByte : UInt8
  replacementByte : UInt8

inductive SoftwareBreakpointActionPlan where
  | arm (plan : SoftwareBreakpointBytePlan)
  | restore (plan : SoftwareBreakpointBytePlan)
  | rearm (plan : SoftwareBreakpointBytePlan)
  | remove (plan : SoftwareBreakpointBytePlan)

namespace SoftwareBreakpointActionPlan

def action : SoftwareBreakpointActionPlan → SoftwareBreakpointAction
  | arm _ => .arm
  | restore _ => .restore
  | rearm _ => .rearm
  | remove _ => .remove

def bytes : SoftwareBreakpointActionPlan → SoftwareBreakpointBytePlan
  | arm plan | restore plan | rearm plan | remove plan => plan

def operationId (plan : SoftwareBreakpointActionPlan) : SoftwareBreakpointOperationId :=
  plan.bytes.operationId

end SoftwareBreakpointActionPlan

/-- A caller's report that one exact plan succeeded. -/
structure SoftwareBreakpointActionAcknowledgement where
  action : SoftwareBreakpointAction
  operationId : SoftwareBreakpointOperationId
  sessionId : SessionId
  stopToken : StopToken
  breakpoint : BreakpointSpec
  expectedByte : UInt8
  replacementByte : UInt8
  deriving DecidableEq

/-- A caller's correlation of a restore with a later stop. -/
structure SoftwareBreakpointSingleStepAcknowledgement where
  sessionId : SessionId
  breakpointId : BreakpointId
  restoreOperationId : SoftwareBreakpointOperationId
  hitStopToken : StopToken
  steppedStopToken : StopToken

inductive SoftwareBreakpointAcknowledgement where
  | action (acknowledgement : SoftwareBreakpointActionAcknowledgement)
  | singleStep (acknowledgement : SoftwareBreakpointSingleStepAcknowledgement)

inductive SoftwareBreakpointPhase where
  | armed | awaitingSingleStep | readyToRearm
  deriving DecidableEq

structure SoftwareBreakpointSnapshot where
  breakpoint : BreakpointSpec
  originalByte : UInt8
  persistence : BreakpointPersistence
  phase : SoftwareBreakpointPhase
  acknowledgedByteStopToken : StopToken
  restoreOperationId : Option SoftwareBreakpointOperationId
  singleStepStopToken : Option StopToken

inductive SoftwareBreakpointTransition where
  | armed (breakpointId : BreakpointId)
  | restoredForSingleStep (breakpointId : BreakpointId)
  | temporaryRemoved (breakpointId : BreakpointId)
  | rearmed (breakpointId : BreakpointId)
  | removed (breakpointId : BreakpointId)

inductive SoftwareBreakpointAcknowledgementRejection where
  | duplicate (operationId : SoftwareBreakpointOperationId)
  | outOfOrder (expected : Option SoftwareBreakpointOperationId)
      (actual : SoftwareBreakpointOperationId)
  | wrongSession (expected actual : SessionId)
  | wrongStopToken (expected actual : StopToken)
  | payloadMismatch

structure SoftwareBreakpointCleanupEvidence where
  sessionId : SessionId
  acknowledgedBreakpoints : List SoftwareBreakpointSnapshot
  uncertainOperation : Option SoftwareBreakpointActionPlan

structure SoftwareBreakpointPoisonEvidence where
  rejection : SoftwareBreakpointAcknowledgementRejection
  received : SoftwareBreakpointAcknowledgement
  cleanup : SoftwareBreakpointCleanupEvidence

inductive SoftwareBreakpointError where
  | invalidCapacity (requested maximum : ℕ)
  | originalByteIsInt3
  | notSoftwareBreakpoint
  | invalidBreakpointSpec (error : ProtocolValidationError)
  | duplicateBreakpointId (breakpointId : BreakpointId)
  | duplicateAddress (address : MemoryAddress)
  | capacityExceeded (capacity : ℕ)
  | operationPending (operationId : SoftwareBreakpointOperationId)
  | unknownBreakpoint (breakpointId : BreakpointId)
  | invalidPhase (action : SoftwareBreakpointAction) (breakpointId : BreakpointId)
      (phase : SoftwareBreakpointPhase)
  | wrongSession (expected actual : SessionId)
  | stopTokenDidNotAdvance (previous actual : StopToken)
  | operationIdExhausted
  | acknowledgementRejected (rejection : SoftwareBreakpointAcknowledgementRejection)
  | poisoned

structure BreakpointEntry where
  breakpoint : BreakpointSpec
  originalByte : UInt8
  persistence : BreakpointPersistence
  phase : SoftwareBreakpointPhase
  acknowledgedByteStopToken : StopToken
  restoreOperationId : Option SoftwareBreakpointOperationId
  singleStepStopToken : Option StopToken

def BreakpointEntry.snapshot (e : BreakpointEntry) : SoftwareBreakpointSnapshot where
  breakpoint := e.breakpoint
  originalByte := e.originalByte
  persistence := e.persistence
  phase := e.phase
  acknowledgedByteStopToken := e.acknowledgedByteStopToken
  restoreOperationId := e.restoreOperationId
  singleStepStopToken := e.singleStepStopToken

inductive PendingTransition where
  | arm (entry : BreakpointEntry)
  | restore (breakpointId : BreakpointId)
  | rearm (breakpointId : BreakpointId)
  | remove (breakpointId : BreakpointId)

structure PendingOperation where
  plan : SoftwareBreakpointActionPlan
  transition : PendingTransition

abbrev BreakpointTable := Std.ExtTreeMap BreakpointId BreakpointEntry compare

structure SoftwareBreakpointStateMachine where
  sessionId : SessionId
  capacity : ℕ
  nextOperationId : Option ℕ
  lastAcknowledgedOperation : Option SoftwareBreakpointOperationId
  breakpoints : BreakpointTable
  pending : Option PendingOperation
  poisonEvidence : Option SoftwareBreakpointPoisonEvidence

abbrev BreakpointReducer :=
  Reducer SoftwareBreakpointStateMachine (Fault SoftwareBreakpointError)

namespace SoftwareBreakpointStateMachine

def withCapacity (sessionId : SessionId) (capacity : ℕ) :
    Except SoftwareBreakpointError SoftwareBreakpointStateMachine :=
  if capacity = 0 ∨ capacity > maxSoftwareBreakpoints then
    .error (.invalidCapacity capacity maxSoftwareBreakpoints)
  else .ok
    { sessionId
      capacity
      nextOperationId := some 1
      lastAcknowledgedOperation := none
      breakpoints := ∅
      pending := none
      poisonEvidence := none }

def new (sessionId : SessionId) :
    Except (Fault SoftwareBreakpointError) SoftwareBreakpointStateMachine :=
  match withCapacity sessionId maxSoftwareBreakpoints with
  | .ok machine => .ok machine
  | .error _ => .error (.panic "the built-in software-breakpoint capacity is valid")

def isPoisoned (m : SoftwareBreakpointStateMachine) : Bool := m.poisonEvidence.isSome

def pendingPlan (m : SoftwareBreakpointStateMachine) : Option SoftwareBreakpointActionPlan :=
  m.pending.map (·.plan)

/-- The retained entries in the order of their ids. -/
def entries (m : SoftwareBreakpointStateMachine) : List BreakpointEntry :=
  m.breakpoints.toList.map (·.2)

/-- The table and the pending plan, as a cleanup needs them. -/
def currentCleanupEvidence (m : SoftwareBreakpointStateMachine) :
    SoftwareBreakpointCleanupEvidence where
  sessionId := m.sessionId
  acknowledgedBreakpoints := m.entries.map (·.snapshot)
  uncertainOperation := m.pendingPlan

/-! ### Checks -/

/-- Not poisoned, and no plan pending. -/
def requireHealthyAndIdle (m : SoftwareBreakpointStateMachine) :
    Except SoftwareBreakpointError Unit :=
  if m.isPoisoned then .error .poisoned
  else match m.pending with
    | some pending => .error (.operationPending pending.plan.operationId)
    | none => .ok ()

def requireReady (m : SoftwareBreakpointStateMachine) (stopToken : StopToken) :
    Except SoftwareBreakpointError Unit := do
  m.requireHealthyAndIdle
  if stopToken.state.sessionId ≠ m.sessionId then
    .error (.wrongSession m.sessionId stopToken.state.sessionId)

def requireBreakpoint (m : SoftwareBreakpointStateMachine) (breakpointId : BreakpointId) :
    Except SoftwareBreakpointError BreakpointEntry :=
  match m.breakpoints[breakpointId]? with
  | some entry => .ok entry
  | none => .error (.unknownBreakpoint breakpointId)

def requirePhase (entry : BreakpointEntry) (action : SoftwareBreakpointAction)
    (required : SoftwareBreakpointPhase) : Except SoftwareBreakpointError Unit :=
  if entry.phase = required then .ok ()
  else .error (.invalidPhase action entry.breakpoint.id entry.phase)

/-- Both the generation and the stop id are strictly later. -/
def advancedStop (previous actual : StopToken) : Bool :=
  actual.state.generation.val > previous.state.generation.val ∧
    actual.stopId.val > previous.stopId.val

def requireAdvancedStop (previous actual : StopToken) : Except SoftwareBreakpointError Unit :=
  if advancedStop previous actual then .ok ()
  else .error (.stopTokenDidNotAdvance previous actual)

def requireCurrentOrAdvancedStop (previous actual : StopToken) :
    Except SoftwareBreakpointError Unit :=
  if actual = previous then .ok () else requireAdvancedStop previous actual

/-! ### Planning -/

/-- Operation ids are never used twice. -/
def allocateOperationId : BreakpointReducer SoftwareBreakpointOperationId := do
  let m ← look
  match m.nextOperationId with
  | none => raise (.error .operationIdExhausted)
  | some value =>
    update fun m => { m with nextOperationId := checkedAdd value 1 }
    return ⟨value⟩

/-- The tail of every planning operation: allocate an id and fill the pending slot. -/
def reservePlan (plan : SoftwareBreakpointOperationId → SoftwareBreakpointActionPlan)
    (transition : PendingTransition) : BreakpointReducer SoftwareBreakpointActionPlan := do
  let operationId ← allocateOperationId
  update fun m => { m with pending := some ⟨plan operationId, transition⟩ }
  return plan operationId

/-- Plans to put `INT3` over the byte at a new address. -/
def planArm (stopToken : StopToken) (breakpoint : BreakpointSpec) (originalByte : UInt8)
    (persistence : BreakpointPersistence) : BreakpointReducer SoftwareBreakpointActionPlan := do
  let m ← look
  check (m.requireReady stopToken)
  refuse (breakpoint.kind ≠ .software) (.error .notSoftwareBreakpoint)
  check (breakpoint.validate.mapError .invalidBreakpointSpec)
  refuse (originalByte = int3Opcode) (.error .originalByteIsInt3)
  refuse (m.breakpoints.contains breakpoint.id) (.error (.duplicateBreakpointId breakpoint.id))
  refuse (m.entries.any (fun entry => entry.breakpoint.address = breakpoint.address))
    (.error (.duplicateAddress breakpoint.address))
  refuse (m.breakpoints.size ≥ m.capacity) (.error (.capacityExceeded m.capacity))
  reservePlan
    (fun operationId => .arm
      ⟨operationId, m.sessionId, stopToken, breakpoint, originalByte, int3Opcode⟩)
    (.arm ⟨breakpoint, originalByte, persistence, .armed, stopToken, none, none⟩)

/-- Plans to put the original byte back after a hit. -/
def planRestoreAfterHit (breakpointId : BreakpointId) (hitStopToken : StopToken) :
    BreakpointReducer SoftwareBreakpointActionPlan := do
  let m ← look
  check (m.requireReady hitStopToken)
  let entry ← check (m.requireBreakpoint breakpointId)
  check (requirePhase entry .restore .armed)
  check (requireAdvancedStop entry.acknowledgedByteStopToken hitStopToken)
  reservePlan
    (fun operationId => .restore
      ⟨operationId, m.sessionId, hitStopToken, entry.breakpoint, int3Opcode, entry.originalByte⟩)
    (.restore breakpointId)

/-- Plans to put `INT3` back after the step. -/
def planRearmAfterSingleStep (breakpointId : BreakpointId) :
    BreakpointReducer SoftwareBreakpointActionPlan := do
  let m ← look
  check m.requireHealthyAndIdle
  let entry ← check (m.requireBreakpoint breakpointId)
  check (requirePhase entry .rearm .readyToRearm)
  let steppedStopToken ← expect entry.singleStepStopToken
    "ready-to-rearm state retains its correlated stop token"
  reservePlan
    (fun operationId => .rearm
      ⟨operationId, m.sessionId, steppedStopToken, entry.breakpoint, entry.originalByte,
        int3Opcode⟩)
    (.rearm breakpointId)

/-- Plans to take a breakpoint away for good. -/
def planRemove (breakpointId : BreakpointId) (stopToken : StopToken) :
    BreakpointReducer SoftwareBreakpointActionPlan := do
  let m ← look
  check (m.requireReady stopToken)
  let entry ← check (m.requireBreakpoint breakpointId)
  check (requirePhase entry .remove .armed)
  check (requireCurrentOrAdvancedStop entry.acknowledgedByteStopToken stopToken)
  reservePlan
    (fun operationId => .remove
      ⟨operationId, m.sessionId, stopToken, entry.breakpoint, int3Opcode, entry.originalByte⟩)
    (.remove breakpointId)

/-! ### Acknowledging -/

/-- Freezes the machine with what a cleanup needs. -/
def poison {α : Type} (rejection : SoftwareBreakpointAcknowledgementRejection)
    (received : SoftwareBreakpointAcknowledgement) : BreakpointReducer α := do
  update fun m =>
    { m with poisonEvidence := some ⟨rejection, received, m.currentCleanupEvidence⟩ }
  raise (.error (.acknowledgementRejected rejection))

/-- Replace the entry of a retained breakpoint, as `get_mut` does. -/
def modifyEntry (breakpointId : BreakpointId) (f : BreakpointEntry → BreakpointEntry)
    (message : String) : BreakpointReducer Unit := do
  let m ← look
  let entry ← expect m.breakpoints[breakpointId]? message
  update fun m => { m with breakpoints := m.breakpoints.insert breakpointId (f entry) }

/-- A step after a restored hit; others poison. -/
def acknowledgeSingleStep (a : SoftwareBreakpointSingleStepAcknowledgement) :
    BreakpointReducer Unit := do
  let m ← look
  refuse m.isPoisoned (.error .poisoned)
  if m.pending.isSome then poison .payloadMismatch (.singleStep a)
  else if a.sessionId ≠ m.sessionId then
    poison (.wrongSession m.sessionId a.sessionId) (.singleStep a)
  else if a.steppedStopToken.state.sessionId ≠ m.sessionId then
    poison (.wrongSession m.sessionId a.steppedStopToken.state.sessionId) (.singleStep a)
  else match m.breakpoints[a.breakpointId]? with
    | none => poison .payloadMismatch (.singleStep a)
    | some entry =>
      if entry.phase = .readyToRearm ∧ entry.restoreOperationId = some a.restoreOperationId ∧
          entry.acknowledgedByteStopToken = a.hitStopToken ∧
          entry.singleStepStopToken = some a.steppedStopToken then
        poison (.duplicate a.restoreOperationId) (.singleStep a)
      else if entry.phase ≠ .awaitingSingleStep ∨
          entry.restoreOperationId ≠ some a.restoreOperationId then
        poison .payloadMismatch (.singleStep a)
      else if entry.acknowledgedByteStopToken ≠ a.hitStopToken then
        poison (.wrongStopToken entry.acknowledgedByteStopToken a.hitStopToken) (.singleStep a)
      else if !advancedStop a.hitStopToken a.steppedStopToken then
        poison (.wrongStopToken a.hitStopToken a.steppedStopToken) (.singleStep a)
      else
        modifyEntry a.breakpointId
          (fun entry =>
            { entry with
              phase := .readyToRearm
              singleStepStopToken := some a.steppedStopToken })
          "validated single-step acknowledgement retains its breakpoint"

/-- Why an acknowledgement of another operation than the pending one is rejected. -/
def operationRejection (m : SoftwareBreakpointStateMachine)
    (expected : Option SoftwareBreakpointOperationId) (actual : SoftwareBreakpointOperationId) :
    SoftwareBreakpointAcknowledgementRejection :=
  match m.lastAcknowledgedOperation with
  | some last => if actual.val ≤ last.val then .duplicate actual else .outOfOrder expected actual
  | none => .outOfOrder expected actual

/-- The restored entry of a persistent breakpoint. -/
def restoredEntry (plan : SoftwareBreakpointBytePlan) (entry : BreakpointEntry) :
    BreakpointEntry :=
  { entry with
    phase := .awaitingSingleStep
    acknowledgedByteStopToken := plan.stopToken
    restoreOperationId := some plan.operationId
    singleStepStopToken := none }

/-- The entry of a rearmed breakpoint. -/
def rearmedEntry (plan : SoftwareBreakpointBytePlan) (entry : BreakpointEntry) :
    BreakpointEntry :=
  { entry with
    phase := .armed
    acknowledgedByteStopToken := plan.stopToken
    restoreOperationId := none
    singleStepStopToken := none }

/-- Apply the pending transition after an exact acknowledgement. -/
def applyTransition (plan : SoftwareBreakpointBytePlan) :
    PendingTransition → BreakpointReducer SoftwareBreakpointTransition
  | .arm entry => do
    update fun m => { m with breakpoints := m.breakpoints.insert entry.breakpoint.id entry }
    return .armed entry.breakpoint.id
  | .restore breakpointId => do
    let m ← look
    let entry ← expect m.breakpoints[breakpointId]? "pending restore retains its breakpoint"
    match entry.persistence with
    | .persistent =>
      update fun m =>
        { m with breakpoints := m.breakpoints.insert breakpointId (restoredEntry plan entry) }
      return .restoredForSingleStep breakpointId
    | .temporary =>
      update fun m => { m with breakpoints := m.breakpoints.erase breakpointId }
      return .temporaryRemoved breakpointId
  | .rearm breakpointId => do
    modifyEntry breakpointId (rearmedEntry plan) "pending rearm retains its breakpoint"
    return .rearmed breakpointId
  | .remove breakpointId => do
    update fun m => { m with breakpoints := m.breakpoints.erase breakpointId }
    return .removed breakpointId

/-- Only the pending plan's own receipt is applied; others poison. -/
def acknowledgeSuccess (a : SoftwareBreakpointActionAcknowledgement) :
    BreakpointReducer SoftwareBreakpointTransition := do
  let m ← look
  refuse m.isPoisoned (.error .poisoned)
  match m.pending with
  | none => poison (m.operationRejection none a.operationId) (.action a)
  | some pending =>
    let expected := pending.plan.bytes
    if a.operationId ≠ expected.operationId then
      poison (m.operationRejection (some expected.operationId) a.operationId) (.action a)
    else if a.sessionId ≠ expected.sessionId then
      poison (.wrongSession expected.sessionId a.sessionId) (.action a)
    else if a.stopToken ≠ expected.stopToken then
      poison (.wrongStopToken expected.stopToken a.stopToken) (.action a)
    else if a.action ≠ pending.plan.action ∨ a.breakpoint ≠ expected.breakpoint ∨
        a.expectedByte ≠ expected.expectedByte ∨
        a.replacementByte ≠ expected.replacementByte then
      poison .payloadMismatch (.action a)
    else do
      update fun m =>
        { m with pending := none, lastAcknowledgedOperation := some expected.operationId }
      applyTransition expected pending.transition

end SoftwareBreakpointStateMachine

/-! ### The operations as inputs of one reducer -/

inductive BreakpointOperation where
  | planArm (stopToken : StopToken) (breakpoint : BreakpointSpec) (originalByte : UInt8)
      (persistence : BreakpointPersistence)
  | planRestoreAfterHit (breakpointId : BreakpointId) (hitStopToken : StopToken)
  | planRearmAfterSingleStep (breakpointId : BreakpointId)
  | planRemove (breakpointId : BreakpointId) (stopToken : StopToken)
  | acknowledgeSingleStep (acknowledgement : SoftwareBreakpointSingleStepAcknowledgement)
  | acknowledgeSuccess (acknowledgement : SoftwareBreakpointActionAcknowledgement)

/-- The operations that plan a byte action. -/
def BreakpointOperation.isPlan : BreakpointOperation → Bool
  | planArm _ _ _ _ | planRestoreAfterHit _ _ | planRearmAfterSingleStep _ | planRemove _ _ => true
  | acknowledgeSingleStep _ | acknowledgeSuccess _ => false

inductive BreakpointAnswer where
  | plan (plan : SoftwareBreakpointActionPlan)
  | stepped
  | transition (transition : SoftwareBreakpointTransition)

def BreakpointOperation.apply : BreakpointOperation → BreakpointReducer BreakpointAnswer
  | planArm stopToken breakpoint originalByte persistence => do
    let plan ← SoftwareBreakpointStateMachine.planArm stopToken breakpoint originalByte persistence
    return .plan plan
  | planRestoreAfterHit breakpointId hitStopToken => do
    let plan ← SoftwareBreakpointStateMachine.planRestoreAfterHit breakpointId hitStopToken
    return .plan plan
  | planRearmAfterSingleStep breakpointId => do
    let plan ← SoftwareBreakpointStateMachine.planRearmAfterSingleStep breakpointId
    return .plan plan
  | planRemove breakpointId stopToken => do
    let plan ← SoftwareBreakpointStateMachine.planRemove breakpointId stopToken
    return .plan plan
  | acknowledgeSingleStep acknowledgement => do
    SoftwareBreakpointStateMachine.acknowledgeSingleStep acknowledgement
    return .stepped
  | acknowledgeSuccess acknowledgement => do
    let transition ← SoftwareBreakpointStateMachine.acknowledgeSuccess acknowledgement
    return .transition transition

end ReSymbol.Debugger
