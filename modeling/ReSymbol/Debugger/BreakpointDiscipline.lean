import ReSymbol.Debugger.SoftwareBreakpoint
import ReSymbol.Schemes.Runs

/-! The discipline of the software-breakpoint reducer.

    `Move` says once what an operation can do: refuse, plan, advance the table by the pending plan,
    correlate a single step, or poison. On a valid machine every operation is a move, every move
    keeps `Valid`, and the guarantees about ids, plans, acknowledgements and poison are read off the
    moves of a run. -/

namespace ReSymbol.Debugger
open Schemes Schemes.Reducer

/-- The acknowledgement that equals a plan in every field. -/
def SoftwareBreakpointActionPlan.acknowledgement (plan : SoftwareBreakpointActionPlan) :
    SoftwareBreakpointActionAcknowledgement where
  action := plan.action
  operationId := plan.bytes.operationId
  sessionId := plan.bytes.sessionId
  stopToken := plan.bytes.stopToken
  breakpoint := plan.bytes.breakpoint
  expectedByte := plan.bytes.expectedByte
  replacementByte := plan.bytes.replacementByte

namespace SoftwareBreakpointStateMachine

/-! ### The table -/

@[simp] theorem lookup_insert (table : BreakpointTable) (k a : BreakpointId)
    (e : BreakpointEntry) : (table.insert k e)[a]? = if k = a then some e else table[a]? := by
  simp [Std.ExtTreeMap.getElem?_insert]

@[simp] theorem lookup_erase (table : BreakpointTable) (k a : BreakpointId) :
    (table.erase k)[a]? = if k = a then none else table[a]? := by
  simp [Std.ExtTreeMap.getElem?_erase]

/-- Both the generation and the stop id of the second stop are greater. -/
structure LaterStop (prior next : StopToken) : Prop where
  generation : prior.state.generation.val < next.state.generation.val
  stopId : prior.stopId.val < next.stopId.val

theorem advancedStop_iff {prior next : StopToken} :
    advancedStop prior next = true ↔ LaterStop prior next := by
  rw [advancedStop, decide_eq_true_eq]
  exact ⟨fun h => ⟨h.1, h.2⟩, fun h => ⟨h.generation, h.stopId⟩⟩

/-- The optional fields of an entry follow its phase. -/
def PhaseValid (e : BreakpointEntry) : Prop :=
  match e.phase with
  | .armed => e.restoreOperationId = none ∧ e.singleStepStopToken = none
  | .awaitingSingleStep => e.restoreOperationId.isSome = true ∧ e.singleStepStopToken = none
  | .readyToRearm => e.restoreOperationId.isSome = true ∧
      ∃ token, e.singleStepStopToken = some token ∧ LaterStop e.acknowledgedByteStopToken token

/-- An entry is ready to rearm exactly when it has a restore operation and a later stop. -/
theorem PhaseValid.readyToRearm_iff {e : BreakpointEntry} (h : PhaseValid e) :
    e.phase = .readyToRearm ↔ e.restoreOperationId.isSome = true ∧
      ∃ token, e.singleStepStopToken = some token ∧
        LaterStop e.acknowledgedByteStopToken token := by
  unfold PhaseValid at h
  cases hp : e.phase <;> simp_all

structure EntryValid (id : BreakpointId) (e : BreakpointEntry) : Prop where
  key : e.breakpoint.id = id
  original : e.originalByte ≠ int3Opcode
  phase : PhaseValid e

structure TableValid (capacity : ℕ) (table : BreakpointTable) : Prop where
  entry : ∀ (id : BreakpointId) (e : BreakpointEntry), table[id]? = some e → EntryValid id e
  addresses : ∀ (id id' : BreakpointId) (e e' : BreakpointEntry), table[id]? = some e →
    table[id']? = some e' → e.breakpoint.address = e'.breakpoint.address → id = id'
  count : table.size ≤ capacity

/-- No retained breakpoint sits at the address. -/
def AddressFree (table : BreakpointTable) (address : MemoryAddress) : Prop :=
  ∀ (id : BreakpointId) (e : BreakpointEntry), table[id]? = some e → e.breakpoint.address ≠ address

section Table

variable {capacity : ℕ} {table : BreakpointTable} {id : BreakpointId} {e e' : BreakpointEntry}

theorem TableValid.insert_new (hv : TableValid capacity table) (he : EntryValid id e)
    (hfree : AddressFree table e.breakpoint.address) (hroom : table.size < capacity) :
    TableValid capacity (table.insert id e) := by
  refine ⟨?_, ?_, le_trans Std.ExtTreeMap.size_insert_le hroom⟩
  · intro k x hx
    rw [lookup_insert] at hx
    split_ifs at hx with hk
    · obtain rfl := Option.some.inj hx
      exact hk ▸ he
    · exact hv.entry k x hx
  · intro k k' x x' hx hx' haddr
    rw [lookup_insert] at hx hx'
    split_ifs at hx hx' with hk hk' hk'
    · exact hk.symm.trans hk'
    · obtain rfl := Option.some.inj hx
      exact absurd haddr.symm (hfree k' x' hx')
    · obtain rfl := Option.some.inj hx'
      exact absurd haddr (hfree k x hx)
    · exact hv.addresses k k' x x' hx hx' haddr

/-- Rewriting a retained entry without moving it keeps the table valid. -/
theorem TableValid.modify (hv : TableValid capacity table) (hold : table[id]? = some e)
    (he : EntryValid id e') (hsame : e'.breakpoint = e.breakpoint) :
    TableValid capacity (table.insert id e') := by
  have hlook : ∀ (k : BreakpointId) (x : BreakpointEntry), (table.insert id e')[k]? = some x →
      ∃ y : BreakpointEntry, table[k]? = some y ∧
        x.breakpoint.address = y.breakpoint.address := by
    intro k x hx
    rw [lookup_insert] at hx
    split_ifs at hx with hk
    · obtain rfl := Option.some.inj hx
      exact ⟨e, hk ▸ hold, by rw [hsame]⟩
    · exact ⟨x, hx, rfl⟩
  refine ⟨?_, ?_, ?_⟩
  · intro k x hx
    rw [lookup_insert] at hx
    split_ifs at hx with hk
    · obtain rfl := Option.some.inj hx
      exact hk ▸ he
    · exact hv.entry k x hx
  · intro k k' x x' hx hx' haddr
    obtain ⟨y, hy, hxy⟩ := hlook k x hx
    obtain ⟨y', hy', hxy'⟩ := hlook k' x' hx'
    exact hv.addresses k k' y y' hy hy' (by rw [← hxy, ← hxy', haddr])
  · rw [Std.ExtTreeMap.size_insert, Std.ExtTreeMap.contains_eq_isSome_getElem?, hold]
    exact hv.count

theorem TableValid.erase (hv : TableValid capacity table) (id : BreakpointId) :
    TableValid capacity (table.erase id) := by
  have hlook : ∀ (k : BreakpointId) (x : BreakpointEntry), (table.erase id)[k]? = some x →
    table[k]? = some x := by
    intro k x hx
    rw [lookup_erase] at hx
    split_ifs at hx
    exact hx
  exact ⟨fun k x hx => hv.entry k x (hlook k x hx),
    fun k k' x x' hx hx' => hv.addresses k k' x x' (hlook k x hx) (hlook k' x' hx'),
    le_trans Std.ExtTreeMap.size_erase_le hv.count⟩

end Table

/-! ### Plans and moves -/

/-- A pending operation fits the table it was planned on. -/
inductive PlanFor (sessionId : SessionId) (capacity : ℕ) (table : BreakpointTable) :
    PendingOperation → Prop
  | arm (operationId : SoftwareBreakpointOperationId) (stop : StopToken) (entry : BreakpointEntry)
      (fresh : table[entry.breakpoint.id]? = none)
      (free : AddressFree table entry.breakpoint.address)
      (room : table.size < capacity) (valid : EntryValid entry.breakpoint.id entry)
      (armed : entry.phase = .armed) :
      PlanFor sessionId capacity table ⟨.arm ⟨operationId, sessionId, stop, entry.breakpoint,
        entry.originalByte,
        int3Opcode⟩, .arm entry⟩
  | restore (operationId : SoftwareBreakpointOperationId) (stop : StopToken) (id : BreakpointId)
      (entry : BreakpointEntry) (retained : table[id]? = some entry)
      (armed : entry.phase = .armed) :
      PlanFor sessionId capacity table ⟨.restore ⟨operationId, sessionId, stop, entry.breakpoint,
        int3Opcode,
        entry.originalByte⟩, .restore id⟩
  | rearm (operationId : SoftwareBreakpointOperationId) (stop : StopToken) (id : BreakpointId)
      (entry : BreakpointEntry) (retained : table[id]? = some entry)
      (ready : entry.phase = .readyToRearm) :
      PlanFor sessionId capacity table ⟨.rearm ⟨operationId, sessionId, stop, entry.breakpoint,
        entry.originalByte,
        int3Opcode⟩, .rearm id⟩
  | remove (operationId : SoftwareBreakpointOperationId) (stop : StopToken) (id : BreakpointId)
      (entry : BreakpointEntry) (retained : table[id]? = some entry)
      (armed : entry.phase = .armed) :
      PlanFor sessionId capacity table ⟨.remove ⟨operationId, sessionId, stop, entry.breakpoint,
        int3Opcode,
        entry.originalByte⟩, .remove id⟩

/-- The representation invariant. -/
structure Valid (m : SoftwareBreakpointStateMachine) : Prop where
  table : TableValid m.capacity m.breakpoints
  pending : ∀ p, m.pending = some p → PlanFor m.sessionId m.capacity m.breakpoints p
  counter : ∀ value, m.nextOperationId = some value → 0 < value ∧ value < 2 ^ 64

/-- How the pending operation advances the table. -/
inductive Advance (table : BreakpointTable) :
    PendingOperation → SoftwareBreakpointTransition → BreakpointTable → Prop
  | armed {bytes entry} : Advance table ⟨.arm bytes, .arm entry⟩ (.armed entry.breakpoint.id)
      (table.insert entry.breakpoint.id entry)
  | restored {bytes id entry} (retained : table[id]? = some entry)
      (persistent : entry.persistence = .persistent) :
      Advance table ⟨.restore bytes, .restore id⟩ (.restoredForSingleStep id)
        (table.insert id (restoredEntry bytes entry))
  | temporaryRemoved {bytes id entry} (retained : table[id]? = some entry)
      (temporary : entry.persistence = .temporary) :
      Advance table ⟨.restore bytes, .restore id⟩ (.temporaryRemoved id) (table.erase id)
  | rearmed {bytes id entry} (retained : table[id]? = some entry) :
      Advance table ⟨.rearm bytes, .rearm id⟩ (.rearmed id)
        (table.insert id (rearmedEntry bytes entry))
  | removed {bytes id entry} (retained : table[id]? = some entry) :
      Advance table ⟨.remove bytes, .remove id⟩ (.removed id) (table.erase id)

/-- The machine after an exact acknowledgement of `p`. -/
def acknowledged (m : SoftwareBreakpointStateMachine) (p : PendingOperation)
    (table : BreakpointTable) : SoftwareBreakpointStateMachine :=
  { m with
    pending := none
    lastAcknowledgedOperation := some p.plan.operationId
    breakpoints := table }

/-- What cleanup has to know: every entry of the table, in the order of the ids, and the plan that
    may or may not have been carried out. -/
def cleanupRecord (m : SoftwareBreakpointStateMachine) : SoftwareBreakpointCleanupEvidence where
  sessionId := m.sessionId
  acknowledgedBreakpoints := m.breakpoints.toList.map fun (_, e) =>
    { breakpoint := e.breakpoint
      originalByte := e.originalByte
      persistence := e.persistence
      phase := e.phase
      acknowledgedByteStopToken := e.acknowledgedByteStopToken
      restoreOperationId := e.restoreOperationId
      singleStepStopToken := e.singleStepStopToken }
  uncertainOperation := m.pending.map (·.plan)

theorem currentCleanupEvidence_eq (m : SoftwareBreakpointStateMachine) :
    m.currentCleanupEvidence = m.cleanupRecord := by
  simp [currentCleanupEvidence, cleanupRecord, entries, pendingPlan, BreakpointEntry.snapshot]

/-- The machine after an acknowledgement it did not wait for. -/
def poisonedBy (m : SoftwareBreakpointStateMachine)
    (rejection : SoftwareBreakpointAcknowledgementRejection)
    (received : SoftwareBreakpointAcknowledgement) : SoftwareBreakpointStateMachine :=
  { m with poisonEvidence := some ⟨rejection, received, m.cleanupRecord⟩ }

def planned (m : SoftwareBreakpointStateMachine) (value : ℕ) (p : PendingOperation) :
    SoftwareBreakpointStateMachine :=
  { m with nextOperationId := checkedAdd value 1, pending := some p }

/-- The entry of a breakpoint whose single step was correlated. -/
def steppedEntry (token : StopToken) (entry : BreakpointEntry) : BreakpointEntry :=
  { entry with phase := .readyToRearm, singleStepStopToken := some token }

def steppedTo (m : SoftwareBreakpointStateMachine) (id : BreakpointId) (entry : BreakpointEntry)
    (token : StopToken) : SoftwareBreakpointStateMachine :=
  { m with breakpoints := m.breakpoints.insert id (steppedEntry token entry) }

/-- Everything an operation can do to a machine. -/
inductive Move (m : SoftwareBreakpointStateMachine) :
    Except (Fault SoftwareBreakpointError) BreakpointAnswer →
      SoftwareBreakpointStateMachine → Prop
  | refused (e : SoftwareBreakpointError) : Move m (.error (.error e)) m
  | planned (value : ℕ) (p : PendingOperation) (healthy : m.poisonEvidence = none)
      (idle : m.pending = none) (next : m.nextOperationId = some value)
      (operation : p.plan.operationId = ⟨value⟩)
      (plan : PlanFor m.sessionId m.capacity m.breakpoints p) :
      Move m (.ok (.plan p.plan)) (m.planned value p)
  | acknowledged (p : PendingOperation) (t : SoftwareBreakpointTransition)
      (table : BreakpointTable) (healthy : m.poisonEvidence = none)
      (pending : m.pending = some p) (advance : Advance m.breakpoints p t table) :
      Move m (.ok (.transition t)) (m.acknowledged p table)
  | stepped (id : BreakpointId) (entry : BreakpointEntry) (token : StopToken)
      (healthy : m.poisonEvidence = none) (idle : m.pending = none)
      (retained : m.breakpoints[id]? = some entry) (awaiting : entry.phase = .awaitingSingleStep)
      (later : LaterStop entry.acknowledgedByteStopToken token) :
      Move m (.ok .stepped) (m.steppedTo id entry token)
  | poisoned (rejection : SoftwareBreakpointAcknowledgementRejection)
      (received : SoftwareBreakpointAcknowledgement) (healthy : m.poisonEvidence = none) :
      Move m (.error (.error (.acknowledgementRejected rejection)))
        (m.poisonedBy rejection received)

/-! ### Every move keeps the invariant -/

section Preservation

variable {m m' : SoftwareBreakpointStateMachine}

theorem tableValid_advance (hv : Valid m) {p : PendingOperation}
    {t : SoftwareBreakpointTransition} {table : BreakpointTable}
    (plan : PlanFor m.sessionId m.capacity m.breakpoints p)
    (advance : Advance m.breakpoints p t table) : TableValid m.capacity table := by
  cases advance with
  | armed =>
    cases plan with
    | arm operationId stop entry fresh free room valid armed =>
      exact hv.table.insert_new valid free room
  | restored retained persistent =>
    have he := hv.table.entry _ _ retained
    exact hv.table.modify retained ⟨he.key, he.original, rfl, rfl⟩ rfl
  | temporaryRemoved retained temporary => exact hv.table.erase _
  | rearmed retained =>
    have he := hv.table.entry _ _ retained
    exact hv.table.modify retained ⟨he.key, he.original, rfl, rfl⟩ rfl
  | removed retained => exact hv.table.erase _

theorem valid_move (hv : Valid m) {out : Except (Fault SoftwareBreakpointError) BreakpointAnswer}
    (move : Move m out m') : Valid m' := by
  cases move with
  | refused e => exact hv
  | planned value p healthy idle next operation plan =>
    refine ⟨hv.table, fun q hq => ?_, fun v hvalue => ?_⟩
    · obtain rfl : p = q := Option.some.inj hq
      exact plan
    · have hadd : checkedAdd value 1 = some v := hvalue
      rw [checkedAdd_eq_some] at hadd
      omega
  | acknowledged p t table healthy pending advance =>
    exact ⟨tableValid_advance hv (hv.pending p pending) advance,
      fun q hq => by simp [acknowledged] at hq, hv.counter⟩
  | stepped id entry token healthy idle retained awaiting later =>
    have he := hv.table.entry id entry retained
    have hphase := he.phase
    rw [PhaseValid, awaiting] at hphase
    refine ⟨hv.table.modify retained ⟨he.key, he.original, hphase.1, token, rfl, later⟩ rfl,
      fun q hq => ?_, hv.counter⟩
    have hnone : m.pending = some q := hq
    simp [idle] at hnone
  | poisoned rejection received healthy =>
    exact ⟨hv.table, hv.pending, hv.counter⟩

theorem Move.capacity_eq {out : Except (Fault SoftwareBreakpointError) BreakpointAnswer}
    (move : Move m out m') : m'.capacity = m.capacity := by
  cases move <;> rfl

end Preservation

/-! ### Planning operations -/

section Planning

variable {m : SoftwareBreakpointStateMachine}

/-- A planning operation refuses and changes nothing, or fills the empty pending slot. -/
inductive PlanOutcome (m : SoftwareBreakpointStateMachine) :
    Except (Fault SoftwareBreakpointError) SoftwareBreakpointActionPlan ×
      SoftwareBreakpointStateMachine → Prop
  | refused (e : SoftwareBreakpointError) : PlanOutcome m (.error (.error e), m)
  | planned (value : ℕ) (p : PendingOperation) (healthy : m.poisonEvidence = none)
      (idle : m.pending = none) (next : m.nextOperationId = some value)
      (operation : p.plan.operationId = ⟨value⟩)
      (plan : PlanFor m.sessionId m.capacity m.breakpoints p) :
      PlanOutcome m (.ok p.plan, m.planned value p)

theorem healthy_idle {u : Unit} (h : m.requireHealthyAndIdle = .ok u) :
    m.poisonEvidence = none ∧ m.pending = none := by
  unfold requireHealthyAndIdle at h
  split_ifs at h with hp
  refine ⟨by simpa [isPoisoned] using hp, ?_⟩
  cases hpend : m.pending with
  | none => rfl
  | some p => simp [hpend] at h

theorem healthy_idle_of_requireReady {stop : StopToken} {u : Unit}
    (h : m.requireReady stop = .ok u) : m.poisonEvidence = none ∧ m.pending = none := by
  unfold requireReady at h
  obtain ⟨v, hv, -⟩ := except_bind_eq_ok.mp h
  exact healthy_idle hv

theorem retained_of_requireBreakpoint {id : BreakpointId} {entry : BreakpointEntry}
    (h : m.requireBreakpoint id = .ok entry) : m.breakpoints[id]? = some entry := by
  unfold requireBreakpoint at h
  cases he : m.breakpoints[id]? with
  | none => simp [he] at h
  | some e => simpa [he] using h

theorem phase_of_requirePhase {entry : BreakpointEntry} {action : SoftwareBreakpointAction}
    {phase : SoftwareBreakpointPhase} {u : Unit} (h : requirePhase entry action phase = .ok u) :
    entry.phase = phase := by
  unfold requirePhase at h
  split_ifs at h with hp
  exact hp

theorem reservePlan_outcome (healthy : m.poisonEvidence = none) (idle : m.pending = none)
    {plan : SoftwareBreakpointOperationId → SoftwareBreakpointActionPlan}
    {transition : PendingTransition} (hid : ∀ id, (plan id).operationId = id)
    (hplan : ∀ id, PlanFor m.sessionId m.capacity m.breakpoints ⟨plan id, transition⟩) :
    PlanOutcome m (reservePlan plan transition m) := by
  cases hnext : m.nextOperationId with
  | none =>
    have hrun : reservePlan plan transition m = (.error (.error .operationIdExhausted), m) := by
      simp only [reservePlan, allocateOperationId, bind_run, look_run, hnext, raise_run]
    rw [hrun]
    exact .refused _
  | some value =>
    have hrun : reservePlan plan transition m =
        (.ok (plan ⟨value⟩), m.planned value ⟨plan ⟨value⟩, transition⟩) := by
      simp only [reservePlan, allocateOperationId, bind_run, look_run, hnext, update_run, pure_run]
      rfl
    rw [hrun]
    exact .planned value ⟨plan ⟨value⟩, transition⟩ healthy idle hnext (hid _) (hplan _)

theorem addressFree_of_entries {address : MemoryAddress}
    (h : ¬ m.entries.any (fun entry => entry.breakpoint.address = address) = true) :
    AddressFree m.breakpoints address := by
  intro id e he haddr
  refine h (List.any_eq_true.mpr ⟨e, ?_, by simpa using haddr⟩)
  exact List.mem_map.mpr ⟨(id, e), Std.ExtTreeMap.mem_toList_iff_getElem?_eq_some.mpr he, rfl⟩

theorem planArm_outcome (stop : StopToken) (breakpoint : BreakpointSpec) (originalByte : UInt8)
    (persistence : BreakpointPersistence) :
    PlanOutcome m (planArm stop breakpoint originalByte persistence m) := by
  simp only [planArm, look_bind_run]
  cases hready : m.requireReady stop with
  | error e => exact .refused _
  | ok u =>
    obtain ⟨healthy, idle⟩ := healthy_idle_of_requireReady hready
    simp only [check_bind_ok, refuse_bind_run]
    by_cases hkind : breakpoint.kind ≠ .software
    · rw [if_pos hkind]
      exact .refused _
    rw [if_neg hkind]
    cases hspec : breakpoint.validate.mapError SoftwareBreakpointError.invalidBreakpointSpec with
    | error e => exact .refused _
    | ok v =>
      simp only [check_bind_ok, refuse_bind_run]
      split_ifs with hint3 hdup haddr hfull
      · exact .refused _
      · exact .refused _
      · exact .refused _
      · exact .refused _
      · rw [Std.ExtTreeMap.contains_eq_isSome_getElem?] at hdup
        have fresh := Option.not_isSome_iff_eq_none.mp hdup
        exact reservePlan_outcome healthy idle (fun _ => rfl) fun id =>
          .arm id stop ⟨breakpoint, originalByte, persistence, .armed, stop, none, none⟩ fresh
            (addressFree_of_entries haddr) (not_le.mp hfull) ⟨rfl, hint3, rfl, rfl⟩ rfl

theorem planRestoreAfterHit_outcome (id : BreakpointId) (stop : StopToken) :
    PlanOutcome m (planRestoreAfterHit id stop m) := by
  simp only [planRestoreAfterHit, look_bind_run]
  cases hready : m.requireReady stop with
  | error e => exact .refused _
  | ok u =>
    obtain ⟨healthy, idle⟩ := healthy_idle_of_requireReady hready
    cases hentry : m.requireBreakpoint id with
    | error e => exact .refused _
    | ok entry =>
      simp only [check_bind_ok]
      cases hphase : requirePhase entry .restore .armed with
      | error e => exact .refused _
      | ok v =>
        cases requireAdvancedStop entry.acknowledgedByteStopToken stop with
        | error e => exact .refused _
        | ok w =>
          exact reservePlan_outcome healthy idle (fun _ => rfl) fun operationId =>
            .restore operationId stop id entry (retained_of_requireBreakpoint hentry)
              (phase_of_requirePhase hphase)

theorem planRemove_outcome (id : BreakpointId) (stop : StopToken) :
    PlanOutcome m (planRemove id stop m) := by
  simp only [planRemove, look_bind_run]
  cases hready : m.requireReady stop with
  | error e => exact .refused _
  | ok u =>
    obtain ⟨healthy, idle⟩ := healthy_idle_of_requireReady hready
    cases hentry : m.requireBreakpoint id with
    | error e => exact .refused _
    | ok entry =>
      simp only [check_bind_ok]
      cases hphase : requirePhase entry .remove .armed with
      | error e => exact .refused _
      | ok v =>
        cases requireCurrentOrAdvancedStop entry.acknowledgedByteStopToken stop with
        | error e => exact .refused _
        | ok w =>
          exact reservePlan_outcome healthy idle (fun _ => rfl) fun operationId =>
            .remove operationId stop id entry (retained_of_requireBreakpoint hentry)
              (phase_of_requirePhase hphase)

/-- The `expect` on the correlated stop is safe: a valid entry that is ready to rearm has one. -/
theorem planRearmAfterSingleStep_outcome (hv : Valid m) (id : BreakpointId) :
    PlanOutcome m (planRearmAfterSingleStep id m) := by
  simp only [planRearmAfterSingleStep, look_bind_run]
  cases hready : m.requireHealthyAndIdle with
  | error e => exact .refused _
  | ok u =>
    obtain ⟨healthy, idle⟩ := healthy_idle hready
    cases hentry : m.requireBreakpoint id with
    | error e => exact .refused _
    | ok entry =>
      simp only [check_bind_ok]
      cases hphase : requirePhase entry .rearm .readyToRearm with
      | error e => exact .refused _
      | ok v =>
        have retained := retained_of_requireBreakpoint hentry
        have ready := phase_of_requirePhase hphase
        have hvalid := (hv.table.entry id entry retained).phase
        rw [PhaseValid, ready] at hvalid
        obtain ⟨-, token, htoken, -⟩ := hvalid
        simp only [check_bind_ok, htoken, expect_bind_some]
        exact reservePlan_outcome healthy idle (fun _ => rfl) fun operationId =>
          .rearm operationId token id entry retained ready

end Planning

/-! ### Acknowledging operations -/

section Acknowledging

variable {m : SoftwareBreakpointStateMachine}

theorem not_isPoisoned (healthy : m.poisonEvidence = none) : ¬ m.isPoisoned = true := by
  simp [isPoisoned, healthy]

theorem poison_run {α : Type} (rejection : SoftwareBreakpointAcknowledgementRejection)
    (received : SoftwareBreakpointAcknowledgement) :
    (poison rejection received : BreakpointReducer α) m =
      (.error (.error (.acknowledgementRejected rejection)), m.poisonedBy rejection received) := by
  rw [poisonedBy, ← currentCleanupEvidence_eq]
  rfl

/-- The pending transition of a valid machine applies without a panic. -/
theorem applyTransition_run (hv : Valid m) {p : PendingOperation} (pending : m.pending = some p) :
    ∃ t table, Advance m.breakpoints p t table ∧
      applyTransition p.plan.bytes p.transition
        { m with pending := none, lastAcknowledgedOperation := some p.plan.operationId } =
          (.ok t, m.acknowledged p table) := by
  cases hv.pending p pending with
  | arm operationId stop entry fresh free room valid armed => exact ⟨_, _, .armed, rfl⟩
  | restore operationId stop id entry retained armed =>
    cases hpers : entry.persistence with
    | persistent =>
      refine ⟨_, _, .restored retained hpers, ?_⟩
      simp only [applyTransition, look_bind_run, retained, expect_bind_some, hpers]
      rfl
    | temporary =>
      refine ⟨_, _, .temporaryRemoved retained hpers, ?_⟩
      simp only [applyTransition, look_bind_run, retained, expect_bind_some, hpers]
      rfl
  | rearm operationId stop id entry retained ready =>
    refine ⟨_, _, .rearmed retained, ?_⟩
    simp only [applyTransition, modifyEntry, bind_run, look_run, retained]
    rfl
  | remove operationId stop id entry retained armed => exact ⟨_, _, .removed retained, rfl⟩

/-- The exact acknowledgement of the pending plan advances the table. -/
theorem acknowledgeSuccess_exact (hv : Valid m) (healthy : m.poisonEvidence = none)
    {p : PendingOperation} (pending : m.pending = some p) :
    ∃ t table, Advance m.breakpoints p t table ∧
      acknowledgeSuccess p.plan.acknowledgement m = (.ok t, m.acknowledged p table) := by
  obtain ⟨t, table, advance, hrun⟩ := applyTransition_run hv pending
  refine ⟨t, table, advance, ?_⟩
  simp only [acknowledgeSuccess, look_bind_run, refuse_bind_run]
  rw [if_neg (not_isPoisoned healthy)]
  simp only [pending]
  split_ifs with hop hsession hstop hpayload
  · exact absurd rfl hop
  · exact absurd rfl hsession
  · exact absurd rfl hstop
  · simp [SoftwareBreakpointActionPlan.acknowledgement] at hpayload
  · exact hrun

/-- Any other acknowledgement of an action poisons the machine. -/
theorem acknowledgeSuccess_other (healthy : m.poisonEvidence = none)
    {a : SoftwareBreakpointActionAcknowledgement}
    (other : ∀ plan, m.pendingPlan = some plan → a ≠ plan.acknowledgement) :
    ∃ rejection, acknowledgeSuccess a m =
      (.error (.error (.acknowledgementRejected rejection)),
        m.poisonedBy rejection (.action a)) := by
  simp only [acknowledgeSuccess, look_bind_run, refuse_bind_run]
  rw [if_neg (not_isPoisoned healthy)]
  cases hpending : m.pending with
  | none => exact ⟨_, poison_run _ _⟩
  | some p =>
    dsimp only
    split_ifs with hop hsession hstop hpayload
    · exact ⟨_, poison_run _ _⟩
    · exact ⟨_, poison_run _ _⟩
    · exact ⟨_, poison_run _ _⟩
    · exact ⟨_, poison_run _ _⟩
    · refine absurd ?_ (other p.plan (by simp [pendingPlan, hpending]))
      simp only [not_or, ne_eq, not_not] at hop hsession hstop hpayload
      cases a
      simp_all [SoftwareBreakpointActionPlan.acknowledgement]

/-- A correlation the machine accepts for a breakpoint that awaits its single step. -/
def Correlates (m : SoftwareBreakpointStateMachine)
    (a : SoftwareBreakpointSingleStepAcknowledgement) : Prop :=
  m.pending = none ∧ a.sessionId = m.sessionId ∧ a.steppedStopToken.state.sessionId = m.sessionId ∧
    ∃ entry, m.breakpoints[a.breakpointId]? = some entry ∧ entry.phase = .awaitingSingleStep ∧
      entry.restoreOperationId = some a.restoreOperationId ∧
      entry.acknowledgedByteStopToken = a.hitStopToken ∧
      LaterStop a.hitStopToken a.steppedStopToken

theorem acknowledgeSingleStep_exact (healthy : m.poisonEvidence = none)
    {a : SoftwareBreakpointSingleStepAcknowledgement} (h : m.Correlates a) :
    ∃ entry, m.breakpoints[a.breakpointId]? = some entry ∧ entry.phase = .awaitingSingleStep ∧
      LaterStop entry.acknowledgedByteStopToken a.steppedStopToken ∧
      acknowledgeSingleStep a m =
        (.ok (), m.steppedTo a.breakpointId entry a.steppedStopToken) := by
  obtain ⟨idle, hs, hs', entry, retained, awaiting, hrestore, hhit, hlater⟩ := h
  refine ⟨entry, retained, awaiting, hhit ▸ hlater, ?_⟩
  simp only [acknowledgeSingleStep, look_bind_run, refuse_bind_run]
  rw [if_neg (not_isPoisoned healthy)]
  simp only [idle, Option.isSome_none, Bool.false_eq_true, if_false, hs, hs', retained, awaiting,
    hrestore, hhit, advancedStop_iff.mpr hlater, ne_eq, not_true_eq_false, reduceCtorEq, false_and,
      or_self,
    Bool.not_true]
  simp only [modifyEntry, look_bind_run, retained, expect_bind_some]
  rfl

/-- Any other single-step correlation poisons the machine. -/
theorem acknowledgeSingleStep_other (healthy : m.poisonEvidence = none)
    {a : SoftwareBreakpointSingleStepAcknowledgement} (h : ¬ m.Correlates a) :
    ∃ rejection, acknowledgeSingleStep a m =
      (.error (.error (.acknowledgementRejected rejection)),
        m.poisonedBy rejection (.singleStep a)) := by
  simp only [acknowledgeSingleStep, look_bind_run, refuse_bind_run]
  rw [if_neg (not_isPoisoned healthy)]
  cases hentry : m.breakpoints[a.breakpointId]? with
  | none =>
    dsimp only
    split_ifs
    · exact ⟨_, poison_run _ _⟩
    · exact ⟨_, poison_run _ _⟩
    · exact ⟨_, poison_run _ _⟩
    · exact ⟨_, poison_run _ _⟩
  | some entry =>
    dsimp only
    split_ifs with hpending hs hs' hdup hphase hhit hlater
    · exact ⟨_, poison_run _ _⟩
    · exact ⟨_, poison_run _ _⟩
    · exact ⟨_, poison_run _ _⟩
    · exact ⟨_, poison_run _ _⟩
    · exact ⟨_, poison_run _ _⟩
    · exact ⟨_, poison_run _ _⟩
    · exact ⟨_, poison_run _ _⟩
    · simp only [not_or, ne_eq, not_not] at hs hs' hphase hhit
      exact absurd ⟨by simpa using hpending, hs, hs', entry, hentry, hphase.1, hphase.2, hhit,
        advancedStop_iff.mp (by simpa using hlater)⟩ h

end Acknowledging

/-! ### Runs -/

abbrev Answer := Except (Fault SoftwareBreakpointError) BreakpointAnswer

abbrev Call := Event SoftwareBreakpointStateMachine BreakpointOperation Answer

/-- One call on a machine. -/
def Step (m : SoftwareBreakpointStateMachine) (op : BreakpointOperation) (out : Answer)
    (m' : SoftwareBreakpointStateMachine) : Prop :=
  op.apply m = (out, m')

/-- The call poisoned the machine: table and pending plan stay, and are what cleanup records. -/
def Poisons (e : Call) (received : SoftwareBreakpointAcknowledgement) : Prop :=
  ∃ rejection, e.output = .error (.error (.acknowledgementRejected rejection)) ∧
    e.post = e.pre.poisonedBy rejection received

/-- The call acknowledged exactly what the machine was waiting for. -/
def ExactAcknowledgement (e : Call) : Prop :=
  (∃ plan, e.pre.pendingPlan = some plan ∧ e.input = .acknowledgeSuccess plan.acknowledgement) ∨
    ∃ a, e.input = .acknowledgeSingleStep a ∧ e.pre.Correlates a

/-- What every single call obeys. -/
structure Disciplined (e : Call) : Prop where
  noPanic : NoPanic e.output
  planIssued : ∀ plan, e.output = .ok (.plan plan) →
    e.pre.pending = none ∧ e.post.pendingPlan = some plan ∧ e.post.breakpoints = e.pre.breakpoints
  planFailed : e.input.isPlan = true → ∀ f, e.output = .error f → e.post = e.pre
  tableChanged : e.post.breakpoints ≠ e.pre.breakpoints →
    e.pre.poisonEvidence = none ∧ ExactAcknowledgement e
  actionAccepted : e.pre.poisonEvidence = none → ∀ plan, e.pre.pendingPlan = some plan →
    e.input = .acknowledgeSuccess plan.acknowledgement → ∃ t, e.output = .ok (.transition t)
  actionOther : e.pre.poisonEvidence = none → ∀ a, e.input = .acknowledgeSuccess a →
    ¬ ExactAcknowledgement e → Poisons e (.action a)
  stepOther : e.pre.poisonEvidence = none → ∀ a, e.input = .acknowledgeSingleStep a →
    ¬ ExactAcknowledgement e → Poisons e (.singleStep a)
  poisoned : e.pre.isPoisoned = true → e.output = .error (.error .poisoned) ∧ e.post = e.pre

section Calls

variable {m : SoftwareBreakpointStateMachine}

/-- A poisoned machine answers every operation with `poisoned` and stays as it is. -/
theorem apply_poisoned (h : m.isPoisoned = true) (op : BreakpointOperation) :
    op.apply m = (.error (.error .poisoned), m) := by
  have hidle : m.requireHealthyAndIdle = .error .poisoned := by
    simp [requireHealthyAndIdle, h]
  have hready : ∀ stop, m.requireReady stop = .error .poisoned := by
    intro stop
    simp only [requireReady, hidle]
    rfl
  cases op <;>
    simp only [BreakpointOperation.apply, planArm, planRestoreAfterHit, planRearmAfterSingleStep,
      planRemove, acknowledgeSingleStep, acknowledgeSuccess, bind_pure_run, look_bind_run,
      refuse_bind_run, hready, hidle, h, if_true, check_bind_error, Except.map]

theorem disciplined_poisoned (h : m.isPoisoned = true) (op : BreakpointOperation) :
    Disciplined ⟨m, op, .error (.error .poisoned), m⟩ := by
  have hne : m.poisonEvidence ≠ none := Option.isSome_iff_ne_none.mp h
  exact ⟨trivial, fun _ hp => by simp at hp, fun _ _ _ => rfl, fun hch => absurd rfl hch,
    fun hn => absurd hn hne, fun hn => absurd hn hne, fun hn => absurd hn hne, fun _ => ⟨rfl, rfl⟩⟩

theorem disciplined_plan (healthy : m.poisonEvidence = none) {op : BreakpointOperation}
    (hop : op.isPlan = true)
    {out : Except (Fault SoftwareBreakpointError) SoftwareBreakpointActionPlan ×
      SoftwareBreakpointStateMachine} (hout : PlanOutcome m out) :
    Disciplined ⟨m, op, out.1.map .plan, out.2⟩ := by
  have haction : ∀ a, op ≠ .acknowledgeSuccess a := by
    rintro a rfl
    simp [BreakpointOperation.isPlan] at hop
  have hstep : ∀ a, op ≠ .acknowledgeSingleStep a := by
    rintro a rfl
    simp [BreakpointOperation.isPlan] at hop
  have hpoison := not_isPoisoned healthy
  cases hout with
  | refused e =>
    exact ⟨trivial, fun _ hp => by simp [Except.map] at hp, fun _ _ _ => rfl,
      fun hch => absurd rfl hch, fun _ plan _ hin => absurd hin (haction _),
      fun _ a hin => absurd hin (haction a), fun _ a hin => absurd hin (hstep a),
        fun hp => absurd hp hpoison⟩
  | planned value p _ idle next operation plan =>
    refine ⟨trivial, fun q hq => ?_, fun _ f hf => by simp [Except.map] at hf,
      fun hch => absurd rfl hch, fun _ plan _ hin => absurd hin (haction _),
      fun _ a hin => absurd hin (haction a), fun _ a hin => absurd hin (hstep a),
        fun hp => absurd hp hpoison⟩
    have hplan : p.plan = q := by simpa [Except.map] using hq
    exact ⟨idle, by simp [SoftwareBreakpointStateMachine.planned, pendingPlan, hplan], rfl⟩

/-- A poisoning call leaves the table alone and is no plan. -/
theorem disciplined_poisons (healthy : m.poisonEvidence = none) {op : BreakpointOperation}
    (hop : op.isPlan = false) {rejection : SoftwareBreakpointAcknowledgementRejection}
    {received : SoftwareBreakpointAcknowledgement}
    (haction : ∀ a, op = .acknowledgeSuccess a → received = .action a)
    (hstep : ∀ a, op = .acknowledgeSingleStep a → received = .singleStep a)
    (hother : ∀ plan, m.pendingPlan = some plan → op ≠ .acknowledgeSuccess plan.acknowledgement) :
    Disciplined ⟨m, op, .error (.error (.acknowledgementRejected rejection)),
      m.poisonedBy rejection received⟩ := by
  refine ⟨trivial, fun _ hp => by simp at hp, fun hplan => by simp [hop] at hplan,
    fun hch => absurd rfl hch, fun _ plan hplan hin => absurd hin (hother plan hplan),
    fun _ a hin _ => ⟨rejection, rfl, by rw [haction a hin]⟩,
    fun _ a hin _ => ⟨rejection, rfl, by rw [hstep a hin]⟩,
    fun hp => absurd hp (not_isPoisoned healthy)⟩

theorem disciplined_acknowledgeSuccess (hv : Valid m) (healthy : m.poisonEvidence = none)
    (a : SoftwareBreakpointActionAcknowledgement) :
    Disciplined ⟨m, .acknowledgeSuccess a, (acknowledgeSuccess a m).1.map .transition,
      (acknowledgeSuccess a m).2⟩ := by
  by_cases hexact : ∃ plan, m.pendingPlan = some plan ∧ a = plan.acknowledgement
  · obtain ⟨plan, hplan, rfl⟩ := hexact
    obtain ⟨p, hp, rfl⟩ := Option.map_eq_some_iff.mp hplan
    obtain ⟨t, table, -, hrun⟩ := acknowledgeSuccess_exact hv healthy hp
    rw [hrun]
    have hexact : ExactAcknowledgement ⟨m, .acknowledgeSuccess p.plan.acknowledgement,
        .ok (.transition t), m.acknowledged p table⟩ := .inl ⟨p.plan, hplan, rfl⟩
    exact ⟨trivial, fun _ h => by simp [Except.map] at h, fun hop => by
      simp [BreakpointOperation.isPlan] at hop, fun _ => ⟨healthy, hexact⟩, fun _ _ _ _ => ⟨t, rfl⟩,
      fun _ _ _ hno => absurd hexact hno, fun _ _ _ hno => absurd hexact hno,
      fun h => absurd h (not_isPoisoned healthy)⟩
  · push Not at hexact
    obtain ⟨rejection, hrun⟩ := acknowledgeSuccess_other healthy hexact
    rw [hrun]
    exact disciplined_poisons healthy rfl (fun b hb => by cases hb; rfl) (fun b hb => by cases hb)
      fun plan hplan heq => hexact plan hplan (BreakpointOperation.acknowledgeSuccess.inj heq)

theorem disciplined_acknowledgeSingleStep (healthy : m.poisonEvidence = none)
    (a : SoftwareBreakpointSingleStepAcknowledgement) :
    Disciplined ⟨m, .acknowledgeSingleStep a,
      (acknowledgeSingleStep a m).1.map (fun _ => .stepped), (acknowledgeSingleStep a m).2⟩ := by
  by_cases hexact : m.Correlates a
  · obtain ⟨entry, -, -, -, hrun⟩ := acknowledgeSingleStep_exact healthy hexact
    rw [hrun]
    have hexact : ExactAcknowledgement ⟨m, .acknowledgeSingleStep a, .ok .stepped,
        m.steppedTo a.breakpointId entry a.steppedStopToken⟩ := .inr ⟨a, rfl, hexact⟩
    exact ⟨trivial, fun _ h => by simp [Except.map] at h, fun hop => by
      simp [BreakpointOperation.isPlan] at hop, fun _ => ⟨healthy, hexact⟩,
      fun _ _ _ h => by simp at h, fun _ _ _ hno => absurd hexact hno,
      fun _ _ _ hno => absurd hexact hno, fun h => absurd h (not_isPoisoned healthy)⟩
  · obtain ⟨rejection, hrun⟩ := acknowledgeSingleStep_other healthy hexact
    rw [hrun]
    exact disciplined_poisons healthy rfl (fun b hb => by cases hb) (fun b hb => by cases hb; rfl)
      fun plan _ heq => by simp at heq

theorem disciplined_apply (hv : Valid m) (op : BreakpointOperation) :
    Disciplined ⟨m, op, (op.apply m).1, (op.apply m).2⟩ := by
  by_cases hpoison : m.isPoisoned = true
  · rw [apply_poisoned hpoison op]
    exact disciplined_poisoned hpoison op
  have healthy : m.poisonEvidence = none := by simpa [isPoisoned] using hpoison
  cases op with
  | planArm stop breakpoint originalByte persistence =>
    rw [BreakpointOperation.apply, bind_pure_run]
    exact disciplined_plan healthy rfl (planArm_outcome stop breakpoint originalByte persistence)
  | planRestoreAfterHit id stop =>
    rw [BreakpointOperation.apply, bind_pure_run]
    exact disciplined_plan healthy rfl (planRestoreAfterHit_outcome id stop)
  | planRearmAfterSingleStep id =>
    rw [BreakpointOperation.apply, bind_pure_run]
    exact disciplined_plan healthy rfl (planRearmAfterSingleStep_outcome hv id)
  | planRemove id stop =>
    rw [BreakpointOperation.apply, bind_pure_run]
    exact disciplined_plan healthy rfl (planRemove_outcome id stop)
  | acknowledgeSingleStep a =>
    rw [BreakpointOperation.apply, bind_pure_run]
    exact disciplined_acknowledgeSingleStep healthy a
  | acknowledgeSuccess a =>
    rw [BreakpointOperation.apply, bind_pure_run]
    exact disciplined_acknowledgeSuccess hv healthy a

/-- Only an acknowledgement of the pending plan makes a transition. -/
theorem acknowledgement_of_transition (healthy : m.poisonEvidence = none) {op : BreakpointOperation}
    {t : SoftwareBreakpointTransition} (h : (op.apply m).1 = .ok (.transition t)) :
    ∃ plan, m.pendingPlan = some plan ∧ op = .acknowledgeSuccess plan.acknowledgement := by
  cases op with
  | acknowledgeSuccess a =>
    by_cases hexact : ∃ plan, m.pendingPlan = some plan ∧ a = plan.acknowledgement
    · obtain ⟨plan, hplan, rfl⟩ := hexact
      exact ⟨plan, hplan, rfl⟩
    · push Not at hexact
      obtain ⟨rejection, hrun⟩ := acknowledgeSuccess_other healthy hexact
      rw [BreakpointOperation.apply, bind_pure_run, hrun] at h
      cases h
  | _ =>
    rw [BreakpointOperation.apply, bind_pure_run] at h
    obtain ⟨_, -, ⟨⟩⟩ := ok_of_map h

theorem move_of_planOutcome
    {out : Except (Fault SoftwareBreakpointError) SoftwareBreakpointActionPlan ×
      SoftwareBreakpointStateMachine} (hout : PlanOutcome m out) :
    Move m (out.1.map .plan) out.2 := by
  cases hout with
  | refused e => exact .refused e
  | planned value p healthy idle next operation plan =>
    exact .planned value p healthy idle next operation plan

theorem apply_move (hv : Valid m) (op : BreakpointOperation) :
    Move m (op.apply m).1 (op.apply m).2 := by
  by_cases hpoison : m.isPoisoned = true
  · rw [apply_poisoned hpoison op]
    exact .refused _
  have healthy : m.poisonEvidence = none := by simpa [isPoisoned] using hpoison
  cases op with
  | planArm stop breakpoint originalByte persistence =>
    rw [BreakpointOperation.apply, bind_pure_run]
    exact move_of_planOutcome (planArm_outcome stop breakpoint originalByte persistence)
  | planRestoreAfterHit id stop =>
    rw [BreakpointOperation.apply, bind_pure_run]
    exact move_of_planOutcome (planRestoreAfterHit_outcome id stop)
  | planRearmAfterSingleStep id =>
    rw [BreakpointOperation.apply, bind_pure_run]
    exact move_of_planOutcome (planRearmAfterSingleStep_outcome hv id)
  | planRemove id stop =>
    rw [BreakpointOperation.apply, bind_pure_run]
    exact move_of_planOutcome (planRemove_outcome id stop)
  | acknowledgeSingleStep a =>
    rw [BreakpointOperation.apply, bind_pure_run]
    by_cases hexact : m.Correlates a
    · obtain ⟨entry, retained, awaiting, later, hrun⟩ := acknowledgeSingleStep_exact healthy hexact
      rw [hrun]
      exact .stepped a.breakpointId entry a.steppedStopToken healthy hexact.1 retained
        awaiting later
    · obtain ⟨rejection, hrun⟩ := acknowledgeSingleStep_other healthy hexact
      rw [hrun]
      exact .poisoned rejection _ healthy
  | acknowledgeSuccess a =>
    rw [BreakpointOperation.apply, bind_pure_run]
    by_cases hexact : ∃ plan, m.pendingPlan = some plan ∧ a = plan.acknowledgement
    · obtain ⟨plan, hplan, rfl⟩ := hexact
      obtain ⟨p, hp, rfl⟩ := Option.map_eq_some_iff.mp hplan
      obtain ⟨t, table, advance, hrun⟩ := acknowledgeSuccess_exact hv healthy hp
      rw [hrun]
      exact .acknowledged p t table healthy hp advance
    · push Not at hexact
      obtain ⟨rejection, hrun⟩ := acknowledgeSuccess_other healthy hexact
      rw [hrun]
      exact .poisoned rejection _ healthy

theorem move_of_step {m' : SoftwareBreakpointStateMachine} {op : BreakpointOperation}
    {out : Answer} (hv : Valid m) (hs : Step m op out m') : Move m out m' := by
  have hm := apply_move hv op
  rwa [hs] at hm

end Calls

theorem valid_withCapacity {sessionId : SessionId} {capacity : ℕ}
    {m : SoftwareBreakpointStateMachine} (h : withCapacity sessionId capacity = .ok m) :
    Valid m ∧ m.breakpoints = ∅ ∧ m.capacity = capacity := by
  unfold withCapacity at h
  split_ifs at h
  obtain rfl := Except.ok.inj h
  refine ⟨⟨⟨fun id e he => by simp at he, fun id id' e e' he => by simp at he, by simp⟩,
    fun p hp => by simp at hp, fun value hv => ?_⟩, rfl, rfl⟩
  obtain rfl := Option.some.inj hv
  decide

/-- The operation id a call issued. -/
def issuedOperation (e : Call) : List ℕ :=
  match e.output with
  | .ok (.plan plan) => [plan.operationId.val]
  | _ => []

/-- Every id at or below this number has been issued or skipped for good. -/
def operationWatermark (m : SoftwareBreakpointStateMachine) : ℕ :=
  match m.nextOperationId with
  | some value => value - 1
  | none => u64Max

theorem issuedOperation_move {m m' : SoftwareBreakpointStateMachine} {op : BreakpointOperation}
    {out : Answer} (hv : Valid m) (move : Move m out m') :
    m.operationWatermark ≤ m'.operationWatermark ∧
      (issuedOperation ⟨m, op, out, m'⟩).Pairwise (· < ·) ∧
      ∀ n ∈ issuedOperation ⟨m, op, out, m'⟩,
        m.operationWatermark < n ∧ n ≤ m'.operationWatermark := by
  cases move with
  | refused e => exact ⟨le_refl _, .nil, fun n hn => by simp [issuedOperation] at hn⟩
  | planned value p healthy idle next operation plan =>
    obtain ⟨hpos, hlt⟩ := hv.counter value next
    have hmark : m.operationWatermark = value - 1 := by simp [operationWatermark, next]
    have hmark' : (m.planned value p).operationWatermark = value := by
      simp only [operationWatermark, planned, checkedAdd, bounded, u64Max]
      split_ifs
      · simp [Except.toOption]
      · dsimp only [Except.toOption]; omega
    refine ⟨by omega, List.pairwise_singleton _ _, fun n hn => ?_⟩
    have hn' : n = value := by simpa [issuedOperation, operation] using hn
    omega
  | acknowledged p t table healthy pending advance =>
    exact ⟨le_refl _, .nil, fun n hn => by simp [issuedOperation] at hn⟩
  | stepped id entry token healthy idle retained awaiting later =>
    exact ⟨le_refl _, .nil, fun n hn => by simp [issuedOperation] at hn⟩
  | poisoned rejection received healthy =>
    exact ⟨le_refl _, .nil, fun n hn => by simp [issuedOperation] at hn⟩

theorem valid_of_calls {sessionId : SessionId} {capacity : ℕ}
    {m₀ m : SoftwareBreakpointStateMachine} {es : List Call}
    (init : withCapacity sessionId capacity = .ok m₀) (run : Run Step m₀ es m) : Valid m :=
  run.invariant Valid (valid_withCapacity init).1 fun _ _ _ _ hv hs =>
    valid_move hv (move_of_step hv hs)

/-- A poisoned machine stays as it is through every further run. -/
theorem poisoned_of_calls {m m' : SoftwareBreakpointStateMachine} {es : List Call}
    (h : m.isPoisoned = true) (run : Run Step m es m') :
    m' = m ∧ ∀ e ∈ es, e.output = .error (.error .poisoned) := by
  refine run.event_invariant (· = m) _ rfl ?_
  rintro s op out s' rfl hs
  rw [Step, apply_poisoned h] at hs
  obtain ⟨rfl, rfl⟩ := Prod.mk.inj hs
  exact ⟨rfl, rfl⟩

/-- Over every run of calls on a new machine: issued operation ids strictly increase; every call is
    disciplined; a poisoned machine stays as it is through every further run; an entry is ready to
    rearm exactly when it has a restore operation and a strictly later correlated stop; and the
    default constructor does not panic either. -/
theorem calls_disciplined {sessionId : SessionId} {capacity : ℕ}
    {m₀ m : SoftwareBreakpointStateMachine} {es : List Call}
    (init : withCapacity sessionId capacity = .ok m₀) (run : Run Step m₀ es m) :
    (es.flatMap issuedOperation).Pairwise (· < ·) ∧ (∀ e ∈ es, Disciplined e) ∧
      (m.isPoisoned = true → ∀ es' m', Run Step m es' m' →
        m' = m ∧ ∀ e ∈ es', e.output = .error (.error .poisoned)) ∧
      (∀ (id : BreakpointId) (e : BreakpointEntry), m.breakpoints[id]? = some e →
        (e.phase = .readyToRearm ↔ e.restoreOperationId.isSome = true ∧
          ∃ token, e.singleStepStopToken = some token ∧
            e.acknowledgedByteStopToken.state.generation.val < token.state.generation.val ∧
            e.acknowledgedByteStopToken.stopId.val < token.stopId.val)) ∧
      NoPanic (new sessionId) := by
  have hvalid := (valid_withCapacity init).1
  refine ⟨?_, ?_, fun hp _ _ rest => poisoned_of_calls hp rest, ?_, trivial⟩
  · refine (run.issued_increasing operationWatermark issuedOperation Valid hvalid ?_).1
    intro m op out m' hv hs
    have hm := move_of_step hv hs
    exact ⟨valid_move hv hm, issuedOperation_move hv hm⟩
  · refine (run.event_invariant Valid Disciplined hvalid ?_).2
    intro m op out m' hv hs
    have hd := disciplined_apply hv op
    rw [hs] at hd
    exact ⟨valid_move hv (move_of_step hv hs), hd⟩
  · intro id e he
    rw [((valid_of_calls init run).table.entry id e he).phase.readyToRearm_iff]
    exact and_congr_right fun _ => exists_congr fun token => and_congr_right fun _ =>
      ⟨fun h => ⟨h.generation, h.stopId⟩, fun h => ⟨h.1, h.2⟩⟩

section Sample

/-- A new machine of capacity one. -/
def sampleMachine : SoftwareBreakpointStateMachine :=
  ⟨sampleSession, 1, some 1, none, ∅, none, none⟩

def sampleBreakpoint : BreakpointSpec :=
  ⟨1, 0x1010, .software, .process⟩

/-- The plan that arms the sample breakpoint over a `nop`. -/
def sampleArm : SoftwareBreakpointActionPlan :=
  .arm ⟨⟨1⟩, sampleSession, sampleStop 3 1, sampleBreakpoint, 0x90,
    int3Opcode⟩

/-- Arm the sample breakpoint, acknowledge, and acknowledge a second time. -/
def sampleArmTwice : List BreakpointOperation :=
  [.planArm (sampleStop 3 1) sampleBreakpoint 0x90 .persistent,
   .acknowledgeSuccess sampleArm.acknowledgement,
   .acknowledgeSuccess sampleArm.acknowledgement]

/-- The duplicate acknowledgement poisons a machine that retains one breakpoint. -/
theorem calls_disciplined_sampleArmTwice :
    withCapacity sampleSession 1 = .ok sampleMachine ∧
      let run := execute BreakpointOperation.apply sampleMachine sampleArmTwice
      run.2.breakpoints.size = 1 ∧ run.2.isPoisoned = true ∧ ∀ e ∈ run.1, Disciplined e := by
  have init : withCapacity sampleSession 1 = .ok sampleMachine := rfl
  exact ⟨init, by decide, by decide,
    (calls_disciplined init (run_execute BreakpointOperation.apply _ sampleArmTwice)).2.1⟩

end Sample

end SoftwareBreakpointStateMachine

end ReSymbol.Debugger
