import ReSymbol.Debugger.LivePatchInvariant

/-! What a remote receipt must say before a dispatched patch is settled by it.

    `ReceiptScan.inspect` walks the event batch once, with early exits and a handful of flags. Here
    the walk is replaced by what it decides: every event is acceptable on its own (`Accepts`), the
    batch holds at most one write and one failure record, and exactly one command result, at its
    end. The flags of an accepted scan are then plain functions of the batch (`scanOf`), and the two
    settling answers of `resolveReceipt` are evidence about the batch as a whole.

        events ──inspect──▶ scanOf events ──outcome──▶ committed / rejected / frozen
                  │ some event, or the batch, not acceptable
                  └──────────────────────────────────▶ frozen -/

namespace ReSymbol.Debugger
open Schemes Schemes.Reducer

/-! ### Kinds of events -/

namespace DebugEvent

def isResult : DebugEvent → Bool
  | commandResult _ _ => true
  | _ => false

def isWrite : DebugEvent → Bool
  | memoryWritten _ _ _ _ => true
  | _ => false

def isWriteFailure : DebugEvent → Bool
  | memoryWriteFailed _ => true
  | _ => false

def isStateChange : DebugEvent → Bool
  | stateChanged _ => true
  | _ => false

/-- An effect that no live write can have. -/
def isUnrelated : DebugEvent → Bool
  | commandResult _ _ | memoryWritten _ _ _ _ | memoryWriteFailed _ | stateChanged _
  | warning _ _ => false
  | _ => true

def writeFailure? : DebugEvent → Option MemoryWriteFailure
  | memoryWriteFailed failure => some failure
  | _ => none

def changedState? : DebugEvent → Option SessionState
  | stateChanged state => some state
  | _ => none

end DebugEvent

namespace CommandReceipt

def results (r : CommandReceipt) : List EventEnvelope := r.events.filter (·.event.isResult)
def writes (r : CommandReceipt) : List EventEnvelope := r.events.filter (·.event.isWrite)
def failures (r : CommandReceipt) : List EventEnvelope := r.events.filter (·.event.isWriteFailure)
def changes (r : CommandReceipt) : List EventEnvelope := r.events.filter (·.event.isStateChange)

/-- The batch ends with its only command result, which repeats the receipt and carries `state`. -/
def EndsAt (r : CommandReceipt) (state : StateToken) : Prop :=
  ∃ result, r.events.getLast? = some result ∧ r.results = [result] ∧
    result.event = .commandResult r.commandId r.outcome ∧ result.state = some state

/-- Every event was caused by the receipt's command in session `sessionId`. -/
def Correlated (r : CommandReceipt) (sessionId : SessionId) : Prop :=
  ∀ e ∈ r.events, e.causedBy = some r.commandId ∧ e.sessionId = some sessionId

end CommandReceipt

/-! ### The scan -/

namespace LivePatchHistory

namespace ReceiptScan

/-- What the scan demands of one event, wherever it stands in the batch. -/
def Accepts (sessionId : SessionId) (p : PendingLivePatchOperation) (receipt : CommandReceipt)
    (e : EventEnvelope) : Prop :=
  e.causedBy = some receipt.commandId ∧ e.sessionId = some sessionId ∧
    match e.event with
    | .commandResult commandId outcome =>
      commandId = receipt.commandId ∧ outcome = receipt.outcome
    | .memoryWritten stop address before after =>
      stop = p.stop ∧ address = p.address ∧ before = p.expected ∧ after = p.replacement ∧
        e.state = some p.stop.state
    | .memoryWriteFailed failure =>
      failure.stop = p.stop ∧ failure.address = p.address ∧
        failure.size.toNat = p.expected.length ∧ e.state = some p.stop.state ∧
        failure.validate = .ok ()
    | .stateChanged state => e.state = some state.stateToken
    | _ => True

/-- The flags after one more accepted event. -/
def record (scan : ReceiptScan) (e : EventEnvelope × ℕ) : ReceiptScan :=
  match e.1.event with
  | .commandResult _ _ =>
    { scan with
      commandResults := scan.commandResults + 1
      resultIndex := some e.2
      commandResultState := e.1.state }
  | .memoryWritten _ _ _ _ => { scan with memoryWritten := true }
  | .memoryWriteFailed failure => { scan with failure := some failure }
  | .stateChanged state =>
    { scan with stateChanges := scan.stateChanges + 1, states := scan.states ++ [state] }
  | .warning _ _ => scan
  | _ => { scan with unexpectedEffect := true }

section Record

variable (scan : ReceiptScan) (e : EventEnvelope) (i : ℕ)

theorem record_memoryWritten :
    (scan.record (e, i)).memoryWritten = (scan.memoryWritten || e.event.isWrite) := by
  unfold record DebugEvent.isWrite
  cases e.event <;> simp

theorem record_failure :
    (scan.record (e, i)).failure = e.event.writeFailure?.or scan.failure := by
  unfold record DebugEvent.writeFailure?
  cases e.event <;> simp

theorem record_commandResults :
    (scan.record (e, i)).commandResults = scan.commandResults + e.event.isResult.toNat := by
  unfold record DebugEvent.isResult
  cases e.event <;> simp

theorem record_resultIndex :
    (scan.record (e, i)).resultIndex = if e.event.isResult then some i else scan.resultIndex := by
  unfold record DebugEvent.isResult
  cases e.event <;> simp

theorem record_commandResultState :
    (scan.record (e, i)).commandResultState =
      if e.event.isResult then e.state else scan.commandResultState := by
  unfold record DebugEvent.isResult
  cases e.event <;> simp

theorem record_stateChanges :
    (scan.record (e, i)).stateChanges = scan.stateChanges + e.event.isStateChange.toNat := by
  unfold record DebugEvent.isStateChange
  cases e.event <;> simp

theorem record_states :
    (scan.record (e, i)).states = scan.states ++ e.event.changedState?.toList := by
  unfold record DebugEvent.changedState?
  cases e.event <;> simp

theorem record_unexpectedEffect :
    (scan.record (e, i)).unexpectedEffect = (scan.unexpectedEffect || e.event.isUnrelated) := by
  unfold record DebugEvent.isUnrelated
  cases e.event <;> simp

end Record

section Scan

variable {sessionId : SessionId} {p : PendingLivePatchOperation} {receipt : CommandReceipt}

theorem observe_eq_ok {scan scan' : ReceiptScan} {e : EventEnvelope} {i : ℕ} :
    observe sessionId p receipt scan (e, i) = .ok scan' ↔
      Accepts sessionId p receipt e ∧ (e.event.isWrite = true → scan.memoryWritten = false) ∧
        (e.event.isWriteFailure = true → scan.failure.isSome = false) ∧
        scan.record (e, i) = scan' := by
  obtain ⟨version, sequence, session, state, causedBy, event⟩ := e
  unfold observe Accepts record
  simp only [ite_error_eq_ok, not_not, and_assoc]
  refine and_congr_right fun _ => and_congr_right fun _ => ?_
  cases event <;>
    simp only [DebugEvent.isWrite, DebugEvent.isWriteFailure, ite_error_eq_ok, and_assoc, not_or,
      not_not, Except.ok.injEq, true_and, Bool.false_eq_true, false_implies, true_implies,
      Bool.not_eq_true, ne_eq]
  all_goals tauto

/-- A flag that must be clear before it is set is set at most once. -/
theorem once_iff (n : ℕ) (found now : Bool) :
    n + (if now = true then 1 else 0) + found.toNat ≤ 1 ↔
      (now = true → found = false) ∧ n + (found || now).toNat ≤ 1 := by
  cases found <;> cases now <;> simp

/-- The whole walk: the induction is on the batch, with the flags found so far generalized. -/
theorem foldlM_observe_eq_ok {scan' : ReceiptScan} (events : List EventEnvelope) :
    ∀ (scan : ReceiptScan) (k : ℕ),
      (events.zipIdx k).foldlM (observe sessionId p receipt) scan = .ok scan' ↔
        (∀ e ∈ events, Accepts sessionId p receipt e) ∧
          events.countP (·.event.isWrite) + scan.memoryWritten.toNat ≤ 1 ∧
          events.countP (·.event.isWriteFailure) + scan.failure.isSome.toNat ≤ 1 ∧
          (events.zipIdx k).foldl record scan = scan' := by
  induction events with
  | nil =>
    intro scan k
    have hw := Bool.toNat_le scan.memoryWritten
    have hf := Bool.toNat_le scan.failure.isSome
    simp [hw, hf, pure, Except.pure]
  | cons e rest ih =>
    intro scan k
    have hwrite := once_iff (rest.countP (·.event.isWrite)) scan.memoryWritten e.event.isWrite
    have hfail := once_iff (rest.countP (·.event.isWriteFailure)) scan.failure.isSome
      e.event.isWriteFailure
    have hfound : (scan.record (e, k)).failure.isSome =
        (scan.failure.isSome || e.event.isWriteFailure) := by
      rw [record_failure]
      cases e.event <;> simp [DebugEvent.writeFailure?, DebugEvent.isWriteFailure]
    simp only [List.zipIdx_cons, List.foldlM_cons, except_bind_eq_ok, observe_eq_ok,
      List.foldl_cons, List.forall_mem_cons, List.countP_cons, and_assoc, exists_and_left,
      exists_eq_left', ih, record_memoryWritten, hfound, hwrite, hfail]
    tauto

/-! ### The flags of a whole batch -/

def scanOf (events : List EventEnvelope) : ReceiptScan := events.zipIdx.foldl record {}

theorem scanOf_concat (events : List EventEnvelope) (e : EventEnvelope) :
    scanOf (events ++ [e]) = (scanOf events).record (e, events.length) := by
  simp [scanOf, List.zipIdx_append, List.foldl_append]

section Flags

variable (events : List EventEnvelope)

theorem scanOf_memoryWritten :
    (scanOf events).memoryWritten = events.any (·.event.isWrite) := by
  induction events using List.reverseRecOn with
  | nil => rfl
  | append_singleton events e ih => simp [scanOf_concat, record_memoryWritten, ih]

theorem scanOf_failure :
    (scanOf events).failure = (events.filterMap (·.event.writeFailure?)).getLast? := by
  induction events using List.reverseRecOn with
  | nil => rfl
  | append_singleton events e ih =>
    rw [scanOf_concat, record_failure, ih, List.filterMap_append]
    cases h : e.event.writeFailure? <;> simp [h]

theorem scanOf_commandResults :
    (scanOf events).commandResults = events.countP (·.event.isResult) := by
  induction events using List.reverseRecOn with
  | nil => rfl
  | append_singleton events e ih =>
    rw [scanOf_concat, record_commandResults, ih, List.countP_append, List.countP_singleton]
    cases e.event.isResult <;> rfl

theorem scanOf_stateChanges :
    (scanOf events).stateChanges = events.countP (·.event.isStateChange) := by
  induction events using List.reverseRecOn with
  | nil => rfl
  | append_singleton events e ih =>
    rw [scanOf_concat, record_stateChanges, ih, List.countP_append, List.countP_singleton]
    cases e.event.isStateChange <;> rfl

theorem scanOf_states : (scanOf events).states = events.filterMap (·.event.changedState?) := by
  induction events using List.reverseRecOn with
  | nil => rfl
  | append_singleton events e ih =>
    rw [scanOf_concat, record_states, ih, List.filterMap_append]
    cases h : e.event.changedState? <;> simp [h]

theorem scanOf_unexpectedEffect :
    (scanOf events).unexpectedEffect = events.any (·.event.isUnrelated) := by
  induction events using List.reverseRecOn with
  | nil => rfl
  | append_singleton events e ih => simp [scanOf_concat, record_unexpectedEffect, ih]

theorem scanOf_resultIndex_lt {i : ℕ} (h : (scanOf events).resultIndex = some i) :
    i < events.length := by
  induction events using List.reverseRecOn with
  | nil => simp [scanOf] at h
  | append_singleton events e ih =>
    rw [scanOf_concat, record_resultIndex] at h
    rw [List.length_append, List.length_singleton]
    split at h
    · obtain rfl := Option.some.inj h
      exact Nat.lt_succ_self _
    · exact Nat.lt_succ_of_lt (ih h)

/-- One result, found at the last index: the batch ends with its only result. -/
theorem scanOf_result_iff :
    ((scanOf events).commandResults = 1 ∧
        (scanOf events).resultIndex = some (events.length - 1)) ↔
      ∃ result, events.getLast? = some result ∧ events.filter (·.event.isResult) = [result] := by
  rcases List.eq_nil_or_concat' events with rfl | ⟨front, e, rfl⟩
  · simp [scanOf]
  rw [scanOf_commandResults, List.countP_eq_length_filter, scanOf_concat, record_resultIndex,
    List.filter_append, List.getLast?_append]
  cases he : e.event.isResult with
  | true => simp [he]
  | false =>
    have hlt : (scanOf front).resultIndex ≠ some front.length := fun h =>
      lt_irrefl _ (scanOf_resultIndex_lt front h)
    have hne : front.filter (·.event.isResult) ≠ [e] := fun h => by
      have hmem : e ∈ front.filter (·.event.isResult) := h ▸ List.mem_singleton_self e
      simp [he] at hmem
    simp [he, hlt, hne]

end Flags

/-- The batches the scan accepts, and what it then reports. -/
theorem inspect_eq_ok {scan : ReceiptScan} :
    inspect sessionId p receipt = .ok scan ↔
      (∀ e ∈ receipt.events, Accepts sessionId p receipt e) ∧
        receipt.writes.length ≤ 1 ∧ receipt.failures.length ≤ 1 ∧
        (∃ result, receipt.events.getLast? = some result ∧ receipt.results = [result]) ∧
        scanOf receipt.events = scan := by
  have hnonempty : (∃ result, receipt.events.getLast? = some result ∧
      receipt.results = [result]) → receipt.events.isEmpty = false := by
    rintro ⟨result, hlast, -⟩
    cases hevents : receipt.events <;> simp_all
  unfold inspect
  rw [guard_eq_ok, except_bind_eq_ok]
  simp only [foldlM_observe_eq_ok, guard_eq_ok, ne_eq, not_not, Bool.toNat_false,
    Option.isSome_none, Nat.add_zero, List.countP_eq_length_filter, Bool.not_eq_true]
  constructor
  · rintro ⟨-, found, ⟨haccepts, hwrites, hfailures, rfl⟩, hcount, hindex, hscan⟩
    exact ⟨haccepts, hwrites, hfailures, (scanOf_result_iff _).mp ⟨hcount, hindex⟩,
      Except.ok.inj hscan⟩
  · rintro ⟨haccepts, hwrites, hfailures, hresult, rfl⟩
    obtain ⟨hcount, hindex⟩ := (scanOf_result_iff _).mpr hresult
    exact ⟨hnonempty hresult, _, ⟨haccepts, hwrites, hfailures, rfl⟩, hcount, hindex, rfl⟩

end Scan

end ReceiptScan

/-! ### Evidence -/

/-- The receipt answers this history: its session, its target, and a command id not seen before. -/
structure Addressed (h : LivePatchHistory) (sessionId : SessionId) (binding : LiveTargetBinding)
    (receipt : CommandReceipt) : Prop where
  session : sessionId = h.sessionId
  binding : binding = h.binding
  fresh : FreshReceipt h receipt.commandId
  correlated : receipt.Correlated h.sessionId

/-- `next` is the `+1/+1` successor of `prior` in the same session. -/
structure Successor (prior next : StopToken) : Prop where
  session : next.state.sessionId = prior.state.sessionId
  generation : next.state.generation.val = prior.state.generation.val + 1
  stopId : next.stopId.val = prior.stopId.val + 1

/-- Exact evidence of the pending write, ending at the stop `next`. -/
structure CommitEvidence (p : PendingLivePatchOperation) (receipt : CommandReceipt)
    (next : StopToken) : Prop where
  outcome : receipt.outcome = .succeeded
  result : receipt.EndsAt next.state
  written : ∃ e, receipt.writes = [e] ∧
    e.event = .memoryWritten p.stop p.address p.expected p.replacement
  unfailed : receipt.failures = []
  related : ∀ e ∈ receipt.events, e.event.isUnrelated = false
  stopped : ∃ e reason threadId, receipt.changes = [e] ∧
    e.event = .stateChanged (.stopped next reason threadId)
  successor : Successor p.stop next

/-- The envelopes of writes and state changes carry the state their event is about. -/
def InContext (receipt : CommandReceipt) : Prop :=
  ∀ e ∈ receipt.events, e.event.isWrite ∨ e.event.isStateChange → e.state = e.event.stateContext

/-- Evidence that a rejected write left the target as it was. -/
structure RejectEvidence (p : PendingLivePatchOperation) (receipt : CommandReceipt) : Prop where
  result : receipt.EndsAt p.stop.state
  unwritten : receipt.writes = []
  unchanged : receipt.changes = []
  related : ∀ e ∈ receipt.events, e.event.isUnrelated = false
  cause : ∃ code message, receipt.outcome = .rejected code message ∧
    ((receipt.failures = [] ∧ code ≠ memoryWriteFailureRejectionCode) ∨
      ∃ e failure, receipt.failures = [e] ∧ e.event = .memoryWriteFailed failure ∧
        e.state = some p.stop.state ∧ failure.stop = p.stop ∧ failure.address = p.address ∧
        failure.size.toNat = p.expected.length ∧ failure.validate = .ok () ∧
        failure.recovery.isRollbackSafe = true ∧ code = memoryWriteFailureRejectionCode ∧
        message = failure.detail)

theorem CommitEvidence.not_reject {p : PendingLivePatchOperation} {receipt : CommandReceipt}
    {next : StopToken} (hcommit : CommitEvidence p receipt next) : ¬ RejectEvidence p receipt := by
  rintro ⟨-, -, -, -, code, message, houtcome, -⟩
  rw [hcommit.outcome] at houtcome
  cases houtcome

theorem isExactSuccessorStop_iff {prior next : StopToken} :
    isExactSuccessorStop prior next = true ↔ Successor prior next := by
  have hg : next.state.generation.val < 2 ^ 64 := next.state.generation.lt
  have hs : next.stopId.val < 2 ^ 64 := next.stopId.lt
  simp only [isExactSuccessorStop, checkedAdd_eq_some, decide_eq_true_eq]
  constructor
  · rintro ⟨hsession, ⟨hgen, -⟩, hstop, -⟩
    exact ⟨hsession, hgen.symm, hstop.symm⟩
  · rintro ⟨hsession, hgen, hstop⟩
    exact ⟨hsession, ⟨hgen.symm, by omega⟩, hstop.symm, by omega⟩

theorem staleReceipt_eq_none {h : LivePatchHistory} {commandId : CommandId} :
    h.staleReceipt commandId = none ↔ FreshReceipt h commandId := by
  refine ⟨freshReceipt_of_staleReceipt, fun fresh => ?_⟩
  cases hlast : h.lastReceiptCommandId with
  | none => simp [staleReceipt, hlast]
  | some last => simpa [staleReceipt, hlast] using fresh last hlast

/-! ### From flags to evidence -/

section Flags

variable (receipt : CommandReceipt)

theorem map_changes :
    receipt.changes.map (·.event) =
      (receipt.events.filterMap (·.event.changedState?)).map .stateChanged := by
  unfold CommandReceipt.changes
  induction receipt.events with
  | nil => rfl
  | cons e rest ih =>
    cases he : e.event <;> simp_all [DebugEvent.isStateChange, DebugEvent.changedState?]

theorem map_failures :
    receipt.failures.map (·.event) =
      (receipt.events.filterMap (·.event.writeFailure?)).map .memoryWriteFailed := by
  unfold CommandReceipt.failures
  induction receipt.events with
  | nil => rfl
  | cons e rest ih =>
    cases he : e.event <;> simp_all [DebugEvent.isWriteFailure, DebugEvent.writeFailure?]

theorem memoryWritten_eq_false_iff :
    (ReceiptScan.scanOf receipt.events).memoryWritten = false ↔ receipt.writes = [] := by
  rw [ReceiptScan.scanOf_memoryWritten, List.any_eq_false]
  exact List.filter_eq_nil_iff.symm

theorem stateChanges_eq_zero_iff :
    (ReceiptScan.scanOf receipt.events).stateChanges = 0 ↔ receipt.changes = [] := by
  rw [ReceiptScan.scanOf_stateChanges, List.countP_eq_length_filter]
  exact List.length_eq_zero_iff

theorem unexpectedEffect_eq_false_iff :
    (ReceiptScan.scanOf receipt.events).unexpectedEffect = false ↔
      ∀ e ∈ receipt.events, e.event.isUnrelated = false := by
  simp [ReceiptScan.scanOf_unexpectedEffect]

theorem states_eq_singleton_iff {state : SessionState} :
    (ReceiptScan.scanOf receipt.events).states = [state] ↔
      ∃ e, receipt.changes = [e] ∧ e.event = .stateChanged state := by
  rw [ReceiptScan.scanOf_states]
  have hmap := map_changes receipt
  constructor
  · intro hstates
    rw [hstates] at hmap
    exact List.map_eq_singleton_iff.mp hmap
  · rintro ⟨e, he, hevent⟩
    rw [he, List.map_singleton, hevent] at hmap
    obtain ⟨state', hstates, heq⟩ := List.map_eq_singleton_iff.mp hmap.symm
    rw [hstates, DebugEvent.stateChanged.inj heq]

theorem failure_eq_none_iff :
    (ReceiptScan.scanOf receipt.events).failure = none ↔ receipt.failures = [] := by
  rw [ReceiptScan.scanOf_failure, List.getLast?_eq_none_iff, ← List.map_eq_nil_iff,
    ← map_failures, List.map_eq_nil_iff]

theorem failure_eq_some_iff {failure : MemoryWriteFailure} (hone : receipt.failures.length ≤ 1) :
    (ReceiptScan.scanOf receipt.events).failure = some failure ↔
      ∃ e, receipt.failures = [e] ∧ e.event = .memoryWriteFailed failure := by
  rw [ReceiptScan.scanOf_failure]
  have hmap := map_failures receipt
  rcases hfailures : receipt.failures with _ | ⟨e, _ | ⟨e', rest⟩⟩
  · rw [hfailures, List.map_nil] at hmap
    simp [List.map_eq_nil_iff.mp hmap.symm]
  · rw [hfailures, List.map_singleton] at hmap
    obtain ⟨failure', hfound, heq⟩ := List.map_eq_singleton_iff.mp hmap.symm
    simp [hfound, ← heq]
  · simp [hfailures] at hone

end Flags

section Evidence

variable {p : PendingLivePatchOperation} {sessionId : SessionId} {receipt : CommandReceipt}

/-- The state of the last result is the state of the scan. -/
theorem scanOf_commandResultState {result : EventEnvelope}
    (hlast : receipt.events.getLast? = some result) (hresults : receipt.results = [result]) :
    (ReceiptScan.scanOf receipt.events).commandResultState = result.state := by
  have hmem : result ∈ receipt.results := by simp [hresults]
  obtain ⟨front, hfront⟩ := List.getLast?_eq_some_iff.mp hlast
  rw [hfront, ReceiptScan.scanOf_concat, ReceiptScan.record_commandResultState,
    if_pos (List.mem_filter.mp hmem).2]

/-- The only result of an accepted batch ends it at the state of the scan. -/
theorem endsAt_of_accepts (haccepts : ∀ e ∈ receipt.events,
      ReceiptScan.Accepts sessionId p receipt e)
    (hresult : ∃ result, receipt.events.getLast? = some result ∧ receipt.results = [result])
    {state : StateToken}
    (hstate : (ReceiptScan.scanOf receipt.events).commandResultState = some state) :
    receipt.EndsAt state := by
  obtain ⟨result, hlast, hresults⟩ := hresult
  have hmem : result ∈ receipt.results := by simp [hresults]
  obtain ⟨hin, his⟩ := List.mem_filter.mp hmem
  obtain ⟨-, -, hevent⟩ := haccepts result hin
  refine ⟨result, hlast, hresults, ?_, (scanOf_commandResultState hlast hresults) ▸ hstate⟩
  cases he : result.event <;> simp [he, DebugEvent.isResult] at his hevent ⊢
  exact hevent

/-- Every event of a batch is acceptable when its writes, failures, state changes and result are. -/
theorem accepts_of_parts (correlated : receipt.Correlated sessionId)
    (hresult : ∀ e ∈ receipt.results, e.event = .commandResult receipt.commandId receipt.outcome)
    (hwrites : ∀ e ∈ receipt.writes,
      e.event = .memoryWritten p.stop p.address p.expected p.replacement ∧
        e.state = some p.stop.state)
    (hfailures : ∀ e ∈ receipt.failures, ∃ failure, e.event = .memoryWriteFailed failure ∧
      failure.stop = p.stop ∧ failure.address = p.address ∧
        failure.size.toNat = p.expected.length ∧ e.state = some p.stop.state ∧
        failure.validate = .ok ())
    (hchanges : ∀ e ∈ receipt.changes, e.state = e.event.stateContext) :
    ∀ e ∈ receipt.events, ReceiptScan.Accepts sessionId p receipt e := by
  intro e he
  obtain ⟨hcaused, hsession⟩ := correlated e he
  refine ⟨hcaused, hsession, ?_⟩
  cases hevent : e.event with
  | commandResult commandId outcome =>
    have := hresult e (List.mem_filter.mpr ⟨he, by rw [hevent]; rfl⟩)
    rw [hevent, DebugEvent.commandResult.injEq] at this
    exact this
  | memoryWritten stop address before after =>
    obtain ⟨heq, hstate⟩ := hwrites e (List.mem_filter.mpr ⟨he, by rw [hevent]; rfl⟩)
    rw [hevent, DebugEvent.memoryWritten.injEq] at heq
    obtain ⟨hstop, haddress, hbefore, hafter⟩ := heq
    exact ⟨hstop, haddress, hbefore, hafter, hstate⟩
  | memoryWriteFailed failure =>
    obtain ⟨failure', heq, hmatch⟩ := hfailures e (List.mem_filter.mpr ⟨he, by rw [hevent]; rfl⟩)
    rw [hevent, DebugEvent.memoryWriteFailed.injEq] at heq
    exact heq ▸ hmatch
  | stateChanged state =>
    have hstate := hchanges e (List.mem_filter.mpr ⟨he, by rw [hevent]; rfl⟩)
    rw [hevent] at hstate
    exact hstate
  | _ => trivial

theorem inContext_of_accepts
    (haccepts : ∀ e ∈ receipt.events, ReceiptScan.Accepts sessionId p receipt e) :
    InContext receipt := by
  intro e he hkind
  obtain ⟨-, -, hevent⟩ := haccepts e he
  cases h : e.event <;>
    simp [h, DebugEvent.isWrite, DebugEvent.isStateChange, DebugEvent.stateContext]
      at hkind hevent ⊢
  · exact hevent
  · exact hevent.1 ▸ hevent.2.2.2.2

theorem successStop_eq_some {scan : ReceiptScan} {next : StopToken} :
    scan.successStop p = some next ↔
      (∃ reason threadId, scan.states = [.stopped next reason threadId]) ∧
        Successor p.stop next ∧ scan.commandResultState = some next.state := by
  unfold ReceiptScan.successStop
  split
  next token reason threadId hstates =>
    simp only [Option.ite_none_right_eq_some, isExactSuccessorStop_iff, Option.some.injEq]
    constructor
    · rintro ⟨⟨hnext, hstate⟩, rfl⟩
      exact ⟨⟨reason, threadId, hstates⟩, hnext, hstate⟩
    · rintro ⟨⟨reason', threadId', hstates'⟩, hnext, hstate⟩
      rw [hstates] at hstates'
      obtain rfl : token = next := by simp_all
      exact ⟨⟨hnext, hstate⟩, rfl⟩
  next hnot =>
    simp only [reduceCtorEq, false_iff]
    rintro ⟨⟨reason, threadId, hstates⟩, -⟩
    exact hnot _ _ _ hstates

/-- The writes of an accepted batch are the pending one. -/
theorem write_of_accepts
    (haccepts : ∀ e ∈ receipt.events, ReceiptScan.Accepts sessionId p receipt e)
    {e : EventEnvelope} (hmem : e ∈ receipt.writes) :
    e.event = .memoryWritten p.stop p.address p.expected p.replacement := by
  obtain ⟨hin, hkind⟩ := List.mem_filter.mp hmem
  obtain ⟨-, -, hevent⟩ := haccepts e hin
  cases h : e.event <;> simp [h, DebugEvent.isWrite] at hkind hevent ⊢
  exact ⟨hevent.1, hevent.2.1, hevent.2.2.1, hevent.2.2.2.1⟩

/-- A scan that commits at `next` is exact evidence ending there, and conversely. -/
theorem commits_iff {next : StopToken} :
    (∃ scan, ReceiptScan.inspect sessionId p receipt = .ok scan ∧ scan.failure = none ∧
        scan.unexpectedEffect = false ∧ scan.memoryWritten = true ∧
        scan.successStop p = some next) ∧ receipt.outcome = .succeeded ↔
      receipt.Correlated sessionId ∧ InContext receipt ∧ CommitEvidence p receipt next := by
  constructor
  · rintro ⟨⟨scan, hscan, hfailure, hrelated, hwritten, hstop⟩, houtcome⟩
    obtain ⟨haccepts, hwrites, -, hresult, rfl⟩ := ReceiptScan.inspect_eq_ok.mp hscan
    obtain ⟨⟨reason, threadId, hstates⟩, hnext, hstate⟩ := successStop_eq_some.mp hstop
    obtain ⟨c, hc, hchange⟩ := (states_eq_singleton_iff receipt).mp hstates
    have hsome : receipt.writes ≠ [] := fun h => by
      simp [(memoryWritten_eq_false_iff receipt).mpr h] at hwritten
    obtain ⟨w, hw⟩ := List.length_eq_one_iff.mp
      (le_antisymm hwrites (List.length_pos_iff.mpr hsome))
    exact ⟨fun e he => ⟨(haccepts e he).1, (haccepts e he).2.1⟩, inContext_of_accepts haccepts,
      houtcome, endsAt_of_accepts haccepts hresult hstate,
      ⟨w, hw, write_of_accepts haccepts (by simp [hw])⟩, (failure_eq_none_iff receipt).mp hfailure,
      (unexpectedEffect_eq_false_iff receipt).mp hrelated, ⟨c, reason, threadId, hc, hchange⟩,
      hnext⟩
  · rintro ⟨hcorrelated, hcontext, houtcome, ⟨result, hlast, hresults, hevent, hstate⟩,
      ⟨w, hw, hwrite⟩, hunfailed, hrelated, ⟨c, reason, threadId, hc, hchange⟩, hnext⟩
    have haccepts : ∀ e ∈ receipt.events, ReceiptScan.Accepts sessionId p receipt e := by
      refine accepts_of_parts hcorrelated ?_ ?_ ?_ ?_
      · simp [hresults, hevent]
      · have hwmem : w ∈ receipt.writes := by simp [hw]
        obtain ⟨hin, hkind⟩ := List.mem_filter.mp hwmem
        have hwstate := hcontext w hin (.inl hkind)
        rw [hwrite] at hwstate
        simpa [hw] using ⟨hwrite, hwstate⟩
      · simp [hunfailed]
      · intro e he
        obtain ⟨hin, hkind⟩ := List.mem_filter.mp he
        exact hcontext e hin (.inr hkind)
    refine ⟨⟨_, ReceiptScan.inspect_eq_ok.mpr ⟨haccepts, by simp [hw], by simp [hunfailed],
      ⟨result, hlast, hresults⟩, rfl⟩, (failure_eq_none_iff receipt).mpr hunfailed,
      (unexpectedEffect_eq_false_iff receipt).mpr hrelated, ?_, ?_⟩, houtcome⟩
    · rw [← Bool.not_eq_false, memoryWritten_eq_false_iff, hw]
      simp
    · rw [successStop_eq_some, scanOf_commandResultState hlast hresults]
      exact ⟨⟨reason, threadId, (states_eq_singleton_iff receipt).mpr ⟨c, hc, hchange⟩⟩, hnext,
        hstate⟩

/-- What a scan must report for a rejection to clear the pending operation. -/
def ReceiptScan.Harmless (scan : ReceiptScan) (p : PendingLivePatchOperation)
    (code message : String) : Prop :=
  scan.memoryWritten = false ∧ scan.stateChanges = 0 ∧ scan.unexpectedEffect = false ∧
    scan.commandResultState = some p.stop.state ∧
    ((scan.failure = none ∧ code ≠ memoryWriteFailureRejectionCode) ∨
      ∃ failure, scan.failure = some failure ∧ failure.recovery.isRollbackSafe = true ∧
        code = memoryWriteFailureRejectionCode ∧ message = failure.detail)

/-- A scan that clears the pending operation is evidence that nothing happened. -/
theorem rejects_iff :
    (∃ scan code message, ReceiptScan.inspect sessionId p receipt = .ok scan ∧
        receipt.outcome = .rejected code message ∧ scan.Harmless p code message) ↔
      receipt.Correlated sessionId ∧ RejectEvidence p receipt := by
  constructor
  · rintro ⟨scan, code, message, hscan, houtcome, hwritten, hchanges, hrelated, hstate, hcause⟩
    obtain ⟨haccepts, -, hone, hresult, rfl⟩ := ReceiptScan.inspect_eq_ok.mp hscan
    refine ⟨fun e he => ⟨(haccepts e he).1, (haccepts e he).2.1⟩,
      endsAt_of_accepts haccepts hresult hstate, (memoryWritten_eq_false_iff receipt).mp hwritten,
      (stateChanges_eq_zero_iff receipt).mp hchanges,
      (unexpectedEffect_eq_false_iff receipt).mp hrelated, code, message, houtcome, ?_⟩
    rcases hcause with ⟨hnone, hcode⟩ | ⟨failure, hfailure, hsafe, hcode, hmessage⟩
    · exact .inl ⟨(failure_eq_none_iff receipt).mp hnone, hcode⟩
    · obtain ⟨e, he, hevent⟩ := (failure_eq_some_iff receipt hone).mp hfailure
      have hmem : e ∈ receipt.failures := by simp [he]
      obtain ⟨-, -, hmatch⟩ := haccepts e (List.mem_filter.mp hmem).1
      rw [hevent] at hmatch
      obtain ⟨hstop, haddress, hsize, hestate, hvalid⟩ := hmatch
      exact .inr ⟨e, failure, he, hevent, hestate, hstop, haddress, hsize, hvalid, hsafe, hcode,
        hmessage⟩
  · rintro ⟨hcorrelated, ⟨result, hlast, hresults, hevent, hstate⟩, hunwritten, hunchanged,
      hrelated, code, message, houtcome, hcause⟩
    have haccepts : ∀ e ∈ receipt.events, ReceiptScan.Accepts sessionId p receipt e := by
      refine accepts_of_parts hcorrelated ?_ (by simp [hunwritten]) ?_ (by simp [hunchanged])
      · simp [hresults, hevent]
      · rcases hcause with ⟨hnone, -⟩ | ⟨e, failure, he, hfail, hestate, hstop, haddress, hsize,
          hvalid, -⟩
        · simp [hnone]
        · intro e' he'
          obtain rfl : e' = e := by simpa [he] using he'
          exact ⟨failure, hfail, hstop, haddress, hsize, hestate, hvalid⟩
    have hone : receipt.failures.length ≤ 1 := by
      rcases hcause with ⟨hnone, -⟩ | ⟨e, failure, he, -⟩
      · simp [hnone]
      · simp [he]
    refine ⟨_, code, message, ReceiptScan.inspect_eq_ok.mpr ⟨haccepts, by simp [hunwritten], hone,
      ⟨result, hlast, hresults⟩, rfl⟩, houtcome,
      (memoryWritten_eq_false_iff receipt).mpr hunwritten,
      (stateChanges_eq_zero_iff receipt).mpr hunchanged,
      (unexpectedEffect_eq_false_iff receipt).mpr hrelated, ?_, ?_⟩
    · rw [scanOf_commandResultState hlast hresults, hstate]
    · rcases hcause with ⟨hnone, hcode⟩ | ⟨e, failure, he, hfail, -, -, -, -, -, hsafe, hcode,
        hmessage⟩
      · exact .inl ⟨(failure_eq_none_iff receipt).mpr hnone, hcode⟩
      · exact .inr ⟨failure, (failure_eq_some_iff receipt hone).mpr ⟨e, he, hfail⟩, hsafe, hcode,
          hmessage⟩

end Evidence

/-! ### The answers of `resolveReceipt` -/

def isCommitted : LivePatchResolution → Bool
  | .forwardCommitted _ | .undoCommitted _ => true
  | _ => false

section Answers

variable {h : LivePatchHistory} {p : PendingLivePatchOperation}

theorem freezeMismatch_answer (flight : InFlight h p) (commandId : CommandId)
    (mismatch : LivePatchReceiptMismatch) :
    (freezeMismatch commandId mismatch h).1 = .ok .frozen := by
  rw [freezeMismatch, freeze_run flight]

theorem commitSuccess_answer (hv : Valid h) (flight : InFlight h p) (commandId : CommandId)
    (next : StopToken) :
    ∃ r, (commitSuccess commandId next h).1 = .ok r ∧ isCommitted r = true := by
  cases hkind : p.kind with
  | forwardWrite => exact ⟨_, by rw [commitSuccess_forward hv flight hkind], rfl⟩
  | undo =>
    obtain ⟨top, -, hrun⟩ := commitSuccess_undo hv flight hkind commandId next
    exact ⟨_, by rw [hrun], rfl⟩

/-- What the scan of a success must have found. -/
def ReceiptScan.Exact (scan : ReceiptScan) (p : PendingLivePatchOperation) : Prop :=
  scan.failure = none ∧ scan.unexpectedEffect = false ∧ scan.memoryWritten = true ∧
    ∃ next, scan.successStop p = some next

theorem resolveSucceeded_answer (hv : Valid h) (flight : InFlight h p) (commandId : CommandId)
    (scan : ReceiptScan) :
    (scan.Exact p ∧
        ∃ r, (resolveSucceeded p commandId scan h).1 = .ok r ∧ isCommitted r = true) ∨
      (¬ scan.Exact p ∧ (resolveSucceeded p commandId scan h).1 = .ok .frozen) := by
  unfold resolveSucceeded ReceiptScan.Exact
  split_ifs with hfailure hrelated hwritten
  · exact .inr ⟨fun h => by simp [h.1] at hfailure, freezeMismatch_answer flight _ _⟩
  · exact .inr ⟨fun h => by simp [h.2.1] at hrelated, freezeMismatch_answer flight _ _⟩
  · exact .inr ⟨fun h => by simp [h.2.2.1] at hwritten, freezeMismatch_answer flight _ _⟩
  · cases hstop : scan.successStop p with
    | none => exact .inr ⟨fun h => by simp at h, freezeMismatch_answer flight _ _⟩
    | some next =>
      exact .inl ⟨⟨by simpa using hfailure, by simpa using hrelated, by simpa using hwritten, next,
        rfl⟩, commitSuccess_answer hv flight commandId next⟩

theorem resolveRejected_answer (flight : InFlight h p) (commandId : CommandId)
    (code message : String) (scan : ReceiptScan) :
    (scan.Harmless p code message ∧
        (resolveRejected p commandId code message scan h).1 = .ok .rejectedNoEffect) ∨
      (¬ scan.Harmless p code message ∧
        (resolveRejected p commandId code message scan h).1 = .ok .frozen) := by
  have hfrozen := freezeMismatch_answer flight commandId
  have hrejected : (rejectNoEffect commandId h).1 = .ok .rejectedNoEffect := by
    rw [rejectNoEffect_run flight]
  unfold resolveRejected ReceiptScan.Harmless
  cases hfailure : scan.failure with
  | none =>
    dsimp only
    split_ifs with hwritten hcode heffect
    · exact .inr ⟨fun h => by simp [h.1] at hwritten, hfrozen _⟩
    · exact .inr ⟨fun h => by simp_all, hfrozen _⟩
    · exact .inr ⟨fun h => by simp_all, hfrozen _⟩
    · simp only [not_or, not_not, Bool.not_eq_true, ne_eq] at heffect hwritten
      exact .inl ⟨⟨hwritten, heffect.1, heffect.2.1, heffect.2.2, .inl ⟨rfl, hcode⟩⟩, hrejected⟩
  | some failure =>
    dsimp only
    split_ifs with hwritten hcode heffect hsafe hstate hindeterminate
    · exact .inr ⟨fun h => by simp [h.1] at hwritten, hfrozen _⟩
    · exact .inr ⟨fun h => by simp_all, hfrozen _⟩
    · exact .inr ⟨fun h => by simp_all, hfrozen _⟩
    · exact .inr ⟨fun h => by simp_all, hfrozen _⟩
    · simp only [not_or, not_not, Bool.not_eq_true, ne_eq] at hstate hcode heffect hwritten
      exact .inl ⟨⟨hwritten, hstate.1, heffect, hstate.2, .inr ⟨failure, rfl, hsafe, hcode⟩⟩,
        hrejected⟩
    · exact .inr ⟨fun h => by simp_all, by rw [freeze_run flight]⟩
    · exact .inr ⟨fun h => by simp_all, hfrozen _⟩

/-- The receipt passes every check before its outcome is looked at, with the flags `scan`. -/
structure Scanned (h : LivePatchHistory) (p : PendingLivePatchOperation) (sessionId : SessionId)
    (binding : LiveTargetBinding) (receipt : CommandReceipt) (scan : ReceiptScan) : Prop where
  session : sessionId = h.sessionId
  binding : binding = h.binding
  fresh : h.staleReceipt receipt.commandId = none
  inspected : ReceiptScan.inspect h.sessionId p receipt = .ok scan

section Receipt

variable {sessionId : SessionId} {binding : LiveTargetBinding} {receipt : CommandReceipt}

theorem resolveReceipt_scanned (flight : InFlight h p) {scan : ReceiptScan}
    (hs : Scanned h p sessionId binding receipt scan) :
    resolveReceipt sessionId binding receipt h = match receipt.outcome with
      | .succeeded => resolveSucceeded p receipt.commandId scan h
      | .rejected code message => resolveRejected p receipt.commandId code message scan h := by
  simp only [resolveReceipt, look_bind_run, refuse_bind_run, flight.unfrozen, flight.pending,
    flight.dispatched, Option.isSome_none, ne_eq, not_true_eq_false, if_false, hs.session,
    hs.binding, hs.fresh, hs.inspected, Bool.false_eq_true]
  cases receipt.outcome with
  | succeeded => simp only
  | rejected code message => simp only

theorem resolveReceipt_unscanned (flight : InFlight h p)
    (hno : ∀ scan, ¬ Scanned h p sessionId binding receipt scan) :
    (resolveReceipt sessionId binding receipt h).1 = .ok .frozen := by
  have hfrozen := freezeMismatch_answer flight receipt.commandId
  simp only [resolveReceipt, look_bind_run, refuse_bind_run, flight.unfrozen, flight.pending,
    flight.dispatched, Option.isSome_none, ne_eq, not_true_eq_false, if_false, Bool.false_eq_true]
  by_cases hsession : sessionId = h.sessionId
  swap
  · simp only [hsession, not_false_eq_true, if_true, hfrozen]
  by_cases hbinding : binding = h.binding
  swap
  · simp only [hsession, hbinding, not_true_eq_false, not_false_eq_true, if_true, if_false, hfrozen]
  simp only [hsession, hbinding, not_true_eq_false, if_false]
  cases hstale : h.staleReceipt receipt.commandId with
  | some previous => exact hfrozen _
  | none =>
    cases hscan : ReceiptScan.inspect h.sessionId p receipt with
    | error mismatch => exact hfrozen _
    | ok scan => exact absurd ⟨hsession, hbinding, hstale, hscan⟩ (hno scan)

theorem commitEvidence_iff :
    (Addressed h sessionId binding receipt ∧ InContext receipt ∧
        ∃ next, CommitEvidence p receipt next) ↔
      ∃ scan, Scanned h p sessionId binding receipt scan ∧ receipt.outcome = .succeeded ∧
        scan.Exact p := by
  constructor
  · rintro ⟨⟨hsession, hbinding, hfresh, hcorrelated⟩, hcontext, next, evidence⟩
    obtain ⟨⟨scan, hscan, hfailure, hrelated, hwritten, hstop⟩, houtcome⟩ :=
      commits_iff.mpr ⟨hcorrelated, hcontext, evidence⟩
    exact ⟨scan, ⟨hsession, hbinding, staleReceipt_eq_none.mpr hfresh, hscan⟩, houtcome, hfailure,
      hrelated, hwritten, next, hstop⟩
  · rintro ⟨scan, ⟨hsession, hbinding, hfresh, hscan⟩, houtcome, hfailure, hrelated, hwritten, next,
      hstop⟩
    obtain ⟨hcorrelated, hcontext, evidence⟩ :=
      commits_iff.mp ⟨⟨scan, hscan, hfailure, hrelated, hwritten, hstop⟩, houtcome⟩
    exact ⟨⟨hsession, hbinding, staleReceipt_eq_none.mp hfresh, hcorrelated⟩, hcontext, next,
      evidence⟩

theorem rejectEvidence_iff :
    (Addressed h sessionId binding receipt ∧ RejectEvidence p receipt) ↔
      ∃ scan code message, Scanned h p sessionId binding receipt scan ∧
        receipt.outcome = .rejected code message ∧ scan.Harmless p code message := by
  constructor
  · rintro ⟨⟨hsession, hbinding, hfresh, hcorrelated⟩, evidence⟩
    obtain ⟨scan, code, message, hscan, houtcome, hharmless⟩ :=
      rejects_iff.mpr ⟨hcorrelated, evidence⟩
    exact ⟨scan, code, message, ⟨hsession, hbinding, staleReceipt_eq_none.mpr hfresh, hscan⟩,
      houtcome, hharmless⟩
  · rintro ⟨scan, code, message, ⟨hsession, hbinding, hfresh, hscan⟩, houtcome, hharmless⟩
    obtain ⟨hcorrelated, evidence⟩ :=
      rejects_iff.mp ⟨scan, code, message, hscan, houtcome, hharmless⟩
    exact ⟨⟨hsession, hbinding, staleReceipt_eq_none.mp hfresh, hcorrelated⟩, evidence⟩

/-- Two scans of one receipt report the same flags. -/
theorem Scanned.unique {scan scan' : ReceiptScan}
    (hs : Scanned h p sessionId binding receipt scan)
    (hs' : Scanned h p sessionId binding receipt scan') : scan = scan' :=
  Except.ok.inj (hs.inspected.symm.trans hs'.inspected)

/-- Every receipt of a dispatched operation commits on exact evidence, clears on evidence of a
    harmless rejection, and freezes otherwise. -/
theorem resolveReceipt_answer (hv : Valid h) (flight : InFlight h p) :
    ((Addressed h sessionId binding receipt ∧ InContext receipt ∧
          ∃ next, CommitEvidence p receipt next) ∧
        ∃ r, (resolveReceipt sessionId binding receipt h).1 = .ok r ∧ isCommitted r = true) ∨
      ((Addressed h sessionId binding receipt ∧ RejectEvidence p receipt) ∧
        (resolveReceipt sessionId binding receipt h).1 = .ok .rejectedNoEffect) ∨
      (¬ (Addressed h sessionId binding receipt ∧ InContext receipt ∧
          ∃ next, CommitEvidence p receipt next) ∧
        ¬ (Addressed h sessionId binding receipt ∧ RejectEvidence p receipt) ∧
        (resolveReceipt sessionId binding receipt h).1 = .ok .frozen) := by
  rw [commitEvidence_iff, rejectEvidence_iff]
  by_cases hscanned : ∃ scan, Scanned h p sessionId binding receipt scan
  swap
  · refine .inr (.inr ⟨?_, ?_, resolveReceipt_unscanned flight (not_exists.mp hscanned)⟩)
    · rintro ⟨scan, hs, -⟩
      exact hscanned ⟨scan, hs⟩
    · rintro ⟨scan, -, -, hs, -⟩
      exact hscanned ⟨scan, hs⟩
  obtain ⟨scan, hs⟩ := hscanned
  rw [resolveReceipt_scanned flight hs]
  cases houtcome : receipt.outcome with
  | succeeded =>
    rcases resolveSucceeded_answer hv flight receipt.commandId scan with ⟨hexact, hr⟩ | ⟨hnot, hr⟩
    · exact .inl ⟨⟨scan, hs, rfl, hexact⟩, hr⟩
    · refine .inr (.inr ⟨?_, ?_, hr⟩)
      · rintro ⟨scan', hs', -, hexact⟩
        exact hnot (hs.unique hs' ▸ hexact)
      · rintro ⟨scan', code, message, hs', hrejected, -⟩
        cases hrejected
  | rejected code message =>
    rcases resolveRejected_answer flight receipt.commandId code message scan with
      ⟨hharmless, hr⟩ | ⟨hnot, hr⟩
    · exact .inr (.inl ⟨⟨scan, code, message, hs, rfl, hharmless⟩, hr⟩)
    · refine .inr (.inr ⟨?_, ?_, hr⟩)
      · rintro ⟨scan', hs', hsucceeded, -⟩
        cases hsucceeded
      · rintro ⟨scan', code', message', hs', hrejected, hharmless⟩
        cases hrejected
        exact hnot (hs.unique hs' ▸ hharmless)

end Receipt

end Answers

/-- CORRECT (receipts): on a history reached by calls with a dispatched operation, a receipt
    commits exactly on the evidence of the pending write with its envelopes in context, clears the
    operation exactly on the evidence of a harmless rejection, and freezes the history otherwise. -/
theorem resolve_receipt_exact_evidence {sessionId₀ : SessionId} {binding₀ : LiveTargetBinding}
    {es : List (Event LivePatchHistory HistoryOperation
      (Except (Fault LivePatchHistoryError) HistoryAnswer))} {h : LivePatchHistory}
    (run : Calls sessionId₀ binding₀ es h) {p : PendingLivePatchOperation} (flight : InFlight h p)
    (sessionId : SessionId) (binding : LiveTargetBinding) (receipt : CommandReceipt) :
    let answer := (resolveReceipt sessionId binding receipt h).1
    ((∃ entry, answer = .ok (.forwardCommitted entry) ∨ answer = .ok (.undoCommitted entry)) ↔
        Addressed h sessionId binding receipt ∧ InContext receipt ∧
          ∃ next, CommitEvidence p receipt next) ∧
      (answer = .ok .rejectedNoEffect ↔
        Addressed h sessionId binding receipt ∧ RejectEvidence p receipt) ∧
      ((∃ entry, answer = .ok (.forwardCommitted entry) ∨ answer = .ok (.undoCommitted entry)) ∨
        answer = .ok .rejectedNoEffect ∨ answer = .ok .frozen) := by
  intro answer
  have hanswer : answer = (resolveReceipt sessionId binding receipt h).1 := rfl
  have hcommitted : ∀ r, isCommitted r = true →
      ∃ entry, r = .forwardCommitted entry ∨ r = .undoCommitted entry := by
    intro r hr
    cases r <;> simp_all [isCommitted]
  rcases @resolveReceipt_answer h p sessionId binding receipt (valid_of_calls run) flight with
    ⟨hevidence, r, hr, hc⟩ | ⟨hevidence, hr⟩ | ⟨hnc, hnr, hr⟩
  · obtain ⟨entry, hentry⟩ := hcommitted r hc
    have hnr : ¬ RejectEvidence p receipt := by
      obtain ⟨-, -, next, hcommit⟩ := hevidence
      exact hcommit.not_reject
    rw [hanswer, hr]
    rcases hentry with rfl | rfl <;> simp [hevidence, hnr]
  · have hnc : ¬ ∃ next, CommitEvidence p receipt next := by
      rintro ⟨next, hcommit⟩
      exact hcommit.not_reject hevidence.2
    rw [hanswer, hr]
    simp [hevidence, hnc]
  · rw [hanswer, hr]
    exact ⟨⟨fun h => by simp at h, fun h => absurd h hnc⟩,
      ⟨fun h => by simp at h, fun h => absurd h hnr⟩, .inr (.inr rfl)⟩

section Sample

/-- A dispatched write of `0xcc` over `0x90` at `0x1010`. -/
def sampleDispatched : LivePatchHistory :=
  (execute HistoryOperation.apply (new sampleSession sampleBinding) (sampleWrite.take 2)).2

def samplePending : PendingLivePatchOperation :=
  ⟨.forwardWrite, .dispatched, sampleStop 3 1, 0x1010, [0x90],
    [0xcc]⟩

theorem sampleDispatched_flight : InFlight sampleDispatched samplePending :=
  ⟨rfl, rfl, rfl⟩

/-- The receipt of `samplePending`, with the given state on the envelope of its write. -/
def sampleReceipt (writeState : Option StateToken) : CommandReceipt :=
  let next := sampleStop 4 2
  let commandId : CommandId := 5
  let envelope (sequence : EventSequence) (state : Option StateToken) (event : DebugEvent) :
      EventEnvelope := ⟨.current, sequence, some sampleSession, state, some commandId, event⟩
  { commandId := commandId
    outcome := .succeeded
    events := [
      envelope 1 writeState
        (.memoryWritten samplePending.stop samplePending.address [0x90] [0xcc]),
      envelope 2 (some next.state)
        (.stateChanged (.stopped next .userPause 9)),
      envelope 3 (some next.state) (.commandResult commandId .succeeded)] }

theorem resolve_receipt_exact_evidence_sampleReceipt :
    let receipt := sampleReceipt (some samplePending.stop.state)
    (∃ entry, (resolveReceipt sampleSession sampleBinding receipt sampleDispatched).1 =
        .ok (.forwardCommitted entry)) ∧
      ∃ next, CommitEvidence samplePending receipt next := by
  have hcommitted : (resolveReceipt sampleSession sampleBinding
      (sampleReceipt (some samplePending.stop.state)) sampleDispatched).1 =
        .ok (.forwardCommitted _) := rfl
  have hexact := resolve_receipt_exact_evidence
    (run_execute HistoryOperation.apply (new sampleSession sampleBinding) (sampleWrite.take 2))
    sampleDispatched_flight sampleSession sampleBinding
    (sampleReceipt (some samplePending.stop.state))
  exact ⟨⟨_, hcommitted⟩, (hexact.1.mp ⟨_, .inl hcommitted⟩).2.2⟩

/-- The write's envelope carries no state: every other item of the evidence is there, and the
    history freezes. -/
theorem stateless_write_freezes :
    InFlight sampleDispatched samplePending ∧
      Addressed sampleDispatched sampleSession sampleBinding (sampleReceipt none) ∧
      (∃ next, CommitEvidence samplePending (sampleReceipt none) next) ∧
      (resolveReceipt sampleSession sampleBinding (sampleReceipt none) sampleDispatched).1 =
        .ok .frozen := by
  refine ⟨sampleDispatched_flight, ⟨rfl, rfl, fun last h => ?_, ?_⟩,
    ⟨sampleStop 4 2, ?_⟩, rfl⟩
  · cases h
  · intro e he
    fin_cases he <;> exact ⟨rfl, rfl⟩
  · exact ⟨rfl, ⟨_, rfl, rfl, rfl, rfl⟩, ⟨_, rfl, rfl⟩, rfl, by decide, ⟨_, _, _, rfl, rfl⟩,
      ⟨rfl, rfl, rfl⟩⟩

end Sample

end LivePatchHistory

end ReSymbol.Debugger
