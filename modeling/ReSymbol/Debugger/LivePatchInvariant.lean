import ReSymbol.Debugger.LivePatchHistory
import ReSymbol.Schemes.Runs

/-! The representation invariant of the live patch history.

    `Move` says once what an operation can do to a history: refuse and leave it alone, reserve,
    dispatch, cancel, freeze, or settle by an exact receipt. Every operation is one such move as
    long as the invariant `Valid` holds, every move keeps `Valid`, and a move is never a panic. -/

namespace ReSymbol.Debugger
open Schemes Schemes.Reducer

namespace LivePatchHistory

/-- Stop tokens ordered in generation and in stop id. -/
structure StopLE (a b : StopToken) : Prop where
  generation : a.state.generation.val ≤ b.state.generation.val
  stopId : a.stopId.val ≤ b.stopId.val

theorem StopLE.rfl {a : StopToken} : StopLE a a := ⟨le_refl _, le_refl _⟩

theorem StopLE.trans {a b c : StopToken} (h : StopLE a b) (h' : StopLE b c) : StopLE a c :=
  ⟨le_trans h.generation h'.generation, le_trans h.stopId h'.stopId⟩

theorem stopLE_of_coherentStop {previous stop : StopToken}
    (h : coherentStop previous stop = true) : StopLE previous stop := by
  unfold coherentStop at h
  split at h
  · rename_i hg hs
    exact ⟨(Nat.compare_eq_eq.mp hg).ge, (Nat.compare_eq_eq.mp hs).ge⟩
  · rename_i hg hs
    exact ⟨(Nat.compare_eq_gt.mp hg).le, (Nat.compare_eq_gt.mp hs).le⟩
  · simp at h

theorem stopLE_of_isExactSuccessorStop {prior resulting : StopToken}
    (h : isExactSuccessorStop prior resulting = true) : StopLE prior resulting := by
  simp only [isExactSuccessorStop, checkedAdd_eq_some, decide_eq_true_eq] at h
  exact ⟨by omega, by omega⟩

/-- A patch the history may retain: nonempty, length-preserving, changing, inside the image. -/
structure PatchValid (binding : LiveTargetBinding) (address : MemoryAddress)
    (before after : List UInt8) : Prop where
  nonempty : before ≠ []
  length : before.length = after.length
  changing : before ≠ after
  span : binding.InImage address before.length

/-- What a pending operation promises about the stack it was reserved on. -/
structure PendingValid (h : LivePatchHistory) (p : PendingLivePatchOperation) : Prop where
  stop : h.lastStop = some p.stop
  forward : p.kind = .forwardWrite →
    PatchValid h.binding p.address p.expected p.replacement ∧
      h.entries.length < maxLivePatchHistoryEntries ∧
      h.storedBytes + (p.expected.length + p.replacement.length) ≤ maxLivePatchHistoryStoredBytes
  undo : p.kind = .undo → ∃ top, h.entries.getLast? = some top ∧ p.address = top.address ∧
    p.expected = top.after ∧ p.replacement = top.before

/-- The retained stack: its sizes, its patches, and the order of its receipts and stops. -/
structure StackValid (h : LivePatchHistory) : Prop where
  stored : h.storedBytes = (h.entries.map fun e => e.before.length + e.after.length).sum
  count : h.entries.length ≤ maxLivePatchHistoryEntries
  patches : ∀ e ∈ h.entries, PatchValid h.binding e.address e.before e.after
  increasing : h.entries.Pairwise (fun a b => a.commandId.val < b.commandId.val)
  received : ∀ e ∈ h.entries, ∃ last, h.lastReceiptCommandId = some last ∧
    e.commandId.val ≤ last.val
  ordered : h.entries.Pairwise (fun a b => StopLE a.resultingStop b.appliedStop)
  passed : ∀ e ∈ h.entries, ∃ last, h.lastStop = some last ∧ StopLE e.resultingStop last

/-- The representation invariant: a valid stack, and a reservation that stays in step with it. -/
structure Valid (h : LivePatchHistory) : Prop extends StackValid h where
  stored_le : h.storedBytes ≤ maxLivePatchHistoryStoredBytes
  reserved : ∀ p, h.pending = some p ∨ h.freezeEvidence.map (·.pending) = some p →
    p.kind = .forwardWrite →
      h.storedBytes + (p.expected.length + p.replacement.length) ≤ maxLivePatchHistoryStoredBytes
  exclusive : h.pending = none ∨ h.freezeEvidence = none
  pending : ∀ p, h.pending = some p → PendingValid h p

/-! ### Moves -/

/-- The receipt id exceeds every receipt resolved before. -/
def FreshReceipt (h : LivePatchHistory) (commandId : CommandId) : Prop :=
  ∀ last, h.lastReceiptCommandId = some last → last.val < commandId.val

/-- A reservation is possible: nothing pending, not frozen, and the stop does not go back. -/
structure Ready (h : LivePatchHistory) (stop : StopToken) : Prop where
  unfrozen : h.freezeEvidence = none
  idle : h.pending = none
  coherent : ∀ previous, h.lastStop = some previous → coherentStop previous stop = true

/-- An operation is in flight: dispatched and not frozen. -/
structure InFlight (h : LivePatchHistory) (p : PendingLivePatchOperation) : Prop where
  unfrozen : h.freezeEvidence = none
  pending : h.pending = some p
  dispatched : p.phase = .dispatched

def reserve (h : LivePatchHistory) (p : PendingLivePatchOperation) : LivePatchHistory :=
  { h with lastStop := some p.stop, pending := some p }

def dispatch (h : LivePatchHistory) (p : PendingLivePatchOperation) : LivePatchHistory :=
  { h with pending := some { p with phase := .dispatched } }

def frozenAs (h : LivePatchHistory) (evidence : LivePatchFreezeEvidence) : LivePatchHistory :=
  { h with pending := none, freezeEvidence := some evidence }

def settle (h : LivePatchHistory) (commandId : CommandId) (stop : StopToken) : LivePatchHistory :=
  { h with pending := none, lastReceiptCommandId := some commandId, lastStop := some stop }

def push (h : LivePatchHistory) (e : LivePatchEntry) : LivePatchHistory :=
  { h with entries := h.entries ++ [e], storedBytes := h.storedBytes + e.storedBytes }

def pop (h : LivePatchHistory) (e : LivePatchEntry) : LivePatchHistory :=
  { h with entries := h.entries.dropLast, storedBytes := h.storedBytes - e.storedBytes }

/-- The entry a committed forward write retains. -/
def entryOf (p : PendingLivePatchOperation) (commandId : CommandId) (resultingStop : StopToken) :
    LivePatchEntry :=
  ⟨p.address, p.expected, p.replacement, p.stop, resultingStop, commandId⟩

/-- Everything an operation can do to a history. -/
inductive Move (h : LivePatchHistory) :
    Except (Fault LivePatchHistoryError) HistoryAnswer → LivePatchHistory → Prop
  | refused (e : LivePatchHistoryError) : Move h (.error (.error e)) h
  | reserveForward (stop : StopToken) (address : MemoryAddress) (before after : List UInt8)
      (ready : Ready h stop) (patch : PatchValid h.binding address before after)
      (room : h.entries.length < maxLivePatchHistoryEntries)
      (bytes : h.storedBytes + (before.length + after.length) ≤ maxLivePatchHistoryStoredBytes) :
      Move h (.ok .done) (h.reserve ⟨.forwardWrite, .reserved, stop, address, before, after⟩)
  | reserveUndo (stop : StopToken) (top : LivePatchEntry) (ready : Ready h stop)
      (isTop : h.entries.getLast? = some top) :
      Move h (.ok .done) (h.reserve ⟨.undo, .reserved, stop, top.address, top.after, top.before⟩)
  | dispatched (p : PendingLivePatchOperation) (unfrozen : h.freezeEvidence = none)
      (pending : h.pending = some p) (phase : p.phase ≠ .dispatched) :
      Move h (.ok (.command p.command)) (h.dispatch p)
  | cancelled (p : PendingLivePatchOperation) (unfrozen : h.freezeEvidence = none)
      (pending : h.pending = some p) (phase : p.phase ≠ .dispatched) :
      Move h (.ok .done) { h with pending := none }
  | froze (p : PendingLivePatchOperation) (receiptCommandId : Option CommandId)
      (cause : LivePatchFreezeCause) (flight : InFlight h p) :
      Move h (.ok (.resolution .frozen)) (h.frozenAs ⟨p, receiptCommandId, cause⟩)
  | rejected (p : PendingLivePatchOperation) (commandId : CommandId) (flight : InFlight h p)
      (fresh : FreshReceipt h commandId) :
      Move h (.ok (.resolution .rejectedNoEffect)) (h.settle commandId p.stop)
  | forwardCommitted (p : PendingLivePatchOperation) (commandId : CommandId)
      (resultingStop : StopToken) (flight : InFlight h p) (kind : p.kind = .forwardWrite)
      (fresh : FreshReceipt h commandId)
      (next : isExactSuccessorStop p.stop resultingStop = true) :
      Move h (.ok (.resolution (.forwardCommitted (entryOf p commandId resultingStop))))
        ((h.settle commandId resultingStop).push (entryOf p commandId resultingStop))
  | undoCommitted (p : PendingLivePatchOperation) (top : LivePatchEntry) (commandId : CommandId)
      (resultingStop : StopToken) (flight : InFlight h p) (kind : p.kind = .undo)
      (isTop : h.entries.getLast? = some top) (fresh : FreshReceipt h commandId)
      (next : isExactSuccessorStop p.stop resultingStop = true) :
      Move h (.ok (.resolution (.undoCommitted top)))
        ((h.settle commandId resultingStop).pop top)

/-- An outcome of a resolving operation is a move. -/
def Resolves (h : LivePatchHistory)
    (outcome : Except (Fault LivePatchHistoryError) LivePatchResolution × LivePatchHistory)
      : Prop :=
  Move h (outcome.1.map .resolution) outcome.2

/-! ### Settling operations are moves -/

section Settling

variable {h : LivePatchHistory} {p : PendingLivePatchOperation}

theorem freeze_run (flight : InFlight h p) (receiptCommandId : Option CommandId)
    (cause : LivePatchFreezeCause) :
    freeze receiptCommandId cause h = (.ok .frozen, h.frozenAs ⟨p, receiptCommandId, cause⟩) := by
  simp only [freeze, look_bind_run, flight.pending]
  rfl

theorem freeze_resolves (flight : InFlight h p) (receiptCommandId : Option CommandId)
    (cause : LivePatchFreezeCause) : Resolves h (freeze receiptCommandId cause h) := by
  rw [freeze_run flight]
  exact .froze p receiptCommandId cause flight

theorem freezeMismatch_resolves (flight : InFlight h p) (commandId : CommandId)
    (mismatch : LivePatchReceiptMismatch) : Resolves h (freezeMismatch commandId mismatch h) :=
  freeze_resolves flight _ _

theorem rejectNoEffect_run (flight : InFlight h p) (commandId : CommandId) :
    rejectNoEffect commandId h = (.ok .rejectedNoEffect, h.settle commandId p.stop) := by
  simp only [rejectNoEffect, clearSafeRejection, bind_run, look_run, flight.pending]
  rfl

theorem rejectNoEffect_resolves (flight : InFlight h p) {commandId : CommandId}
    (fresh : FreshReceipt h commandId) : Resolves h (rejectNoEffect commandId h) := by
  rw [rejectNoEffect_run flight]
  exact .rejected p commandId flight fresh

/-- The stored size of the top entry is part of the stored total, so popping never underflows. -/
theorem storedBytes_top_le (hv : Valid h) {top : LivePatchEntry}
    (isTop : h.entries.getLast? = some top) : top.storedBytes ≤ h.storedBytes := by
  rw [hv.stored]
  exact List.single_le_sum (by simp) _ (List.mem_map_of_mem (List.mem_of_getLast? isTop))

theorem commitSuccess_forward (hv : Valid h) (flight : InFlight h p)
    (hkind : p.kind = .forwardWrite) (commandId : CommandId) (resultingStop : StopToken) :
    commitSuccess commandId resultingStop h =
      (.ok (.forwardCommitted (entryOf p commandId resultingStop)),
        (h.settle commandId resultingStop).push (entryOf p commandId resultingStop)) := by
  obtain ⟨-, -, hbytes⟩ := (hv.pending p flight.pending).forward hkind
  have hadd : checkedAdd h.storedBytes (entryOf p commandId resultingStop).storedBytes =
      some (h.storedBytes + (entryOf p commandId resultingStop).storedBytes) := by
    rw [checkedAdd_eq_some]
    refine ⟨rfl, ?_⟩
    simp only [LivePatchEntry.storedBytes, entryOf, maxLivePatchHistoryStoredBytes] at hbytes ⊢
    omega
  simp only [commitSuccess, look_bind_run, flight.pending, expect_bind_some, update_bind_run,
    hkind]
  rw [show (⟨p.address, p.expected, p.replacement, p.stop, resultingStop, commandId⟩ :
    LivePatchEntry) = entryOf p commandId resultingStop from rfl, hadd]
  rfl

theorem commitSuccess_undo (hv : Valid h) (flight : InFlight h p) (hkind : p.kind = .undo)
    (commandId : CommandId) (resultingStop : StopToken) :
    ∃ top, h.entries.getLast? = some top ∧ commitSuccess commandId resultingStop h =
      (.ok (.undoCommitted top), (h.settle commandId resultingStop).pop top) := by
  obtain ⟨top, isTop, haddr, hexp, hrep⟩ := (hv.pending p flight.pending).undo hkind
  have hle := storedBytes_top_le hv isTop
  refine ⟨top, isTop, ?_⟩
  simp only [commitSuccess, look_bind_run, flight.pending, expect_bind_some, update_bind_run,
    hkind, isTop, refuse_bind_run, haddr, hexp, hrep, ne_eq, not_true_eq_false, or_self,
    if_false, not_lt.mpr hle]
  rfl

theorem commitSuccess_resolves (hv : Valid h) (flight : InFlight h p) {commandId : CommandId}
    {resultingStop : StopToken} (fresh : FreshReceipt h commandId)
    (next : isExactSuccessorStop p.stop resultingStop = true) :
    Resolves h (commitSuccess commandId resultingStop h) := by
  cases hkind : p.kind with
  | forwardWrite =>
    rw [commitSuccess_forward hv flight hkind]
    exact .forwardCommitted p commandId resultingStop flight hkind fresh next
  | undo =>
    obtain ⟨top, isTop, hrun⟩ := commitSuccess_undo hv flight hkind commandId resultingStop
    rw [hrun]
    exact .undoCommitted p top commandId resultingStop flight hkind isTop fresh next

theorem freshReceipt_of_staleReceipt {commandId : CommandId}
    (hs : h.staleReceipt commandId = none) : FreshReceipt h commandId := by
  intro last hlast
  simp only [staleReceipt, hlast, Option.filter_some] at hs
  split at hs
  · simp at hs
  · rename_i hgt
    simpa using hgt

theorem isExactSuccessorStop_of_successStop {scan : ReceiptScan} {resultingStop : StopToken}
    (hs : scan.successStop p = some resultingStop) :
    isExactSuccessorStop p.stop resultingStop = true := by
  unfold ReceiptScan.successStop at hs
  split at hs
  · split_ifs at hs with hc
    obtain rfl := Option.some.inj hs
    exact hc.1
  · simp at hs

theorem resolveSucceeded_resolves (hv : Valid h) (flight : InFlight h p) {commandId : CommandId}
    (fresh : FreshReceipt h commandId) (scan : ReceiptScan) :
    Resolves h (resolveSucceeded p commandId scan h) := by
  unfold resolveSucceeded
  split_ifs
  · exact freezeMismatch_resolves flight _ _
  · exact freezeMismatch_resolves flight _ _
  · exact freezeMismatch_resolves flight _ _
  · cases hstop : scan.successStop p with
    | none => exact freezeMismatch_resolves flight _ _
    | some resultingStop =>
      exact commitSuccess_resolves hv flight fresh (isExactSuccessorStop_of_successStop hstop)

theorem resolveRejected_resolves (flight : InFlight h p) {commandId : CommandId}
    (fresh : FreshReceipt h commandId) (code message : String) (scan : ReceiptScan) :
    Resolves h (resolveRejected p commandId code message scan h) := by
  unfold resolveRejected
  cases scan.failure with
  | none =>
    dsimp only
    split_ifs
    · exact freezeMismatch_resolves flight _ _
    · exact freezeMismatch_resolves flight _ _
    · exact freezeMismatch_resolves flight _ _
    · exact rejectNoEffect_resolves flight fresh
  | some failure =>
    dsimp only
    split_ifs
    · exact freezeMismatch_resolves flight _ _
    · exact freezeMismatch_resolves flight _ _
    · exact freezeMismatch_resolves flight _ _
    · exact freezeMismatch_resolves flight _ _
    · exact rejectNoEffect_resolves flight fresh
    · exact freeze_resolves flight _ _
    · exact freezeMismatch_resolves flight _ _

theorem resolveReceipt_resolves (hv : Valid h) (sessionId : SessionId)
    (binding : LiveTargetBinding) (receipt : CommandReceipt) :
    Resolves h (resolveReceipt sessionId binding receipt h) := by
  simp only [resolveReceipt, look_bind_run, refuse_bind_run]
  by_cases hfrozen : h.freezeEvidence.isSome
  · rw [if_pos hfrozen]
    exact .refused _
  rw [if_neg hfrozen]
  cases hpending : h.pending with
  | none => exact .refused _
  | some p =>
    simp only [refuse_bind_run]
    by_cases hphase : p.phase ≠ .dispatched
    · rw [if_pos hphase]
      exact .refused _
    rw [if_neg hphase]
    have flight : InFlight h p := ⟨by simpa using hfrozen, hpending, not_not.mp hphase⟩
    split_ifs
    · exact freezeMismatch_resolves flight _ _
    · exact freezeMismatch_resolves flight _ _
    cases hstale : h.staleReceipt receipt.commandId with
    | some previous => exact freezeMismatch_resolves flight _ _
    | none =>
      have fresh := freshReceipt_of_staleReceipt hstale
      cases hscan : ReceiptScan.inspect h.sessionId p receipt with
      | error mismatch => exact freezeMismatch_resolves flight _ _
      | ok scan =>
        cases hout : receipt.outcome with
        | succeeded => exact resolveSucceeded_resolves hv flight fresh scan
        | rejected code message => exact resolveRejected_resolves flight fresh code message scan

theorem resolveLocalReceipt_resolves (hv : Valid h) (receipt : ValidatedLocalLivePatchReceipt) :
    Resolves h (resolveLocalReceipt receipt h) := by
  simp only [resolveLocalReceipt, look_bind_run, refuse_bind_run]
  by_cases hfrozen : h.freezeEvidence.isSome
  · rw [if_pos hfrozen]
    exact .refused _
  rw [if_neg hfrozen]
  cases hpending : h.pending with
  | none => exact .refused _
  | some p =>
    simp only [refuse_bind_run]
    by_cases hphase : p.phase ≠ .dispatched
    · rw [if_pos hphase]
      exact .refused _
    rw [if_neg hphase]
    have flight : InFlight h p := ⟨by simpa using hfrozen, hpending, not_not.mp hphase⟩
    cases hstale : h.staleReceipt receipt.write.commandId with
    | some previous =>
      dsimp only
      split_ifs
      · exact freezeMismatch_resolves flight _ _
      · exact freezeMismatch_resolves flight _ _
      · exact freezeMismatch_resolves flight _ _
    | none =>
      have fresh := freshReceipt_of_staleReceipt hstale
      dsimp only
      split_ifs
      · exact freezeMismatch_resolves flight _ _
      · exact freezeMismatch_resolves flight _ _
      · exact freezeMismatch_resolves flight _ _
      cases hres : receipt.resolution with
      | rejectedNoEffect => exact rejectNoEffect_resolves flight fresh
      | committed resultingStop =>
        dsimp only
        split_ifs with hnext
        · exact freezeMismatch_resolves flight _ _
        · exact commitSuccess_resolves hv flight fresh (by simpa using hnext)

/-- A receipt of the very write in flight settles it, unless the stop it reports is not the next
    one. -/
theorem resolveLocalReceipt_of_flight (flight : InFlight h p)
    {receipt : ValidatedLocalLivePatchReceipt}
    (hsession : receipt.write.stop.state.sessionId = h.sessionId)
    (hbinding : receipt.write.binding = h.binding)
    (fresh : FreshReceipt h receipt.write.commandId)
    (hwrite : p.command = .writeMemory receipt.write.stop receipt.write.address
      receipt.write.expected receipt.write.replacement) :
    resolveLocalReceipt receipt h = match receipt.resolution with
      | .committed resultingStop =>
        if isExactSuccessorStop p.stop resultingStop = true then
          commitSuccess receipt.write.commandId resultingStop h
        else freezeMismatch receipt.write.commandId .stateEvidenceMismatch h
      | .rejectedNoEffect => rejectNoEffect receipt.write.commandId h := by
  have hstale : h.staleReceipt receipt.write.commandId = none := by
    cases hlast : h.lastReceiptCommandId with
    | none => simp [staleReceipt, hlast]
    | some last => simpa [staleReceipt, hlast] using fresh last hlast
  simp only [PendingLivePatchOperation.command, DebugCommand.writeMemory.injEq] at hwrite
  obtain ⟨hstop, haddress, hexpected, hreplacement⟩ := hwrite
  simp only [resolveLocalReceipt, look_bind_run, refuse_bind_run, flight.unfrozen, flight.pending,
    flight.dispatched, Option.isSome_none, ne_eq, not_true_eq_false, if_false, hsession, hbinding,
    hstale, hstop, haddress, hexpected, hreplacement, or_self]
  cases receipt.resolution with
  | rejectedNoEffect => rfl
  | committed resultingStop =>
    by_cases hnext : isExactSuccessorStop receipt.write.stop resultingStop = true <;> simp [hnext]

theorem markTransportOutcomeUnknown_resolves : Resolves h (markTransportOutcomeUnknown h) := by
  simp only [markTransportOutcomeUnknown, look_bind_run]
  cases hcheck : h.requireDispatchedPending with
  | error e => exact .refused _
  | ok u =>
    unfold requireDispatchedPending at hcheck
    split_ifs at hcheck with hfrozen
    cases hpending : h.pending with
    | none => simp [hpending] at hcheck
    | some p =>
      simp only [hpending, ite_error_eq_ok] at hcheck
      have hphase : p.phase = .dispatched := by
        cases hp : p.phase with
        | reserved => exact absurd hp hcheck.1
        | dispatched => rfl
      exact freeze_resolves ⟨by simpa using hfrozen, hpending, hphase⟩ _ _

end Settling

/-! ### Every operation is a move -/

section Operations

variable {h : LivePatchHistory}

theorem ready_of_requireReadyContext {sessionId : SessionId} {binding : LiveTargetBinding}
    {stop : StopToken} (hr : h.requireReadyContext sessionId binding stop = .ok ()) :
    Ready h stop := by
  simp only [requireReadyContext, ite_error_eq_ok, Bool.not_eq_true, Option.isSome_eq_false_iff,
    Option.isNone_iff_eq_none] at hr
  obtain ⟨hfrozen, hidle, -, -, -, hstop⟩ := hr
  refine ⟨hfrozen, hidle, fun previous hprev => ?_⟩
  by_contra hne
  simp [hprev, hne] at hstop

theorem patchValid_of_checks {address : MemoryAddress} {before after : List UInt8}
    (hb : validatePatchBytes before after = .ok ())
    (hs : h.validateImageSpan address before.length = .ok ()) :
    PatchValid h.binding address before after := by
  simp only [validatePatchBytes, ite_error_eq_ok, List.isEmpty_iff, not_not] at hb
  obtain ⟨hne, hlen, hch, -, -⟩ := hb
  refine ⟨hne, hlen, hch, ?_⟩
  unfold validateImageSpan at hs
  cases hrva : h.binding.rvaForAddressSpan address before.length with
  | ok rva => exact (LiveTargetBinding.rvaForAddressSpan_eq_ok.mp hrva).1
  | error e => simp [hrva] at hs

theorem beginForwardWrite_move (sessionId : SessionId) (binding : LiveTargetBinding)
    (stop : StopToken) (address : MemoryAddress) (before after : List UInt8) :
    Move h ((beginForwardWrite sessionId binding stop address before after h).1.map
        (fun _ => .done))
      (beginForwardWrite sessionId binding stop address before after h).2 := by
  simp only [beginForwardWrite, look_bind_run]
  cases hready : h.requireReadyContext sessionId binding stop with
  | error e => exact .refused _
  | ok _ =>
    cases hbytes : validatePatchBytes before after with
    | error e => exact .refused _
    | ok _ =>
      cases hspan : h.validateImageSpan address before.length with
      | error e => exact .refused _
      | ok _ =>
        simp only [check_bind_ok, refuse_bind_run]
        by_cases hroom : h.entries.length ≥ maxLivePatchHistoryEntries
        · rw [if_pos hroom]
          exact .refused _
        rw [if_neg hroom]
        cases hadd : checkedAdd h.storedBytes (before.length + after.length) with
        | none => exact .refused _
        | some prospective =>
          simp only [refuse_bind_run, update_run]
          by_cases hlimit : prospective > maxLivePatchHistoryStoredBytes
          · rw [if_pos hlimit]
            exact .refused _
          rw [if_neg hlimit]
          rw [checkedAdd_eq_some] at hadd
          exact .reserveForward stop address before after (ready_of_requireReadyContext hready)
            (patchValid_of_checks hbytes hspan) (by omega) (by omega)

theorem beginUndo_move (sessionId : SessionId) (binding : LiveTargetBinding) (stop : StopToken) :
    Move h ((beginUndo sessionId binding stop h).1.map (fun _ => .done))
      (beginUndo sessionId binding stop h).2 := by
  simp only [beginUndo, look_bind_run]
  cases hready : h.requireReadyContext sessionId binding stop with
  | error e => exact .refused _
  | ok _ =>
    cases htop : h.entries.getLast? with
    | none => exact .refused _
    | some top =>
      simp only [check_bind_ok]
      cases h.validateImageSpan top.address top.after.length with
      | error e => exact .refused _
      | ok _ => exact .reserveUndo stop top (ready_of_requireReadyContext hready) htop

theorem markForDispatch_move :
    Move h ((markForDispatch h).1.map .command) (markForDispatch h).2 := by
  simp only [markForDispatch, look_bind_run, refuse_bind_run]
  by_cases hfrozen : h.freezeEvidence.isSome
  · rw [if_pos hfrozen]
    exact .refused _
  rw [if_neg hfrozen]
  cases hpending : h.pending with
  | none => exact .refused _
  | some p =>
    simp only [refuse_bind_run, update_bind_run, pure_run]
    by_cases hphase : p.phase = .dispatched
    · rw [if_pos hphase]
      exact .refused _
    rw [if_neg hphase]
    exact .dispatched p (by simpa using hfrozen) hpending hphase

theorem cancelBeforeDispatch_move :
    Move h ((cancelBeforeDispatch h).1.map (fun _ => .done)) (cancelBeforeDispatch h).2 := by
  simp only [cancelBeforeDispatch, look_bind_run, refuse_bind_run]
  by_cases hfrozen : h.freezeEvidence.isSome
  · rw [if_pos hfrozen]
    exact .refused _
  rw [if_neg hfrozen]
  cases hpending : h.pending with
  | none => exact .refused _
  | some p =>
    simp only [refuse_bind_run, update_run]
    by_cases hphase : p.phase = .dispatched
    · rw [if_pos hphase]
      exact .refused _
    rw [if_neg hphase]
    exact .cancelled p (by simpa using hfrozen) hpending hphase

theorem apply_move (hv : Valid h) (op : HistoryOperation) :
    Move h (op.apply h).1 (op.apply h).2 := by
  cases op with
  | beginForwardWrite sessionId binding stop address before after =>
    rw [HistoryOperation.apply, bind_pure_run]
    exact beginForwardWrite_move sessionId binding stop address before after
  | beginUndo sessionId binding stop =>
    rw [HistoryOperation.apply, bind_pure_run]
    exact beginUndo_move sessionId binding stop
  | markForDispatch =>
    rw [HistoryOperation.apply, bind_pure_run]
    exact markForDispatch_move
  | cancelBeforeDispatch =>
    rw [HistoryOperation.apply, bind_pure_run]
    exact cancelBeforeDispatch_move
  | resolveReceipt sessionId binding receipt =>
    rw [HistoryOperation.apply, bind_pure_run]
    exact resolveReceipt_resolves hv sessionId binding receipt
  | resolveLocalReceipt receipt =>
    rw [HistoryOperation.apply, bind_pure_run]
    exact resolveLocalReceipt_resolves hv receipt
  | markTransportOutcomeUnknown =>
    rw [HistoryOperation.apply, bind_pure_run]
    exact markTransportOutcomeUnknown_resolves

theorem Move.noPanic {out : Except (Fault LivePatchHistoryError) HistoryAnswer}
    {h' : LivePatchHistory} (m : Move h out h') : NoPanic out := by
  cases m <;> trivial

/-- A frozen history answers every operation with `inspectionOnly` and stays as it is. -/
theorem apply_frozen (hf : h.isInspectionOnly = true) (op : HistoryOperation) :
    op.apply h = (.error (.error .inspectionOnly), h) := by
  have hsome : h.freezeEvidence.isSome = true := hf
  have hready : ∀ sessionId binding stop,
      h.requireReadyContext sessionId binding stop = .error .inspectionOnly := by
    intro sessionId binding stop
    simp [requireReadyContext, hsome]
  cases op <;>
    simp only [HistoryOperation.apply, beginForwardWrite, beginUndo, markForDispatch,
      cancelBeforeDispatch, resolveReceipt, resolveLocalReceipt, markTransportOutcomeUnknown,
      requireDispatchedPending, bind_pure_run, look_bind_run, refuse_bind_run, hready, hsome,
      if_true, check_bind_error, Except.map]

end Operations

/-! ### Every move keeps the invariant -/

section Preservation

variable {h h' : LivePatchHistory}

theorem valid_new (sessionId : SessionId) (binding : LiveTargetBinding) :
    Valid (new sessionId binding) where
  stored := rfl
  count := Nat.zero_le _
  patches := by simp [new]
  increasing := .nil
  received := by simp [new]
  ordered := .nil
  passed := by simp [new]
  stored_le := Nat.zero_le _
  reserved := by simp [new]
  exclusive := .inl rfl
  pending := by simp [new]

/-- A move that keeps the stack and only advances the watermarks keeps the stack valid. -/
theorem StackValid.frame (hv : StackValid h) (hentries : h'.entries = h.entries)
    (hstored : h'.storedBytes = h.storedBytes) (hbinding : h'.binding = h.binding)
    (hreceipt : ∀ last, h.lastReceiptCommandId = some last →
      ∃ last', h'.lastReceiptCommandId = some last' ∧ last.val ≤ last'.val)
    (hstop : ∀ last, h.lastStop = some last → ∃ last', h'.lastStop = some last' ∧
      StopLE last last') : StackValid h' where
  stored := by rw [hentries, hstored, hv.stored]
  count := by rw [hentries]; exact hv.count
  patches := by rw [hentries, hbinding]; exact hv.patches
  increasing := by rw [hentries]; exact hv.increasing
  received e he := by
    obtain ⟨last, hlast, hle⟩ := hv.received e (hentries ▸ he)
    obtain ⟨last', hlast', hle'⟩ := hreceipt last hlast
    exact ⟨last', hlast', le_trans hle hle'⟩
  ordered := by rw [hentries]; exact hv.ordered
  passed e he := by
    obtain ⟨last, hlast, hle⟩ := hv.passed e (hentries ▸ he)
    obtain ⟨last', hlast', hle'⟩ := hstop last hlast
    exact ⟨last', hlast', hle.trans hle'⟩

/-- Receipts and stops already passed stay passed when the operation in flight is settled. -/
theorem stackValid_settle (hv : Valid h) {p : PendingLivePatchOperation} (flight : InFlight h p)
    {commandId : CommandId} (fresh : FreshReceipt h commandId) {stop : StopToken}
    (hle : StopLE p.stop stop) : StackValid (h.settle commandId stop) := by
  refine hv.toStackValid.frame rfl rfl rfl (fun last hlast => ?_) (fun last hlast => ?_)
  · exact ⟨commandId, rfl, (fresh last hlast).le⟩
  · rw [(hv.pending p flight.pending).stop, Option.some.injEq] at hlast
    exact ⟨stop, rfl, hlast ▸ hle⟩

theorem valid_of_idle (hs : StackValid h') (hidle : h'.pending = none)
    (hunfrozen : h'.freezeEvidence = none)
    (hstored : h'.storedBytes ≤ maxLivePatchHistoryStoredBytes) : Valid h' where
  toStackValid := hs
  stored_le := hstored
  reserved p hp := by simp [hidle, hunfrozen] at hp
  exclusive := .inl hidle
  pending p hp := by simp [hidle] at hp

theorem valid_reserve (hv : Valid h) {p : PendingLivePatchOperation} (ready : Ready h p.stop)
    (hp : PendingValid (h.reserve p) p) : Valid (h.reserve p) where
  toStackValid := by
    refine hv.toStackValid.frame rfl rfl rfl (fun last hlast => ⟨last, hlast, le_refl _⟩)
      (fun last hlast => ⟨p.stop, rfl, stopLE_of_coherentStop (ready.coherent last hlast)⟩)
  stored_le := hv.stored_le
  reserved q hq hkind := by
    rcases hq with hq | hq
    · obtain rfl : p = q := Option.some.inj hq
      exact (hp.forward hkind).2.2
    · simp [reserve, ready.unfrozen] at hq
  exclusive := .inr ready.unfrozen
  pending q hq := by
    obtain rfl : p = q := Option.some.inj hq
    exact hp

theorem stackValid_push (hv : Valid h) {p : PendingLivePatchOperation} (flight : InFlight h p)
    (kind : p.kind = .forwardWrite) {commandId : CommandId} {resultingStop : StopToken}
    (fresh : FreshReceipt h commandId)
    (next : isExactSuccessorStop p.stop resultingStop = true) :
    StackValid ((h.settle commandId resultingStop).push (entryOf p commandId resultingStop)) := by
  have hp := hv.pending p flight.pending
  obtain ⟨hpatch, hroom, -⟩ := hp.forward kind
  have hs := stackValid_settle hv flight fresh (stopLE_of_isExactSuccessorStop next)
  refine ⟨?_, ?_, ?_, ?_, ?_, ?_, ?_⟩
  · simp only [push, settle, List.map_append, List.map_singleton, List.sum_append,
      List.sum_singleton, hv.stored, LivePatchEntry.storedBytes]
  · simpa [push, settle] using hroom
  · intro e he
    rcases List.mem_append.mp he with he | he
    · exact hs.patches e he
    · rw [List.mem_singleton.mp he]; exact hpatch
  · refine List.pairwise_append.mpr ⟨hs.increasing, List.pairwise_singleton _ _, ?_⟩
    intro a ha b hb
    obtain ⟨last, hlast, hle⟩ := hv.received a ha
    rw [List.mem_singleton.mp hb]
    exact lt_of_le_of_lt hle (fresh last hlast)
  · intro e he
    rcases List.mem_append.mp he with he | he
    · exact hs.received e he
    · rw [List.mem_singleton.mp he]; exact ⟨commandId, rfl, le_refl _⟩
  · refine List.pairwise_append.mpr ⟨hs.ordered, List.pairwise_singleton _ _, ?_⟩
    intro a ha b hb
    obtain ⟨last, hlast, hle⟩ := hv.passed a ha
    rw [hp.stop, Option.some.injEq] at hlast
    rw [List.mem_singleton.mp hb]
    subst hlast
    exact hle
  · intro e he
    rcases List.mem_append.mp he with he | he
    · exact hs.passed e he
    · rw [List.mem_singleton.mp he]; exact ⟨resultingStop, rfl, .rfl⟩

theorem stackValid_pop (hs : StackValid h) {top : LivePatchEntry}
    (isTop : h.entries.getLast? = some top) : StackValid (h.pop top) := by
  have hsplit : h.entries.dropLast ++ [top] = h.entries := List.dropLast_append_getLast? top isTop
  have hsub : h.entries.dropLast.Sublist h.entries := List.dropLast_sublist _
  refine ⟨?_, ?_, ?_, ?_, ?_, ?_, ?_⟩
  · have hsum := hs.stored
    rw [← hsplit, List.map_append, List.sum_append, List.map_singleton, List.sum_singleton] at hsum
    simp only [pop, LivePatchEntry.storedBytes]
    omega
  · exact le_trans hsub.length_le hs.count
  · exact fun e he => hs.patches e (hsub.subset he)
  · exact hs.increasing.sublist hsub
  · exact fun e he => hs.received e (hsub.subset he)
  · exact hs.ordered.sublist hsub
  · exact fun e he => hs.passed e (hsub.subset he)

theorem valid_move (hv : Valid h) {out : Except (Fault LivePatchHistoryError) HistoryAnswer}
    (m : Move h out h') : Valid h' := by
  have hstored := hv.stored_le
  cases m with
  | refused e => exact hv
  | reserveForward stop address before after ready patch room bytes =>
    exact valid_reserve hv ready ⟨rfl, fun _ => ⟨patch, room, bytes⟩, fun hk => by simp at hk⟩
  | reserveUndo stop top ready isTop =>
    refine valid_reserve hv ready ⟨rfl, fun hk => by simp at hk, fun _ => ?_⟩
    exact ⟨top, isTop, rfl, rfl, rfl⟩
  | dispatched p unfrozen pending phase =>
    have hp := hv.pending p pending
    refine ⟨hv.toStackValid.frame rfl rfl rfl (fun last hl => ⟨last, hl, le_refl _⟩)
      (fun last hl => ⟨last, hl, .rfl⟩), hstored, ?_, .inr unfrozen, ?_⟩
    · rintro q (hq | hq) hkind
      · obtain rfl := Option.some.inj hq
        exact (hp.forward hkind).2.2
      · simp [dispatch, unfrozen] at hq
    · intro q hq
      obtain rfl := Option.some.inj hq
      exact ⟨hp.stop, hp.forward, hp.undo⟩
  | cancelled p unfrozen pending phase =>
    exact valid_of_idle (hv.toStackValid.frame rfl rfl rfl (fun last hl => ⟨last, hl, le_refl _⟩)
      (fun last hl => ⟨last, hl, .rfl⟩)) rfl unfrozen hstored
  | froze p receiptCommandId cause flight =>
    refine ⟨hv.toStackValid.frame rfl rfl rfl (fun last hl => ⟨last, hl, le_refl _⟩)
      (fun last hl => ⟨last, hl, .rfl⟩), hstored, ?_, .inl rfl,
      fun q hq => by simp [frozenAs] at hq⟩
    rintro q (hq | hq) hkind
    · simp [frozenAs] at hq
    · obtain rfl : p = q := Option.some.inj hq
      exact ((hv.pending p flight.pending).forward hkind).2.2
  | rejected p commandId flight fresh =>
    exact valid_of_idle (stackValid_settle hv flight fresh .rfl) rfl flight.unfrozen hstored
  | forwardCommitted p commandId resultingStop flight kind fresh next =>
    obtain ⟨-, -, hbytes⟩ := (hv.pending p flight.pending).forward kind
    exact valid_of_idle (stackValid_push hv flight kind fresh next) rfl flight.unfrozen hbytes
  | undoCommitted p top commandId resultingStop flight kind isTop fresh next =>
    have hs := stackValid_settle hv flight fresh (stopLE_of_isExactSuccessorStop next)
    exact valid_of_idle (stackValid_pop hs isTop) rfl flight.unfrozen
      (le_trans (Nat.sub_le _ _) hstored)

end Preservation

/-! ### Runs -/

/-- One call on a history. -/
def Step (h : LivePatchHistory) (op : HistoryOperation)
    (out : Except (Fault LivePatchHistoryError) HistoryAnswer) (h' : LivePatchHistory) : Prop :=
  op.apply h = (out, h')

/-- A history reached by calls on a new one. -/
abbrev Calls (sessionId : SessionId) (binding : LiveTargetBinding) :=
  Run Step (new sessionId binding)

theorem move_of_step {h h' : LivePatchHistory} {op : HistoryOperation}
    {out : Except (Fault LivePatchHistoryError) HistoryAnswer} (hv : Valid h)
    (hs : Step h op out h') : Move h out h' := by
  have hm := apply_move hv op
  rwa [hs] at hm

theorem valid_of_calls {sessionId : SessionId} {binding : LiveTargetBinding}
    {es : List (Event LivePatchHistory HistoryOperation
      (Except (Fault LivePatchHistoryError) HistoryAnswer))} {h : LivePatchHistory}
    (run : Calls sessionId binding es h) : Valid h :=
  run.invariant Valid (valid_new sessionId binding) fun _ _ _ _ hv hs =>
    valid_move hv (move_of_step hv hs)

/-- After every run of calls the representation invariant holds; no call of the run panicked; and
    a call made on a frozen history was refused and changed nothing. -/
theorem calls_valid {sessionId : SessionId} {binding : LiveTargetBinding}
    {es : List (Event LivePatchHistory HistoryOperation
      (Except (Fault LivePatchHistoryError) HistoryAnswer))} {h : LivePatchHistory}
    (run : Calls sessionId binding es h) :
    Valid h ∧ ∀ e ∈ es, NoPanic e.output ∧
      (e.pre.isInspectionOnly = true →
        e.output = .error (.error .inspectionOnly) ∧ e.post = e.pre) := by
  refine run.event_invariant Valid _ (valid_new sessionId binding) ?_
  intro h op out h' hv hs
  have hm := move_of_step hv hs
  refine ⟨valid_move hv hm, hm.noPanic, fun hf => ?_⟩
  have hfrozen := apply_frozen hf op
  rw [hs] at hfrozen
  exact ⟨congrArg Prod.fst hfrozen, congrArg Prod.snd hfrozen⟩

section Sample

/-- Reserve, dispatch and commit one byte at `0x1010`. -/
def sampleWrite : List HistoryOperation :=
  let stop := sampleStop 3 1
  let write : LocalLiveMemoryWriteAllocation :=
    ⟨5, stop, sampleBinding, 0x1010, [0x90], [0xcc]⟩
  [.beginForwardWrite sampleSession sampleBinding stop 0x1010 [0x90] [0xcc],
   .markForDispatch,
   .resolveLocalReceipt ⟨write, .committed (sampleStop 4 2)⟩]

/-- The invariant on a run that retains one entry. -/
theorem calls_valid_sampleWrite :
    let final := (execute HistoryOperation.apply (new sampleSession sampleBinding) sampleWrite).2
    final.entries.length = 1 ∧ Valid final :=
  ⟨by decide, (calls_valid (run_execute HistoryOperation.apply _ sampleWrite)).1⟩

end Sample

end LivePatchHistory

end ReSymbol.Debugger
