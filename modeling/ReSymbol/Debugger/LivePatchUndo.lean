import ReSymbol.Debugger.LivePatchReceipts
import ReSymbol.Schemes.Patches

/-! Undo soundness: the history against the memory of its target.

    The target is a byte memory that changes only while a command is dispatched. An honest host
    sends a receipt that reports the dispatched command as carried out only when the memory found at
    dispatch held the expected bytes and now holds the replacement, and a receipt that reports no
    effect only when the memory is the one found at dispatch. Beside the history the system keeps
    two ghosts: the command that was dispatched with the memory it found, and the memories that
    preceded the retained writes.

    As long as the history is not frozen, its entries are a stack of patches (`Stacked`) that leads
    from the initial memory to the current one. -/

namespace ReSymbol.Debugger
open Schemes Schemes.Reducer

def LivePatchEntry.patch (e : LivePatchEntry) : Patch UInt8 := ⟨e.address.val, e.before, e.after⟩

def PendingLivePatchOperation.patch (p : PendingLivePatchOperation) : Patch UInt8 :=
  ⟨p.address.val, p.expected, p.replacement⟩

/-! ### What a receipt reports -/

/-- The write that a local receipt is about. -/
def ValidatedLocalLivePatchReceipt.command (r : ValidatedLocalLivePatchReceipt) : DebugCommand :=
  .writeMemory r.write.stop r.write.address r.write.expected r.write.replacement

/-- The event reports that the command wrote its bytes. -/
def DebugEvent.WritesAs (command : DebugCommand) (event : DebugEvent) : Prop :=
  ∃ stop address before after, event = .memoryWritten stop address before after ∧
    command = .writeMemory stop address before after

/-- The event reports no write, and no failure that may have left one behind. -/
def DebugEvent.LeavesMemory (event : DebugEvent) : Prop :=
  event.isWrite = false ∧
    ∀ failure, event = .memoryWriteFailed failure → failure.recovery.isRollbackSafe = true

namespace HistoryOperation

/-- The call brings a receipt for this command that says it was carried out. -/
def ReportsCommit (command : DebugCommand) : HistoryOperation → Prop
  | .resolveLocalReceipt receipt =>
    receipt.command = command ∧ ∃ stop, receipt.resolution = .committed stop
  | .resolveReceipt _ _ receipt =>
    receipt.outcome = .succeeded ∧ ∃ e ∈ receipt.events, e.event.WritesAs command
  | _ => False

/-- The call brings a receipt that says nothing was written. -/
def ReportsNoEffect (command : DebugCommand) : HistoryOperation → Prop
  | .resolveLocalReceipt receipt =>
    receipt.command = command ∧ receipt.resolution = .rejectedNoEffect
  | .resolveReceipt _ _ receipt =>
    (∃ code message, receipt.outcome = .rejected code message) ∧
      ∀ e ∈ receipt.events, e.event.LeavesMemory
  | _ => False

/-- A resolution of this command is what the receipt reports. -/
def Reports (op : HistoryOperation) (command : DebugCommand) : LivePatchResolution → Prop
  | .forwardCommitted _ | .undoCommitted _ => op.ReportsCommit command
  | .rejectedNoEffect => op.ReportsNoEffect command
  | .frozen => True

end HistoryOperation

namespace LivePatchHistory

variable {h : LivePatchHistory} {p : PendingLivePatchOperation} {r : LivePatchResolution}

theorem reports_of_committed {op : HistoryOperation} {command : DebugCommand}
    (hr : isCommitted r = true) (hop : op.ReportsCommit command) : op.Reports command r := by
  cases r with
  | forwardCommitted entry => exact hop
  | undoCommitted entry => exact hop
  | rejectedNoEffect => cases hr
  | frozen => cases hr

/-- Exact evidence of the pending write reports its command as carried out. -/
theorem reportsCommit_of_evidence {sessionId : SessionId} {binding : LiveTargetBinding}
    {receipt : CommandReceipt} {next : StopToken} (evidence : CommitEvidence p receipt next) :
    HistoryOperation.ReportsCommit p.command (.resolveReceipt sessionId binding receipt) := by
  obtain ⟨e, he, hevent⟩ := evidence.written
  have hmem : e ∈ receipt.writes := by simp [he]
  exact ⟨evidence.outcome, e, (List.mem_filter.mp hmem).1, _, _, _, _, hevent, rfl⟩

/-- Evidence of a harmless rejection reports no write and no failure that may have left one. -/
theorem reportsNoEffect_of_evidence {sessionId : SessionId} {binding : LiveTargetBinding}
    {receipt : CommandReceipt} {command : DebugCommand} (evidence : RejectEvidence p receipt) :
    HistoryOperation.ReportsNoEffect command (.resolveReceipt sessionId binding receipt) := by
  obtain ⟨code, message, houtcome, hcause⟩ := evidence.cause
  refine ⟨⟨code, message, houtcome⟩, fun e he => ⟨?_, fun failure hevent => ?_⟩⟩
  · simpa using List.filter_eq_nil_iff.mp evidence.unwritten e he
  · have hfails : e ∈ receipt.failures := List.mem_filter.mpr ⟨he, by rw [hevent]; rfl⟩
    rcases hcause with ⟨hnone, -⟩ | ⟨e', failure', hone, hevent', -, -, -, -, -, hsafe, -⟩
    · simp [hnone] at hfails
    · obtain rfl : e = e' := by simpa [hone] using hfails
      cases hevent.symm.trans hevent'
      exact hsafe

theorem resolveReceipt_reports (hv : Valid h) (flight : InFlight h p) {sessionId : SessionId}
    {binding : LiveTargetBinding} {receipt : CommandReceipt}
    (hr : (resolveReceipt sessionId binding receipt h).1 = .ok r) :
    (HistoryOperation.resolveReceipt sessionId binding receipt).Reports p.command r := by
  rcases @resolveReceipt_answer h p sessionId binding receipt hv flight with
    ⟨⟨-, -, next, evidence⟩, r', hr', hcommitted⟩ | ⟨⟨-, evidence⟩, hr'⟩ | ⟨-, -, hr'⟩
  · cases hr.symm.trans hr'
    exact reports_of_committed hcommitted (reportsCommit_of_evidence evidence)
  · cases hr.symm.trans hr'
    exact (reportsNoEffect_of_evidence evidence :
      HistoryOperation.ReportsNoEffect p.command (.resolveReceipt sessionId binding receipt))
  · cases hr.symm.trans hr'
    trivial

/-- A local receipt settles only the command it is about, and only as it says. -/
theorem resolveLocalReceipt_reports (hv : Valid h) (flight : InFlight h p)
    {receipt : ValidatedLocalLivePatchReceipt}
    (hr : (resolveLocalReceipt receipt h).1 = .ok r) :
    (HistoryOperation.resolveLocalReceipt receipt).Reports p.command r := by
  have frozen : ∀ mismatch, (freezeMismatch receipt.write.commandId mismatch h).1 = .ok r →
      (HistoryOperation.resolveLocalReceipt receipt).Reports p.command r := by
    intro mismatch hfrozen
    cases (freezeMismatch_answer flight receipt.write.commandId mismatch).symm.trans hfrozen
    trivial
  simp only [resolveLocalReceipt, look_bind_run, refuse_bind_run, flight.unfrozen, flight.pending,
    flight.dispatched, Option.isSome_none, ne_eq, not_true_eq_false, if_false,
    Bool.false_eq_true] at hr
  cases hstale : h.staleReceipt receipt.write.commandId with
  | some previous =>
    simp only [hstale] at hr
    split_ifs at hr
    · exact frozen _ hr
    · exact frozen _ hr
    · exact frozen _ hr
  | none =>
    simp only [hstale] at hr
    split_ifs at hr with hsession hbinding hmatch
    · exact frozen _ hr
    rotate_left
    · exact frozen _ hr
    · exact frozen _ hr
    simp only [not_or, not_not] at hmatch
    obtain ⟨hstop, haddress, hexpected, hreplacement⟩ := hmatch
    have hcommand : receipt.command = p.command := by
      rw [ValidatedLocalLivePatchReceipt.command, PendingLivePatchOperation.command, hstop,
        haddress, hexpected, hreplacement]
    cases hres : receipt.resolution with
    | rejectedNoEffect =>
      rw [hres] at hr
      dsimp only at hr
      rw [rejectNoEffect_run flight] at hr
      cases hr
      exact ⟨hcommand, hres⟩
    | committed next =>
      rw [hres] at hr
      dsimp only at hr
      split_ifs at hr
      · exact frozen _ hr
      · obtain ⟨r', hr', hcommitted⟩ := commitSuccess_answer hv flight receipt.write.commandId next
        cases hr.symm.trans hr'
        exact reports_of_committed hcommitted ⟨hcommand, next, hres⟩

/-- Every resolution of a dispatched command is what the receipt of the call reports. -/
theorem apply_reports (hv : Valid h) (flight : InFlight h p) {op : HistoryOperation}
    (hr : (op.apply h).1 = .ok (.resolution r)) : op.Reports p.command r := by
  cases op with
  | resolveReceipt sessionId binding receipt =>
    rw [HistoryOperation.apply, bind_pure_run] at hr
    obtain ⟨r', hr', ⟨⟩⟩ := ok_of_map hr
    exact resolveReceipt_reports hv flight hr'
  | resolveLocalReceipt receipt =>
    rw [HistoryOperation.apply, bind_pure_run] at hr
    obtain ⟨r', hr', ⟨⟩⟩ := ok_of_map hr
    exact resolveLocalReceipt_reports hv flight hr'
  | markTransportOutcomeUnknown =>
    rw [HistoryOperation.apply, bind_pure_run] at hr
    obtain ⟨r', hr', ⟨⟩⟩ := ok_of_map hr
    simp only [markTransportOutcomeUnknown, look_bind_run, requireDispatchedPending,
      flight.unfrozen, flight.pending, flight.dispatched] at hr'
    cases (congrArg Prod.fst (freeze_run flight none .transportOutcomeUnknown)).symm.trans hr'
    trivial
  | _ =>
    rw [HistoryOperation.apply, bind_pure_run] at hr
    obtain ⟨_, -, ⟨⟩⟩ := ok_of_map hr

end LivePatchHistory

/-! ### The system -/

/-- A dispatched command, with the memory it found. -/
structure DispatchedCommand where
  command : DebugCommand
  found : Memory UInt8

/-- The command was carried out: the memory it found held the expected bytes, and `memory` is that
    memory with the replacement in their place. -/
def DispatchedCommand.Executed (d : DispatchedCommand) (memory : Memory UInt8) : Prop :=
  match d.command with
  | .writeMemory _ address expected replacement =>
    readSpan d.found address.val expected.length = expected ∧
      memory = writeSpan d.found address.val replacement
  | _ => False

/-- A history together with the memory it is about. -/
structure PatchSystem where
  history : LivePatchHistory
  memory : Memory UInt8
  /-- the outstanding command, as the history handed it out -/
  dispatched : Option DispatchedCommand
  /-- the memories found by the retained writes, oldest first -/
  preceding : List (Memory UInt8)

namespace PatchSystem

abbrev Answer := Except (Fault LivePatchHistoryError) HistoryAnswer

def new (sessionId : SessionId) (binding : LiveTargetBinding) (memory : Memory UInt8) :
    PatchSystem :=
  ⟨.new sessionId binding, memory, none, []⟩

/-- An honest host reports the dispatched command as carried out only if it was, and as without
    effect only if the memory is as it was found. -/
def Honest (sys : PatchSystem) (op : HistoryOperation) : Prop :=
  ∀ d, sys.dispatched = some d →
    (op.ReportsCommit d.command → d.Executed sys.memory) ∧
      (op.ReportsNoEffect d.command → sys.memory = d.found)

/-- The system after a call: a command is dispatched as it was answered, and is over with its
    resolution. -/
def after (sys : PatchSystem) (answer : Answer) (history : LivePatchHistory) : PatchSystem :=
  match answer with
  | .ok (.command command) =>
    { sys with history := history, dispatched := some ⟨command, sys.memory⟩ }
  | .ok (.resolution (.forwardCommitted _)) =>
    { sys with
      history := history
      dispatched := none
      preceding := sys.preceding ++ sys.dispatched.toList.map (·.found) }
  | .ok (.resolution (.undoCommitted _)) =>
    { sys with history := history, dispatched := none, preceding := sys.preceding.dropLast }
  | .ok (.resolution .rejectedNoEffect) => { sys with history := history, dispatched := none }
  | _ => { sys with history := history }

inductive Input where
  | call (op : HistoryOperation)
  | effect (memory : Memory UInt8)

/-- One call on the history, or an effect of the dispatched command on the memory. -/
inductive Step (sys : PatchSystem) : Input → Option Answer → PatchSystem → Prop
  | call {op answer history} (run : op.apply sys.history = (answer, history))
      (honest : sys.Honest op) :
      Step sys (.call op) (some answer) (sys.after answer history)
  | effect (memory : Memory UInt8) (dispatched : sys.dispatched.isSome = true) :
      Step sys (.effect memory) none { sys with memory := memory }

def patches (sys : PatchSystem) : List (Patch UInt8) := sys.history.entries.map (·.patch)

/-- The memory without the effect of the outstanding command. -/
def settled (sys : PatchSystem) : Memory UInt8 := (sys.dispatched.map (·.found)).getD sys.memory

/-- History and memory agree. -/
structure Coherent (m₀ : Memory UInt8) (sys : PatchSystem) : Prop where
  stacked : Stacked m₀ sys.patches sys.preceding sys.settled
  outstanding : sys.dispatched.map (·.command) =
    (sys.history.pending.filter (·.phase = .dispatched)).map (·.command)

/-- The invariant of a run: the history is valid and, unless frozen, agrees with the memory. -/
structure Inv (m₀ : Memory UInt8) (sys : PatchSystem) : Prop where
  valid : sys.history.Valid
  coherent : sys.history.freezeEvidence = none → sys.Coherent m₀

/-- Undoing the top entry lands on the memory that preceded it. -/
def UndoLands (pre post : PatchSystem) : Prop :=
  pre.preceding = post.preceding ++ [post.memory]

open LivePatchHistory (Move InFlight isCommitted)

section Steps

variable {m₀ : Memory UInt8} {sys : PatchSystem} {history : LivePatchHistory}

/-- Nothing is outstanding while the pending operation is not dispatched. -/
theorem Coherent.nothing_outstanding (hc : sys.Coherent m₀)
    (h : ∀ p, sys.history.pending = some p → p.phase ≠ .dispatched) : sys.dispatched = none := by
  have hnone : sys.history.pending.filter (·.phase = .dispatched) = none := by
    rw [Option.filter_eq_none_iff]
    exact fun p hp => by simpa using h p hp
  have hout := hc.outstanding
  rw [hnone, Option.map_none] at hout
  exact Option.map_eq_none_iff.mp hout

/-- The command in flight is the one that was handed out. -/
theorem Coherent.in_flight (hc : sys.Coherent m₀) {p : PendingLivePatchOperation}
    (flight : InFlight sys.history p) :
    ∃ d, sys.dispatched = some d ∧ d.command = p.command := by
  have hout := hc.outstanding
  rw [flight.pending, Option.filter_some, if_pos (by simp [flight.dispatched]),
    Option.map_some] at hout
  exact Option.map_eq_some_iff.mp hout

/-- A call that keeps the entries and touches nothing outstanding keeps the agreement. -/
theorem Coherent.frame (hc : sys.Coherent m₀) (hentries : history.entries = sys.history.entries)
    (hnone : sys.dispatched = none)
    (hidle : ∀ p, history.pending = some p → p.phase ≠ .dispatched) :
    Coherent m₀ { sys with history := history } := by
  refine ⟨?_, ?_⟩
  · have := hc.stacked
    simpa [patches, settled, hentries] using this
  · rw [hnone, Option.filter_eq_none_iff.mpr fun p hp => by simpa using hidle p hp]
    rfl

theorem Coherent.dispatch (hc : sys.Coherent m₀) (hnone : sys.dispatched = none)
    {p : PendingLivePatchOperation} (hp : history.pending = some p) (hphase : p.phase = .dispatched)
    (hentries : history.entries = sys.history.entries) :
    Coherent m₀ { sys with history := history, dispatched := some ⟨p.command, sys.memory⟩ } := by
  refine ⟨?_, by simp [hp, hphase]⟩
  have hs := hc.stacked
  rw [settled, hnone] at hs
  simpa [patches, settled, hentries] using hs

theorem Coherent.rejected (hc : sys.Coherent m₀) {d : DispatchedCommand}
    (hd : sys.dispatched = some d) (unchanged : sys.memory = d.found)
    (hentries : history.entries = sys.history.entries) (hidle : history.pending = none) :
    Coherent m₀ { sys with history := history, dispatched := none } := by
  refine ⟨?_, by simp [hidle]⟩
  have hs := hc.stacked
  rw [settled, hd] at hs
  simpa [patches, settled, hentries, unchanged] using hs

/-- The command of a pending operation is carried out as its patch. -/
theorem executed_command {d : DispatchedCommand} {p : PendingLivePatchOperation}
    {memory : Memory UInt8} (hcommand : d.command = p.command) (executed : d.Executed memory) :
    readSpan d.found p.address.val p.expected.length = p.expected ∧
      memory = writeSpan d.found p.address.val p.replacement := by
  rw [DispatchedCommand.Executed, hcommand] at executed
  exact executed

/-- A committed forward write is one more fitting patch on the stack. -/
theorem Coherent.pushed (hc : sys.Coherent m₀) {p : PendingLivePatchOperation}
    (hlen : p.expected.length = p.replacement.length) {d : DispatchedCommand}
    (hd : sys.dispatched = some d) (hcommand : d.command = p.command)
    (executed : d.Executed sys.memory) {entry : LivePatchEntry} (hentry : entry.patch = p.patch)
    (hentries : history.entries = sys.history.entries ++ [entry]) (hidle : history.pending = none) :
    Coherent m₀ { sys with
      history := history
      dispatched := none
      preceding := sys.preceding ++ sys.dispatched.toList.map (·.found) } := by
  obtain ⟨hfound, hmemory⟩ := executed_command hcommand executed
  refine ⟨?_, by simp [hidle]⟩
  have hs := hc.stacked
  rw [settled, hd] at hs
  have hpush := hs.push (p := p.patch) ⟨hfound, hlen.symm⟩
  simpa [patches, settled, hentries, hentry, hd, hmemory, Patch.apply,
    PendingLivePatchOperation.patch] using hpush

/-- A committed undo takes the top patch off and uncovers the memory that preceded it. -/
theorem Coherent.popped (hc : sys.Coherent m₀) {p : PendingLivePatchOperation}
    {top : LivePatchEntry} (isTop : sys.history.entries.getLast? = some top)
    (haddr : p.address = top.address) (hrep : p.replacement = top.before) {d : DispatchedCommand}
    (hd : sys.dispatched = some d) (hcommand : d.command = p.command)
    (executed : d.Executed sys.memory)
    (hentries : history.entries = sys.history.entries.dropLast) (hidle : history.pending = none) :
    Coherent m₀ { sys with
        history := history
        dispatched := none
        preceding := sys.preceding.dropLast } ∧
      sys.preceding = sys.preceding.dropLast ++ [sys.memory] := by
  obtain ⟨-, hmemory⟩ := executed_command hcommand executed
  have hs := hc.stacked
  have hsplit : sys.history.entries.dropLast ++ [top] = sys.history.entries :=
    List.dropLast_append_getLast? top isTop
  rw [settled, hd, Option.map_some, Option.getD_some, patches, ← hsplit, List.map_append,
    List.map_singleton] at hs
  obtain ⟨ms, m, hms, hrest, hfits, hm⟩ := hs.pop
  have hback : sys.memory = m := by
    rw [hmemory, hm, haddr, hrep]
    exact Patch.writeSpan_before_apply hfits
  rw [hms, List.dropLast_concat]
  refine ⟨⟨?_, by simp [hidle]⟩, by rw [hback]⟩
  simpa [patches, settled, hentries, hback] using hrest

end Steps

/-- A step that commits an undo lands on the memory that preceded the undone write. -/
def UndoEvent (pre : PatchSystem) (answer : Option Answer) (post : PatchSystem) : Prop :=
  ∀ entry, answer = some (.ok (.resolution (.undoCommitted entry))) → UndoLands pre post

/-- An honest call keeps the agreement, whatever move it is. -/
theorem coherent_move {m₀ : Memory UInt8} {sys : PatchSystem} {op : HistoryOperation}
    {answer : Answer} {history : LivePatchHistory} (hi : sys.Inv m₀)
    (run : op.apply sys.history = (answer, history)) (honest : sys.Honest op)
    (hf : history.freezeEvidence = none) :
    (sys.after answer history).Coherent m₀ ∧
      UndoEvent sys (some answer) (sys.after answer history) := by
  have hanswer : (op.apply sys.history).1 = answer := by rw [run]
  -- the receipt reports what the history made of it, and an honest host reports what happened
  have reported : ∀ p r, InFlight sys.history p → answer = .ok (.resolution r) →
      ∃ d, sys.dispatched = some d ∧ d.command = p.command ∧
        (isCommitted r = true → d.Executed sys.memory) ∧
        (r = .rejectedNoEffect → sys.memory = d.found) := by
    intro p r flight hr
    obtain ⟨d, hd, hcommand⟩ := (hi.coherent flight.unfrozen).in_flight flight
    have hreports := LivePatchHistory.apply_reports hi.valid flight (hanswer.trans hr)
    rw [← hcommand] at hreports
    refine ⟨d, hd, hcommand, fun hcommitted => (honest d hd).1 ?_, ?_⟩
    · cases r with
      | forwardCommitted entry => exact hreports
      | undoCommitted entry => exact hreports
      | rejectedNoEffect => cases hcommitted
      | frozen => cases hcommitted
    · rintro rfl
      exact (honest d hd).2 hreports
  cases LivePatchHistory.move_of_step hi.valid run with
  | refused e => exact ⟨hi.coherent hf, fun _ h => by simp at h⟩
  | reserveForward stop address before after ready patch room bytes =>
    have hc := hi.coherent ready.unfrozen
    have hnone := hc.nothing_outstanding (fun p hp => by simp [ready.idle] at hp)
    exact ⟨hc.frame rfl hnone (by rintro _ ⟨⟩ ⟨⟩), fun _ h => by simp at h⟩
  | reserveUndo stop top ready isTop =>
    have hc := hi.coherent ready.unfrozen
    have hnone := hc.nothing_outstanding (fun p hp => by simp [ready.idle] at hp)
    exact ⟨hc.frame rfl hnone (by rintro _ ⟨⟩ ⟨⟩), fun _ h => by simp at h⟩
  | dispatched p unfrozen pending phase =>
    have hc := hi.coherent unfrozen
    have hnone := hc.nothing_outstanding (fun q hq => by
      obtain rfl := Option.some.inj (pending.symm.trans hq); exact phase)
    exact ⟨hc.dispatch (p := { p with phase := .dispatched }) hnone rfl rfl rfl,
      fun _ h => by simp at h⟩
  | cancelled p unfrozen pending phase =>
    have hc := hi.coherent unfrozen
    have hnone := hc.nothing_outstanding (fun q hq => by
      obtain rfl := Option.some.inj (pending.symm.trans hq); exact phase)
    exact ⟨hc.frame rfl hnone (by rintro _ ⟨⟩), fun _ h => by simp at h⟩
  | froze p receiptCommandId cause flight => simp [LivePatchHistory.frozenAs] at hf
  | rejected p commandId flight fresh =>
    obtain ⟨d, hd, -, -, hunchanged⟩ := reported p _ flight rfl
    exact ⟨(hi.coherent flight.unfrozen).rejected hd (hunchanged rfl) rfl rfl,
      fun _ h => by simp at h⟩
  | forwardCommitted p commandId resultingStop flight kind fresh next =>
    obtain ⟨d, hd, hcommand, hexecuted, -⟩ := reported p _ flight rfl
    have hpatch := ((hi.valid.pending p flight.pending).forward kind).1
    exact ⟨(hi.coherent flight.unfrozen).pushed hpatch.length hd hcommand
      (hexecuted rfl) rfl rfl rfl,
      fun _ h => by simp at h⟩
  | undoCommitted p top commandId resultingStop flight kind isTop fresh next =>
    obtain ⟨d, hd, hcommand, hexecuted, -⟩ := reported p _ flight rfl
    obtain ⟨top', isTop', haddr, -, hrep⟩ := (hi.valid.pending p flight.pending).undo kind
    obtain rfl := Option.some.inj (isTop.symm.trans isTop')
    have hentries : ((sys.history.settle commandId resultingStop).pop top).entries =
        sys.history.entries.dropLast := rfl
    obtain ⟨hc, hlands⟩ := (hi.coherent flight.unfrozen).popped isTop haddr hrep hd hcommand
      (hexecuted rfl) hentries rfl
    exact ⟨hc, fun _ _ => hlands⟩

@[simp] theorem after_history (sys : PatchSystem) (answer : Answer) (history : LivePatchHistory) :
    (sys.after answer history).history = history := by
  unfold after
  split <;> rfl

/-- A committed undo can only happen on a history that is not frozen afterwards. -/
theorem unfrozen_of_undoCommitted {h h' : LivePatchHistory} {entry : LivePatchEntry}
    (m : Move h (.ok (.resolution (.undoCommitted entry))) h') : h'.freezeEvidence = none := by
  cases m with
  | undoCommitted p top commandId resultingStop flight kind isTop fresh next =>
    exact flight.unfrozen

theorem inv_step {m₀ : Memory UInt8} {sys sys' : PatchSystem} {input : Input}
    {answer : Option Answer} (hi : sys.Inv m₀) (step : Step sys input answer sys') :
    sys'.Inv m₀ ∧ UndoEvent sys answer sys' := by
  cases step with
  | call run honest =>
    rename_i op answer history
    have hm : Move sys.history answer history := LivePatchHistory.move_of_step hi.valid run
    refine ⟨⟨?_, fun hf => ?_⟩, fun entry h => ?_⟩
    · rw [after_history]
      exact LivePatchHistory.valid_move hi.valid hm
    · rw [after_history] at hf
      exact (coherent_move hi run honest hf).1
    · obtain rfl := Option.some.inj h
      exact (coherent_move hi run honest (unfrozen_of_undoCommitted hm)).2 entry rfl
  | effect memory dispatched =>
    refine ⟨⟨hi.valid, fun hf => ?_⟩, fun entry h => by simp at h⟩
    obtain ⟨hs, hout⟩ := hi.coherent hf
    obtain ⟨base, hbase⟩ := Option.isSome_iff_exists.mp dispatched
    refine ⟨?_, hout⟩
    rw [settled, hbase] at hs
    simpa [patches, settled, hbase] using hs

theorem inv_new (sessionId : SessionId) (binding : LiveTargetBinding) (m₀ : Memory UInt8) :
    (new sessionId binding m₀).Inv m₀ :=
  ⟨LivePatchHistory.valid_new sessionId binding, fun _ => ⟨.nil, rfl⟩⟩

/-- Undo soundness. After every run that did not freeze the history, the memory is the initial one
    overlaid with the retained entries (as found by the outstanding command, if one is
    dispatched); undoing the entries from the top never misses a comparison, passes through exactly
    the memories that preceded the retained writes and ends at the initial memory; and every undo
    the run itself committed landed on the memory that preceded the undone write. -/
theorem memory_eq_overlay_and_undo {sessionId : SessionId} {binding : LiveTargetBinding}
    {m₀ : Memory UInt8} {es : List (Event PatchSystem Input (Option Answer))} {sys : PatchSystem}
    (run : Run Step (new sessionId binding m₀) es sys)
    (unfrozen : sys.history.freezeEvidence = none) :
    (sys.dispatched = none → sys.memory = overlay m₀ sys.patches) ∧
      (∀ d, sys.dispatched = some d → d.found = overlay m₀ sys.patches) ∧
      undoAll sys.patches.reverse (overlay m₀ sys.patches) = some sys.preceding.reverse ∧
      (overlay m₀ sys.patches :: sys.preceding.reverse).getLast? = some m₀ ∧
      ∀ e ∈ es, UndoEvent e.pre e.output e.post := by
  obtain ⟨hi, hevents⟩ := run.event_invariant (Inv m₀) (fun e => UndoEvent e.pre e.output e.post)
    (inv_new sessionId binding m₀) fun _ _ _ _ hi step => inv_step hi step
  obtain ⟨hs, -⟩ := hi.coherent unfrozen
  have hmem := hs.eq_overlay
  refine ⟨fun hnone => ?_, fun d hd => ?_, ?_, ?_, hevents⟩
  · rwa [settled, hnone] at hmem
  · rwa [settled, hd] at hmem
  · rw [← hmem]
    exact hs.undoAll_reverse
  · rw [← hmem]
    exact hs.getLast_eq

/-- One write of `0xcc` over `0x90` is executed and committed, in four steps. -/
theorem memory_eq_overlay_and_undo_one_write :
    ∃ es sys, Run Step (new sampleSession sampleBinding (fun _ => 0x90)) es sys ∧
      sys.patches.length = 1 ∧ sys.memory 0x1010 = 0xcc ∧
      sys.memory = overlay (fun _ => 0x90) sys.patches := by
  let stop := sampleStop 3 1
  let next := sampleStop 4 2
  let write : LocalLiveMemoryWriteAllocation :=
    ⟨5, stop, sampleBinding, 0x1010, [0x90], [0xcc]⟩
  let reserve : HistoryOperation := .beginForwardWrite sampleSession sampleBinding stop
    0x1010 [0x90] [0xcc]
  have reserved : Step (new sampleSession sampleBinding (fun _ => 0x90)) (.call reserve) _ _ :=
    .call rfl (by rintro d ⟨⟩)
  have dispatched := (Run.start.next reserved).next
    (show Step _ (.call .markForDispatch) _ _ from .call rfl (by rintro d ⟨⟩))
  have executed := dispatched.next (.effect (writeSpan (fun _ => 0x90) 0x1010 [0xcc]) rfl)
  have committed := executed.next
    (show Step _ (.call (.resolveLocalReceipt ⟨write, .committed next⟩)) _ _ from .call rfl (by
      rintro d ⟨⟩
      exact ⟨fun _ => ⟨rfl, rfl⟩, fun hnone => by cases hnone.2⟩))
  exact ⟨_, _, committed, rfl, rfl, (memory_eq_overlay_and_undo committed rfl).1 rfl⟩

end PatchSystem

end ReSymbol.Debugger
