import ReSymbol.Debugger.LivePatchInvariant
import ReSymbol.Debugger.SessionFreshness

/-! A session and the patch history of its target, driven together.

    For each write or undo the history reserves on the current stop and hands out the command, the
    session begins it and is told how it went, and the receipt it mints goes back to the history.

        reserve ─▶ markForDispatch ─▶ begin ─▶ success / no effect ─▶ receipt
        history        history        session         session         history

    Both sides count stops. The session allocates stop ids above a watermark that a rollback does
    not lower; the history accepts a committed write only if it ends in the stop with the next id.
    They agree exactly as long as a successful write starts on the last stop id allocated. A write
    without effect, or a refreshing command that is rejected, leaves the watermark ahead of the stop
    it restores, and the next good write freezes the history. -/

namespace ReSymbol.Debugger
open Schemes Schemes.Reducer

/-- A session and the patch history of its target. -/
structure PatchedSession where
  session : SessionSystem
  history : LivePatchHistory

inductive PatchRequest where
  | write (address : MemoryAddress) (before after : List UInt8)
  | undo

/-- What the provider reports about a dispatched write. -/
inductive WriteReport where
  | success | noEffect

/-- A whole write or undo, or any other call on the session between two of them. -/
inductive PatchedCall where
  | session (operation : SessionOperation)
  | patch (request : PatchRequest) (envelope : CommandEnvelope) (allocation : ℕ)
      (report : WriteReport)

abbrev PatchResult := Except (Fault LivePatchHistoryError) LivePatchResolution

inductive PatchedAnswer where
  | session (result : SessionResult)
  | patch (result : PatchResult)

def SessionState.currentStop : SessionState → Option StopToken
  | .stopped token _ _ => some token
  | _ => none

/-- Reserve on the current stop, for the session and binding of the history itself. -/
def PatchRequest.reserve (request : PatchRequest) (stop : StopToken) : HistoryReducer Unit := do
  let h ← look
  match request with
  | .write address before after =>
    LivePatchHistory.beginForwardWrite h.sessionId h.binding stop address before after
  | .undo => LivePatchHistory.beginUndo h.sessionId h.binding stop

def PatchRequest.kind : PatchRequest → LivePatchOperationKind
  | .write _ _ _ => .forwardWrite
  | .undo => .undo

def WriteReport.resolve [Sha256] : WriteReport → RemoteCommandCheckpoint →
    LocalLiveMemoryWriteReceiptIdentity → SessionReducer ValidatedLocalLivePatchReceipt
  | .success => SessionMachine.resolveLiveMemoryWriteSuccess
  | .noEffect => SessionMachine.resolveLiveMemoryWriteNoEffect

namespace PatchedSession

/-- One write or undo from reservation to receipt. It is driven to its end only if every call before
    the receipt is accepted; what the history makes of the receipt is the answer. -/
def transact [Sha256] (s : PatchedSession) (request : PatchRequest) (envelope : CommandEnvelope)
    (allocation : ℕ) (report : WriteReport) : Option (PatchResult × PatchedSession) := do
  let stop ← s.session.machine.state.currentStop
  let (_, reserved) ← succeeded (request.reserve stop s.history)
  let (command, dispatched) ← succeeded (LivePatchHistory.markForDispatch reserved)
  guard (envelope.command = command)
  let ((checkpoint, _, identity), begun) ← succeeded
    (SessionMachine.beginLiveMemoryWrite envelope s.history.binding allocation s.session.machine)
  let (receipt, machine) ← succeeded (report.resolve checkpoint identity begun)
  let (result, history) := LivePatchHistory.resolveLocalReceipt receipt dispatched
  return (result, ⟨⟨machine, s.session.issued ++ [checkpoint]⟩, history⟩)

/-- One step of the driver. -/
inductive Step [Sha256] (s : PatchedSession) : PatchedCall → PatchedAnswer → PatchedSession → Prop
  | session {operation : SessionOperation} {result : SessionResult} {session : SessionSystem}
      (step : SessionSystem.Step s.session operation result session) :
      Step s (.session operation) (.session result) ⟨session, s.history⟩
  | patch {request : PatchRequest} {envelope : CommandEnvelope} {allocation : ℕ}
      {report : WriteReport} {result : PatchResult} {s' : PatchedSession}
      (transacts : s.transact request envelope allocation report = some (result, s')) :
      Step s (.patch request envelope allocation report) (.patch result) s'

abbrev PatchedEvent := Event PatchedSession PatchedCall PatchedAnswer

/-- The receipt of a good write or undo is committed, the receipt of one without effect rejected. -/
def Settles (request : PatchRequest) : WriteReport → PatchResult → Prop
  | .success, .ok (.forwardCommitted _) => request.kind = .forwardWrite
  | .success, .ok (.undoCommitted _) => request.kind = .undo
  | .noEffect, .ok .rejectedNoEffect => True
  | _, _ => False

/-- The event is no write, or a write whose receipt settled as its report says. -/
def Settled (e : PatchedEvent) : Prop :=
  ∀ request envelope allocation report, e.input = .patch request envelope allocation report →
    ∃ result, e.output = .patch result ∧ Settles request report result

/-- A write that is reported successful starts on the last stop id the session allocated. -/
def StopCurrent (e : PatchedEvent) : Prop :=
  ∀ request envelope allocation, e.input = .patch request envelope allocation .success →
    ∀ stop, e.pre.session.machine.state.currentStop = some stop →
      stop.stopId.val = e.pre.session.machine.lastStopId

/-! ### The history side -/

section History

variable {h h' : LivePatchHistory} {stop : StopToken} {u : Unit}

theorem check_eq_ok {x : Except LivePatchHistoryError Unit} :
    (check x : HistoryReducer Unit) h = (.ok u, h') ↔ x = .ok () ∧ h = h' := by
  cases x <;> simp [check, Except.mapError]

/-- An accepted reservation is ready and waits for its dispatch. -/
theorem reserve_eq_ok {request : PatchRequest} (hr : request.reserve stop h = (.ok u, h')) :
    ∃ p : PendingLivePatchOperation, p.kind = request.kind ∧ p.phase = .reserved ∧ p.stop = stop ∧
      h.Ready stop ∧ h' = h.reserve p := by
  cases request with
  | write address before after =>
    simp only [PatchRequest.reserve, look_bind_run, LivePatchHistory.beginForwardWrite, bind_eq_ok,
      check_eq_ok, refuse_eq_ok] at hr
    obtain ⟨_, _, ⟨hready, rfl⟩, _, _, ⟨-, rfl⟩, _, _, ⟨-, rfl⟩, _, _, ⟨-, rfl⟩, hr⟩ := hr
    refine ⟨⟨.forwardWrite, .reserved, stop, address, before, after⟩, rfl, rfl, rfl,
      LivePatchHistory.ready_of_requireReadyContext hready, ?_⟩
    cases hbytes : checkedAdd h.storedBytes (before.length + after.length) with
    | none => simp [hbytes] at hr
    | some prospective =>
      simp only [hbytes, bind_eq_ok, refuse_eq_ok, update_eq_ok] at hr
      obtain ⟨_, _, ⟨-, rfl⟩, rfl⟩ := hr
      rfl
  | undo =>
    simp only [PatchRequest.reserve, look_bind_run, LivePatchHistory.beginUndo, bind_eq_ok,
      check_eq_ok] at hr
    obtain ⟨_, _, ⟨hready, rfl⟩, hr⟩ := hr
    cases htop : h.entries.getLast? with
    | none => simp [htop] at hr
    | some top =>
      simp only [htop, bind_eq_ok, check_eq_ok, update_eq_ok] at hr
      obtain ⟨_, _, ⟨-, rfl⟩, rfl⟩ := hr
      exact ⟨⟨.undo, .reserved, stop, top.address, top.after, top.before⟩, rfl, rfl, rfl,
        LivePatchHistory.ready_of_requireReadyContext hready, rfl⟩

theorem markForDispatch_reserve {p : PendingLivePatchOperation} (ready : h.Ready stop)
    (hphase : p.phase = .reserved) :
    LivePatchHistory.markForDispatch (h.reserve p) =
      (.ok p.command, (h.reserve p).dispatch p) := by
  have hunfrozen : ¬ (h.reserve p).freezeEvidence.isSome = true := by
    simp [LivePatchHistory.reserve, ready.unfrozen]
  simp only [LivePatchHistory.markForDispatch, look_bind_run, refuse_bind_run, if_neg hunfrozen]
  show (refuse (p.phase = .dispatched) _ >>= _ : HistoryReducer _) (h.reserve p) = _
  rw [refuse_bind_run, if_neg (by simp [hphase])]
  rfl

theorem valid_dispatched (hv : h.Valid) {request : PatchRequest} {p : PendingLivePatchOperation}
    (hr : request.reserve stop h = (.ok u, h.reserve p)) (ready : h.Ready stop)
    (hphase : p.phase = .reserved) : ((h.reserve p).dispatch p).Valid := by
  have hreserved : (h.reserve p).Valid := by
    cases request with
    | write address before after =>
      have hmove := LivePatchHistory.beginForwardWrite_move (h := h) h.sessionId h.binding stop
        address before after
      have hrun : LivePatchHistory.beginForwardWrite h.sessionId h.binding stop address before
        after h = (.ok u, h.reserve p) := hr
      rw [hrun] at hmove
      exact LivePatchHistory.valid_move hv hmove
    | undo =>
      have hmove := LivePatchHistory.beginUndo_move (h := h) h.sessionId h.binding stop
      have hrun : LivePatchHistory.beginUndo h.sessionId h.binding stop h =
        (.ok u, h.reserve p) := hr
      rw [hrun] at hmove
      exact LivePatchHistory.valid_move hv hmove
  exact LivePatchHistory.valid_move hreserved
    (.dispatched p ready.unfrozen rfl (by simp [hphase]))

end History

/-! ### The session side -/

section Session

variable [Sha256] {m begun m' : SessionMachine} {envelope : CommandEnvelope}
  {binding : LiveTargetBinding} {allocation : ℕ} {checkpoint : RemoteCommandCheckpoint}
  {ticket : ValidatedLiveMemoryWrite} {identity : LocalLiveMemoryWriteReceiptIdentity}
  {report : WriteReport} {receipt : ValidatedLocalLivePatchReceipt}

/-- The receipt a session mints for a write: the write it began, and on success the stop it
    allocated for it, one above the watermark. -/
structure Minted (m : SessionMachine) (envelope : CommandEnvelope) (binding : LiveTargetBinding)
    (report : WriteReport) (receipt : ValidatedLocalLivePatchReceipt) : Prop where
  command : receipt.write.commandId = envelope.commandId
  binding : receipt.write.binding = binding
  write : envelope.command = .writeMemory receipt.write.stop receipt.write.address
    receipt.write.expected receipt.write.replacement
  newer : NewerCommand m.lastCommandId envelope.commandId
  resolution : match report with
    | .noEffect => receipt.resolution = .rejectedNoEffect
    | .success => ∃ old reason threadId next, m.state = .stopped old reason threadId ∧
        receipt.resolution = .committed next ∧ next.stopId.val = m.lastStopId + 1 ∧
        m.state.Follows (.stopped next reason threadId)

theorem minted_of_resolve (hc : m.visible.Coherent m.identity)
    (hbegin : SessionMachine.beginLiveMemoryWrite envelope binding allocation m =
      (.ok (checkpoint, ticket, identity), begun))
    (hresolve : report.resolve checkpoint identity begun = (.ok receipt, m')) :
    Minted m envelope binding report receipt ∧ m'.lastCommandId = some envelope.commandId := by
  rcases beginLiveMemoryWrite_run hc envelope binding allocation with
    ⟨e, m₁, hrun, -⟩ |
    ⟨write, ticket₁, m₁, hcommand, hbinding, hwrite, hrun, -, -, hnewer, heffect, -⟩
  · simp [hrun] at hbegin
  · simp only [hrun, Prod.mk.injEq, Except.ok.injEq] at hbegin
    obtain ⟨⟨rfl, -, rfl⟩, rfl⟩ := hbegin
    have hlast : m₁.lastCommandId = some envelope.commandId := heffect.frame.2.1
    obtain ⟨old, next, reason, threadId, hold, hnext, hid, hfollows⟩ :=
      heffect.refreshes (by rw [hwrite]; rfl)
    cases report with
    | noEffect =>
      simp only [WriteReport.resolve, resolveLiveMemoryWriteNoEffect_run] at hresolve
      split at hresolve
      · simp at hresolve
      · simp only [Prod.mk.injEq, Except.ok.injEq] at hresolve
        obtain ⟨rfl, rfl⟩ := hresolve
        exact ⟨⟨hcommand, hbinding, hwrite, hnewer, rfl⟩, hlast⟩
    | success =>
      simp only [WriteReport.resolve, resolveLiveMemoryWriteSuccess_run] at hresolve
      split at hresolve
      · simp at hresolve
      · rename_i stop hvalid
        simp only [Prod.mk.injEq, Except.ok.injEq] at hresolve
        obtain ⟨rfl, rfl⟩ := hresolve
        obtain ⟨-, -, -, _, _, hstop⟩ := validateLocalLiveMemoryWriteResolution_eq_ok hvalid
        have hsame : m₁.state = .stopped stop _ _ := hstop
        rw [hnext] at hsame
        cases hsame
        exact ⟨⟨hcommand, hbinding, hwrite, hnewer, old, reason, threadId, next, hold, rfl, hid,
          hfollows⟩, hlast⟩

/-- Beginning and resolving a write are two calls of the session. -/
theorem coherent_of_resolve {session : SessionSystem} (hc : session.Coherent)
    (hbegin : SessionMachine.beginLiveMemoryWrite envelope binding allocation session.machine =
      (.ok (checkpoint, ticket, identity), begun))
    (hresolve : report.resolve checkpoint identity begun = (.ok receipt, m')) :
    (⟨m', session.issued ++ [checkpoint]⟩ : SessionSystem).Coherent ∧
      m'.identity = session.machine.identity := by
  have hfirst : SessionSystem.Step session (.beginLiveMemoryWrite envelope binding allocation)
      (.ok (.liveMemoryWrite checkpoint ticket identity))
      ⟨begun, session.issued ++ [checkpoint]⟩ := by
    refine ⟨?_, fun _ h => by cases h⟩
    have hrun : (SessionOperation.beginLiveMemoryWrite envelope binding allocation).apply
        session.machine = (.ok (.liveMemoryWrite checkpoint ticket identity), begun) :=
      liftError_ok hbegin
    simp only [SessionSystem.call, hrun]
    rfl
  obtain ⟨hc₁, -, hidentity₁, -⟩ := SessionSystem.coherent_step hc hfirst
  have hsecond : ∃ operation, SessionSystem.Step ⟨begun, session.issued ++ [checkpoint]⟩ operation
      (.ok (.receipt receipt)) ⟨m', session.issued ++ [checkpoint]⟩ := by
    have hgenuine : ∀ c, some checkpoint = some c → c.reducerInstance = begun.reducerInstance →
        c ∈ session.issued ++ [checkpoint] := by
      intro c hc _
      obtain rfl := Option.some.inj hc
      simp
    cases report with
    | success =>
      refine ⟨.resolveLiveMemoryWriteSuccess checkpoint identity, ?_, hgenuine⟩
      have hrun : (SessionOperation.resolveLiveMemoryWriteSuccess checkpoint identity).apply
          begun = (.ok (.receipt receipt), m') := liftError_ok hresolve
      simp [SessionSystem.call, hrun, SessionSystem.tickets, SessionAnswer.ticket]
    | noEffect =>
      refine ⟨.resolveLiveMemoryWriteNoEffect checkpoint identity, ?_, hgenuine⟩
      have hrun : (SessionOperation.resolveLiveMemoryWriteNoEffect checkpoint identity).apply
          begun = (.ok (.receipt receipt), m') := liftError_ok hresolve
      simp [SessionSystem.call, hrun, SessionSystem.tickets, SessionAnswer.ticket]
  obtain ⟨operation, hstep⟩ := hsecond
  obtain ⟨hc₂, -, hidentity₂, -⟩ := SessionSystem.coherent_step hc₁ hstep
  exact ⟨hc₂, hidentity₂.trans hidentity₁⟩

end Session

/-! ### One transaction -/

section Transaction

variable [Sha256] {s s' : PatchedSession} {request : PatchRequest} {envelope : CommandEnvelope}
  {allocation : ℕ} {report : WriteReport} {result : PatchResult}

/-- Both sides are well formed, belong to one session, and the history has resolved no receipt of a
    command the session has not seen. -/
structure Inv (s : PatchedSession) : Prop where
  coherent : s.session.Coherent
  valid : s.history.Valid
  session : s.history.sessionId = s.session.machine.sessionId
  receipts : ∀ last, s.history.lastReceiptCommandId = some last →
    last.val ≤ SessionSystem.commandMark s.session.machine

/-- What a transaction that ran to its end did. -/
structure Transacted (s : PatchedSession) (request : PatchRequest) (envelope : CommandEnvelope)
    (report : WriteReport) (result : PatchResult) (s' : PatchedSession)
    (p : PendingLivePatchOperation) (receipt : ValidatedLocalLivePatchReceipt) : Prop where
  kind : p.kind = request.kind
  stop : s.session.machine.state.currentStop = some p.stop
  flight : ((s.history.reserve p).dispatch p).InFlight { p with phase := .dispatched }
  valid : ((s.history.reserve p).dispatch p).Valid
  command : envelope.command = p.command
  minted : Minted s.session.machine envelope s.history.binding report receipt
  session : s'.session.Coherent
  identity : s'.session.machine.identity = s.session.machine.identity
  last : s'.session.machine.lastCommandId = some envelope.commandId
  resolved : LivePatchHistory.resolveLocalReceipt receipt ((s.history.reserve p).dispatch p) =
    (result, s'.history)

theorem transacted_of_transact (inv : Inv s)
    (h : s.transact request envelope allocation report = some (result, s')) :
    ∃ p receipt, Transacted s request envelope report result s' p receipt := by
  simp only [transact, Option.bind_eq_bind, Option.bind_eq_some_iff, Prod.exists,
    succeeded_eq_some] at h
  obtain ⟨stop, hstop, _, reserved, hreserve, command, dispatched, hmark, _, hguard, checkpoint,
    ticket, identity, begun, hbegin, receipt, machine, hresolve, hlast⟩ := h
  obtain ⟨p, hkind, hphase, rfl, ready, rfl⟩ := reserve_eq_ok hreserve
  rw [markForDispatch_reserve ready hphase, Prod.mk.injEq, Except.ok.injEq] at hmark
  obtain ⟨rfl, rfl⟩ := hmark
  have hcommand : envelope.command = p.command := by simpa [guard] using hguard
  obtain ⟨hminted, hid⟩ := minted_of_resolve inv.coherent.machine hbegin hresolve
  obtain ⟨hsession, hidentity⟩ := coherent_of_resolve inv.coherent hbegin hresolve
  obtain ⟨rfl, rfl⟩ : (LivePatchHistory.resolveLocalReceipt receipt
      ((s.history.reserve p).dispatch p)).1 = result ∧
      (⟨⟨machine, s.session.issued ++ [checkpoint]⟩, (LivePatchHistory.resolveLocalReceipt receipt
        ((s.history.reserve p).dispatch p)).2⟩ : PatchedSession) = s' := by
    simpa using hlast
  exact ⟨p, receipt, hkind, hstop, ⟨ready.unfrozen, rfl, rfl⟩,
    valid_dispatched inv.valid hreserve ready hphase, hcommand, hminted, hsession, hidentity, hid,
    rfl⟩

omit [Sha256] in
theorem state_of_currentStop {state : SessionState} {stop : StopToken}
    (h : state.currentStop = some stop) :
    ∃ reason threadId, state = .stopped stop reason threadId := by
  cases state <;> simp only [SessionState.currentStop, Option.some.injEq, reduceCtorEq] at h
  subst h
  exact ⟨_, _, rfl⟩

omit [Sha256] in
/-- The stop a session allocates for a write is the next one exactly if no id was skipped. -/
theorem isExactSuccessorStop_iff {old next : StopToken} {reason reason' : StopReason}
    {threadId threadId' : ThreadId} {lastStopId : ℕ} (hid : next.stopId.val = lastStopId + 1)
    (hfollows : (SessionState.stopped old reason threadId).Follows
      (.stopped next reason' threadId')) :
    LivePatchHistory.isExactSuccessorStop old next = true ↔ old.stopId.val = lastStopId := by
  have hsession : next.state.sessionId = old.state.sessionId := hfollows.session
  have hgeneration : next.state.generation.val = old.state.generation.val + 1 :=
    hfollows.generation
  have hg := next.state.generation.lt
  have hs := next.stopId.lt
  simp only [IdKind.bits] at hg hs
  simp only [LivePatchHistory.isExactSuccessorStop, decide_eq_true_eq, hsession, true_and,
    checkedAdd_eq_some]
  omega

namespace Transacted

variable {p : PendingLivePatchOperation} {receipt : ValidatedLocalLivePatchReceipt}

/-- The receipt belongs to the write in flight, so only the stop it reports can be wrong. -/
theorem receipt_of_flight (t : Transacted s request envelope report result s' p receipt)
    (inv : Inv s) :
    (result, s'.history) = match receipt.resolution with
      | .committed resultingStop =>
        if LivePatchHistory.isExactSuccessorStop p.stop resultingStop = true then
          LivePatchHistory.commitSuccess receipt.write.commandId resultingStop
            ((s.history.reserve p).dispatch p)
        else LivePatchHistory.freezeMismatch receipt.write.commandId .stateEvidenceMismatch
          ((s.history.reserve p).dispatch p)
      | .rejectedNoEffect => LivePatchHistory.rejectNoEffect receipt.write.commandId
          ((s.history.reserve p).dispatch p) := by
  have hwrite := t.command.symm.trans t.minted.write
  have hstop : p.stop = receipt.write.stop := (DebugCommand.writeMemory.inj hwrite).1
  have hsession : receipt.write.stop.state.sessionId = s.history.sessionId := by
    obtain ⟨reason, threadId, hstate⟩ := state_of_currentStop t.stop
    have hs : s.session.machine.state.stateToken.sessionId = s.session.machine.sessionId :=
      inv.coherent.machine.session
    rw [hstate] at hs
    rw [← hstop, inv.session]
    exact hs
  have hfresh : ((s.history.reserve p).dispatch p).FreshReceipt receipt.write.commandId := by
    intro last hlast
    have hle := inv.receipts last hlast
    have hlt := SessionSystem.commandMark_lt t.minted.newer
    rw [t.minted.command]
    omega
  rw [← t.resolved]
  exact LivePatchHistory.resolveLocalReceipt_of_flight t.flight hsession t.minted.binding hfresh
    hwrite

/-- The receipt settles unless a write reported successful started behind the watermark, and then
    the history freezes. -/
theorem settles_iff (t : Transacted s request envelope report result s' p receipt) (inv : Inv s) :
    (Settles request report result ↔
      (report = .success → p.stop.stopId.val = s.session.machine.lastStopId)) ∧
    (s'.history.isInspectionOnly = true ↔ ¬ Settles request report result) ∧
    s'.history.lastReceiptCommandId ∈
      [s.history.lastReceiptCommandId, some envelope.commandId] ∧
    s'.history.sessionId = s.history.sessionId := by
  have hrun := t.receipt_of_flight inv
  have hresolution := t.minted.resolution
  have hcommand := t.minted.command
  have hunfrozen : s.history.freezeEvidence = none := t.flight.unfrozen
  cases report with
  | noEffect =>
    rw [hresolution] at hrun
    simp only [LivePatchHistory.rejectNoEffect_run t.flight, Prod.mk.injEq] at hrun
    obtain ⟨rfl, hhistory⟩ := hrun
    rw [hhistory]
    simp [Settles, LivePatchHistory.isInspectionOnly, LivePatchHistory.settle,
      LivePatchHistory.dispatch, LivePatchHistory.reserve, hunfrozen, hcommand]
  | success =>
    obtain ⟨old, reason, threadId, next, hstate, hcommitted, hid, hfollows⟩ := hresolution
    obtain rfl : old = p.stop := by
      have hstop := t.stop
      rw [hstate] at hstop
      exact Option.some.inj hstop
    have hexact := isExactSuccessorStop_iff hid (hstate ▸ hfollows)
    rw [hcommitted] at hrun
    by_cases hnext : LivePatchHistory.isExactSuccessorStop p.stop next = true
    · have hcurrent := hexact.mp hnext
      simp only [if_pos hnext] at hrun
      cases hkind : p.kind with
      | forwardWrite =>
        rw [LivePatchHistory.commitSuccess_forward t.valid t.flight hkind] at hrun
        obtain ⟨rfl, hhistory⟩ := Prod.mk.inj hrun
        have hrequest : request.kind = .forwardWrite := t.kind.symm.trans hkind
        rw [hhistory]
        simp [Settles, hrequest, hcurrent, LivePatchHistory.isInspectionOnly,
          LivePatchHistory.push, LivePatchHistory.settle, LivePatchHistory.dispatch,
          LivePatchHistory.reserve, hunfrozen, hcommand]
      | undo =>
        obtain ⟨top, -, hcommit⟩ := LivePatchHistory.commitSuccess_undo t.valid t.flight hkind
          receipt.write.commandId next
        rw [hcommit] at hrun
        obtain ⟨rfl, hhistory⟩ := Prod.mk.inj hrun
        have hrequest : request.kind = .undo := t.kind.symm.trans hkind
        rw [hhistory]
        simp [Settles, hrequest, hcurrent, LivePatchHistory.isInspectionOnly,
          LivePatchHistory.pop, LivePatchHistory.settle, LivePatchHistory.dispatch,
          LivePatchHistory.reserve, hunfrozen, hcommand]
    · have hbehind := mt hexact.mpr hnext
      simp only [if_neg hnext, LivePatchHistory.freezeMismatch,
        LivePatchHistory.freeze_run t.flight, Prod.mk.injEq] at hrun
      obtain ⟨rfl, hhistory⟩ := hrun
      rw [hhistory]
      simp [Settles, hbehind, LivePatchHistory.isInspectionOnly, LivePatchHistory.frozenAs,
        LivePatchHistory.dispatch, LivePatchHistory.reserve]

theorem inv (t : Transacted s request envelope report result s' p receipt) (inv : Inv s) :
    Inv s' := by
  obtain ⟨-, -, hreceipt, hsession⟩ := t.settles_iff inv
  have hmove := LivePatchHistory.resolveLocalReceipt_resolves t.valid receipt
  rw [t.resolved] at hmove
  refine ⟨t.session, LivePatchHistory.valid_move t.valid hmove, ?_, fun last hlast => ?_⟩
  · rw [hsession, inv.session]
    exact (congrArg SessionIdentity.sessionId t.identity).symm
  · have hmark : SessionSystem.commandMark s'.session.machine = envelope.commandId.val := by
      simp [SessionSystem.commandMark, t.last]
    have hlt := SessionSystem.commandMark_lt t.minted.newer
    rw [hmark]
    rcases List.mem_cons.mp hreceipt with hold | hnew
    · exact ((inv.receipts last (hold ▸ hlast)).trans hlt.le)
    · rw [List.mem_singleton.mp hnew] at hlast
      rw [← Option.some.inj hlast]

end Transacted

/-! ### Runs of the driver -/

variable {es : List PatchedEvent} {s₀ : PatchedSession}

/-- A session some run of calls has led to, and a new history for it. -/
structure Initial (s : PatchedSession) : Prop where
  reachable : ∃ reducerInstance sessionId provisioningEpoch helperBuild es,
    Run SessionSystem.Step
      (SessionSystem.start reducerInstance sessionId provisioningEpoch helperBuild) es s.session
  history : ∃ binding, s.history = .new s.session.machine.sessionId binding

theorem Initial.inv (h : Initial s) : Inv s := by
  obtain ⟨_, _, _, _, _, run⟩ := h.reachable
  obtain ⟨binding, hnew⟩ := h.history
  refine ⟨(SessionSystem.run_moves run).1, ?_, ?_, ?_⟩
  · rw [hnew]
    exact LivePatchHistory.valid_new _ _
  · rw [hnew]
    rfl
  · intro last hlast
    rw [hnew] at hlast
    cases hlast

theorem inv_session {operation : SessionOperation} {answer : SessionResult}
    {session : SessionSystem} (inv : Inv s)
    (hstep : SessionSystem.Step s.session operation answer session) :
    Inv ⟨session, s.history⟩ := by
  obtain ⟨hc, hmove, hidentity, -⟩ := SessionSystem.coherent_step inv.coherent hstep
  refine ⟨hc, inv.valid, ?_, fun last hlast => ?_⟩
  · exact inv.session.trans (congrArg SessionIdentity.sessionId hidentity).symm
  · exact (inv.receipts last hlast).trans (SessionSystem.accepted_of_move hmove).1

/-- One step settles exactly if it starts on the current stop, and the history is unfrozen after it
    exactly if it was before and the step settles. -/
theorem step_settles {input : PatchedCall} {output : PatchedAnswer} (inv : Inv s)
    (hstep : Step s input output s') :
    Inv s' ∧ (Settled ⟨s, input, output, s'⟩ ↔ StopCurrent ⟨s, input, output, s'⟩) ∧
      (s'.history.isInspectionOnly = false ↔
        s.history.isInspectionOnly = false ∧ StopCurrent ⟨s, input, output, s'⟩) := by
  cases hstep with
  | session step =>
    refine ⟨inv_session inv step, ?_, ?_⟩
    · exact iff_of_true (fun _ _ _ _ h => by cases h) (fun _ _ _ h => by cases h)
    · exact (and_iff_left fun _ _ _ h => by cases h).symm
  | @patch request envelope allocation report result s' transacts =>
    obtain ⟨p, receipt, t⟩ := transacted_of_transact inv transacts
    obtain ⟨hsettles, hfrozen, -⟩ := t.settles_iff inv
    have hcurrent : StopCurrent ⟨s, .patch request envelope allocation report, .patch result, s'⟩ ↔
        (report = .success → p.stop.stopId.val = s.session.machine.lastStopId) := by
      constructor
      · rintro h rfl
        exact h _ _ _ rfl p.stop t.stop
      · rintro h _ _ _ hinput stop hstop
        cases hinput
        obtain rfl := Option.some.inj (t.stop.symm.trans hstop)
        exact h rfl
    have hsettled : Settled ⟨s, .patch request envelope allocation report, .patch result, s'⟩ ↔
        Settles request report result := by
      constructor
      · intro h
        obtain ⟨_, hout, hs⟩ := h _ _ _ _ rfl
        cases hout
        exact hs
      · rintro h _ _ _ _ hinput
        cases hinput
        exact ⟨result, rfl, h⟩
    -- a frozen history reserves nothing
    have hready : s.history.isInspectionOnly = false := by
      have hunfrozen : s.history.freezeEvidence = none := t.flight.unfrozen
      simp [LivePatchHistory.isInspectionOnly, hunfrozen]
    refine ⟨t.inv inv, by rw [hsettled, hcurrent, hsettles], ?_⟩
    rw [and_iff_right hready, hcurrent, ← hsettles, ← Bool.not_eq_true, hfrozen, not_not]

/-- CORRECT (when good writes survive): a receipt settles as its report says exactly if a write
    reported successful started on the last stop id the session had allocated; the history is usable
    after a run exactly if every write of the run did. -/
theorem receipts_settle_iff_stop_current (h : Initial s₀) (run : Run Step s₀ es s) :
    (∀ e ∈ es, (Settled e ↔ StopCurrent e)) ∧
      (s.history.isInspectionOnly = false ↔ ∀ e ∈ es, StopCurrent e) := by
  have hrun := run.history_invariant (fun es s => Inv s ∧ (∀ e ∈ es, (Settled e ↔ StopCurrent e)) ∧
    (s.history.isInspectionOnly = false ↔ ∀ e ∈ es, StopCurrent e)) ?_ ?_
  · exact hrun.2
  · obtain ⟨binding, hnew⟩ := h.history
    exact ⟨h.inv, by simp, by simp [hnew, LivePatchHistory.new, LivePatchHistory.isInspectionOnly]⟩
  · rintro es s input output s' - ⟨inv, hes, hready⟩ hstep
    obtain ⟨inv', hsettled, hready'⟩ := step_settles inv hstep
    refine ⟨inv', fun e he => ?_, ?_⟩
    · rcases List.mem_append.mp he with he | he
      · exact hes e he
      · rw [List.mem_singleton.mp he]
        exact hsettled
    · rw [hready', hready]
      simp [or_imp, forall_and]

theorem step_of_isSome (h : (s.transact request envelope allocation report).isSome = true) :
    Step s (.patch request envelope allocation report)
      (.patch ((s.transact request envelope allocation report).get h).1)
      ((s.transact request envelope allocation report).get h).2 :=
  .patch (Option.some_get h).symm

end Transaction

/-! ### A good write after one without effect -/

/-- The attached sample session, stopped for the first time, and a new history. -/
def samplePatched : PatchedSession :=
  ⟨(execute (@SessionSystem.call SessionSystem.sampleHash) SessionSystem.sampleStart
    SessionSystem.sampleAttach).2, .new sampleSession sampleBinding⟩

/-- Write one byte at `0x1010`. -/
def samplePatch : PatchRequest := .write 0x1010 [0x90] [0xcc]

def sampleWriteEnvelope (commandId : CommandId) : CommandEnvelope :=
  SessionSystem.sampleEnvelope commandId 3 (.writeMemory (sampleStop 3 1) 0x1010 [0x90] [0xcc])

theorem initial_samplePatched : @Initial SessionSystem.sampleHash samplePatched :=
  @Initial.mk SessionSystem.sampleHash _
    ⟨_, _, _, _, _, @SessionSystem.run_calls SessionSystem.sampleHash SessionSystem.sampleStart
      SessionSystem.sampleAttach (by decide)⟩ ⟨sampleBinding, rfl⟩

/-- The sample byte written with a report. -/
abbrev sampleTransact (s : PatchedSession) (commandId : CommandId) (report : WriteReport) :
    Option (PatchResult × PatchedSession) :=
  @transact SessionSystem.sampleHash s samplePatch (sampleWriteEnvelope commandId) commandId.val
    report

theorem sampleTransact_isSome (report : WriteReport) :
    (sampleTransact samplePatched 2 report).isSome = true := by
  cases report <;> decide

/-- The sample session after a write of the byte with a report. -/
def samplePatchedAfter (report : WriteReport) : PatchedSession :=
  ((sampleTransact samplePatched 2 report).get (sampleTransact_isSome report)).2

theorem receipts_settle_iff_stop_current_samplePatch :
    (samplePatchedAfter .success).history.isInspectionOnly = false ∧
    ∃ es, Run (@Step SessionSystem.sampleHash) samplePatched es (samplePatchedAfter .success) ∧
      es ≠ [] ∧ (∀ e ∈ es, (Settled e ↔ StopCurrent e)) ∧
      ((samplePatchedAfter .success).history.isInspectionOnly = false ↔
        ∀ e ∈ es, StopCurrent e) := by
  have run := Run.start.next
    (@step_of_isSome SessionSystem.sampleHash _ _ _ _ _ (sampleTransact_isSome .success))
  exact ⟨by decide, _, run, by simp, @receipts_settle_iff_stop_current SessionSystem.sampleHash
    _ _ _ initial_samplePatched run⟩

theorem sampleTransact_retry_isSome :
    (sampleTransact (samplePatchedAfter .noEffect) 3 .success).isSome = true := by
  decide

/-- One write without effect, and the next good write of the same byte freezes the history. -/
theorem good_write_freezes_after_noEffect :
    ∃ es s, @Initial SessionSystem.sampleHash samplePatched ∧
      samplePatched.session.machine.state.kind = .stopped ∧
      Run (@Step SessionSystem.sampleHash) samplePatched es s ∧
      ∃ e ∈ es, ∃ request envelope allocation,
        e.input = .patch request envelope allocation .success ∧
        e.output = .patch (.ok .frozen) ∧ s.history.isInspectionOnly = true := by
  have run := (Run.start.next (@step_of_isSome SessionSystem.sampleHash _ _ _ _ _
    (sampleTransact_isSome .noEffect))).next
      (@step_of_isSome SessionSystem.sampleHash (samplePatchedAfter .noEffect) _ _ _ _
        sampleTransact_retry_isSome)
  refine ⟨_, _, initial_samplePatched, by decide, run, _, List.mem_append_right _
    List.mem_cons_self, _, _, _, rfl, ?_, by decide⟩
  exact congrArg PatchedAnswer.patch rfl

end PatchedSession

end ReSymbol.Debugger
