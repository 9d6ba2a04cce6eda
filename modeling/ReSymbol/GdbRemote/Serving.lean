import ReSymbol.Schemes.Views
import ReSymbol.GdbRemote.Client

/-! Serving a target.

    Whatever a packet holds, the stub makes at most one call on its target that can change it; the
    rest are questions about stops and threads. So what a call does to a view of the target is what
    the requests that make it do. -/

namespace ReSymbol.GdbRemote
open Schemes

variable {τ γ : Type}

/-- Questions about stops and threads leave a view of the target alone. -/
structure RemoteTarget.Asks (target : RemoteTarget τ) (view : τ → γ) : Prop where
  stopReason : Keeps view target.stopReason
  threadIds : Keeps view target.threadIds
  currentThread : Keeps view target.currentThread
  setCurrentThread : ∀ id, Keeps view (target.setCurrentThread id)
  stoppedThread : Keeps view target.stoppedThread

/-- How the operations of a target act on a view of its state: as `R` has it for the requests that
    begin with a letter and make the call. -/
structure RemoteTarget.Acts (target : RemoteTarget τ) (view : τ → γ) (R : UInt8 → γ → γ → Prop) :
    Prop extends target.Asks view where
  refl : ∀ first v, R first v v
  readRegisters : Moves view (R 0x67) target.readRegisters
  writeRegisters : ∀ raw, Moves view (R 0x47) (target.writeRegisters raw)
  readMemory : ∀ addr len, Moves view (R 0x6d) (target.readMemory addr len)
  writeMemory : ∀ addr data, Moves view (R 0x4d) (target.writeMemory addr data)
  cont : ∀ first, first = 0x63 ∨ first = 0x76 → Moves view (R first) target.cont
  step : ∀ first, first = 0x73 ∨ first = 0x76 → Moves view (R first) target.step
  setSw : ∀ addr kind, Moves view (R 0x5a) (target.setSwBreakpointWithKind addr kind)
  removeSw : ∀ addr kind, Moves view (R 0x7a) (target.removeSwBreakpointWithKind addr kind)
  setHw : ∀ addr, Moves view (R 0x5a) (target.setHwBreakpoint addr)
  removeHw : ∀ addr, Moves view (R 0x7a) (target.removeHwBreakpoint addr)
  setWatch : ∀ addr len kind, Moves view (R 0x5a) (target.setWatchpoint addr len kind)
  removeWatch : ∀ addr len kind, Moves view (R 0x7a) (target.removeWatchpoint addr len kind)

/-! ### Questions -/

section Questions

variable {target : RemoteTarget τ} {limits : ProtocolLimits} {view : τ → γ} (h : target.Asks view)

include h

theorem keeps_stopReplyFor (reply : StopReply) : Keeps view (stopReplyFor target reply) := by
  cases reply with
  | signal number =>
    refine h.stoppedThread.bind fun thread => ?_
    cases thread <;> exact Keeps.pure _
  | exited code => exact Keeps.pure _
  | terminated number => exact Keeps.pure _

theorem keeps_resumeReply (outcome : Except TargetError StopReply) :
    Keeps view (resumeReply target outcome) := by
  cases outcome with
  | ok reply => exact keeps_stopReplyFor h reply
  | error e => exact Keeps.pure _

theorem keeps_handleQuery (rest : Bytes) : Keeps view (handleQuery target limits rest) := by
  unfold handleQuery
  refine Keeps.ite (Keeps.get.bind fun t => Keeps.ite (Keeps.pure _) (Keeps.pure _)) <|
    Keeps.ite (Keeps.get.bind fun t => Keeps.pure _) <| Keeps.ite (Keeps.pure _) <|
    Keeps.ite (h.currentThread.bind fun outcome => ?_) <|
    Keeps.ite (h.threadIds.bind fun outcome => ?_) <| Keeps.ite (Keeps.pure _) (Keeps.pure _)
  · cases outcome <;> exact Keeps.pure _
  · rcases outcome with e | _ | ⟨id, ids⟩ <;> exact Keeps.pure _

theorem keeps_handleSetThread (rest : Bytes) : Keeps view (handleSetThread target rest) := by
  unfold handleSetThread
  split
  · exact Keeps.pure _
  · split
    · exact Keeps.pure _
    · exact Keeps.ite (Keeps.pure _) ((h.setCurrentThread _).bind fun _ => Keeps.pure _)

theorem keeps_handleIsThreadAlive (rest : Bytes) : Keeps view
    (handleIsThreadAlive target rest) := by
  unfold handleIsThreadAlive
  split
  · exact Keeps.pure _
  · refine h.threadIds.bind fun outcome => ?_
    cases outcome <;> exact Keeps.pure _

end Questions

/-! ### Requests -/

section Requests

variable {target : RemoteTarget τ} {limits : ProtocolLimits} {view : τ → γ}
  {R : UInt8 → γ → γ → Prop} (h : target.Acts view R)

include h

/-- A reply without a call. -/
theorem moves_pure {α : Type} (first : UInt8) (a : α) :
    Moves view (R first) (pure a : StateM τ α) := (Keeps.pure a).moves (h.refl first)

omit h in
theorem moves_reply {α β : Type} {S : γ → γ → Prop} {operation : StateM τ α}
    (hmoves : Moves view S operation) (reply : α → β) :
    Moves view S (do pure (reply (← operation))) := hmoves.bind fun _ => Keeps.pure _

theorem moves_handleReadRegisters :
    Moves view (R 0x67) (handleReadRegisters target limits) := by
  refine h.readRegisters.bind fun outcome => ?_
  cases outcome with
  | ok bytes => exact Keeps.get.bind fun t => Keeps.ite (Keeps.pure _) (Keeps.pure _)
  | error e => exact Keeps.pure _

theorem moves_handleWriteRegisters (rest : Bytes) :
    Moves view (R 0x47) (handleWriteRegisters target limits rest) := by
  unfold handleWriteRegisters
  split
  · exact Keeps.get.bind_moves fun t =>
      .ite (moves_reply (h.writeRegisters _) _) (moves_pure h _ _)
  · exact moves_pure h _ _

theorem moves_handleReadMemory (rest : Bytes) :
    Moves view (R 0x6d) (handleReadMemory target limits rest) := by
  unfold handleReadMemory
  split
  · exact moves_pure h _ _
  · exact .ite (moves_pure h _ _) (moves_reply (h.readMemory _ _) _)

theorem moves_handleWriteMemory (rest : Bytes) :
    Moves view (R 0x4d) (handleWriteMemory target limits rest) := by
  unfold handleWriteMemory
  split
  · exact moves_pure h _ _
  · exact .ite (moves_pure h _ _) (moves_reply (h.writeMemory _ _) _)

theorem moves_handleBreakpoint (rest : Bytes) (set : Bool) :
    Moves view (R (if set then 0x5a else 0x7a)) (handleBreakpoint target rest set) := by
  rcases rest with _ | ⟨bptype, afterType⟩
  · exact moves_pure h _ _
  · unfold handleBreakpoint
    dsimp only
    rcases parseBreakpoint afterType with _ | ⟨addr, third⟩
    · exact moves_pure h _ _
    · cases set
      · exact .ite (moves_reply (h.removeSw _ _) _) <| .ite (moves_reply (h.removeHw _) _) <|
          .ite (moves_reply (h.removeWatch _ _ _) _) (moves_pure h _ _)
      · exact .ite (moves_reply (h.setSw _ _) _) <| .ite (moves_reply (h.setHw _) _) <|
          .ite (moves_reply (h.setWatch _ _ _) _) (moves_pure h _ _)

theorem moves_handleVPacket (rest : Bytes) : Moves view (R 0x76) (handleVPacket target rest) := by
  have hselect : ∀ thread, Keeps view (selectActionThread target thread) := by
    rintro (_ | tid)
    · exact Keeps.pure _
    · exact (h.setCurrentThread tid).bind fun _ => Keeps.pure _
  refine .ite (moves_pure h _ _) (.ite ((hselect _).bind_moves fun _ => ?_) (moves_pure h _ _))
  split
  · exact moves_pure h _ _
  · exact .ite ((h.cont _ (.inr rfl)).bind (keeps_resumeReply h.toAsks)) <|
      .ite ((h.step _ (.inr rfl)).bind (keeps_resumeReply h.toAsks)) (moves_pure h _ _)

/-- Every request moves the view as the call that it may make does. -/
theorem moves_dispatch (first : UInt8) (rest : Bytes) :
    Moves view (R first) (dispatch target limits (first :: rest)) := by
  have hquestion : ∀ {request : StateM τ Bytes}, Keeps view request →
      Moves view (R first) (replying request) :=
    fun hkeeps => moves_reply (hkeeps.moves (h.refl _)) _
  unfold dispatch
  -- one case for each letter, in the order of the source
  repeat' refine Moves.ite_of ?_ fun _ => ?_
  all_goals try rintro rfl
  · exact hquestion (h.stopReason.bind (keeps_stopReplyFor h.toAsks))
  · exact moves_reply (moves_handleReadRegisters h) _
  · exact moves_reply (moves_handleWriteRegisters h rest) _
  · exact moves_reply (moves_handleReadMemory h rest) _
  · exact moves_reply (moves_handleWriteMemory h rest) _
  · exact moves_reply ((h.cont _ (.inl rfl)).bind (keeps_resumeReply h.toAsks)) _
  · exact moves_reply ((h.step _ (.inl rfl)).bind (keeps_resumeReply h.toAsks)) _
  · exact moves_reply (moves_handleBreakpoint h rest true) _
  · exact moves_reply (moves_handleBreakpoint h rest false) _
  · exact hquestion (keeps_handleQuery h.toAsks rest)
  · exact hquestion (keeps_handleSetThread h.toAsks rest)
  · exact hquestion (keeps_handleIsThreadAlive h.toAsks rest)
  · exact moves_reply (moves_handleVPacket h rest) _
  · exact moves_pure h _ _
  · exact moves_pure h _ _
  · exact moves_pure h _ _

end Requests

end ReSymbol.GdbRemote
