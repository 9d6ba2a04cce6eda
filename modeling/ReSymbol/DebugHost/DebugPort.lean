import ReSymbol.DebugHost.Worker
import ReSymbol.Schemes.Monitors

/-! The rules of a debug port.

    Every call on a backend and its answer are an entry of a log, and so is every call on the worker
    and every stop that it reports. The rules say which entry may come next:

        call ▷ attach ok ▷ disable ▷ wait e ▷ close file(e) ▷ continue e ▷ … ▷ wait b ▷ accepted
                                                              … ▷ continue b ▷ detach

    An event is pending from the moment it is received until it was continued once or the process
    was let go, and nothing is waited for in between. A backend is watched by a relation between its
    states and the port when every admitted call keeps the relation; a recorded backend is watched
    by its log. -/

namespace ReSymbol.DebugHost
open Schemes Schemes.Reducer Debugger

/-! ### The log -/

/-- A call on the worker in its state, a call on the backend with its answer, or a stop that the
    worker reported. -/
inductive LogEntry where
  | call (state : DebugHostWorkerState)
  | now (time : ℕ)
  | preflight (expected : LiveTargetBinding) (ok : Bool)
  | clearPreflight
  | attach (processId : ProcessId) (ok : Bool)
  | disableKillOnExit (ok : Bool)
  | wait (event : Option DebugEventRecord)
  | closeFile (file : DebugFileToken)
  | continueEvent (processId threadId : UInt32) (disposition : ContinueDisposition) (ok : Bool)
  | read (binding : LiveTargetBinding) (rva size : ℕ)
  | write (binding : LiveTargetBinding) (rva : ℕ) (expected replacement : List UInt8)
  | detach (processId : ProcessId) (ok : Bool)
  | accepted (stop : PendingStopEvidence)

structure Recorded (σ : Type) where
  inner : σ
  log : List LogEntry

def record {σ α : Type} (call : σ → α × σ) (entry : α → LogEntry) : Recorded σ → α × Recorded σ :=
  fun r => ((call r.inner).1, ⟨(call r.inner).2, r.log ++ [entry (call r.inner).1]⟩)

/-- The event of a wait that delivered one. -/
def delivered : Except BackendFailure (Option DebugEventRecord) → Option DebugEventRecord
  | .ok event => event
  | .error _ => none

/-- The same backend, with every call recorded. -/
def recorded {σ : Type} (backend : DebugBackend σ) : DebugBackend (Recorded σ) where
  monotonicNow := record backend.monotonicNow .now
  preflight expected := record (backend.preflight expected) fun r => .preflight expected r.isOk
  clearPreflight := record backend.clearPreflight fun _ => .clearPreflight
  attach processId := record (backend.attach processId) fun r => .attach processId r.isOk
  disableKillOnExit := record backend.disableKillOnExit fun r => .disableKillOnExit r.isOk
  waitForDebugEvent timeout :=
    record (backend.waitForDebugEvent timeout) fun r => .wait (delivered r)
  closeDebugFile file := record (backend.closeDebugFile file) fun _ => .closeFile file
  continueDebugEvent processId threadId disposition :=
    record (backend.continueDebugEvent processId threadId disposition) fun r =>
      .continueEvent processId threadId disposition r.isOk
  readExactMainImageRva expected rva size :=
    record (backend.readExactMainImageRva expected rva size) fun _ => .read expected rva size
  writeExactMainImageRva expected stop address rva expectedBytes replacement :=
    record (backend.writeExactMainImageRva expected stop address rva expectedBytes replacement)
      fun _ => .write expected rva expectedBytes replacement
  detach processId := record (backend.detach processId) fun r => .detach processId r.isOk

/-! ### The rules of the debug port -/

/-- A call that has to come next. -/
inductive Due where
  | disable
  | close (file : DebugFileToken)

/-- What the rules remember: the target of the last preflight, the call that is due, the received
    event that was not continued yet, whether a continue of it failed in the current call, whether
    it was accepted as the initial breakpoint, the events since the attach, and the worker's state
    when the current call was made. -/
structure Port where
  bound : Option LiveTargetBinding
  due : Option Due
  pending : Option DebugEventRecord
  tried : Bool
  accepted : Bool
  events : List DebugEventRecord
  caller : DebugHostWorkerState

/-- A port without a process. -/
def Port.idle (bound : Option LiveTargetBinding) (caller : DebugHostWorkerState) : Port :=
  ⟨bound, none, none, false, false, [], caller⟩

/-- How an event has to be continued. -/
def dispositionOf (accepted : Bool) (event : DebugEventRecord) : ContinueDisposition :=
  if accepted then .handled else DebugHostWorker.initialDisposition event.kind

/-- The port right after an event was delivered. -/
def Port.receive (p : Port) (event : DebugEventRecord) : Port :=
  { p with
    due := event.kind.debugFile.map .close
    pending := some event
    tried := false
    accepted := false
    events := p.events ++ [event] }

/-- The port after an event was received and its file closed. -/
def Port.holding (p : Port) (event : DebugEventRecord) : Port :=
    { p.receive event with due := none }

/-- The event is over. -/
def Port.release (p : Port) : Port := { p with pending := none, tried := false, accepted := false }

/-- The events since the attach end in the initial breakpoint of the bound process, after exactly
    one creation of it at the bound base, and the stop reports that breakpoint. -/
structure InitialStop (binding : LiveTargetBinding) (events : List DebugEventRecord)
    (event : DebugEventRecord) (stop : PendingStopEvidence) : Prop where
  shape : ∃ first rest file, events = first :: rest ++ [event] ∧
    first.processId.toNat = binding.process.processId.val ∧
    first.kind = .createProcess binding.actualImageBase.val file ∧
    ∀ e ∈ rest, e.kind.isCreateProcess = false
  process : event.processId.toNat = binding.process.processId.val
  breakpoint : event.kind = .exception exceptionBreakpointCode true stop.exceptionAddress
  stopProcess : stop.processId = binding.process.processId
  stopThread : stop.threadId.val = event.threadId.toNat

/-- What an entry changes. -/
def Port.after (p : Port) : LogEntry → Port
  | .call state => { p with tried := false, caller := state }
  | .preflight expected _ => { p with bound := some expected }
  | .attach _ true => { Port.idle p.bound p.caller with due := some .disable }
  | .disableKillOnExit _ | .closeFile _ => { p with due := none }
  | .wait (some event) => p.receive event
  | .continueEvent _ _ _ true => p.release
  | .continueEvent _ _ _ false => { p with tried := true }
  | .detach _ true => p.release
  | .accepted _ => { p with accepted := true }
  | .now _ | .clearPreflight | .attach _ false | .wait none | .read _ _ _ | .write _ _ _ _
  | .detach _ false => p

/-- The rules while no call is due. -/
def Port.Free (p : Port) : LogEntry → Prop
  | .call _ | .now _ | .preflight _ _ | .clearPreflight | .disableKillOnExit _ => True
  | .attach processId _ =>
    p.pending = none ∧ p.bound.map (·.process.processId) = some processId
  | .wait _ => p.pending = none
  | .closeFile _ => False
  | .continueEvent processId threadId disposition _ =>
    ∃ event, p.pending = some event ∧ processId = event.processId ∧
      threadId = event.threadId ∧ disposition = dispositionOf p.accepted event
  | .read binding rva size =>
    p.caller = .stopped ∧ p.accepted = true ∧ p.bound = some binding ∧ 0 < size ∧
      rva + size ≤ binding.sizeOfImage.toNat
  | .write binding rva expected replacement =>
    p.caller = .stopped ∧ p.accepted = true ∧ p.bound = some binding ∧ 0 < expected.length ∧
      expected.length = replacement.length ∧
      rva + expected.length ≤ binding.sizeOfImage.toNat
  | .detach processId _ =>
    p.bound.map (·.process.processId) = some processId ∧ (p.pending = none ∨ p.tried = true)
  | .accepted stop => ∃ binding event, p.bound = some binding ∧ p.pending = some event ∧
    InitialStop binding p.events event stop

/-- The rules: a call that is due comes before all others. -/
def Port.Admits (p : Port) (entry : LogEntry) : Prop :=
  match p.due with
  | none => p.Free entry
  | some .disable => ∃ ok, entry = .disableKillOnExit ok
  | some (.close file) => entry = .closeFile file

theorem Port.admits_of_free {p : Port} {entry : LogEntry} (hdue : p.due = none)
    (h : p.Free entry) : p.Admits entry := by
  unfold Port.Admits
  rw [hdue]
  exact h

/-- The port before any call on its worker. -/
def Port.new : Port := .idle none .detached

def portAfter (log : List LogEntry) : Port := log.foldl Port.after .new

/-- The log keeps the rules and leads to this port. -/
structure Reads (log : List LogEntry) (p : Port) : Prop where
  port : portAfter log = p
  obeys : Obeys Port.Admits Port.after .new log

theorem Reads.snoc {log : List LogEntry} {p : Port} {entry : LogEntry} (h : Reads log p)
    (hadmits : p.Admits entry) : Reads (log ++ [entry]) (p.after entry) where
  port := by
    have hport := h.port
    unfold portAfter at hport ⊢
    rw [List.foldl_append, hport]
    rfl
  obeys := h.obeys.snoc (by
    have hport := h.port
    unfold portAfter at hport
    rw [hport]
    exact hadmits)

/-! ### Watched backends -/

/-- A call that the port admits keeps the relation. -/
def Watches {σ α : Type} (reads : σ → Port → Prop) (call : σ → α × σ) (entry : α → LogEntry) :
    Prop :=
  ∀ s p, reads s p → p.Admits (entry (call s).1) → reads (call s).2 (p.after (entry (call s).1))

/-- Every call of the backend is watched, as the entry that `recorded` makes of it. -/
structure Watched {σ : Type} (backend : DebugBackend σ) (reads : σ → Port → Prop) : Prop where
  monotonicNow : Watches reads backend.monotonicNow .now
  preflight : ∀ expected,
    Watches reads (backend.preflight expected) fun r => .preflight expected r.isOk
  clearPreflight : Watches reads backend.clearPreflight fun _ => .clearPreflight
  attach : ∀ processId, Watches reads (backend.attach processId) fun r => .attach processId r.isOk
  disableKillOnExit : Watches reads backend.disableKillOnExit fun r => .disableKillOnExit r.isOk
  waitForDebugEvent : ∀ timeout,
    Watches reads (backend.waitForDebugEvent timeout) fun r => .wait (delivered r)
  closeDebugFile : ∀ file, Watches reads (backend.closeDebugFile file) fun _ => .closeFile file
  continueDebugEvent : ∀ processId threadId disposition,
    Watches reads (backend.continueDebugEvent processId threadId disposition) fun r =>
      .continueEvent processId threadId disposition r.isOk
  readExactMainImageRva : ∀ expected rva size,
    Watches reads (backend.readExactMainImageRva expected rva size) fun _ =>
      .read expected rva size
  writeExactMainImageRva : ∀ expected stop address rva expectedBytes replacement,
    Watches reads
      (backend.writeExactMainImageRva expected stop address rva expectedBytes replacement)
      fun _ => .write expected rva expectedBytes replacement
  detach : ∀ processId, Watches reads (backend.detach processId) fun r => .detach processId r.isOk

/-- A recorded backend is read by its log, which only grows. -/
def ByLog {σ : Type} (start : List LogEntry) (r : Recorded σ) (p : Port) : Prop :=
  start <+: r.log ∧ Reads r.log p

/-- A recorded backend is watched by its log. -/
theorem watched_recorded {σ : Type} (backend : DebugBackend σ) (start : List LogEntry) :
    Watched (recorded backend) (ByLog start) := by
  constructor <;> intros <;> exact fun _ _ hreads hadmits =>
    ⟨hreads.1.trans (List.prefix_append _ _), hreads.2.snoc hadmits⟩

end ReSymbol.DebugHost
