import ReSymbol.DebugHost.DebugPort
import ReSymbol.Schemes.Triples

/-! What a debug-host worker does with the events of its target.

    Over a watched backend every call of the worker is a step of the debug port, and between two
    calls the worker holds what the port has pending. So the rules of the port are kept whatever
    the backend answers:

        worker   detached ──attach──▶ draining ─────▶ stopped ──▶ cleanup required ──▶ detached
        port     nothing pending      pending ▷ over  accepted    pending or tried     nothing -/

namespace ReSymbol.DebugHost
open Schemes Schemes.Reducer Debugger

/-! ### The worker beside the port -/

/-- An attached worker holds the pending event of the port and the way to continue it, and an
    accepted event is the stop it reported. -/
structure Holds (p : Port) (a : AttachedState) : Prop where
  bound : p.bound = some a.binding
  due : p.due = none
  pending : a.pending = p.pending.map .withoutFile
  disposition : a.pendingDisposition = p.pending.map (dispositionOf p.accepted)
  accepted : p.accepted = true → ∃ event stop, p.pending = some event ∧ a.stop = some stop ∧
    InitialStop a.binding p.events event stop

/-- The worker and the port agree between two calls of the worker. -/
inductive AgreesWith (p : Port) : WorkerState → Prop
  | detached (due : p.due = none) (pending : p.pending = none) : AgreesWith p .detached
  | attached {a : AttachedState} (holds : Holds p a)
      (stopped : a.phase = .stopped → p.accepted = true) : AgreesWith p (.attached a)

def Inv {σ : Type} (reads : σ → Port → Prop) (w : DebugHostWorker σ) : Prop :=
  ∃ p, reads w.backend p ∧ AgreesWith p w.state

/-- Worker and port agree, and a pending event was tried to be continued in this call. -/
def Tried {σ : Type} (reads : σ → Port → Prop) (w : DebugHostWorker σ) : Prop :=
  ∃ p, reads w.backend p ∧ AgreesWith p w.state ∧ (p.pending = none ∨ p.tried = true)

theorem Tried.inv {σ : Type} {reads : σ → Port → Prop} {w : DebugHostWorker σ}
    (h : Tried reads w) : Inv reads w := by
  obtain ⟨p, hs, hagrees, -⟩ := h
  exact ⟨p, hs, hagrees⟩

/-- A call may fail, but not panic, and not without a try to continue a pending event. -/
def GivenUp {σ ε : Type} (reads : σ → Port → Prop) (fault : Fault ε) (w : DebugHostWorker σ) :
    Prop :=
  (∃ error, fault = .error error) ∧ Tried reads w

/-- A call may fail, but not panic, and leaves worker and port in agreement. -/
def Failed {σ ε : Type} (reads : σ → Port → Prop) (fault : Fault ε)
    (w : DebugHostWorker σ) : Prop :=
  (∃ error, fault = .error error) ∧ Inv reads w

namespace Holds

variable {p : Port} {a : AttachedState}

/-- A worker without a pending event, whatever else it remembers. -/
theorem of_none (hbound : p.bound = some a.binding) (hdue : p.due = none)
    (hpending : p.pending = none)
    (haccepted : p.accepted = false) (hnone : a.pending = none)
    (hdisposition : a.pendingDisposition = none) : Holds p a where
  bound := hbound
  due := hdue
  pending := by rw [hnone, hpending]; rfl
  disposition := by rw [hdisposition, hpending]; rfl
  accepted h := by rw [haccepted] at h; cases h

/-- The port forgets an event that is over; so does the worker. -/
theorem release (h : Holds p a) :
    Holds p.release { a with pending := none, pendingDisposition := none } :=
  of_none h.bound h.due rfl rfl rfl rfl

theorem tried (h : Holds p a) (tried : Bool) : Holds { p with tried } a :=
  ⟨h.bound, h.due, h.pending, h.disposition, h.accepted⟩

/-- Phase and thread-exit setting do not matter to the port. -/
theorem congr {a' : AttachedState} (h : Holds p a) (hpending : a'.pending = a.pending)
    (hdisposition : a'.pendingDisposition = a.pendingDisposition) (hstop : a'.stop = a.stop)
    (hbinding : a'.binding = a.binding) : Holds p a' where
  bound := by rw [hbinding]; exact h.bound
  due := h.due
  pending := by rw [hpending]; exact h.pending
  disposition := by rw [hdisposition]; exact h.disposition
  accepted haccepted := by rw [hstop, hbinding]; exact h.accepted haccepted

end Holds

/-! ### One call after the other -/

namespace DebugHostWorker

variable {σ ε α : Type} {reads : σ → Port → Prop} {backend : DebugBackend σ} {s : σ} {p : Port}
  {a : AttachedState} {state : WorkerState}

/-- A watched call that is admitted is one step of the port. -/
theorem wp_provider {call : σ → α × σ} {entry : α → LogEntry}
    {Q : α → DebugHostWorker σ → Prop} {E : ε → DebugHostWorker σ → Prop}
    (watches : Watches reads call entry) (hs : reads s p)
    (hadmits : ∀ answer, p.Admits (entry answer))
    (h : ∀ answer s, reads s (p.after (entry answer)) → Q answer ⟨s, state⟩) :
    wp (provider call) Q E ⟨s, state⟩ :=
  h (call s).1 _ (watches s p hs (hadmits _))

theorem wp_attached {β : Type} {b : β} {Q : AttachedState → DebugHostWorker β → Prop}
    {E : Fault ε → DebugHostWorker β → Prop} :
    wp attached Q E ⟨b, .attached a⟩ ↔ Q a ⟨b, .attached a⟩ := Iff.rfl

theorem wp_setState {β : Type} {b : β} {next : WorkerState}
    {Q : Unit → DebugHostWorker β → Prop} {E : ε → DebugHostWorker β → Prop} :
    wp (setState next) Q E ⟨b, state⟩ ↔ Q () ⟨b, next⟩ := Iff.rfl

theorem wp_attachedMut {β : Type} {b : β} {f : AttachedState → AttachedState}
    {Q : Unit → DebugHostWorker β → Prop} {E : Fault ε → DebugHostWorker β → Prop} :
    wp (attachedMut f) Q E ⟨b, .attached a⟩ ↔ Q () ⟨b, .attached (f a)⟩ := Iff.rfl

/-- The pending event is continued under its own ids, and is over only when that succeeds. -/
theorem wp_continuePending (watched : Watched backend reads) {event : DebugEventRecord}
    {Q : Except BackendFailure Unit → DebugHostWorker σ → Prop}
    {E : Fault ε → DebugHostWorker σ → Prop} (hs : reads s p) (h : Holds p a)
    (hpending : p.pending = some event)
    (hok : ∀ s, reads s p.release →
      Q (.ok ()) ⟨s, .attached { a with pending := none, pendingDisposition := none }⟩)
    (herror : ∀ failure s, reads s { p with tried := true } →
      Q (.error failure) ⟨s, .attached a⟩) :
    wp (continuePending backend) Q E ⟨s, .attached a⟩ := by
  have ha : a.pending = some event.withoutFile := by rw [h.pending, hpending]; rfl
  have hd : a.pendingDisposition = some (dispositionOf p.accepted event) := by
    rw [h.disposition, hpending]; rfl
  have hadmits : ∀ ok, p.Admits (.continueEvent event.processId event.threadId
      (dispositionOf p.accepted event) ok) :=
    fun ok => Port.admits_of_free h.due ⟨event, hpending, rfl, rfl, rfl⟩
  simp only [continuePending, wp_bind]
  rw [wp_attached, ha, hd]
  simp only [wp_expect_some]
  refine wp_provider (watched.continueDebugEvent _ _ _) hs
    (fun _ => hadmits _) fun answer s hs => ?_
  cases answer with
  | ok u => exact hok s hs
  | error failure => exact herror failure s hs

/-! ### Cleanup -/

theorem wp_disableForCleanup (watched : Watched backend reads)
    {Q : CleanupStepOutcome → DebugHostWorker σ → Prop}
    {E : Fault ε → DebugHostWorker σ → Prop} (hs : reads s p) (h : Holds p a)
    (hQ : ∀ outcome detachOnThreadExit s, reads s p →
      Q outcome ⟨s, .attached { a with detachOnThreadExit }⟩) :
    wp (disableForCleanup backend a) Q E ⟨s, .attached a⟩ := by
  unfold disableForCleanup
  split
  · exact hQ .notRequired a.detachOnThreadExit s hs
  · simp only [wp_bind]
    have hsame : ∀ ok, p.after (.disableKillOnExit ok) = p := fun _ => by rw [Port.after, ← h.due]
    refine wp_provider watched.disableKillOnExit hs (fun _ => Port.admits_of_free h.due trivial)
      fun answer s hs => ?_
    rw [hsame] at hs
    cases answer with
    | ok u => exact hQ .succeeded true s hs
    | error failure => exact hQ _ a.detachOnThreadExit s hs

/-- After this step of a cleanup a detach is admitted. -/
theorem wp_continueForCleanup (watched : Watched backend reads)
    {Q : CleanupStepOutcome → DebugHostWorker σ → Prop}
    {E : Fault ε → DebugHostWorker σ → Prop} (hs : reads s p) (h : Holds p a)
    (hQ : ∀ outcome p' a' s, reads s p' → Holds p' a' → a'.binding = a.binding →
      (p'.pending = none ∨ p'.tried = true) → Q outcome ⟨s, .attached a'⟩) :
    wp (continueForCleanup backend) Q E ⟨s, .attached a⟩ := by
  simp only [continueForCleanup, wp_bind]
  rw [wp_attached]
  rcases hpending : p.pending with _ | event
  · have hnone : a.pending = none := by rw [h.pending, hpending]; rfl
    rw [hnone]
    exact hQ .notRequired p a s hs h rfl (.inl hpending)
  · have hsome : a.pending = some event.withoutFile := by rw [h.pending, hpending]; rfl
    rw [hsome]
    simp only [Option.isSome_some, if_true, wp_bind]
    refine wp_continuePending watched hs h hpending (fun s hs => ?_)
      fun failure s hs => ?_
    · exact hQ .succeeded _ _ s hs h.release rfl (.inl rfl)
    · exact hQ _ _ _ s hs (h.tried true) rfl (.inr rfl)

theorem wp_detachForCleanup (watched : Watched backend reads) {processId : ProcessId}
    {Q : CleanupStepOutcome → DebugHostWorker σ → Prop}
    {E : Fault ε → DebugHostWorker σ → Prop} (hs : reads s p) (h : Holds p a)
    (hprocess : a.binding.process.processId = processId)
    (htried : p.pending = none ∨ p.tried = true) (hQ : ∀ outcome w, Tried reads w → Q outcome w) :
    wp (detachForCleanup backend processId) Q E ⟨s, .attached a⟩ := by
  have hadmits : ∀ ok, p.Admits (.detach processId ok) := by
    refine fun ok => Port.admits_of_free h.due ⟨?_, htried⟩
    rw [h.bound, Option.map_some, hprocess]
  simp only [detachForCleanup, wp_bind]
  refine wp_provider (watched.detach _) hs (fun _ => hadmits _) fun answer s hs => ?_
  cases answer with
  | ok u =>
    simp only [wp_bind]
    refine wp_provider watched.clearPreflight hs
      (fun _ => Port.admits_of_free h.due trivial) fun _ s hs => ?_
    exact hQ _ _ ⟨p.release, hs, .detached h.due rfl, .inl rfl⟩
  | error failure =>
    refine hQ _ _ ⟨p, hs, .attached (h.congr rfl rfl rfl rfl) ?_, htried⟩
    intro hphase
    cases hphase

/-- A cleanup never panics, and an event that is pending after it was tried to be continued. -/
theorem wp_attemptCleanup (watched : Watched backend reads)
    {Q : DebugHostCleanupEvidence → DebugHostWorker σ → Prop}
    {E : Fault ε → DebugHostWorker σ → Prop} (hs : reads s p) (h : Holds p a)
    (hQ : ∀ evidence w, Tried reads w → Q evidence w) :
    wp (attemptCleanup backend) Q E ⟨s, .attached a⟩ := by
  simp only [attemptCleanup, wp_bind]
  rw [wp_attached]
  refine wp_disableForCleanup watched hs h fun _ _ s hs => ?_
  refine wp_continueForCleanup watched hs (h.congr rfl rfl rfl rfl)
    fun _ p' a' s hs h' hbinding htried => ?_
  refine wp_detachForCleanup watched hs h' ?_ htried fun _ w hw => hQ _ w hw
  rw [hbinding]

theorem wp_abortAttached (watched : Watched backend reads) {cause : DebugHostError}
    {Q : α → DebugHostWorker σ → Prop}
    (hs : reads s p) (h : Holds p a) :
    wp (abortAttached backend cause) Q (GivenUp reads) ⟨s, .attached a⟩ := by
  simp only [abortAttached, wp_bind, wp_raise]
  exact wp_attemptCleanup watched hs h fun _ w hw => ⟨⟨_, rfl⟩, hw⟩

/-! ### The drain -/

/-- The events so far begin with the one creation of the bound process. -/
def Created (binding : LiveTargetBinding) (events : List DebugEventRecord) : Prop :=
  ∃ first rest file, events = first :: rest ∧
    first.processId.toNat = binding.process.processId.val ∧
    first.kind = .createProcess binding.actualImageBase.val file ∧
    ∀ e ∈ rest, e.kind.isCreateProcess = false

/-- What a round of the drain knows about the events before it. -/
def Drained (binding : LiveTargetBinding) (events : List DebugEventRecord) (eventIndex : ℕ)
    (sawCreateProcess : Bool) : Prop :=
  (sawCreateProcess = false ∧ eventIndex = 0 ∧ events = []) ∨
    (sawCreateProcess = true ∧ Created binding events)

/-- What the classification of an event makes of the events up to it. -/
def Classified (binding : LiveTargetBinding) (events : List DebugEventRecord)
    (event : DebugEventRecord) (sawCreateProcess : Bool) : InitialDrainAction → Prop
  | .proceed sawCreate =>
    (sawCreateProcess || sawCreate) = true ∧ Created binding (events ++ [event])
  | .stop stop => InitialStop binding (events ++ [event]) event stop
  | .exit _ => True

/-- A classification is justified by the events up to it, and is no panic. -/
def Justified (binding : LiveTargetBinding) (events : List DebugEventRecord)
    (event : DebugEventRecord) (sawCreateProcess : Bool) :
    Except (Fault DebugHostError) InitialDrainAction → Prop
  | .ok action => Classified binding events event sawCreateProcess action
  | .error (.error _) => True
  | .error (.panic _) => False

theorem Created.snoc {binding : LiveTargetBinding} {events : List DebugEventRecord}
    {event : DebugEventRecord} (h : Created binding events)
    (hevent : event.kind.isCreateProcess = false) : Created binding (events ++ [event]) := by
  obtain ⟨first, rest, file, rfl, hprocess, hkind, hrest⟩ := h
  refine ⟨first, rest ++ [event], file, rfl, hprocess, hkind, fun e he => ?_⟩
  rcases List.mem_append.mp he with he | he
  · exact hrest e he
  · rw [List.mem_singleton.mp he]
    exact hevent

@[simp] theorem isCreateProcess_withoutFile (kind : DebugEventKind) :
    kind.withoutFile.isCreateProcess = kind.isCreateProcess := by
  cases kind <;> rfl

/-- The retained event is classified without a panic, and every accepted answer is justified by the
    events since the attach. -/
theorem classifyPendingInitialEvent_justified {expected : LiveTargetBinding} {eventIndex : ℕ}
    {sawCreateProcess : Bool} {events : List DebugEventRecord} {event : DebugEventRecord}
    (hpending : a.pending = some event.withoutFile)
    (h : Drained expected events eventIndex sawCreateProcess) :
    Justified expected events event sawCreateProcess
      (classifyPendingInitialEvent a expected eventIndex sawCreateProcess) := by
  obtain ⟨pid, tid, kind⟩ := event
  simp only [classifyPendingInitialEvent, hpending, DebugEventRecord.withoutFile,
    isCreateProcess_withoutFile]
  by_cases hprocess : pid.toNat ≠ expected.process.processId.val
  · rw [if_pos hprocess]
    trivial
  rw [if_neg hprocess]
  rw [not_not] at hprocess
  by_cases hthread : tid.toNat = 0
  · rw [dif_pos hthread]
    trivial
  rw [dif_neg hthread]
  split
  · trivial
  cases kind with
  | createProcess base file =>
    simp only [DebugEventKind.withoutFile]
    rcases h with ⟨rfl, rfl, rfl⟩ | ⟨rfl, -⟩
    · simp only [Bool.false_eq_true, if_false]
      split
      · trivial
      · rename_i hbase
        rw [not_not] at hbase
        subst hbase
        exact ⟨rfl, _, [], file, rfl, hprocess, rfl, by simp⟩
    · trivial
  | exception code firstChance address =>
    simp only [DebugEventKind.withoutFile]
    rcases h with ⟨rfl, rfl, rfl⟩ | ⟨rfl, hcreated⟩
    · trivial
    · simp only [Bool.not_true, Bool.false_eq_true, if_false]
      split
      · trivial
      · rename_i hcode
        simp only [Bool.or_eq_true, decide_eq_true_eq, Bool.not_eq_true', not_or, not_not,
          Bool.not_eq_false] at hcode
        obtain ⟨rfl, rfl⟩ := hcode
        obtain ⟨first, rest, file, rfl, hrest⟩ := hcreated
        exact ⟨⟨first, rest, file, rfl, hrest⟩, hprocess, rfl, rfl, rfl⟩
  | exitProcess exitCode => trivial
  | rip | unknown code => trivial
  | createThread | exitThread | loadDll file | unloadDll | outputDebugString =>
    simp only [DebugEventKind.withoutFile]
    rcases h with ⟨rfl, rfl, rfl⟩ | ⟨rfl, hcreated⟩
    · trivial
    · exact ⟨rfl, hcreated.snoc rfl⟩

/-- The worker after it retained an event and closed its file. -/
def retaining (a : AttachedState) (event : DebugEventRecord) : AttachedState :=
  { a with
    pending := some event.withoutFile
    pendingDisposition := some (initialDisposition event.kind) }

theorem holds_retaining (hbound : p.bound = some a.binding) (event : DebugEventRecord) :
    Holds (p.holding event) (retaining a event) where
  bound := hbound
  due := rfl
  pending := rfl
  disposition := rfl
  accepted h := by cases h

/-- A received event is retained, and its file is closed right away. -/
theorem wp_retain (watched : Watched backend reads) {event : DebugEventRecord}
    {Q : Unit → DebugHostWorker σ → Prop}
    {E : Fault ε → DebugHostWorker σ → Prop} (hs : reads s (p.receive event))
    (hpending : a.pending = none) (hdisposition : a.pendingDisposition = none)
    (hQ : ∀ s, reads s (p.holding event) →
      Q () ⟨s, .attached (retaining a event)⟩) :
    wp (setPending event) (fun _ => wp (closePendingDebugFile backend) Q E) E
      ⟨s, .attached a⟩ := by
  simp only [setPending, closePendingDebugFile, wp_bind]
  rw [wp_attached, hpending, hdisposition]
  simp only [ne_eq, not_true_eq_false, wp_refuse, if_false]
  rw [wp_setState, wp_attached, wp_setState]
  simp only [Option.map_some, Option.bind_some]
  rcases hfile : event.kind.debugFile with _ | file
  · refine hQ s ?_
    have hsame : p.holding event = p.receive event := by
      simp [Port.holding, Port.receive, hfile]
    rw [hsame]
    exact hs
  · refine wp_provider (watched.closeDebugFile _) hs (fun _ => ?_) fun _ s hs => hQ s hs
    simp [Port.Admits, Port.receive, hfile]

/-- Between two rounds of the drain nothing is pending. -/
structure Round (p : Port) (a : AttachedState) (expected : LiveTargetBinding) (eventIndex : ℕ)
    (sawCreateProcess : Bool) : Prop where
  bound : p.bound = some a.binding
  due : p.due = none
  released : p.pending = none
  unaccepted : p.accepted = false
  pending : a.pending = none
  disposition : a.pendingDisposition = none
  binding : a.binding = expected
  draining : a.phase = .draining
  drained : Drained expected p.events eventIndex sawCreateProcess

theorem Round.holds {expected : LiveTargetBinding} {eventIndex : ℕ} {sawCreateProcess : Bool}
    (h : Round p a expected eventIndex sawCreateProcess) : Holds p a :=
  .of_none h.bound h.due h.released h.unaccepted h.pending h.disposition

variable {expected : LiveTargetBinding} {timeout deadline eventIndex : ℕ} {sawCreateProcess : Bool}

/-- One event of the drain: it is retained and classified, or the attach is given up. -/
theorem wp_awaitInitialEvent (watched : Watched backend reads)
    {Q : InitialDrainAction → DebugHostWorker σ → Prop}
    (hs : reads s p) (h : Round p a expected eventIndex sawCreateProcess)
    (hQ : ∀ event action s, reads s (p.holding event) →
      Classified expected p.events event sawCreateProcess action →
      Q action ⟨s, .attached (retaining a event)⟩) :
    wp (awaitInitialEvent backend expected timeout deadline eventIndex
      sawCreateProcess) Q (GivenUp reads) ⟨s, .attached a⟩ := by
  simp only [awaitInitialEvent, wp_bind]
  refine wp_provider watched.monotonicNow hs (fun _ =>
    Port.admits_of_free h.due trivial) fun now s hs => ?_
  split
  · exact wp_abortAttached watched hs h.holds
  simp only [wp_bind]
  refine wp_provider (watched.waitForDebugEvent _) hs
    (fun _ => Port.admits_of_free h.due h.released)
    fun answer s hs => ?_
  match answer with
  | .error failure => exact wp_abortAttached watched hs h.holds
  | .ok none => exact wp_abortAttached watched hs h.holds
  | .ok (some event) =>
    simp only [receiveInitialEvent, wp_bind]
    refine wp_retain watched hs h.pending h.disposition fun s hs => ?_
    refine wp_provider watched.monotonicNow hs
      (fun _ => Port.admits_of_free rfl trivial) fun now s hs => ?_
    split
    · exact wp_abortAttached watched hs (holds_retaining h.bound event)
    simp only [wp_bind]
    rw [wp_attached]
    have hjust := classifyPendingInitialEvent_justified (a := retaining a event) rfl h.drained
    cases hclass : classifyPendingInitialEvent (retaining a event) expected eventIndex
        sawCreateProcess with
    | ok action =>
      rw [hclass] at hjust
      exact hQ event action s hs hjust
    | error fault =>
      rw [hclass] at hjust
      cases fault with
      | error cause => exact wp_abortAttached watched hs (holds_retaining h.bound event)
      | panic message => exact hjust.elim

/-- The worker retained the initial breakpoint that it is about to report. -/
def Accepting (reads : σ → Port → Prop) (expected : LiveTargetBinding)
    (stop : PendingStopEvidence) (w : DebugHostWorker σ) : Prop :=
  ∃ p a event, reads w.backend p ∧ w.state = .attached a ∧ a.binding = expected ∧
    p.bound = some a.binding ∧
    p.due = none ∧ p.pending = some event ∧ a.pending = some event.withoutFile ∧
    a.pendingDisposition = some .handled ∧ a.phase = .stopped ∧ a.stop = some stop ∧
    InitialStop a.binding p.events event stop

/-- Once the port counts the retained breakpoint as accepted, it agrees with the worker. -/
theorem Accepting.agrees {expected : LiveTargetBinding} {stop : PendingStopEvidence}
    {w : DebugHostWorker σ} (h : Accepting reads expected stop w) :
    ∃ p binding event, reads w.backend p ∧ p.bound = some binding ∧ p.due = none ∧
      p.pending = some event ∧ InitialStop binding p.events event stop ∧
      AgreesWith { p with accepted := true } w.state := by
  obtain ⟨p, a, event, hreads, hstate, -, hbound, hdue, hpending, ha, hdisposition, -, hstop,
    hinitial⟩ := h
  refine ⟨p, a.binding, event, hreads, hbound, hdue, hpending, hinitial, ?_⟩
  rw [hstate]
  refine .attached ⟨hbound, hdue, ?_, ?_, ?_⟩ fun _ => rfl
  · rw [ha, hpending]
    rfl
  · rw [hdisposition, hpending]
    rfl
  · exact fun _ => ⟨event, stop, hpending, hstop, hinitial⟩

/-- CORRECT (drain): by induction on the rounds left. -/
theorem wp_drainInitialEvents (watched : Watched backend reads) (rounds : ℕ) (hs : reads s p)
    (h : Round p a expected eventIndex sawCreateProcess) :
    wp (drainInitialEvents backend expected timeout deadline rounds eventIndex
      sawCreateProcess) (Accepting reads expected) (GivenUp reads) ⟨s, .attached a⟩ := by
  induction rounds generalizing s p a eventIndex sawCreateProcess with
  | zero => exact wp_abortAttached watched hs h.holds
  | succ rounds ih =>
    simp only [drainInitialEvents, wp_bind]
    refine wp_awaitInitialEvent watched hs h fun event action s hs hclass => ?_
    have hholds : Holds (p.holding event) (retaining a event) := holds_retaining h.bound event
    cases action with
    | proceed sawCreate =>
      simp only [wp_bind]
      refine wp_continuePending watched hs hholds rfl (fun s hs => ?_)
        fun failure s hs => wp_abortAttached watched hs (hholds.tried true)
      exact ih hs ⟨h.bound, rfl, rfl, rfl, rfl, rfl, h.binding, h.draining, .inr hclass⟩
    | stop stop =>
      simp only [wp_bind]
      rw [wp_attachedMut, wp_attached]
      simp only [retaining]
      refine ⟨_, _, event, hs, rfl, h.binding, h.bound, rfl, rfl, rfl, rfl, rfl, rfl, ?_⟩
      rw [h.binding]
      exact hclass
    | exit exitCode =>
      simp only [wp_bind]
      refine wp_continuePending watched hs hholds rfl (fun s hs => ?_)
        fun failure s hs => wp_abortAttached watched hs (hholds.tried true)
      simp only [wp_bind]
      refine wp_provider watched.clearPreflight hs
        (fun _ => Port.admits_of_free rfl trivial) fun _ s hs => ?_
      exact ⟨⟨_, rfl⟩, _, hs, .detached rfl rfl, .inl rfl⟩

/-! ### Attach, read, write, detach -/

/-- An answer without an event of its own: the worker and the port agree again. -/
abbrev Answered (reads : σ → Port → Prop) (_ : α) (w : DebugHostWorker σ) : Prop := Inv reads w

theorem wp_failPreflight (watched : Watched backend reads) {cause : DebugHostError}
    {Q : α → DebugHostWorker σ → Prop}
    (hs : reads s p) (hdue : p.due = none) (hpending : p.pending = none) :
    wp (failPreflight backend cause) Q (GivenUp reads) ⟨s, .detached⟩ := by
  simp only [failPreflight, wp_bind]
  refine wp_provider watched.clearPreflight hs
    (fun _ => Port.admits_of_free hdue trivial) fun _ s hs => ?_
  exact ⟨⟨_, rfl⟩, p, hs, .detached hdue hpending, .inl hpending⟩

/-- An attach to a target while another one is attached is refused. -/
theorem attachAfterAuthorization_busy (expected : LiveTargetBinding) (limits : DebugAttachLimits)
    {w : DebugHostWorker σ} (h : w.workerState ≠ .detached) :
    attachAfterAuthorization backend expected limits w =
      (.error (.error (.attachWhileBusy w.workerState)), w) := by
  simp [attachAfterAuthorization, h]

theorem wp_attachAfterAuthorization (watched : Watched backend reads) (expected : LiveTargetBinding)
    (limits : DebugAttachLimits) (hs : reads s p) (hdue : p.due = none)
    (hpending : p.pending = none) :
    wp (attachAfterAuthorization backend expected limits) (Accepting reads expected)
      (GivenUp reads) ⟨s, .detached⟩ := by
  simp only [attachAfterAuthorization, wp_bind, wp_look, wp_refuse]
  rw [if_neg (by simp [workerState])]
  refine wp_provider (watched.preflight _) hs (fun _ => Port.admits_of_free hdue trivial)
    fun observed s hs => ?_
  cases observed with
  | error failure => exact wp_failPreflight watched hs hdue hpending
  | ok observed =>
    dsimp only
    split
    · exact wp_failPreflight watched hs hdue hpending
    rename_i hobserved
    rw [not_not] at hobserved
    subst hobserved
    simp only [wp_bind]
    refine wp_provider (watched.attach _) hs (fun _ => Port.admits_of_free hdue ⟨hpending, rfl⟩)
      fun answer s hs => ?_
    cases answer with
    | error failure => exact wp_failPreflight watched hs hdue hpending
    | ok u =>
      simp only [wp_bind]
      rw [wp_setState]
      simp only [drainAttached, wp_bind]
      refine wp_provider watched.disableKillOnExit hs (fun _ => ⟨_, rfl⟩) fun answer s hs => ?_
      cases answer with
      | error failure => exact wp_abortAttached watched hs (.of_none rfl rfl rfl rfl rfl rfl)
      | ok u =>
        simp only [wp_bind]
        rw [wp_attachedMut]
        refine wp_provider watched.monotonicNow hs (fun _ => Port.admits_of_free rfl trivial)
          fun now s hs => ?_
        exact wp_drainInitialEvents watched maxInitialDrainEvents hs
          ⟨rfl, rfl, rfl, rfl, rfl, rfl, rfl, rfl, .inl ⟨rfl, rfl, rfl⟩⟩

/-- The port knows the state in which the call is made. -/
def Begun (reads : σ → Port → Prop) (w : DebugHostWorker σ) : Prop :=
  ∃ p, reads w.backend p ∧ AgreesWith p w.state ∧ p.caller = w.workerState

/-- A read reaches the backend only of a stopped worker, at the accepted stop and inside the
    image. -/
theorem wp_readStoppedMainImage (watched : Watched backend reads) (address : MemoryAddress)
    (size : ℕ)
    {w : DebugHostWorker σ} (h : Begun reads w) :
    wp (readStoppedMainImage backend address size) (Answered reads) (Failed reads) w := by
  obtain ⟨s, state⟩ := w
  obtain ⟨p, hs, hagrees, hcaller⟩ := h
  simp only [readStoppedMainImage, wp_bind, wp_look]
  cases hagrees with
  | detached hdue hpending => exact ⟨⟨_, rfl⟩, p, hs, .detached hdue hpending⟩
  | @attached a holds stopped =>
    dsimp only
    split
    · rename_i hphase
      have haccepted : p.accepted = true := stopped hphase.1
      have hcalled : p.caller = .stopped := by
        simp [hcaller, workerState, AttachedPhase.workerState, hphase.1]
      simp only [wp_bind, wp_check]
      cases hrva : a.binding.rvaForAddressSpan address (min size u64Max) with
      | error error => exact ⟨⟨_, rfl⟩, p, hs, .attached holds stopped⟩
      | ok rva =>
        obtain ⟨hpos, hinside, hshort⟩ := LiveTargetBinding.rvaForAddressSpan_inside hrva
        have hsize : min size u64Max = size := by omega
        rw [hsize] at hpos hinside
        refine wp_provider (watched.readExactMainImageRva _ _ _) hs
          (fun _ => Port.admits_of_free holds.due ⟨hcalled, haccepted, holds.bound, hpos, hinside⟩)
          fun answer s hs => ?_
        cases answer with
        | ok bytes => exact ⟨p, hs, .attached holds stopped⟩
        | error failure => exact ⟨⟨_, rfl⟩, p, hs, .attached holds stopped⟩
    · exact ⟨⟨_, rfl⟩, p, hs, .attached holds stopped⟩

theorem writeRejection_eq_none {before after : List UInt8}
    (h : writeRejection before after = none) :
    0 < before.length ∧ before.length = after.length := by
  unfold writeRejection at h
  cases before with
  | nil => simp at h
  | cons byte rest =>
    refine ⟨by simp, ?_⟩
    by_contra hne
    simp only [List.isEmpty_cons, Bool.false_eq_true, if_false, ne_eq, hne, not_false_eq_true,
      if_true] at h
    split at h <;> cases h

theorem wp_requireCleanup {cause : DebugHostMemoryWriteError}
    {Q : α → DebugHostWorker σ → Prop} (hs : reads s p) (h : Holds p a) :
    wp (requireCleanup cause) Q (Failed reads) ⟨s, .attached a⟩ := by
  simp only [requireCleanup, wp_bind]
  rw [wp_attachedMut]
  refine ⟨⟨_, rfl⟩, p, hs, .attached (h.congr rfl rfl rfl rfl) ?_⟩
  intro hphase
  cases hphase

/-- Whatever the backend answers to a write, the event stays pending. -/
theorem wp_resolveBackendWrite {binding : LiveTargetBinding} {pendingStop : PendingStopEvidence}
    {write : LocalLiveMemoryWriteAllocation} {rva : ℕ}
    {answer : Except BackendWriteFailure BackendWriteReceipt} (hs : reads s p)
    (h : Holds p a) (hstopped : a.phase = .stopped → p.accepted = true) :
    wp (resolveBackendWrite binding pendingStop write rva answer) (Answered reads) (Failed reads)
      ⟨s, .attached a⟩ := by
  have hinv : Inv reads (⟨s, .attached a⟩ : DebugHostWorker σ) :=
    ⟨p, hs, .attached h hstopped⟩
  match answer with
  | .ok receipt =>
    simp only [resolveBackendWrite]
    split
    · exact hinv
    · exact wp_requireCleanup hs h
  | .error (.safeNoEffect detail) => exact ⟨⟨_, rfl⟩, hinv⟩
  | .error (.memoryWriteFailed failure) =>
    simp only [resolveBackendWrite]
    split
    · exact wp_requireCleanup hs h
    · split
      · exact wp_requireCleanup hs h
      · exact ⟨⟨_, rfl⟩, hinv⟩
  | .error (.invalidEvidence detail) => exact wp_requireCleanup hs h
  | .error (.targetInvalidated detail) => exact wp_requireCleanup hs h

/-- A write reaches the backend only of a stopped worker, at the accepted stop, inside the image,
    and with as many new bytes as old ones. -/
theorem wp_writeStoppedMainImage (watched : Watched backend reads)
    (expectedPendingStop : PendingStopEvidence) (checkpoint : RemoteCommandCheckpoint)
    (ticket : ValidatedLiveMemoryWrite) {w : DebugHostWorker σ} (h : Begun reads w) :
    wp (writeStoppedMainImageAfterProtocolValidation backend expectedPendingStop
      checkpoint ticket) (Answered reads) (Failed reads) w := by
  obtain ⟨s, state⟩ := w
  obtain ⟨p, hs, hagrees, hcaller⟩ := h
  have hinv : Inv reads (⟨s, state⟩ : DebugHostWorker σ) := ⟨p, hs, hagrees⟩
  have hrefused : ∀ error : DebugHostMemoryWriteError, Failed reads (.error error)
      (⟨s, state⟩ : DebugHostWorker σ) := fun error => ⟨⟨_, rfl⟩, hinv⟩
  simp only [writeStoppedMainImageAfterProtocolValidation, wp_bind, wp_look, wp_refuse]
  split
  · exact hrefused _
  cases hagrees with
  | detached hdue hpending => exact hrefused _
  | @attached a holds stopped =>
    simp only [wp_bind, wp_refuse]
    split
    · exact hrefused _
    rename_i hphase
    rw [not_or, not_not] at hphase
    have haccepted : p.accepted = true := stopped hphase.1
    have hcalled : p.caller = .stopped := by
      simp [hcaller, workerState, AttachedPhase.workerState, hphase.1]
    obtain ⟨event, stop, hevent, hstop, -⟩ := holds.accepted haccepted
    rw [hstop]
    simp only [wp_require_some]
    split
    · exact hrefused _
    split
    · exact hrefused _
    cases hrejection : writeRejection ticket.write.value.expected
      ticket.write.value.replacement with
    | some detail => exact hrefused _
    | none =>
      obtain ⟨hpos, hlength⟩ := writeRejection_eq_none hrejection
      simp only [wp_bind, wp_check]
      cases hrva : a.binding.rvaForAddressSpan ticket.write.value.address
          ticket.write.value.expected.length with
      | error error => exact hrefused _
      | ok rva =>
        obtain ⟨-, hinside, -⟩ := LiveTargetBinding.rvaForAddressSpan_inside hrva
        refine wp_provider (watched.writeExactMainImageRva _ _ _ _ _ _) hs
          (fun _ => Port.admits_of_free holds.due
            ⟨hcalled, haccepted, holds.bound, hpos, hlength, hinside⟩)
          fun answer s hs => ?_
        exact wp_resolveBackendWrite hs holds stopped

theorem attached_ne_detached (s : σ) (a : AttachedState) :
    (⟨s, .attached a⟩ : DebugHostWorker σ).workerState ≠ .detached := by
  cases hphase : a.phase <;> simp [workerState, AttachedPhase.workerState, hphase]

theorem wp_detach (watched : Watched backend reads) {w : DebugHostWorker σ} (h : Inv reads w) :
    wp (detach backend) (fun _ => Tried reads) (GivenUp reads) w := by
  obtain ⟨s, state⟩ := w
  obtain ⟨p, hs, hagrees⟩ := h
  simp only [detach, wp_bind, wp_look, wp_refuse]
  cases hagrees with
  | detached hdue hpending => exact ⟨⟨_, rfl⟩, p, hs, .detached hdue hpending, .inl hpending⟩
  | attached holds stopped =>
    rw [if_neg (attached_ne_detached s _)]
    refine wp_attemptCleanup watched hs holds fun evidence w hw => ?_
    split
    · exact ⟨⟨_, rfl⟩, hw⟩
    · exact hw

theorem wp_drop (watched : Watched backend reads) {w : DebugHostWorker σ} (h : Inv reads w) :
    wp (drop backend) (fun _ => Tried reads) (GivenUp reads) w := by
  obtain ⟨s, state⟩ := w
  obtain ⟨p, hs, hagrees⟩ := h
  simp only [drop, wp_bind, wp_look]
  cases hagrees with
  | detached hdue hpending => exact ⟨p, hs, .detached hdue hpending, .inl hpending⟩
  | attached holds stopped =>
    rw [if_neg (attached_ne_detached s _)]
    simp only [wp_bind]
    exact wp_attemptCleanup watched hs holds fun _ _ hw => hw

end DebugHostWorker

end ReSymbol.DebugHost
