import ReSymbol.DebugHost.EventDiscipline
import ReSymbol.Schemes.Runs

/-! Whole runs of a debug-host worker.

    A run is any sequence of attach, read, write, detach and drop calls on a new worker over any
    backend. What the rules of the debug port say about one entry of the log is read here over the
    whole log: who gets which event, when it is continued, and what a stop is.

        wait e ── … no release … ──▶ continue e ok                   e is over, not continued again
                                  └▶ continue e failed, detach ok    e is over
                                  └▶ end of the log                  e is still pending -/

namespace ReSymbol.DebugHost
open Schemes Schemes.Reducer Debugger

/-! ### Runs -/

inductive WorkerCall where
  | attachAfterAuthorization (expected : LiveTargetBinding) (limits : DebugAttachLimits)
  | readStoppedMainImage (address : MemoryAddress) (size : ℕ)
  | writeStoppedMainImage (expectedPendingStop : PendingStopEvidence)
      (checkpoint : RemoteCommandCheckpoint) (ticket : ValidatedLiveMemoryWrite)
  | detach
  | drop

inductive WorkerAnswer where
  | attached (outcome : Except (Fault DebugHostError) PendingStopEvidence)
  | read (outcome : Except (Fault DebugHostError) (List UInt8))
  | written (outcome : Except (Fault DebugHostMemoryWriteError) DebugHostMemoryWriteReceipt)
  | released (outcome : Except (Fault DebugHostError) Unit)

def WorkerAnswer.NoPanic : WorkerAnswer → Prop
  | attached outcome => Schemes.NoPanic outcome
  | read outcome => Schemes.NoPanic outcome
  | written outcome => Schemes.NoPanic outcome
  | released outcome => Schemes.NoPanic outcome

namespace DebugHostWorker

variable {σ : Type}

/-- One call on a worker. -/
def call (backend : DebugBackend σ) (w : DebugHostWorker σ) :
    WorkerCall → WorkerAnswer × DebugHostWorker σ
  | .attachAfterAuthorization expected limits =>
    (attachAfterAuthorization backend expected limits w).map .attached id
  | .readStoppedMainImage address size => (readStoppedMainImage backend address size w).map .read id
  | .writeStoppedMainImage stop checkpoint ticket =>
    (writeStoppedMainImageAfterProtocolValidation backend stop checkpoint ticket w).map .written id
  | .detach => (detach backend w).map .released id
  | .drop => (drop backend w).map .released id

/-- A reported stop is an entry of the log too. -/
def note (answer : WorkerAnswer) (w : DebugHostWorker (Recorded σ)) :
    DebugHostWorker (Recorded σ) :=
  match answer with
  | .attached (.ok stop) =>
    { w with backend := { w.backend with log := w.backend.log ++ [.accepted stop] } }
  | _ => w

/-- So is a call, with the state in which it is made. -/
def enter (w : DebugHostWorker (Recorded σ)) : DebugHostWorker (Recorded σ) :=
  { w with backend := { w.backend with log := w.backend.log ++ [.call w.workerState] } }

/-- One call on a worker over a recorded backend. -/
def recordedCall (backend : DebugBackend σ) (c : WorkerCall) (w : DebugHostWorker (Recorded σ)) :
    WorkerAnswer × DebugHostWorker (Recorded σ) :=
  let result := call (recorded backend) w.enter c
  (result.1, note result.1 result.2)

/-- The runs of a worker over a backend. -/
abbrev WorkerRun (backend : DebugBackend σ) :=
  Run fun (w : DebugHostWorker (Recorded σ)) c answer w' => recordedCall backend c w = (answer, w')

end DebugHostWorker

/-! ### What the rules say about a log -/

/-- The event that was received and is not over. -/
def pendingAfter (log : List LogEntry) : Option DebugEventRecord := (portAfter log).pending

/-- The pending event was reported as the initial breakpoint. -/
def acceptedAfter (log : List LogEntry) : Bool := (portAfter log).accepted

/-- A continue of the pending event failed since it was received, in the current call. -/
def triedAfter (log : List LogEntry) : Bool := (portAfter log).tried

def eventsSinceAttach (log : List LogEntry) : List DebugEventRecord := (portAfter log).events

/-- The target of the last preflight. -/
def boundAfter (log : List LogEntry) : Option LiveTargetBinding := (portAfter log).bound

/-- The state of the worker when its last call was made. -/
def stateAtCall (log : List LogEntry) : DebugHostWorkerState := (portAfter log).caller

/-- An entry after which no event is pending. -/
def LogEntry.releases : LogEntry → Bool
  | .continueEvent _ _ _ true | .detach _ true => true
  | _ => false

/-- A failed attempt to continue this event. -/
def FailedContinue (event : DebugEventRecord) (entry : LogEntry) : Prop :=
  ∃ disposition, entry = .continueEvent event.processId event.threadId disposition false

/-- How a received event ends: it is continued once, or the process is let go after a continue of it
    was tried, or it is still pending. -/
inductive Ending (event : DebugEventRecord) (later : List LogEntry) : Prop
  | continued (kept rest : List LogEntry) (disposition : ContinueDisposition)
      (split : later = kept ++
        .continueEvent event.processId event.threadId disposition true :: rest)
      (quiet : ∀ entry ∈ kept, entry.releases = false)
  | detached (kept rest : List LogEntry) (processId : ProcessId)
      (split : later = kept ++ .detach processId true :: rest)
      (quiet : ∀ entry ∈ kept, entry.releases = false)
      (tried : ∃ entry ∈ kept, FailedContinue event entry)
  | pending (quiet : ∀ entry ∈ later, entry.releases = false)

/-- The discipline of a debug port, entry by entry. -/
structure Disciplined (log : List LogEntry) : Prop where
  /-- The call directly after a successful attach makes the loss of the worker harmless. -/
  disable_follows_attach : ∀ earlier processId later,
    log = earlier ++ .attach processId true :: later →
    ∃ ok rest, later = .disableKillOnExit ok :: rest
  /-- No event is waited for while another one is pending. -/
  wait_alone : ∀ earlier event later, log = earlier ++ .wait event :: later →
    pendingAfter earlier = none
  /-- Only the pending event is continued, under its own ids; an exception as handled only if it
      was accepted. -/
  continue_own : ∀ earlier processId threadId disposition ok later,
    log = earlier ++ .continueEvent processId threadId disposition ok :: later →
    ∃ event, pendingAfter earlier = some event ∧ processId = event.processId ∧
      threadId = event.threadId ∧
      (disposition = .handled → event.kind.isException = true → acceptedAfter earlier = true)
  /-- Every received event comes to its end. -/
  ending : ∀ earlier event later, log = earlier ++ .wait (some event) :: later →
    Ending event later
  /-- The process is let go only after a continue of its pending event was tried in this call. -/
  detach_tries : ∀ earlier processId ok later, log = earlier ++ .detach processId ok :: later →
    pendingAfter earlier = none ∨ triedAfter earlier = true
  /-- A file delivered with an event is closed by the next call. -/
  file_closed : ∀ earlier event later file, log = earlier ++ .wait (some event) :: later →
    event.kind.debugFile = some file → ∃ rest, later = .closeFile file :: rest
  /-- Nothing else is closed. -/
  closes_delivered : ∀ earlier file later, log = earlier ++ .closeFile file :: later →
    ∃ before event, earlier = before ++ [.wait (some event)] ∧ event.kind.debugFile = some file
  /-- Reads reach the backend only of a stopped worker, at the accepted stop of the bound image. -/
  read_stopped : ∀ earlier binding rva size later,
    log = earlier ++ .read binding rva size :: later →
    stateAtCall earlier = .stopped ∧ acceptedAfter earlier = true ∧
      boundAfter earlier = some binding ∧ 0 < size ∧
      rva + size ≤ binding.sizeOfImage.toNat
  /-- So do writes. -/
  write_stopped : ∀ earlier binding rva expected replacement later,
    log = earlier ++ .write binding rva expected replacement :: later →
    stateAtCall earlier = .stopped ∧ acceptedAfter earlier = true ∧
      boundAfter earlier = some binding ∧ 0 < expected.length ∧
      expected.length = replacement.length ∧
      rva + expected.length ≤ binding.sizeOfImage.toNat
  /-- A reported stop is the initial breakpoint of the bound process. -/
  accepted_initial : ∀ earlier stop later, log = earlier ++ .accepted stop :: later →
    ∃ binding event, boundAfter earlier = some binding ∧ pendingAfter earlier = some event ∧
      InitialStop binding (eventsSinceAttach earlier) event stop

/-- What an entry can be while an event is pending: a continue of the event, the detach after a
    tried one, or an entry that leaves the event alone. -/
theorem admitted_pending {p : Port} {event : DebugEventRecord} {entry : LogEntry}
    (hpending : p.pending = some event) (hadmits : p.Admits entry) :
    (∃ ok disposition, entry = .continueEvent event.processId event.threadId disposition ok) ∨
      (∃ processId ok, entry = .detach processId ok ∧ p.tried = true) ∨
      (entry.releases = false ∧ (p.after entry).pending = some event ∧
        ((p.after entry).tried = true → p.tried = true)) := by
  unfold Port.Admits at hadmits
  rcases hdue : p.due with _ | _ | file <;> rw [hdue] at hadmits
  · cases entry with
    | attach processId ok => exact absurd hadmits.1 (by simp [hpending])
    | wait received => exact absurd hadmits (by simp [Port.Free, hpending])
    | continueEvent processId threadId disposition ok =>
      obtain ⟨own, hown, rfl, rfl, rfl⟩ := hadmits
      cases hpending.symm.trans hown
      exact .inl ⟨ok, _, rfl⟩
    | detach processId ok =>
      exact .inr (.inl ⟨processId, ok, rfl, hadmits.2.resolve_left (by simp [hpending])⟩)
    | call state => exact .inr (.inr ⟨rfl, hpending, nofun⟩)
    | _ => exact .inr (.inr ⟨rfl, hpending, id⟩)
  · obtain ⟨ok, rfl⟩ := hadmits
    exact .inr (.inr ⟨rfl, hpending, id⟩)
  · obtain rfl := hadmits
    exact .inr (.inr ⟨rfl, hpending, id⟩)

/-- An admitted entry that does not release the pending event keeps it. -/
theorem pending_after {p : Port} {event : DebugEventRecord} {entry : LogEntry}
    (hpending : p.pending = some event) (hadmits : p.Admits entry)
    (hquiet : entry.releases = false) : (p.after entry).pending = some event := by
  rcases admitted_pending hpending hadmits with ⟨ok, _, rfl⟩ | ⟨_, ok, rfl, -⟩ | ⟨-, hkept, -⟩
  · cases ok with
    | true => cases hquiet
    | false => exact hpending
  · cases ok with
    | true => cases hquiet
    | false => exact hpending
  · exact hkept

/-- A port that remembers a tried continue has one among the entries it has seen. -/
theorem tried_after {p : Port} {event : DebugEventRecord} {entry : LogEntry}
    {seen : List LogEntry} (hpending : p.pending = some event) (hadmits : p.Admits entry)
    (htried : p.tried = true → ∃ e ∈ seen, FailedContinue event e)
    (h : (p.after entry).tried = true) : ∃ e ∈ seen ++ [entry], FailedContinue event e := by
  have hkept : p.tried = true → ∃ e ∈ seen ++ [entry], FailedContinue event e := by
    intro hp
    obtain ⟨e, he, hfailed⟩ := htried hp
    exact ⟨e, List.mem_append_left _ he, hfailed⟩
  rcases admitted_pending hpending hadmits with ⟨ok, _, rfl⟩ | ⟨_, _, -, htrue⟩ | ⟨-, -, hback⟩
  · cases ok with
    | true => cases h
    | false => exact ⟨_, List.mem_append_right _ (List.mem_singleton.mpr rfl), _, rfl⟩
  · exact hkept htrue
  · exact hkept (hback h)

/-- An entry that ends a pending event ends it as the rules ask. -/
theorem ending_of_releases {p : Port} {event : DebugEventRecord} {entry : LogEntry}
    {seen later : List LogEntry} (hpending : p.pending = some event) (hadmits : p.Admits entry)
    (htried : p.tried = true → ∃ e ∈ seen, FailedContinue event e)
    (hseen : ∀ e ∈ seen, e.releases = false) (h : entry.releases = true) :
    Ending event (seen ++ entry :: later) := by
  rcases admitted_pending hpending hadmits with ⟨ok, _, rfl⟩ | ⟨processId, ok, rfl, htrue⟩ |
    ⟨hquiet, -⟩
  · cases ok with
    | true => exact .continued seen later _ rfl hseen
    | false => cases h
  · cases ok with
    | true => exact .detached seen later processId rfl hseen (htried htrue)
    | false => cases h
  · cases hquiet.symm.trans h

/-- By induction on the rest of the log: the event stays pending until an entry releases it. -/
theorem ending_of_obeys {p : Port} {event : DebugEventRecord} (seen : List LogEntry)
    {later : List LogEntry} (hpending : p.pending = some event)
    (htried : p.tried = true → ∃ e ∈ seen, FailedContinue event e)
    (hseen : ∀ e ∈ seen, e.releases = false) (h : Obeys Port.Admits Port.after p later) :
    Ending event (seen ++ later) := by
  induction later generalizing p seen with
  | nil => exact .pending (by simpa using hseen)
  | cons entry later ih =>
    obtain ⟨hadmits, hrest⟩ := h
    cases hreleases : entry.releases with
    | true => exact ending_of_releases hpending hadmits htried hseen hreleases
    | false =>
      have hnext := ih (seen ++ [entry]) (pending_after hpending hadmits hreleases)
        (tried_after hpending hadmits htried)
        (fun e he => (List.mem_append.mp he).elim (hseen e) fun hlast => by
          rw [List.mem_singleton.mp hlast]
          exact hreleases) hrest
      simpa using hnext

/-- The calls that can be due. -/
def LogEntry.settlesDue : LogEntry → Bool
  | .disableKillOnExit _ | .closeFile _ => true
  | _ => false

/-- Other entries were admitted by the rules for when nothing is due. -/
theorem free_of_obeys {earlier later : List LogEntry} {entry : LogEntry}
    (h : Obeys Port.Admits Port.after .new (earlier ++ entry :: later))
    (hentry : entry.settlesDue = false) :
    (portAfter earlier).due = none ∧ (portAfter earlier).Free entry := by
  have hadmits : (portAfter earlier).Admits entry := h.split.1
  unfold Port.Admits at hadmits
  rcases hdue : (portAfter earlier).due with _ | _ | file <;> rw [hdue] at hadmits
  · exact ⟨rfl, hadmits⟩
  · obtain ⟨ok, rfl⟩ := hadmits
    cases hentry
  · obtain rfl := hadmits
    cases hentry

theorem portAfter_snoc (log : List LogEntry) (entry : LogEntry) :
    portAfter (log ++ [entry]) = (portAfter log).after entry := by
  unfold portAfter
  rw [List.foldl_append]
  rfl

/-- Only a port with a pending event remembers that a continue of it was tried. -/
theorem pending_of_tried {p : Port} {entry : LogEntry} {event : DebugEventRecord}
    (hnone : p.pending = none) (htried : (p.after entry).tried = true)
    (hpending : (p.after entry).pending = some event) : False := by
  have hno : p.pending ≠ some event := by simp [hnone]
  cases entry with
  | wait received =>
    cases received with
    | none => exact hno hpending
    | some event => cases htried
  | attach processId ok =>
    cases ok with
    | true => cases hpending
    | false => exact hno hpending
  | continueEvent processId threadId disposition ok =>
    cases ok with
    | true => cases hpending
    | false => exact hno hpending
  | detach processId ok =>
    cases ok with
    | true => cases hpending
    | false => exact hno hpending
  | _ => exact hno hpending

/-- By induction on the entries since a call: what the port remembers as tried was tried in it. -/
theorem failedContinue_of_tried {start made : List LogEntry} {event : DebugEventRecord}
    (hobeys : Obeys Port.Admits Port.after .new (start ++ made))
    (hstart : (portAfter start).tried = false)
    (htried : (portAfter (start ++ made)).tried = true)
    (hpending : pendingAfter (start ++ made) = some event) :
    ∃ entry ∈ made, FailedContinue event entry := by
  induction made using List.reverseRecOn generalizing event with
  | nil =>
    rw [List.append_nil, hstart] at htried
    cases htried
  | append_singleton made entry ih =>
    rw [← List.append_assoc] at hobeys htried hpending
    rw [pendingAfter, portAfter_snoc] at hpending
    rw [portAfter_snoc] at htried
    have hadmits : (portAfter (start ++ made)).Admits entry := hobeys.split.1
    rcases hbefore : (portAfter (start ++ made)).pending with _ | own
    · exact (pending_of_tried hbefore htried hpending).elim
    cases hreleases : entry.releases with
    | true =>
      have hover : ((portAfter (start ++ made)).after entry).pending = none := by
        cases entry with
        | continueEvent processId threadId disposition ok => cases ok <;> trivial
        | detach processId ok => cases ok <;> trivial
        | _ => cases hreleases
      rw [hover] at hpending
      cases hpending
    | false =>
      have hkept := pending_after hbefore hadmits hreleases
      rw [hkept] at hpending
      cases hpending
      exact tried_after hbefore hadmits
        (fun hearlier => ih (obeys_append.mp hobeys).1 hearlier hbefore) htried

/-- A close is due only directly after an event that delivered the file. -/
theorem wait_of_due_close {log : List LogEntry} {file : DebugFileToken}
    (hobeys : Obeys Port.Admits Port.after .new log)
    (h : (portAfter log).due = some (.close file)) :
    ∃ before event, log = before ++ [.wait (some event)] ∧ event.kind.debugFile = some file := by
  rcases List.eq_nil_or_concat log with rfl | ⟨before, entry, rfl⟩
  · cases h
  rw [List.concat_eq_append, portAfter_snoc] at h
  rw [List.concat_eq_append] at hobeys
  cases hsettles : entry.settlesDue with
  | true =>
    cases entry with
    | disableKillOnExit ok => cases h
    | closeFile other => cases h
    | _ => cases hsettles
  | false =>
    have hdue := (free_of_obeys hobeys hsettles).1
    cases entry with
    | wait received =>
      cases received with
      | none => cases hdue.symm.trans h
      | some event =>
        refine ⟨before, event, by simp, ?_⟩
        simpa [Port.after, Port.receive] using h
    | attach processId ok =>
      cases ok with
      | false => cases hdue.symm.trans h
      | true => cases h
    | continueEvent processId threadId disposition ok =>
      cases ok <;> exact absurd (hdue.symm.trans h) (by simp)
    | detach processId ok => cases ok <;> exact absurd (hdue.symm.trans h) (by simp)
    | disableKillOnExit ok => cases hsettles
    | closeFile other => cases hsettles
    | _ => exact absurd (hdue.symm.trans h) (by simp)

/-- After an entry that makes a call due, that call is the next entry. -/
theorem next_of_due {earlier later : List LogEntry} {entry : LogEntry} {p : Port} {due : Due}
    (h : Reads (earlier ++ entry :: later) p) (hend : p.due = none)
    (hdue : ((portAfter earlier).after entry).due = some due) :
    ∃ next rest, later = next :: rest ∧ ((portAfter earlier).after entry).Admits next := by
  cases later with
  | nil =>
    have hport := h.port
    rw [portAfter_snoc] at hport
    rw [hport, hend] at hdue
    cases hdue
  | cons next rest => exact ⟨next, rest, rfl, h.obeys.split.2.1⟩

/-- A log that keeps the rules, with no call due, is disciplined. -/
theorem disciplined_of_reads {log : List LogEntry} {p : Port} (h : Reads log p)
    (hend : p.due = none) : Disciplined log where
  disable_follows_attach := by
    rintro earlier processId later rfl
    obtain ⟨next, rest, rfl, ok, rfl⟩ := next_of_due h hend rfl
    exact ⟨ok, rest, rfl⟩
  wait_alone := by
    rintro earlier event later rfl
    exact (free_of_obeys h.obeys rfl).2
  continue_own := by
    rintro earlier processId threadId disposition ok later rfl
    obtain ⟨event, hpending, hprocess, hthread, rfl⟩ := (free_of_obeys h.obeys rfl).2
    refine ⟨event, hpending, hprocess, hthread, fun hhandled hexception => ?_⟩
    cases haccepted : (portAfter earlier).accepted with
    | true => exact haccepted
    | false =>
      simp only [dispositionOf, haccepted, DebugHostWorker.initialDisposition, hexception]
        at hhandled
      cases hhandled
  ending := by
    rintro earlier event later rfl
    exact ending_of_obeys [] rfl (by rintro ⟨⟩) (by simp) h.obeys.split.2
  detach_tries := by
    rintro earlier processId ok later rfl
    exact (free_of_obeys h.obeys rfl).2.2
  file_closed := by
    rintro earlier event later file rfl hfile
    have hdue : ((portAfter earlier).after (.wait (some event))).due = some (.close file) := by
      simp [Port.after, Port.receive, hfile]
    obtain ⟨next, rest, rfl, hnext⟩ := next_of_due h hend hdue
    unfold Port.Admits at hnext
    rw [hdue] at hnext
    exact ⟨rest, by rw [hnext]⟩
  closes_delivered := by
    rintro earlier file later rfl
    have hadmits : (portAfter earlier).Admits (.closeFile file) := h.obeys.split.1
    unfold Port.Admits at hadmits
    rcases hdue : (portAfter earlier).due with _ | _ | other <;> rw [hdue] at hadmits
    · exact hadmits.elim
    · obtain ⟨ok, hne⟩ := hadmits
      cases hne
    · cases hadmits
      exact wait_of_due_close (obeys_append.mp h.obeys).1 hdue
  read_stopped := by
    rintro earlier binding rva size later rfl
    exact (free_of_obeys h.obeys rfl).2
  write_stopped := by
    rintro earlier binding rva expected replacement later rfl
    exact (free_of_obeys h.obeys rfl).2
  accepted_initial := by
    rintro earlier stop later rfl
    exact (free_of_obeys h.obeys rfl).2

/-! ### One call -/

/-- What a finished call did about the event that is pending after it: an attach that was not
    refused stopped at it or failed to continue it, and a release failed to continue it. -/
def WorkerCall.Attends (c : WorkerCall) (pre post : DebugHostWorkerState) (made : List LogEntry)
    (event : DebugEventRecord) : Prop :=
  match c with
  | .attachAfterAuthorization _ _ =>
    pre ≠ .detached ∨ post = .stopped ∨ ∃ entry ∈ made, FailedContinue event entry
  | .detach | .drop => ∃ entry ∈ made, FailedContinue event entry
  | .readStoppedMainImage _ _ | .writeStoppedMainImage _ _ _ => True

namespace DebugHostWorker

variable {σ : Type}

/-- The discipline of one call. -/
structure WellDone (e : Event (DebugHostWorker (Recorded σ)) WorkerCall WorkerAnswer) : Prop where
  noPanic : e.output.NoPanic
  reports : ∀ stop, e.output = .attached (.ok stop) → e.post.pendingStop = some stop
  attends : ∃ made, e.post.backend.log = e.pre.backend.log ++ .call e.pre.workerState :: made ∧
    ∀ event, pendingAfter e.post.backend.log = some event →
      e.input.Attends e.pre.workerState e.post.workerState made event

variable {start : List LogEntry} {w w' : DebugHostWorker (Recorded σ)}

/-- The log of a worker whose call was just made. -/
abbrev entered (w : DebugHostWorker (Recorded σ)) : List LogEntry :=
  w.backend.log ++ [.call w.workerState]

theorem inv_entered {p : Port} (hlog : ByLog start w.backend p) (hagrees : AgreesWith p w.state) :
    ByLog (entered w) w.enter.backend (p.after (.call w.workerState)) ∧
      AgreesWith (p.after (.call w.workerState)) w.enter.state := by
  obtain ⟨backend, state⟩ := w
  refine ⟨⟨List.prefix_rfl, hlog.2.snoc ?_⟩, ?_⟩
  · refine Port.admits_of_free ?_ trivial
    cases hagrees with
    | detached hdue hpending => exact hdue
    | attached holds stopped => exact holds.due
  · cases hagrees with
    | detached hdue hpending => exact .detached hdue hpending
    | attached holds stopped =>
      exact .attached ⟨holds.bound, holds.due, holds.pending, holds.disposition,
        holds.accepted⟩ stopped

theorem begun_enter (h : Inv (ByLog start) w) : Begun (ByLog (entered w)) w.enter := by
  obtain ⟨p, hlog, hagrees⟩ := h
  obtain ⟨hlog', hagrees'⟩ := inv_entered hlog hagrees
  exact ⟨_, hlog', hagrees', rfl⟩

theorem inv_enter (h : Inv (ByLog start) w) : Inv (ByLog (entered w)) w.enter := by
  obtain ⟨p, hlog, hagrees, -⟩ := begun_enter h
  exact ⟨p, hlog, hagrees⟩

/-- Where the log began does not matter to the agreement. -/
theorem inv_nil (h : Inv (ByLog start) w) : Inv (ByLog []) w := by
  obtain ⟨p, hlog, hagrees⟩ := h
  exact ⟨p, ⟨List.nil_prefix, hlog.2⟩, hagrees⟩

/-- The log after a call is the log before it, the call, and what it made. -/
theorem made_of_inv (h : Inv (ByLog (entered w)) w') :
    ∃ made, w'.backend.log = w.backend.log ++ .call w.workerState :: made := by
  obtain ⟨p, ⟨⟨made, hmade⟩, -⟩, -⟩ := h
  exact ⟨made, by rw [← hmade, List.append_assoc]; rfl⟩

/-- A worker that gave its target up tried to continue what is pending, in this call. -/
theorem attended_of_tried (h : Tried (ByLog (entered w)) w') :
    ∃ made, w'.backend.log = w.backend.log ++ .call w.workerState :: made ∧
      ∀ event, pendingAfter w'.backend.log = some event →
        ∃ entry ∈ made, FailedContinue event entry := by
  obtain ⟨p, ⟨⟨made, hmade⟩, hreads⟩, -, htried⟩ := h
  refine ⟨made, by rw [← hmade, List.append_assoc]; rfl, fun event hpending => ?_⟩
  have hobeys := hreads.obeys
  have hport := hreads.port
  rw [← hmade] at hobeys hport hpending
  have hp : p.pending = some event := by rw [← hport]; exact hpending
  have htrue : p.tried = true := htried.resolve_left (by simp [hp])
  refine failedContinue_of_tried hobeys ?_ (by rw [hport]; exact htrue) hpending
  rw [portAfter_snoc]
  rfl

/-- After a reported stop the port has accepted the pending breakpoint. -/
theorem inv_of_accepting {expected : LiveTargetBinding} {stop : PendingStopEvidence}
    (h : Accepting (ByLog start) expected stop w) :
    Inv (ByLog start) (note (.attached (.ok stop)) w) ∧
      (note (.attached (.ok stop)) w).pendingStop = some stop ∧
      (note (.attached (.ok stop)) w).workerState = .stopped := by
  obtain ⟨p, binding, event, hlog, hbound, hdue, hpending, hinitial, hagrees⟩ := h.agrees
  obtain ⟨-, a, -, -, hstate, -, -, -, -, -, -, hphase, hstop, -⟩ := h
  refine ⟨⟨{ p with accepted := true }, ?_, hagrees⟩, ?_, ?_⟩
  · exact ⟨hlog.1.trans (List.prefix_append _ _),
      hlog.2.snoc (Port.admits_of_free hdue ⟨binding, event, hbound, hpending, hinitial⟩)⟩
  · simp only [note, pendingStop, hstate, hphase, if_true, hstop]
  · simp only [note, workerState, hstate, hphase, AttachedPhase.workerState]

theorem noPanic_error {ε α : Type} {fault : Fault ε} (h : ∃ error, fault = .error error) :
    Schemes.NoPanic (.error fault : Except (Fault ε) α) := by
  obtain ⟨error, rfl⟩ := h
  trivial

/-- A read or write leaves the agreement and does not panic. -/
theorem inv_of_wp {ε α : Type} {x : Reducer (DebugHostWorker (Recorded σ)) (Fault ε) α}
    (h : wp x (Answered (ByLog start)) (Failed (ByLog start)) w) :
    Inv (ByLog start) (x w).2 ∧ Schemes.NoPanic (x w).1 := by
  unfold wp at h
  rcases hx : x w with ⟨fault | answer, w'⟩ <;> rw [hx] at h
  · exact ⟨h.2, noPanic_error h.1⟩
  · exact ⟨h, trivial⟩

/-- A release tries to continue what is pending, and does not panic. -/
theorem tried_of_wp {ε α : Type} {x : Reducer (DebugHostWorker (Recorded σ)) (Fault ε) α}
    (h : wp x (fun _ => Tried (ByLog start)) (GivenUp (ByLog start)) w) :
    Tried (ByLog start) (x w).2 ∧ Schemes.NoPanic (x w).1 := by
  unfold wp at h
  rcases hx : x w with ⟨fault | answer, w'⟩ <;> rw [hx] at h
  · exact ⟨h.2, noPanic_error h.1⟩
  · exact ⟨h, trivial⟩

/-- An attach of a detached worker stops at the initial breakpoint or gives its target up. -/
theorem attach_wellDone {backend : DebugBackend σ} {expected : LiveTargetBinding}
    {limits : DebugAttachLimits} {answer : WorkerAnswer} (h : Inv (ByLog start) w)
    (hcall : recordedCall backend (.attachAfterAuthorization expected limits) w = (answer, w')) :
    Inv (ByLog (entered w)) w' ∧
      WellDone ⟨w, .attachAfterAuthorization expected limits, answer, w'⟩ := by
  cases hcall
  by_cases hbusy : w.workerState = .detached
  · obtain ⟨p, hlog, hagrees⟩ := inv_enter h
    have hstate : w.enter = ⟨w.enter.backend, .detached⟩ := by
      obtain ⟨backend, state | a⟩ := w
      · rfl
      · exact absurd hbusy (attached_ne_detached _ _)
    rw [hstate] at hagrees
    cases hagrees with
    | detached hdue hpending =>
    have hwp := wp_attachAfterAuthorization (watched_recorded backend (entered w)) expected limits
      hlog hdue hpending
    rw [← hstate] at hwp
    unfold wp at hwp
    dsimp only [call]
    rcases hx : attachAfterAuthorization (recorded backend) expected limits w.enter
      with ⟨fault | stop, w'⟩ <;> rw [hx] at hwp
    · obtain ⟨made, hmade, htried⟩ := attended_of_tried hwp.2
      exact ⟨hwp.2.inv, noPanic_error hwp.1, (fun _ hne => by cases hne), made, hmade,
        fun event hevent => .inr (.inr (htried event hevent))⟩
    · obtain ⟨hinv, hstop, hstopped⟩ := inv_of_accepting hwp
      obtain ⟨made, hmade⟩ := made_of_inv hinv
      refine ⟨hinv, trivial, ?_, made, hmade, fun _ _ => .inr (.inl hstopped)⟩
      rintro _ ⟨rfl⟩
      exact hstop
  · dsimp only [call]
    rw [attachAfterAuthorization_busy expected limits (w := w.enter) hbusy]
    exact ⟨inv_enter h, trivial, (fun _ hne => by cases hne), [], rfl, fun _ _ => .inl hbusy⟩

/-- One call neither panics nor breaks a rule, and attends to what is pending. -/
theorem recordedCall_inv {backend : DebugBackend σ} {c : WorkerCall} {answer : WorkerAnswer}
    (h : Inv (ByLog []) w) (hcall : recordedCall backend c w = (answer, w')) :
    Inv (ByLog []) w' ∧ WellDone ⟨w, c, answer, w'⟩ := by
  suffices hentered : Inv (ByLog (entered w)) w' ∧ WellDone ⟨w, c, answer, w'⟩ from
    ⟨inv_nil hentered.1, hentered.2⟩
  have watched := watched_recorded backend (entered w)
  cases c with
  | attachAfterAuthorization expected limits => exact attach_wellDone h hcall
  | readStoppedMainImage address size =>
    cases hcall
    obtain ⟨hinv, hpanic⟩ := inv_of_wp (wp_readStoppedMainImage watched address size
      (begun_enter h))
    obtain ⟨made, hmade⟩ := made_of_inv hinv
    exact ⟨hinv, hpanic, (fun _ hne => by cases hne), made, hmade, fun _ _ => trivial⟩
  | writeStoppedMainImage stop checkpoint ticket =>
    cases hcall
    obtain ⟨hinv, hpanic⟩ := inv_of_wp (wp_writeStoppedMainImage watched stop checkpoint ticket
      (begun_enter h))
    obtain ⟨made, hmade⟩ := made_of_inv hinv
    exact ⟨hinv, hpanic, (fun _ hne => by cases hne), made, hmade, fun _ _ => trivial⟩
  | detach =>
    cases hcall
    obtain ⟨htried, hpanic⟩ := tried_of_wp (wp_detach watched (inv_enter h))
    obtain ⟨made, hmade, hattends⟩ := attended_of_tried htried
    exact ⟨htried.inv, hpanic, (fun _ hne => by cases hne), made, hmade, hattends⟩
  | drop =>
    cases hcall
    obtain ⟨htried, hpanic⟩ := tried_of_wp (wp_drop watched (inv_enter h))
    obtain ⟨made, hmade, hattends⟩ := attended_of_tried htried
    exact ⟨htried.inv, hpanic, (fun _ hne => by cases hne), made, hmade, hattends⟩

/-! ### Every run -/

/-- What a stopped worker can say about its events. -/
def StoppedTruthfully (w : DebugHostWorker (Recorded σ)) : Prop :=
  ∃ binding event stop, w.binding = some binding ∧ w.pendingStop = some stop ∧
    pendingAfter w.backend.log = some event ∧
    InitialStop binding (eventsSinceAttach w.backend.log) event stop

theorem inv_new (inner : σ) : Inv (ByLog []) (new (⟨inner, []⟩ : Recorded σ)) :=
  ⟨.new, ⟨List.prefix_rfl, rfl, trivial⟩, .detached rfl rfl⟩

theorem disciplined_of_inv (h : Inv (ByLog start) w) :
    Disciplined w.backend.log := by
  obtain ⟨⟨inner, log⟩, state⟩ := w
  obtain ⟨p, hlog, hagrees⟩ := h
  refine disciplined_of_reads hlog.2 ?_
  cases hagrees with
  | detached hdue hpending => exact hdue
  | attached holds stopped => exact holds.due

theorem stoppedTruthfully_of_inv (h : Inv (ByLog start) w)
    (hstate : w.workerState = .stopped) : StoppedTruthfully w := by
  obtain ⟨⟨inner, log⟩, state⟩ := w
  obtain ⟨p, hlog, hagrees⟩ := h
  cases hagrees with
  | detached hdue hpending => cases hstate
  | @attached a holds stopped =>
    have hphase : a.phase = .stopped := by
      cases hphase : a.phase <;> simp [workerState, AttachedPhase.workerState, hphase] at hstate ⊢
    obtain ⟨event, stop, hpending, hstop, hinitial⟩ := holds.accepted (stopped hphase)
    refine ⟨a.binding, event, stop, rfl, ?_, ?_, ?_⟩
    · simp only [pendingStop, hphase, if_true, hstop]
    · rw [pendingAfter, hlog.2.port, hpending]
    · rw [eventsSinceAttach, hlog.2.port]
      exact hinitial

/-- A backend that delivers the events of a script and grants everything else. -/
def scripted (binding : LiveTargetBinding) : DebugBackend (List DebugEventRecord) where
  monotonicNow s := (0, s)
  preflight _ s := (.ok binding, s)
  clearPreflight s := ((), s)
  attach _ s := (.ok (), s)
  disableKillOnExit s := (.ok (), s)
  waitForDebugEvent _ s := (.ok s.head?, s.tail)
  closeDebugFile _ s := ((), s)
  continueDebugEvent _ _ _ s := (.ok (), s)
  readExactMainImageRva _ _ size s := (.ok (List.replicate size 0x90), s)
  writeExactMainImageRva _ _ _ _ _ _ s := (.error (.safeNoEffect "read only"), s)
  detach _ s := (.ok (), s)

def sampleEvents : List DebugEventRecord :=
  [⟨7, 101, .createProcess sampleBinding.actualImageBase.val (some ⟨0x1010⟩)⟩,
    ⟨7, 102, .loadDll (some ⟨0x2020⟩)⟩,
    ⟨7, 102, .exception exceptionBreakpointCode true 0x1010⟩]

def sampleLimits : DebugAttachLimits := ⟨10 * 1000000000, by decide, by decide⟩

/-- Attach to the sample target, and read four bytes of it. -/
def sampleCalls : List WorkerCall :=
  [.attachAfterAuthorization sampleBinding sampleLimits,
    .readStoppedMainImage 0x1010 4]

end DebugHostWorker

end ReSymbol.DebugHost
