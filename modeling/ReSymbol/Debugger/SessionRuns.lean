import ReSymbol.Debugger.SessionMoves

/-! Whole runs of one session.

    A run is any sequence of calls on one reducer, with arbitrary commands, observations, evidence
    and receipts. The only restriction is on tickets: they are opaque, so one that names this
    reducer is one this reducer handed out. Along every run the session stays coherent, and with it
    every state a ticket could put back; a call that fails leaves all of it alone. -/

namespace ReSymbol.Debugger
open Schemes Schemes.Reducer

abbrev SessionResult := Except UnsolicitedObservationError SessionAnswer

/-- A session together with every ticket it ever handed out. -/
structure SessionSystem where
  machine : SessionMachine
  issued : List RemoteCommandCheckpoint

namespace SessionSystem

/-- The tickets a result hands out. -/
def tickets : SessionResult → List RemoteCommandCheckpoint
  | .ok answer => answer.ticket.toList
  | .error _ => []

def start (reducerInstance : ℕ) (sessionId : SessionId) (provisioningEpoch : ProvisioningEpoch)
    (helperBuild : HelperBuildId) : SessionSystem :=
  ⟨.new reducerInstance sessionId provisioningEpoch helperBuild, []⟩

/-! ### A session to instantiate results at -/

/-- A stand-in for the linked hash: runs without a sandbox never evaluate it. -/
abbrev sampleHash : Sha256 := ⟨fun _ => Vector.replicate 32 0⟩

def sampleLease : HostRiskLeaseId :=
  ⟨"00000000000000000000000000000000000000000000000000000000000000bb", by decide⟩

def sampleStart : SessionSystem :=
  start 1 sampleSession
    ⟨"00000000000000000000000000000000000000000000000000000000000000cc", by decide⟩
    ⟨"sample-helper", by decide⟩

/-- The sample process, attached to for debugging on the host. -/
def sampleTarget : DebugTargetRequest := .attach ⟨.host sampleProcess sampleLease, .debug⟩

def sampleRegistration : SessionOperation :=
  .registerHostRiskVerifier ⟨sampleLease, sampleSession, sampleStart.machine.provisioningEpoch,
    .attach sampleProcess .debug⟩

/-- A command of the sample session against one generation. -/
def sampleEnvelope (commandId : CommandId) (generation : StateGeneration)
    (command : DebugCommand) : CommandEnvelope where
  version := .current
  commandId := commandId
  sessionId := some sampleSession
  expectedState := some ⟨sampleSession, generation⟩
  command := command

/-- Attach to the sample process and stop it: generation 3, stop 1. -/
def sampleAttach : List SessionOperation :=
  [sampleRegistration,
    .acceptCommand (sampleEnvelope 1 1 (.open sampleTarget)),
    .markStopped .initial 3]

section Runs

variable [Sha256]

def call (operation : SessionOperation) (s : SessionSystem) : SessionResult × SessionSystem :=
  let (result, m) := operation.apply s.machine
  (result, ⟨m, s.issued ++ tickets result⟩)

/-- One call: a presented ticket of this reducer is one it handed out. -/
def Step (s : SessionSystem) (operation : SessionOperation) (result : SessionResult)
    (s' : SessionSystem) : Prop :=
  call operation s = (result, s') ∧ ∀ checkpoint, operation.presentedCheckpoint = some checkpoint →
    checkpoint.reducerInstance = s.machine.reducerInstance → checkpoint ∈ s.issued

/-- Calls that present no ticket can be executed. -/
theorem run_calls (s : SessionSystem) (operations : List SessionOperation)
    (h : ∀ operation ∈ operations, operation.presentedCheckpoint = none) :
    Run Step s (execute call s operations).1 (execute call s operations).2 := by
  induction operations generalizing s with
  | nil => exact .start
  | cons operation rest ih =>
    have hstep : Step s operation (call operation s).1 (call operation s).2 :=
      ⟨rfl, fun c hpresents => by simp [h operation List.mem_cons_self] at hpresents⟩
    have hrest := ih (call operation s).2 fun op hop => h op (List.mem_cons_of_mem _ hop)
    exact (Run.start.next hstep).trans hrest

/-! ### Coherence along a run -/

/-- The session is coherent, and so is whatever a ticket could put back. -/
structure Coherent (s : SessionSystem) : Prop where
  machine : s.machine.visible.Coherent s.machine.identity
  tickets : ∀ ticket ∈ s.issued, ticket.visible.Coherent s.machine.identity

variable {m m' : SessionMachine} {operation : SessionOperation} {result : SessionResult}

theorem observed_coherent {observations : List UnsolicitedObservation}
    (h : Observed m observations m') (hc : m.visible.Coherent m.identity) :
    m'.identity = m.identity ∧ m'.visible.Coherent m.identity := by
  induction h with
  | nil => exact ⟨rfl, hc⟩
  | cons effect reported batch ih =>
    have hidentity := effect.frame.1
    obtain ⟨hi, hv⟩ := ih (hidentity ▸ coherent_effect hc effect)
    exact ⟨hi.trans hidentity, hidentity ▸ hv⟩

/-- A move keeps the identity of the reducer and the coherence of what is visible. -/
theorem move_coherent (h : Move m operation result m') (hc : m.visible.Coherent m.identity)
    (htickets : ∀ checkpoint, operation.presentedCheckpoint = some checkpoint →
      checkpoint.Resolves m → checkpoint.visible.Coherent m.identity) :
    m'.identity = m.identity ∧ m'.visible.Coherent m.identity := by
  cases h with
  | refused kept => exact ⟨kept.identity_eq, kept.visible_eq ▸ hc⟩
  | registeredHostRisk idle fresh => exact ⟨rfl, hc⟩
  | registeredOwnership idle fresh => exact ⟨rfl, hc⟩
  | accepted free newer effect =>
    exact ⟨effect.frame.1, coherent_effect (m := m.observed _) hc effect⟩
  | begun begins free newer effect answered issued =>
    have hv := coherent_effect (m := m.observed _) hc effect
    exact ⟨effect.frame.1, hv⟩
  | committed commits presents resolves answered => exact ⟨rfl, hc⟩
  | restored restores presents resolves unchanged answered =>
    exact ⟨rfl, htickets _ presents resolves⟩
  | observed asks effect answered => exact ⟨effect.frame.1, coherent_effect hc effect⟩
  | batch observed => exact observed_coherent observed hc
  | retained => exact ⟨rfl, hc⟩

/-- A ticket holds the visible state from before the command it was issued for. -/
theorem move_ticket (h : Move m operation result m') {ticket : RemoteCommandCheckpoint}
    (hticket : ticket ∈ tickets result) :
    ∃ envelope, operation.begins = some envelope ∧ ticket.visible = m.visible ∧
      ticket.commandId = envelope.commandId ∧
      m'.pendingRemoteCommand = some envelope.commandId ∧
      ticket.reducerInstance = m.reducerInstance ∧
      ticket.postAccept = m'.remoteCommandPostAcceptState ∧ m.state.kind ≠ .closed := by
  have hnone : ∀ {answer : SessionAnswer}, answer.ticket = none →
      ticket ∉ tickets (.ok answer) := by
    intro answer h
    simp [tickets, h]
  cases h with
  | refused kept => simp [tickets] at hticket
  | begun begins free newer effect answered issued =>
    simp only [tickets, answered, Option.toList_some, List.mem_singleton] at hticket
    subst hticket
    exact ⟨_, begins, issued.visible, issued.command, rfl, issued.reducer, issued.postAccept,
      Effect.ne_closed (m := m.observed _) effect⟩
  | committed commits presents resolves answered => exact absurd hticket (hnone answered)
  | restored restores presents resolves unchanged answered => exact absurd hticket (hnone answered)
  | observed asks effect answered => exact absurd hticket (hnone answered)
  | registeredHostRisk idle fresh => exact absurd hticket (hnone rfl)
  | registeredOwnership idle fresh => exact absurd hticket (hnone rfl)
  | accepted free newer effect => exact absurd hticket (hnone rfl)
  | batch observed => exact absurd hticket (hnone rfl)
  | retained => exact absurd hticket (hnone rfl)

theorem coherent_start (reducerInstance : ℕ) (sessionId : SessionId)
    (provisioningEpoch : ProvisioningEpoch) (helperBuild : HelperBuildId) :
    (start reducerInstance sessionId provisioningEpoch helperBuild).Coherent where
  machine := ⟨rfl, fun _ => ⟨rfl, rfl, rfl⟩, fun _ => nofun, fun _ => nofun, fun _ => nofun, rfl⟩
  tickets _ h := by cases h

theorem apply_of_step {s s' : SessionSystem} (h : Step s operation result s') :
    operation.apply s.machine = (result, s'.machine) := by
  rcases hx : operation.apply s.machine with ⟨r, m'⟩
  have hcall := h.1
  simp only [call, hx, Prod.mk.injEq] at hcall
  obtain ⟨rfl, rfl⟩ := hcall
  rfl

theorem coherent_step {s s' : SessionSystem} (hc : s.Coherent)
    (h : Step s operation result s') :
    s'.Coherent ∧ Move s.machine operation result s'.machine ∧
      s'.machine.identity = s.machine.identity ∧ s'.issued = s.issued ++ tickets result := by
  obtain ⟨hcall, hgenuine⟩ := h
  have hmoves := apply_moves hc.machine operation
  rcases hx : operation.apply s.machine with ⟨r, m'⟩
  simp only [call, hx, Prod.mk.injEq] at hcall
  obtain ⟨rfl, rfl⟩ := hcall
  rw [hx] at hmoves
  obtain ⟨hidentity, hvisible⟩ :=
    move_coherent hmoves hc.machine fun checkpoint hpresents hresolves =>
    hc.tickets checkpoint (hgenuine checkpoint hpresents hresolves.reducer.symm)
  refine ⟨⟨hidentity ▸ hvisible, fun ticket hin => ?_⟩, hmoves, hidentity, rfl⟩
  show ticket.visible.Coherent m'.identity
  rw [hidentity]
  rcases List.mem_append.mp hin with hold | hnew
  · exact hc.tickets ticket hold
  · obtain ⟨-, -, hsame, -⟩ := move_ticket hmoves hnew
    rw [hsame]
    exact hc.machine

variable {reducerInstance : ℕ} {sessionId : SessionId} {provisioningEpoch : ProvisioningEpoch}
  {helperBuild : HelperBuildId} {es : List (Event SessionSystem SessionOperation SessionResult)}
  {s : SessionSystem}

/-- Along every run each call is a move of a coherent session. -/
theorem run_moves
    (run : Run Step (start reducerInstance sessionId provisioningEpoch helperBuild) es s) :
    s.Coherent ∧ ∀ e ∈ es, e.pre.Coherent ∧ Step e.pre e.input e.output e.post ∧
      Move e.pre.machine e.input e.output e.post.machine :=
  run.event_invariant Coherent
    (fun e => e.pre.Coherent ∧ Step e.pre e.input e.output e.post ∧
      Move e.pre.machine e.input e.output e.post.machine)
    (coherent_start _ _ _ _) fun _ _ _ _ hc h =>
      ⟨(coherent_step hc h).1, hc, h, (coherent_step hc h).2.1⟩

/-- CORRECT (failures are atomic): a call that fails leaves the visible session as it was. Only
    identifiers it used up and the slot of the lease it presented may differ, and a failed batch of
    observations changes nothing at all. -/
theorem failed_calls_keep_session
    (run : Run Step (start reducerInstance sessionId provisioningEpoch helperBuild) es s) :
    ∀ e ∈ es, ∀ error, e.output = .error error →
      e.post.machine.visible = e.pre.machine.visible ∧
      Kept e.input.presentedLeases e.pre.machine e.post.machine ∧
      ∀ observations, e.input = .applyUnsolicitedObservations observations →
        e.post.machine = e.pre.machine := by
  rintro ⟨pre, operation, result, post⟩ he error rfl
  obtain ⟨-, hstep, hmove⟩ := (run_moves run).2 _ he
  cases hmove with
  | refused kept =>
    refine ⟨kept.visible_eq, kept, ?_⟩
    rintro observations rfl
    rcases bind_eq_error.mp (apply_of_step hstep) with hfailed | ⟨_, _, -, hdone⟩
    · exact atomic_applyUnsolicitedObservations observations _ _ _ hfailed
    · simp at hdone

end Runs

/-- Close the stopped session, and close it once more. -/
def sampleCloseTwice : List SessionOperation := sampleAttach ++
  [.acceptCommand (sampleEnvelope 2 3 (.close ⟨sampleSession, 3⟩)),
    .acceptCommand (sampleEnvelope 3 4 (.close ⟨sampleSession, 4⟩))]

theorem failed_calls_keep_session_sampleCloseTwice :
    (execute (@call sampleHash) sampleStart sampleCloseTwice).1.map (·.output.isOk) =
      [true, true, true, true, false] ∧
    ∀ e ∈ (execute (@call sampleHash) sampleStart sampleCloseTwice).1,
      ∀ error, e.output = .error error →
        e.post.machine.visible = e.pre.machine.visible ∧
        Kept e.input.presentedLeases e.pre.machine e.post.machine ∧
        ∀ observations, e.input = .applyUnsolicitedObservations observations →
          e.post.machine = e.pre.machine :=
  ⟨by decide, @failed_calls_keep_session sampleHash _ _ _ _ _ _
    (@run_calls sampleHash sampleStart sampleCloseTwice (by decide))⟩

end SessionSystem

end ReSymbol.Debugger
