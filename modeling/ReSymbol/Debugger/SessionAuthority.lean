import ReSymbol.Debugger.SessionRuns

/-! What authorised a session to execute.

    Whenever a session is attested, stopped, running or pausing, its history contains the authority
    for it: a registered lease that an accepted open consumed for exactly the retained target, or an
    attestation accepted for exactly the process the sandbox reported. The proof keeps, for the
    visible state and for every state a ticket could put back, where its gate came from.

        register v ──▶ … ──▶ open target (consumes v) ──▶ … ──▶ stopped / running
        open sandboxed ──▶ created process ──▶ accepted attestation ──▶ … ──▶ stopped / running -/

namespace ReSymbol.Debugger.SessionSystem
open Schemes Schemes.Reducer

abbrev SessionEvent := Event SessionSystem SessionOperation SessionResult

/-! ### Authority in a history -/

/-- The call was made and answered. -/
def Happened (es : List SessionEvent) (operation : SessionOperation) : Prop :=
  ∃ e ∈ es, e.input = operation ∧ ∃ answer, e.output = .ok answer

/-- An accepted open of this target, at once or for a remote host. -/
def AcceptsOpen (e : SessionEvent) (target : DebugTargetRequest) : Prop :=
  (∃ envelope, e.input.command = some envelope ∧ envelope.command = .open target) ∧
    ∃ answer, e.output = .ok answer

/-- An accepted open of the target consumed this verifier, registered before it. -/
def HostRiskConsumed (es : List SessionEvent) (target : DebugTargetRequest)
    (verifier : HostRiskVerifier) : Prop :=
  ∃ earlier e later, es = earlier ++ e :: later ∧
    Happened earlier (.registerHostRiskVerifier verifier) ∧ AcceptsOpen e target ∧
    e.pre.machine.hostRiskLeases[verifier.id]? = some (some verifier) ∧
    e.post.machine.hostRiskLeases[verifier.id]? = none

def OwnershipConsumed (es : List SessionEvent) (target : DebugTargetRequest)
    (verifier : SandboxOwnershipVerifier) : Prop :=
  ∃ earlier e later, es = earlier ++ e :: later ∧
    Happened earlier (.registerSandboxOwnershipVerifier verifier) ∧ AcceptsOpen e target ∧
    e.pre.machine.sandboxOwnershipLeases[verifier.id]? = some (some verifier) ∧
    e.post.machine.sandboxOwnershipLeases[verifier.id]? = none

/-- The lease of the target was consumed for exactly its session, epoch and operation. -/
def HostRiskAuthorised (id : SessionIdentity) (es : List SessionEvent) (v : VisibleState) : Prop :=
  ∃ target verifier, v.target = some target ∧
    target.hostRiskOperation = some (verifier.id, verifier.operation) ∧
    verifier.sessionId = id.sessionId ∧ verifier.provisioningEpoch = id.provisioningEpoch ∧
    HostRiskConsumed es target verifier

/-- The ownership lease of the target was consumed for exactly its process and mode, and its
    binding is retained. -/
def OwnershipAuthorised (id : SessionIdentity) (es : List SessionEvent) (v : VisibleState) : Prop :=
  ∃ process mode verifier,
    v.target = some (.attach ⟨.ownedSandbox process verifier.id, mode⟩) ∧
    v.inheritedSandbox = some verifier.binding ∧
    verifier.binding.process = process ∧ verifier.binding.mode = mode ∧
    verifier.binding.sessionId = id.sessionId ∧
    verifier.binding.provisioningEpoch = id.provisioningEpoch ∧
    OwnershipConsumed es (.attach ⟨.ownedSandbox process verifier.id, mode⟩) verifier

/-- A sandbox is retained whose accepted attestation is the one its policy expects of the process
    it was told about. -/
def AttestationAuthorised [Sha256] (id : SessionIdentity) (es : List SessionEvent)
    (v : VisibleState) : Prop :=
  ∃ launch policy sandbox process, v.target = some (.launch launch) ∧
    launch.environment = .sandboxed policy ∧ v.sandbox = some sandbox ∧
    ExpectedSandboxAttestation.fromPolicy launch.binaryId policy id.helperBuild
      id.provisioningEpoch = .ok sandbox.expected ∧
    sandbox.targetCreation = some (.created process) ∧
    sandbox.acceptedAttestation = some (sandbox.expected.attestationFor process) ∧
    Happened es (.targetCreatedSuspended process) ∧
    Happened es (.acceptSandboxAttestation (sandbox.expected.attestationFor process))

/-- Execution of the visible target was authorised. -/
def Authorised [Sha256] (id : SessionIdentity) (es : List SessionEvent) (v : VisibleState) : Prop :=
  HostRiskAuthorised id es v ∨ OwnershipAuthorised id es v ∨ AttestationAuthorised id es v

/-! ### Where a gate came from -/

/-- The gate and the evidence of a visible state have their origin in the history. -/
structure Grounded (id : SessionIdentity) (es : List SessionEvent) (v : VisibleState) : Prop where
  hostRisk : v.executionGate = .hostRiskAccepted → HostRiskAuthorised id es v
  ownership : v.executionGate = .inheritedSandbox → OwnershipAuthorised id es v
  created : ∀ sandbox process, v.sandbox = some sandbox →
    sandbox.targetCreation = some (.created process) → Happened es (.targetCreatedSuspended process)
  attested : ∀ sandbox attestation, v.sandbox = some sandbox →
    sandbox.acceptedAttestation = some attestation →
    Happened es (.acceptSandboxAttestation attestation)

/-- The available leases of a machine were registered. -/
structure Registered (es : List SessionEvent) (m : SessionMachine) : Prop where
  hostRisk : ∀ id verifier, m.hostRiskLeases[id]? = some (some verifier) →
    verifier.id = id ∧ Happened es (.registerHostRiskVerifier verifier)
  ownership : ∀ id verifier, m.sandboxOwnershipLeases[id]? = some (some verifier) →
    verifier.id = id ∧ Happened es (.registerSandboxOwnershipVerifier verifier)

/-- The part of a visible state its authority rests on is the same, or less of it is retained. -/
structure SameGround (v v' : VisibleState) : Prop where
  target : v'.target = v.target
  gate : v'.executionGate = v.executionGate
  inherited : v'.inheritedSandbox = v.inheritedSandbox
  sandbox : ∀ sandbox', v'.sandbox = some sandbox' → ∃ sandbox, v.sandbox = some sandbox ∧
    sandbox'.acceptedAttestation = sandbox.acceptedAttestation ∧
    ∀ process, sandbox'.targetCreation = some (.created process) →
      sandbox.targetCreation = some (.created process)

section History

variable {id : SessionIdentity} {es es' : List SessionEvent} {v v' : VisibleState}

theorem Happened.mono {operation : SessionOperation} (h : Happened es operation) :
    Happened (es ++ es') operation := by
  obtain ⟨e, he, hrest⟩ := h
  exact ⟨e, List.mem_append_left _ he, hrest⟩

theorem HostRiskAuthorised.mono (h : HostRiskAuthorised id es v) :
    HostRiskAuthorised id (es ++ es') v := by
  obtain ⟨target, verifier, h1, h2, h3, h4, earlier, e, later, rfl, hrest⟩ := h
  exact ⟨target, verifier, h1, h2, h3, h4, earlier, e, later ++ es', by simp, hrest⟩

theorem OwnershipAuthorised.mono (h : OwnershipAuthorised id es v) :
    OwnershipAuthorised id (es ++ es') v := by
  obtain ⟨process, mode, verifier, h1, h2, h3, h4, h5, h6, earlier, e, later, rfl, hrest⟩ := h
  exact ⟨process, mode, verifier, h1, h2, h3, h4, h5, h6, earlier, e, later ++ es', by simp, hrest⟩

theorem Grounded.mono (h : Grounded id es v) : Grounded id (es ++ es') v where
  hostRisk hg := (h.hostRisk hg).mono
  ownership hg := (h.ownership hg).mono
  created s p hs hp := (h.created s p hs hp).mono
  attested s a hs ha := (h.attested s a hs ha).mono

/-- Without a sandbox only the gate needs an origin. -/
theorem Grounded.of_gate (hs : v.sandbox = none)
    (hostRisk : v.executionGate = .hostRiskAccepted → HostRiskAuthorised id es v)
    (ownership : v.executionGate = .inheritedSandbox → OwnershipAuthorised id es v) :
    Grounded id es v :=
  ⟨hostRisk, ownership, fun s _ h => by simp [hs] at h, fun s _ h => by simp [hs] at h⟩

theorem Grounded.transfer (h : Grounded id es v) (same : SameGround v v') : Grounded id es v' where
  hostRisk hg := by
    obtain ⟨target, verifier, htarget, hrest⟩ := h.hostRisk (same.gate ▸ hg)
    exact ⟨target, verifier, same.target.trans htarget, hrest⟩
  ownership hg := by
    obtain ⟨process, mode, verifier, htarget, hbinding, hrest⟩ := h.ownership (same.gate ▸ hg)
    exact ⟨process, mode, verifier, same.target.trans htarget, same.inherited.trans hbinding,
      hrest⟩
  created s' p hs' hp := by
    obtain ⟨s, hs, -, hcreated⟩ := same.sandbox s' hs'
    exact h.created s p hs (hcreated p hp)
  attested s' a hs' ha := by
    obtain ⟨s, hs, haccepted, -⟩ := same.sandbox s' hs'
    exact h.attested s a hs (haccepted ▸ ha)

end History

section Steps

variable [Sha256] {es : List SessionEvent} {m m' : SessionMachine} {action : SessionAction}

omit [Sha256] in
theorem SameGround.refl (v : VisibleState) (state : SessionState) :
    SameGround v { v with state := state } :=
  ⟨rfl, rfl, rfl, fun s hs => ⟨s, hs, rfl, fun _ h => h⟩⟩

omit [Sha256] in
theorem SameGround.map (v : VisibleState) (state : SessionState)
    (lifecycle : SandboxLifecycleState) :
    SameGround v { v with state := state, sandbox := v.sandbox.map (·.at lifecycle) } := by
  refine ⟨rfl, rfl, rfl, fun s' hs' => ?_⟩
  obtain ⟨s, hs, rfl⟩ := Option.map_eq_some_iff.mp hs'
  exact ⟨s, hs, rfl, fun _ h => h⟩

omit [Sha256] in
theorem SameGround.trans {v v₁ v' : VisibleState} (h : SameGround v v₁) (h' : SameGround v₁ v') :
    SameGround v v' := by
  refine ⟨h'.target.trans h.target, h'.gate.trans h.gate, h'.inherited.trans h.inherited,
    fun s' hs' => ?_⟩
  obtain ⟨s₁, hs₁, haccepted', hcreated'⟩ := h'.sandbox s' hs'
  obtain ⟨s, hs, haccepted, hcreated⟩ := h.sandbox s₁ hs₁
  exact ⟨s, hs, haccepted'.trans haccepted, fun p hp => hcreated p (hcreated' p hp)⟩

/-- Apart from the three actions that bring authority, effects keep the ground of a session. -/
theorem sameGround_of_effect (h : Effect m action m')
    (hopen : ∀ target, action ≠ .command (.open target))
    (hcreated : ∀ process, action ≠ .targetCreatedSuspended process)
    (hattested : ∀ actual, action ≠ .acceptSandboxAttestation actual) :
    SameGround m.visible m'.visible := by
  cases h with
  | opened idle granted follows => exact absurd rfl (hopen _)
  | created opening owns provisioning fresh binary follows => exact absurd rfl (hcreated _)
  | attested awaiting owns suspended created exact_eq follows => exact absurd rfl (hattested _)
  | resumed asks stopped gate runId follows => exact .map _ _ _
  | closing asks follows => exact .map _ _ _
  | exited source follows => exact .map _ _ _
  | failed source recorded follows => exact .map _ _ _
  | closed closing released follows =>
    refine ⟨rfl, rfl, rfl, ?_⟩
    rintro s rfl
    cases released with
    | owned owns alone cleanup closes => exact ⟨_, owns, rfl, fun _ h => h⟩
  | notCreated owns alone provisioning fresh =>
    refine ⟨rfl, rfl, rfl, fun s' hs' => ?_⟩
    obtain rfl := Option.some.inj hs'
    exact ⟨_, owns, rfl, fun _ h => by simp at h⟩
  | _ => exact .refl _ _

theorem sameGround_of_observed {observations : List UnsolicitedObservation}
    (h : Observed m observations m') : SameGround m.visible m'.visible := by
  induction h with
  | nil => exact .refl _ _
  | @cons m m₁ m' observed rest effect reported batch ih =>
    refine .trans (sameGround_of_effect effect ?_ ?_ ?_) ih <;>
      intro _ h <;> cases observed <;> simp [UnsolicitedObservation.action] at h

/-- An accepted open grounds the gate it opens: the lease was available, so it was registered. -/
theorem grounded_opened {target : DebugTargetRequest} {gate : ExecutionGate}
    {sandbox : Option SandboxMachine} {inherited : Option SandboxOwnershipBinding}
    {state : SessionState} {commandId : CommandId} {e : SessionEvent}
    (hr : Registered es e.pre.machine)
    (granted : Granted (e.pre.machine.observed commandId) target gate sandbox inherited)
    (accepts : AcceptsOpen e target) (hhost : e.post.machine.hostRiskLeases = ∅)
    (hownership : e.post.machine.sandboxOwnershipLeases = ∅) :
    Grounded e.pre.machine.identity (es ++ [e]) ⟨state, some target, gate, sandbox, inherited⟩ := by
  cases granted with
  | sandboxed environment session expected_eq =>
    refine ⟨nofun, nofun, fun s p hs hp => ?_, fun s a hs ha => ?_⟩
    · obtain rfl := Option.some.inj hs
      simp at hp
    · obtain rfl := Option.some.inj hs
      simp at ha
  | hostRisk requested available session epoch operation_eq =>
    obtain ⟨rfl, hregistered⟩ := hr.hostRisk _ _ available
    refine .of_gate rfl (fun _ => ?_) nofun
    exact ⟨target, _, rfl, by rw [operation_eq]; exact requested, session, epoch, es, e, [], rfl,
      hregistered, accepts, available, by simp [hhost]⟩
  | ownedSandbox available session epoch process_eq mode_eq =>
    obtain ⟨rfl, hregistered⟩ := hr.ownership _ _ available
    refine .of_gate rfl nofun fun _ => ?_
    exact ⟨_, _, _, rfl, rfl, process_eq, mode_eq, session, epoch, es, e, [], rfl, hregistered,
      accepts, available, by simp [hownership]⟩
  | dump => exact .of_gate rfl nofun nofun
  | offline => exact .of_gate rfl nofun nofun

omit [Sha256] in
/-- New evidence of a sandbox over the same target: the gate may only become attested. -/
theorem Grounded.replace {id : SessionIdentity} {v v' : VisibleState} (h : Grounded id es v)
    (htarget : v'.target = v.target) (hinherited : v'.inheritedSandbox = v.inheritedSandbox)
    (hgate : v'.executionGate = v.executionGate ∨ v'.executionGate = .sandboxAccepted)
    (hcreated : ∀ sandbox process, v'.sandbox = some sandbox →
      sandbox.targetCreation = some (.created process) →
      Happened es (.targetCreatedSuspended process))
    (hattested : ∀ sandbox attestation, v'.sandbox = some sandbox →
      sandbox.acceptedAttestation = some attestation →
      Happened es (.acceptSandboxAttestation attestation)) : Grounded id es v' := by
  refine ⟨fun hg => ?_, fun hg => ?_, hcreated, hattested⟩
  · have hold : v.executionGate = .hostRiskAccepted := by
      rcases hgate with h | h <;> rw [h] at hg
      · exact hg
      · cases hg
    obtain ⟨target, verifier, h1, hrest⟩ := h.hostRisk hold
    exact ⟨target, verifier, htarget.trans h1, hrest⟩
  · have hold : v.executionGate = .inheritedSandbox := by
      rcases hgate with h | h <;> rw [h] at hg
      · exact hg
      · cases hg
    obtain ⟨process, mode, verifier, h1, h2, hrest⟩ := h.ownership hold
    exact ⟨process, mode, verifier, htarget.trans h1, hinherited.trans h2, hrest⟩

theorem grounded_created {id : SessionIdentity} {process : ProcessIdentity}
    (h : Grounded id es m.visible) (effect : Effect m (.targetCreatedSuspended process) m')
    (happened : Happened es (.targetCreatedSuspended process)) : Grounded id es m'.visible := by
  cases effect with
  | created opening owns provisioning fresh binary follows =>
    refine h.replace rfl rfl (.inl rfl) (fun s p hs hp => ?_) fun s a hs ha => ?_
    · obtain rfl := Option.some.inj hs
      obtain rfl : process = p := by simpa using hp
      exact happened
    · obtain rfl := Option.some.inj hs
      exact h.attested _ a owns ha

theorem grounded_attested {id : SessionIdentity} {actual : SandboxAttestation}
    (h : Grounded id es m.visible) (effect : Effect m (.acceptSandboxAttestation actual) m')
    (happened : Happened es (.acceptSandboxAttestation actual)) : Grounded id es m'.visible := by
  cases effect with
  | attested awaiting owns suspended created exact_eq follows =>
    refine h.replace rfl rfl (.inr rfl) (fun s p hs hp => ?_) fun s a hs ha => ?_
    · obtain rfl := Option.some.inj hs
      exact h.created _ p owns hp
    · obtain rfl := Option.some.inj hs
      obtain rfl : actual = a := by simpa using ha
      exact happened

/-! ### Available leases were registered -/

omit [Sha256] in
theorem available_of_slotTaken {κ ν : Type} [Ord κ] [Std.TransOrd κ]
    {leases leases' : Std.ExtTreeMap κ (Option ν) compare} {presented : Option κ} {id : κ} {v : ν}
    (h : SlotTaken leases leases' presented) (available : leases'[id]? = some (some v)) :
    leases[id]? = some (some v) := by
  rcases h with rfl | ⟨taken, value, -, -, rfl⟩
  · exact available
  · rw [Std.ExtTreeMap.getElem?_insert] at available
    split_ifs at available
    · simp at available
    · exact available

omit [Sha256] in
theorem Registered.mono {es' : List SessionEvent} (h : Registered es m) :
    Registered (es ++ es') m :=
  ⟨fun id v hv => ⟨(h.hostRisk id v hv).1, (h.hostRisk id v hv).2.mono⟩,
    fun id v hv => ⟨(h.ownership id v hv).1, (h.ownership id v hv).2.mono⟩⟩

omit [Sha256] in
/-- Fewer leases are available, so they are registered still. -/
theorem Registered.shrink (h : Registered es m)
    (hostRisk : ∀ (id : HostRiskLeaseId) (v : HostRiskVerifier),
      m'.hostRiskLeases[id]? = some (some v) → m.hostRiskLeases[id]? = some (some v))
    (ownership : ∀ (id : SandboxOwnershipLeaseId) (v : SandboxOwnershipVerifier),
      m'.sandboxOwnershipLeases[id]? = some (some v) →
      m.sandboxOwnershipLeases[id]? = some (some v)) : Registered es m' :=
  ⟨fun id v hv => h.hostRisk id v (hostRisk id v hv),
    fun id v hv => h.ownership id v (ownership id v hv)⟩

theorem Registered.effect (h : Registered es m) (effect : Effect m action m') :
    Registered es m' := by
  rcases effect.leases with ⟨-, h1, h2⟩ | ⟨-, -, -, -, -, -, h1, h2⟩
  · exact h.shrink (fun _ _ hv => h1 ▸ hv) fun _ _ hv => h2 ▸ hv
  · exact h.shrink (fun _ _ hv => by simp [h1] at hv) fun _ _ hv => by simp [h2] at hv

theorem Registered.observed {observations : List UnsolicitedObservation} (h : Registered es m)
    (hobserved : Observed m observations m') : Registered es m' := by
  induction hobserved with
  | nil => exact h
  | cons effect reported batch ih => exact ih (h.effect effect)

omit [Sha256] in
theorem happened_last {s s' : SessionSystem} {operation : SessionOperation} {result : SessionResult}
    (answer) (hok : result = .ok answer) :
    Happened (es ++ [⟨s, operation, result, s'⟩]) operation :=
  ⟨_, List.mem_append_right _ (List.mem_singleton_self _), rfl, answer, hok⟩

theorem registered_move {s s' : SessionSystem} {operation : SessionOperation}
    {result : SessionResult} (hr : Registered es s.machine)
    (h : Move s.machine operation result s'.machine) :
    Registered (es ++ [⟨s, operation, result, s'⟩]) s'.machine := by
  have hlast : ∀ answer, result = .ok answer →
      Happened (es ++ [⟨s, operation, result, s'⟩]) operation := happened_last
  have hmono : Registered (es ++ [⟨s, operation, result, s'⟩]) s.machine := hr.mono
  generalize es ++ [⟨s, operation, result, s'⟩] = history at hlast hmono ⊢
  obtain ⟨m', issued⟩ := s'
  cases h with
  | refused kept =>
    exact hmono.shrink (fun _ _ => available_of_slotTaken kept.hostRisk)
      fun _ _ => available_of_slotTaken kept.ownership
  | @registeredHostRisk verifier idle fresh =>
    refine ⟨fun id v hv => ?_, hmono.ownership⟩
    simp only [Std.ExtTreeMap.getElem?_insert] at hv
    split_ifs at hv with hid
    · obtain rfl := Option.some.inj (Option.some.inj hv)
      exact ⟨Std.LawfulEqOrd.eq_of_compare hid, hlast _ rfl⟩
    · exact hmono.hostRisk id v hv
  | @registeredOwnership verifier idle fresh =>
    refine ⟨hmono.hostRisk, fun id v hv => ?_⟩
    simp only [Std.ExtTreeMap.getElem?_insert] at hv
    split_ifs at hv with hid
    · obtain rfl := Option.some.inj (Option.some.inj hv)
      exact ⟨Std.LawfulEqOrd.eq_of_compare hid, hlast _ rfl⟩
    · exact hmono.ownership id v hv
  | accepted free newer effect =>
    exact Registered.effect (m := s.machine.observed _) ⟨hmono.hostRisk, hmono.ownership⟩ effect
  | begun begins free newer effect answered issued =>
    have hafter :=
      Registered.effect (m := s.machine.observed _) ⟨hmono.hostRisk, hmono.ownership⟩ effect
    exact ⟨hafter.hostRisk, hafter.ownership⟩
  | committed commits presents resolves answered => exact ⟨hmono.hostRisk, hmono.ownership⟩
  | restored restores presents resolves unchanged answered =>
    exact ⟨hmono.hostRisk, hmono.ownership⟩
  | observed asks effect answered => exact hmono.effect effect
  | batch observed => exact hmono.observed observed
  | retained => exact hmono

/-! ### Provenance along a run -/

/-- The history holds the origin of every lease, of the visible state, and of whatever a ticket
    could put back. -/
structure Provenance (es : List SessionEvent) (s : SessionSystem) : Prop where
  registered : Registered es s.machine
  machine : Grounded s.machine.identity es s.machine.visible
  tickets : ∀ ticket ∈ s.issued, Grounded s.machine.identity es ticket.visible

omit [Sha256] in
/-- A command that is not an open brings no authority. -/
theorem action_of_command {command : DebugCommand} (h : ∀ target, command ≠ .open target) :
    (∀ target, SessionAction.command command ≠ .command (.open target)) ∧
      (∀ process, SessionAction.command command ≠ .targetCreatedSuspended process) ∧
      ∀ actual, SessionAction.command command ≠ .acceptSandboxAttestation actual := by
  refine ⟨fun target heq => ?_, nofun, nofun⟩
  exact h target (SessionAction.command.inj heq)

/-- An accepted command keeps the visible state grounded in the longer history. -/
theorem grounded_command {s s' : SessionSystem} {operation : SessionOperation}
    {envelope : CommandEnvelope} {answer : SessionAnswer} (hp : Provenance es s)
    (hcommand : operation.command = some envelope)
    (effect : Effect (s.machine.observed envelope.commandId) (.command envelope.command) m')
    (hhost : s'.machine.hostRiskLeases = m'.hostRiskLeases)
    (hownership : s'.machine.sandboxOwnershipLeases = m'.sandboxOwnershipLeases) :
    Grounded s.machine.identity (es ++ [⟨s, operation, .ok answer, s'⟩]) m'.visible := by
  by_cases hopen : ∃ target, envelope.command = .open target
  · obtain ⟨target, htarget⟩ := hopen
    have haccepts : AcceptsOpen ⟨s, operation, .ok answer, s'⟩ target :=
      ⟨⟨envelope, hcommand, htarget⟩, answer, rfl⟩
    rw [htarget] at effect
    cases effect with
    | opened idle granted follows =>
      exact grounded_opened (e := ⟨s, operation, .ok answer, s'⟩) hp.registered granted haccepts
        hhost hownership
    | resumed asks | paused asks | refreshed asks | read asks | detached asks | closing asks =>
      cases asks
  · obtain ⟨h1, h2, h3⟩ := action_of_command fun target h => hopen ⟨target, h⟩
    exact hp.machine.mono.transfer (sameGround_of_effect
      (m := s.machine.observed _) effect h1 h2 h3)

omit [Sha256] in
theorem command_of_begins {operation : SessionOperation} {envelope : CommandEnvelope}
    (h : operation.begins = some envelope) : operation.command = some envelope := by
  cases operation <;> first | exact h | simp [SessionOperation.begins] at h

/-- An observation brings evidence only with the call that reports it. -/
theorem grounded_observation {id : SessionIdentity} {operation : SessionOperation}
    (h : Grounded id es m.visible) (asks : operation.action = some action)
    (effect : Effect m action m') (happened : Happened es operation) :
    Grounded id es m'.visible := by
  cases operation <;> simp only [SessionOperation.action, reduceCtorEq, Option.some.injEq] at asks
  case targetCreatedSuspended process =>
    subst asks
    exact grounded_created h effect happened
  case acceptSandboxAttestation actual =>
    subst asks
    exact grounded_attested h effect happened
  all_goals
    subst asks
    exact h.transfer (sameGround_of_effect effect (by simp) (by simp) (by simp))

/-- Every step keeps the origin of whatever is visible in the history. -/
theorem provenance_step {s s' : SessionSystem} {operation : SessionOperation}
    {result : SessionResult} (hc : s.Coherent) (hp : Provenance es s)
    (hstep : Step s operation result s') :
    Provenance (es ++ [⟨s, operation, result, s'⟩]) s' := by
  obtain ⟨-, hmove, hidentity, hissued⟩ := coherent_step hc hstep
  refine ⟨registered_move hp.registered hmove, ?_, fun ticket hin => ?_⟩
  · rw [hidentity]
    have hlast : ∀ answer, result = .ok answer →
        Happened (es ++ [⟨s, operation, result, s'⟩]) operation := happened_last
    obtain ⟨m', issued⟩ := s'
    cases hmove with
    | refused kept => exact kept.visible_eq ▸ hp.machine.mono
    | registeredHostRisk idle fresh => exact hp.machine.mono
    | registeredOwnership idle fresh => exact hp.machine.mono
    | accepted free newer effect => exact grounded_command hp rfl effect rfl rfl
    | @begun _ envelope answer _ m₁ begins free newer effect answered _ =>
      have hafter : Grounded s.machine.identity (es ++ [⟨s, operation, .ok answer,
          ⟨{ m₁ with pendingRemoteCommand := some envelope.commandId }, issued⟩⟩]) m₁.visible :=
        grounded_command hp (command_of_begins begins) effect rfl rfl
      exact hafter
    | committed commits presents resolves answered => exact hp.machine.mono
    | restored restores presents resolves unchanged answered =>
      exact (hp.tickets _ (hstep.2 _ presents resolves.reducer.symm)).mono
    | observed asks effect answered =>
      exact grounded_observation hp.machine.mono asks effect (hlast _ rfl)
    | batch observed => exact hp.machine.mono.transfer (sameGround_of_observed observed)
    | retained => exact hp.machine.mono
  · rw [hidentity]
    rw [hissued] at hin
    rcases List.mem_append.mp hin with hold | hnew
    · exact (hp.tickets ticket hold).mono
    · obtain ⟨-, -, hsame, -⟩ := move_ticket hmove hnew
      rw [hsame]
      exact hp.machine.mono

end Steps

/-! ### The execution gate -/

section Gate

variable [Sha256] {reducerInstance : ℕ} {sessionId : SessionId}
  {provisioningEpoch : ProvisioningEpoch} {helperBuild : HelperBuildId} {es : List SessionEvent}
  {s : SessionSystem}

theorem run_provenance
    (run : Run Step (start reducerInstance sessionId provisioningEpoch helperBuild) es s) :
    s.Coherent ∧ Provenance es s := by
  refine run.history_invariant (fun es s => s.Coherent ∧ Provenance es s)
    ⟨coherent_start _ _ _ _, ?_⟩ fun es s operation result s' _ h hstep => ?_
  · refine ⟨⟨fun _ _ h => ?_, fun _ _ h => ?_⟩, .of_gate rfl nofun nofun, fun _ h => by cases h⟩
    · simp [start, SessionMachine.new] at h
    · simp [start, SessionMachine.new] at h
  · exact ⟨(coherent_step h.1 hstep).1, provenance_step h.1 h.2 hstep⟩

/-- A session that executes has an open gate. -/
theorem gate_of_execution {id : SessionIdentity} {v : VisibleState} (hc : v.Coherent id)
    (source : v.state.kind ∈ [SessionStateKind.attestationAccepted, .stopped, .running, .pausing]) :
    v.executionGate = .hostRiskAccepted ∨ v.executionGate = .inheritedSandbox ∨
      ∃ sandbox, v.sandbox = some sandbox := by
  obtain ⟨target, htarget, hexec⟩ := hc.executable_of_execution source
  have hp := hc.provisioned target htarget
  generalize v.executionGate = gate at hp ⊢
  generalize v.sandbox = sandbox at hp ⊢
  generalize v.inheritedSandbox = inherited at hp
  cases hp with
  | sandboxed environment session expected => exact .inr (.inr ⟨_, rfl⟩)
  | hostRisk requested => exact .inl rfl
  | ownedSandbox session epoch process_eq mode_eq => exact .inr (.inl rfl)
  | dump => cases hexec
  | offline => cases hexec

/-- A sandbox whose session executes was attested in the history. -/
theorem attestationAuthorised_of_execution {id : SessionIdentity} {v : VisibleState}
    (hc : v.Coherent id) (hg : Grounded id es v)
    (source : v.state.kind ∈ [SessionStateKind.attestationAccepted, .stopped, .running, .pausing])
    {sandbox : SandboxMachine} (hs : v.sandbox = some sandbox) :
    AttestationAuthorised id es v := by
  obtain ⟨launch, policy, htarget, henv, -, hexpected, -, -⟩ := hc.launch_of_sandbox hs
  obtain ⟨attestation, ha⟩ :=
    Option.isSome_iff_exists.mp (hc.accepted_of_execution source hs).1
  obtain ⟨process, hprocess, rfl⟩ := (hc.sandbox sandbox hs).attested attestation ha
  exact ⟨launch, policy, sandbox, process, htarget, henv, hs, hexpected, hprocess, ha,
    hg.created sandbox process hs hprocess, hg.attested sandbox _ hs ha⟩

/-- CORRECT (execution gate): along every run, a session that is attested, stopped, running or
    pausing was authorised. A sandboxed launch was attested before it stopped or ran, and a dump or
    an offline target never stops or runs. -/
theorem execution_authorised
    (run : Run Step (start reducerInstance sessionId provisioningEpoch helperBuild) es s) :
    (s.machine.state.kind ∈ [SessionStateKind.attestationAccepted, .stopped, .running, .pausing] →
      Authorised s.machine.identity es s.machine.visible) ∧
    (∀ launch policy, s.machine.target = some (.launch launch) →
      launch.environment = .sandboxed policy →
      s.machine.state.kind ∈ [SessionStateKind.stopped, .running] →
      AttestationAuthorised s.machine.identity es s.machine.visible) ∧
    ∀ path, s.machine.target = some (.dump path) ∨ s.machine.target = some (.offline path) →
      s.machine.state.kind ∉ [SessionStateKind.stopped, .running] := by
  obtain ⟨hc, hp⟩ := run_provenance run
  have hwiden : s.machine.state.kind ∈ [SessionStateKind.stopped, .running] →
      s.machine.visible.state.kind ∈
        [SessionStateKind.attestationAccepted, .stopped, .running, .pausing] := by
    simp only [SessionMachine.visible, List.mem_cons, List.not_mem_nil]
    tauto
  refine ⟨fun source => ?_, fun launch policy htarget henv source => ?_,
    fun path hpath source => ?_⟩
  · rcases gate_of_execution hc.machine source with hgate | hgate | ⟨sandbox, hs⟩
    · exact .inl (hp.machine.hostRisk hgate)
    · exact .inr (.inl (hp.machine.ownership hgate))
    · exact .inr (.inr (attestationAuthorised_of_execution hc.machine hp.machine source hs))
  · obtain ⟨sandbox, hs⟩ : ∃ sandbox, s.machine.visible.sandbox = some sandbox := by
      have hprovisioned := hc.machine.provisioned _ htarget
      generalize s.machine.visible.executionGate = gate at hprovisioned
      generalize s.machine.visible.sandbox = sandbox at hprovisioned ⊢
      generalize s.machine.visible.inheritedSandbox = inherited at hprovisioned
      cases hprovisioned with
      | sandboxed environment session expected => exact ⟨_, rfl⟩
      | hostRisk requested => simp [DebugTargetRequest.hostRiskOperation, henv] at requested
    exact attestationAuthorised_of_execution hc.machine hp.machine (hwiden source) hs
  · obtain ⟨target, htarget, hexec⟩ := hc.machine.executable_of_execution (hwiden source)
    change s.machine.target = some target at htarget
    rcases hpath with hpath | hpath
    · obtain rfl := Option.some.inj (hpath.symm.trans htarget)
      cases hexec
    · obtain rfl := Option.some.inj (hpath.symm.trans htarget)
      cases hexec

end Gate

theorem execution_authorised_sampleAttach :
    (execute (@call sampleHash) sampleStart sampleAttach).2.machine.state.kind = .stopped ∧
    @Authorised sampleHash (execute (@call sampleHash) sampleStart sampleAttach).2.machine.identity
      (execute (@call sampleHash) sampleStart sampleAttach).1
      (execute (@call sampleHash) sampleStart sampleAttach).2.machine.visible :=
  ⟨by decide, (@execution_authorised sampleHash _ _ _ _ _ _
    (@run_calls sampleHash sampleStart sampleAttach (by decide))).1 (by decide)⟩

end ReSymbol.Debugger.SessionSystem
