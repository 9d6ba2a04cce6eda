import ReSymbol.Debugger.SessionAuthority

/-! Authority is used once, and tokens are never issued twice.

    A rollback puts the visible state back but neither a consumed lease nor a watermark. So over a
    whole run a lease opens at most as many targets as it was registered for, and the ids of
    accepted commands, stops and runs only grow. The generation of the visible state moves by one,
    by the length of an accepted batch of observations, or back to the state a ticket was issued
    on. -/

namespace ReSymbol.Debugger
open Schemes Schemes.Reducer

/-! ### Lease slots -/

section Slots

variable {κ ν : Type} [Ord κ] [Std.TransOrd κ] [Std.LawfulEqOrd κ] [DecidableEq κ]

/-- Whether the slot of a lease still holds its verifier. -/
def slot (leases : Std.ExtTreeMap κ (Option ν) compare) (id : κ) : ℕ :=
  leases[id]?.join.isSome.toNat

/-- What one call does to a lease map. -/
inductive SlotMove (leases leases' : Std.ExtTreeMap κ (Option ν) compare)
    (presented registered : Option κ) : Bool → Prop
  | refused (taken : SlotTaken leases leases' presented) :
      SlotMove leases leases' presented registered false
  | registered {id : κ} {v : ν} (asks : registered = some id) (presents : presented = none)
      (inserted : leases' = leases.insert id (some v)) :
      SlotMove leases leases' presented registered true
  | kept (presents : presented = none) (same : leases' = leases) :
      SlotMove leases leases' presented registered true
  | opened (available : ∀ id, presented = some id → slot leases id = 1) (dropped : leases' = ∅) :
      SlotMove leases leases' presented registered true

omit [Std.LawfulEqOrd κ] [DecidableEq κ] in
theorem slot_le_one (leases : Std.ExtTreeMap κ (Option ν) compare) (id : κ) :
    slot leases id ≤ 1 := Bool.toNat_le _

omit [Std.LawfulEqOrd κ] [DecidableEq κ] in
theorem slot_of_available {leases : Std.ExtTreeMap κ (Option ν) compare} {id : κ} {v : ν}
    (h : leases[id]? = some (some v)) : slot leases id = 1 := by
  simp [slot, h]

omit [Std.LawfulEqOrd κ] [DecidableEq κ] in
theorem slot_le_of_taken {leases leases' : Std.ExtTreeMap κ (Option ν) compare}
    {presented : Option κ} (h : SlotTaken leases leases' presented) (id : κ) :
    slot leases' id ≤ slot leases id := by
  rcases h with rfl | ⟨taken, value, -, -, rfl⟩
  · exact le_refl _
  · unfold slot
    rw [Std.ExtTreeMap.getElem?_insert]
    split_ifs
    · simp
    · exact le_refl _

theorem slot_insert_le (leases : Std.ExtTreeMap κ (Option ν) compare) (id id' : κ) (v : ν) :
    slot (leases.insert id (some v)) id' ≤ slot leases id' +
      (decide (some id = some id')).toNat := by
  by_cases heq : id = id'
  · simpa [heq] using (slot_le_one _ id').trans (Nat.le_add_left 1 _)
  · have hne : compare id id' ≠ .eq := fun h => heq (Std.LawfulEqOrd.eq_of_compare h)
    simp [slot, Std.ExtTreeMap.getElem?_insert, hne, heq]

/-- A lease is used only while its slot is full, and only a registration fills it. -/
theorem slot_move {leases leases' : Std.ExtTreeMap κ (Option ν) compare}
    {presented registered : Option κ} {ok : Bool}
    (h : SlotMove leases leases' presented registered ok) (id : κ) :
    (ok && decide (presented = some id)).toNat + slot leases' id ≤
      slot leases id + (ok && decide (registered = some id)).toNat := by
  cases h with
  | refused taken => simpa using slot_le_of_taken taken id
  | registered asks presents inserted =>
    subst asks presents inserted
    simpa using slot_insert_le leases _ id _
  | kept presents same =>
    subst presents same
    simp
  | opened available dropped =>
    subst dropped
    have hempty : slot (∅ : Std.ExtTreeMap κ (Option ν) compare) id = 0 := by simp [slot]
    rw [hempty]
    by_cases hp : presented = some id
    · simp [hp, available id hp]
    · simp [hp]

end Slots

/-- The host-risk lease an operation registers. -/
def SessionOperation.registersHostRisk : SessionOperation → Option HostRiskLeaseId
  | registerHostRiskVerifier verifier => some verifier.id
  | _ => none

/-- The ownership lease an operation registers. -/
def SessionOperation.registersOwnership : SessionOperation → Option SandboxOwnershipLeaseId
  | registerSandboxOwnershipVerifier verifier => some verifier.id
  | _ => none

/-- The observations an operation replays. -/
def SessionOperation.batch : SessionOperation → Option (List UnsolicitedObservation)
  | applyUnsolicitedObservations observations => some observations
  | _ => none

/-- The stop id a state carries. -/
def SessionState.stopIds : SessionState → List ℕ
  | .stopped token _ _ => [token.stopId.val]
  | _ => []

/-- The run id a state carries. -/
def SessionState.runIds : SessionState → List ℕ
  | .running token => [token.runId.val]
  | _ => []

namespace SessionSystem

/-- The ids in the states a call newly issues: those of an accepted batch, or that of the new
    visible state. A state that is put back is not issued. -/
def issuedBy (ids : SessionState → List ℕ) (m : SessionMachine) (operation : SessionOperation)
    (result : SessionResult) (m' : SessionMachine) : List ℕ :=
  match result, operation.batch with
  | .error _, _ => []
  | .ok _, some observations => observations.flatMap (ids ·.state)
  | .ok _, none => if operation.restores = true ∨ m'.state = m.state then [] else ids m'.state

/-- The id of the command a call accepts. -/
def acceptedBy (operation : SessionOperation) (result : SessionResult) : List ℕ :=
  match result with
  | .error _ => []
  | .ok _ => (operation.command.map (·.commandId.val)).toList

section Moves

variable [Sha256] {m m' : SessionMachine} {operation : SessionOperation} {result : SessionResult}
  {action : SessionAction} {command : DebugCommand}

omit [Sha256] in
theorem presentedLeases_of_begins {envelope : CommandEnvelope}
    (h : operation.begins = some envelope) :
    operation.presentedLeases = envelope.command.presentedLeases := by
  cases operation <;> simp [SessionOperation.begins] at h <;> rw [← h] <;> rfl

omit [Sha256] in
theorem presentedLeases_of_action (h : operation.action = some action) :
    operation.presentedLeases = .none := by
  cases operation <;> first | rfl | simp [SessionOperation.action] at h

omit [Sha256] in
theorem presentedLeases_of_checkpoint {checkpoint : RemoteCommandCheckpoint}
    (h : operation.presentedCheckpoint = some checkpoint) :
    operation.presentedLeases = .none := by
  cases operation <;> first | rfl | simp [SessionOperation.presentedCheckpoint] at h

omit [Sha256] in
/-- Only an open presents leases. -/
theorem presentedLeases_of_not_open (h : ∀ target, command ≠ .open target) :
    command.presentedLeases = .none := by
  cases command <;> first | rfl | exact absurd rfl (h _)

/-- Whatever lease a granted target presents was available. -/
theorem available_of_granted {target : DebugTargetRequest} {gate : ExecutionGate}
    {sandbox : Option SandboxMachine} {inherited : Option SandboxOwnershipBinding}
    (h : Granted m target gate sandbox inherited) :
    (∀ id, target.presentedLeases.hostRisk = some id → slot m.hostRiskLeases id = 1) ∧
      ∀ id, target.presentedLeases.ownership = some id → slot m.sandboxOwnershipLeases id = 1 := by
  cases h with
  | sandboxed environment session expected_eq =>
    simp [DebugTargetRequest.presentedLeases, DebugTargetRequest.hostRiskOperation, environment,
      DebugTargetRequest.ownershipLease]
  | @hostRisk target riskLease operation verifier requested available session epoch operation_eq =>
    have hownership : target.ownershipLease = none := by
      cases target with
      | attach attach =>
        obtain ⟨scope, mode⟩ := attach
        cases scope with
        | host process lease => rfl
        | ownedSandbox process lease => simp [DebugTargetRequest.hostRiskOperation] at requested
      | _ => rfl
    refine ⟨fun id hid => ?_, fun id hid => ?_⟩
    · obtain rfl : riskLease = id := by
        simpa [DebugTargetRequest.presentedLeases, requested] using hid
      exact slot_of_available available
    · simp [DebugTargetRequest.presentedLeases, hownership] at hid
  | @ownedSandbox process lease mode verifier available session epoch process_eq mode_eq =>
    refine ⟨fun id hid => ?_, fun id hid => ?_⟩
    · simp [DebugTargetRequest.presentedLeases, DebugTargetRequest.hostRiskOperation] at hid
    · obtain rfl : lease = id := by
        simpa [DebugTargetRequest.presentedLeases, DebugTargetRequest.ownershipLease] using hid
      exact slot_of_available available
  | dump | offline =>
    constructor
    all_goals
      intro id hid
      cases hid

/-- An accepted command uses leases that were available, and an open then drops all of them. -/
theorem slotMove_command (effect : Effect m (.command command) m')
    (hostRisk : Option HostRiskLeaseId) (ownership : Option SandboxOwnershipLeaseId) :
    SlotMove m.hostRiskLeases m'.hostRiskLeases command.presentedLeases.hostRisk hostRisk true ∧
      SlotMove m.sandboxOwnershipLeases m'.sandboxOwnershipLeases
        command.presentedLeases.ownership ownership true := by
  rcases effect.leases with ⟨hother, h1, h2⟩ |
    ⟨target, gate, sandbox, inherited, hopen, granted, h1, h2⟩
  · have hnone : command.presentedLeases = .none :=
      presentedLeases_of_not_open fun target h => hother target (by rw [h])
    rw [hnone]
    exact ⟨.kept rfl h1, .kept rfl h2⟩
  · obtain rfl := SessionAction.command.inj hopen
    obtain ⟨hrisk, howner⟩ := available_of_granted granted
    exact ⟨.opened hrisk h1, .opened howner h2⟩

theorem lastCommandId_of_observed {observations : List UnsolicitedObservation}
    (h : Observed m observations m') : m'.lastCommandId = m.lastCommandId := by
  induction h with
  | nil => rfl
  | cons effect reported batch ih => exact ih.trans effect.frame.2.1

theorem leases_of_observed {observations : List UnsolicitedObservation}
    (h : Observed m observations m') :
    m'.hostRiskLeases = m.hostRiskLeases ∧
      m'.sandboxOwnershipLeases = m.sandboxOwnershipLeases := by
  induction h with
  | nil => exact ⟨rfl, rfl⟩
  | @cons m m₁ m' observed rest effect reported batch ih =>
    rcases effect.leases with ⟨-, h1, h2⟩ | ⟨target, -, -, -, hopen, -⟩
    · exact ⟨ih.1.trans h1, ih.2.trans h2⟩
    · cases observed <;> cases hopen

/-- What a move does to both lease maps. -/
theorem slotMove_of_move (h : Move m operation result m') :
    SlotMove m.hostRiskLeases m'.hostRiskLeases operation.presentedLeases.hostRisk
        operation.registersHostRisk result.isOk ∧
      SlotMove m.sandboxOwnershipLeases m'.sandboxOwnershipLeases
        operation.presentedLeases.ownership operation.registersOwnership result.isOk := by
  cases h with
  | refused kept => exact ⟨.refused kept.hostRisk, .refused kept.ownership⟩
  | registeredHostRisk idle fresh => exact ⟨.registered rfl rfl rfl, .kept rfl rfl⟩
  | registeredOwnership idle fresh => exact ⟨.kept rfl rfl, .registered rfl rfl rfl⟩
  | accepted free newer effect => exact slotMove_command effect _ _
  | begun begins free newer effect answered issued =>
    rw [presentedLeases_of_begins begins]
    exact slotMove_command effect _ _
  | committed commits presents resolves answered =>
    rw [presentedLeases_of_checkpoint presents]
    exact ⟨.kept rfl rfl, .kept rfl rfl⟩
  | restored restores presents resolves unchanged answered =>
    rw [presentedLeases_of_checkpoint presents]
    exact ⟨.kept rfl rfl, .kept rfl rfl⟩
  | @observed operation action answer m' asks effect answered =>
    rw [presentedLeases_of_action asks]
    rcases effect.leases with ⟨-, h1, h2⟩ | ⟨target, -, -, -, hopen, -⟩
    · exact ⟨.kept rfl h1, .kept rfl h2⟩
    · subst hopen
      cases operation <;> simp [SessionOperation.action] at asks
  | batch observed =>
    obtain ⟨h1, h2⟩ := leases_of_observed observed
    exact ⟨.kept rfl h1, .kept rfl h2⟩
  | retained => exact ⟨.kept rfl rfl, .kept rfl rfl⟩

/-! ### Watermarks -/

/-- A number that no operation lowers and that bounds the ids of every state issued so far. -/
structure Watermark (mark : SessionMachine → ℕ) (ids : SessionState → List ℕ) : Prop where
  single : ∀ state, (ids state).length ≤ 1
  same : ∀ m m', m'.lastStopId = m.lastStopId → m'.lastRunId = m.lastRunId → mark m' = mark m
  kept : ∀ presented m m', Kept presented m m' → mark m ≤ mark m'
  effect : ∀ m action m', Effect m action m' → mark m ≤ mark m' ∧
    (m'.state ≠ m.state → ∀ n ∈ ids m'.state, mark m < n ∧ n ≤ mark m')

theorem stopWatermark : Watermark (·.lastStopId) SessionState.stopIds where
  single state := by cases state <;> simp [SessionState.stopIds]
  same _ _ h _ := h
  kept _ _ _ h := h.stop
  effect m action m' h := by
    cases h with
    | refreshed asks stopped stopId follows => simp [SessionState.stopIds, stopId]
    | stopped source gate opening stopId follows => simp [SessionState.stopIds, stopId]
    | @completed target next opening retained completes follows =>
      cases target <;> cases next <;> first | exact completes.elim | simp [SessionState.stopIds]
    | read asks source => simp
    | notCreated owns alone provisioning fresh => simp
    | _ => simp [SessionState.stopIds]

theorem runWatermark : Watermark (·.lastRunId) SessionState.runIds where
  single state := by cases state <;> simp [SessionState.runIds]
  same _ _ _ h := h
  kept _ _ _ h := h.run
  effect m action m' h := by
    cases h with
    | resumed asks stopped gate runId follows => simp [SessionState.runIds, runId]
    | @completed target next opening retained completes follows =>
      cases target <;> cases next <;> first | exact completes.elim | simp [SessionState.runIds]
    | read asks source => simp
    | notCreated owns alone provisioning fresh => simp
    | _ => simp [SessionState.runIds]

omit [Sha256] in
theorem pairwise_of_single {l : List ℕ} (h : l.length ≤ 1) : l.Pairwise (· < ·) := by
  match l with
  | [] => exact .nil
  | [a] => exact List.pairwise_singleton _ a
  | _ :: _ :: _ => simp at h

/-- Observations of a batch issue growing ids. -/
theorem issued_of_observed {mark : SessionMachine → ℕ} {ids : SessionState → List ℕ}
    (hw : Watermark mark ids) {observations : List UnsolicitedObservation}
    (h : Observed m observations m') :
    mark m ≤ mark m' ∧ (observations.flatMap (ids ·.state)).Pairwise (· < ·) ∧
      ∀ n ∈ observations.flatMap (ids ·.state), mark m < n ∧ n ≤ mark m' := by
  induction h with
  | nil => simp
  | @cons m m₁ m' observed rest effect reported batch ih =>
    obtain ⟨hle, hfresh⟩ := hw.effect _ _ _ effect
    obtain ⟨hle', hpair, hrange⟩ := ih
    have hmoved : m₁.state ≠ m.state := by
      intro heq
      have hfollows : m.state.Follows m₁.state := by
        cases observed <;> cases effect <;> assumption
      have hgen := hfollows.generation
      rw [heq] at hgen
      omega
    have hfirst := hfresh hmoved
    rw [reported] at hfirst
    refine ⟨hle.trans hle', ?_, fun n hn => ?_⟩
    · rw [List.flatMap_cons, List.pairwise_append]
      exact ⟨pairwise_of_single (hw.single _), hpair,
        fun a ha b hb => lt_of_le_of_lt (hfirst a ha).2 (hrange b hb).1⟩
    · rw [List.flatMap_cons, List.mem_append] at hn
      rcases hn with hn | hn
      · exact ⟨(hfirst n hn).1, (hfirst n hn).2.trans hle'⟩
      · exact ⟨lt_of_le_of_lt hle (hrange n hn).1, (hrange n hn).2⟩

omit [Sha256] in
/-- A call that is not a batch issues at most the new visible state. -/
theorem issued_of_state {mark : SessionMachine → ℕ} {ids : SessionState → List ℕ}
    {answer : SessionAnswer} (hsingle : ∀ state, (ids state).length ≤ 1)
    (hbatch : operation.batch = none) (hle : mark m ≤ mark m')
    (hfresh : operation.restores = false → m'.state ≠ m.state →
      ∀ n ∈ ids m'.state, mark m < n ∧ n ≤ mark m') :
    mark m ≤ mark m' ∧ (issuedBy ids m operation (.ok answer) m').Pairwise (· < ·) ∧
      ∀ n ∈ issuedBy ids m operation (.ok answer) m', mark m < n ∧ n ≤ mark m' := by
  refine ⟨hle, ?_⟩
  simp only [issuedBy, hbatch]
  split_ifs with h
  · exact ⟨.nil, nofun⟩
  · simp only [not_or, Bool.not_eq_true] at h
    exact ⟨pairwise_of_single (hsingle _), hfresh h.1 h.2⟩

omit [Sha256] in
theorem batch_of_begins {envelope : CommandEnvelope} (h : operation.begins = some envelope) :
    operation.batch = none ∧ operation.restores = false := by
  cases operation <;> first | exact ⟨rfl, rfl⟩ | simp [SessionOperation.begins] at h

omit [Sha256] in
theorem batch_of_checkpoint {checkpoint : RemoteCommandCheckpoint}
    (h : operation.presentedCheckpoint = some checkpoint) :
    operation.batch = none ∧ operation.command = none := by
  cases operation <;> first | exact ⟨rfl, rfl⟩ | simp [SessionOperation.presentedCheckpoint] at h

omit [Sha256] in
theorem batch_of_action (h : operation.action = some action) :
    operation.batch = none ∧ operation.restores = false ∧ operation.command = none := by
  cases operation <;> first | exact ⟨rfl, rfl, rfl⟩ | simp [SessionOperation.action] at h

/-- Every move issues ids above the watermark and raises it to them. -/
theorem issued_of_move {mark : SessionMachine → ℕ} {ids : SessionState → List ℕ}
    (hw : Watermark mark ids) (h : Move m operation result m') :
    mark m ≤ mark m' ∧ (issuedBy ids m operation result m').Pairwise (· < ·) ∧
      ∀ n ∈ issuedBy ids m operation result m', mark m < n ∧ n ≤ mark m' := by
  -- the id of a command and the pending command do not enter the watermark
  have hcommand : ∀ {commandId command m₁}, Effect (m.observed commandId) (.command command) m₁ →
      mark m ≤ mark m₁ ∧ (m₁.state ≠ m.state → ∀ n ∈ ids m₁.state, mark m < n ∧ n ≤ mark m₁) := by
    intro commandId command m₁ effect
    have heffect := hw.effect _ _ _ effect
    rwa [hw.same m (m.observed commandId) rfl rfl] at heffect
  have hsame : ∀ {m₁ m₂ : SessionMachine}, m₂.lastStopId = m₁.lastStopId →
      m₂.lastRunId = m₁.lastRunId → mark m₁ ≤ mark m₂ := fun h1 h2 => (hw.same _ _ h1 h2).ge
  cases h with
  | refused kept => exact ⟨hw.kept _ _ _ kept, .nil, nofun⟩
  | registeredHostRisk idle fresh =>
    exact issued_of_state hw.single rfl (hsame rfl rfl) fun _ h => absurd rfl h
  | registeredOwnership idle fresh =>
    exact issued_of_state hw.single rfl (hsame rfl rfl) fun _ h => absurd rfl h
  | accepted free newer effect =>
    exact issued_of_state hw.single rfl (hcommand effect).1 fun _ => (hcommand effect).2
  | @begun _ _ _ _ m₁ begins free newer effect answered issued =>
    obtain ⟨hle, hfresh⟩ := hcommand effect
    refine issued_of_state hw.single (batch_of_begins begins).1 ?_ fun _ hmoved n hn => ?_
    · exact hle.trans (hsame rfl rfl)
    · exact ⟨(hfresh hmoved n hn).1, (hfresh hmoved n hn).2.trans (hsame rfl rfl)⟩
  | committed commits presents resolves answered =>
    exact issued_of_state hw.single (batch_of_checkpoint presents).1 (hsame rfl rfl)
      fun _ h => absurd rfl h
  | restored restores presents resolves unchanged answered =>
    exact issued_of_state hw.single (batch_of_checkpoint presents).1 (hsame rfl rfl)
      fun h => by simp [restores] at h
  | observed asks effect answered =>
    obtain ⟨hle, hfresh⟩ := hw.effect _ _ _ effect
    exact issued_of_state hw.single (batch_of_action asks).1 hle fun _ => hfresh
  | batch observed => exact issued_of_observed hw observed
  | retained => exact issued_of_state hw.single rfl le_rfl fun _ h => absurd rfl h

/-- The last command id as a number, zero before the first. -/
def commandMark (m : SessionMachine) : ℕ := m.lastCommandId.elim 0 (·.val)

omit [Sha256] in
theorem commandMark_lt {commandId : CommandId} (newer : NewerCommand m.lastCommandId commandId) :
    commandMark m < commandId.val := by
  unfold commandMark
  cases hlast : m.lastCommandId with
  | none => exact Nat.pos_of_ne_zero commandId.ne_zero
  | some last => exact newer last hlast

/-- Every accepted command has an id above all earlier ones, accepted or not. -/
theorem accepted_of_move (h : Move m operation result m') :
    commandMark m ≤ commandMark m' ∧ (acceptedBy operation result).Pairwise (· < ·) ∧
      ∀ n ∈ acceptedBy operation result, commandMark m < n ∧ n ≤ commandMark m' := by
  have hnone : ∀ {answer : SessionAnswer}, operation.command = none →
      m'.lastCommandId = m.lastCommandId →
      commandMark m ≤ commandMark m' ∧ (acceptedBy operation (.ok answer)).Pairwise (· < ·) ∧
        ∀ n ∈ acceptedBy operation (.ok answer), commandMark m < n ∧ n ≤ commandMark m' := by
    intro answer hcommand hlast
    simp [acceptedBy, hcommand, commandMark, hlast]
  have hsome : ∀ {answer : SessionAnswer} {envelope : CommandEnvelope},
      operation.command = some envelope → NewerCommand m.lastCommandId envelope.commandId →
      m'.lastCommandId = some envelope.commandId →
      commandMark m ≤ commandMark m' ∧ (acceptedBy operation (.ok answer)).Pairwise (· < ·) ∧
        ∀ n ∈ acceptedBy operation (.ok answer), commandMark m < n ∧ n ≤ commandMark m' := by
    intro answer envelope hcommand newer hlast
    have hlt := commandMark_lt newer
    have hmark : commandMark m' = envelope.commandId.val := by simp [commandMark, hlast]
    simp [acceptedBy, hcommand, hmark, hlt, hlt.le]
  cases h with
  | refused kept =>
    refine ⟨?_, .nil, nofun⟩
    rcases kept.command with hlast | ⟨commandId, hlast, newer⟩
    · simp [commandMark, hlast]
    · have hmark : commandMark m' = commandId.val := by simp [commandMark, hlast]
      exact hmark ▸ (commandMark_lt newer).le
  | registeredHostRisk idle fresh => exact hnone rfl rfl
  | registeredOwnership idle fresh => exact hnone rfl rfl
  | accepted free newer effect => exact hsome rfl newer effect.frame.2.1
  | begun begins free newer effect answered issued =>
    exact hsome (command_of_begins begins) newer effect.frame.2.1
  | committed commits presents resolves answered =>
    exact hnone (batch_of_checkpoint presents).2 rfl
  | restored restores presents resolves unchanged answered =>
    exact hnone (batch_of_checkpoint presents).2 rfl
  | observed asks effect answered => exact hnone (batch_of_action asks).2.2 effect.frame.2.1
  | batch observed => exact hnone rfl (lastCommandId_of_observed observed)
  | retained => exact hnone rfl rfl

/-! ### Generations -/

theorem generation_of_effect (h : Effect m action m') :
    m'.state.generation = m.state.generation ∨
      m'.state.generation = m.state.generation + 1 := by
  rcases h.state with hsame | hfollows
  · exact .inl (by rw [hsame])
  · exact .inr hfollows.generation

theorem generation_of_observed {observations : List UnsolicitedObservation}
    (h : Observed m observations m') :
    m'.state.generation = m.state.generation + observations.length := by
  induction h with
  | nil => rfl
  | @cons m m₁ m' observed rest effect reported batch ih =>
    have hfollows : m.state.Follows m₁.state := by
      cases observed <;> cases effect <;> assumption
    rw [ih, hfollows.generation, List.length_cons]
    omega

/-- How one call moves the visible generation, given the calls before it. -/
structure GenerationMoves (earlier : List SessionEvent) (e : SessionEvent) : Prop where
  /-- A rejected command puts back the very state it was begun on. -/
  restored : e.input.restores = true → e.output.isOk = true →
    ∃ begun ∈ earlier, ∃ ticket ∈ tickets begun.output,
      e.input.presentedCheckpoint = some ticket ∧
      e.post.machine.state = begun.pre.machine.state
  /-- An accepted batch advances once for each observation. -/
  batch : ∀ observations, e.input.batch = some observations → e.output.isOk = true →
    e.post.machine.state.generation = e.pre.machine.state.generation + observations.length
  /-- Every other call, and every call that fails, advances at most once. -/
  other : (e.output.isOk = true → e.input.restores = false ∧ e.input.batch = none) →
    e.post.machine.state.generation = e.pre.machine.state.generation ∨
      e.post.machine.state.generation = e.pre.machine.state.generation + 1

/-- The visible state of every ticket is the one its command was begun on. -/
def TicketsIssued (es : List SessionEvent) (s : SessionSystem) : Prop :=
  ∀ ticket ∈ s.issued, ∃ begun ∈ es, ticket ∈ tickets begun.output ∧
    begun.pre.machine.visible = ticket.visible

theorem ticketsIssued_step {es : List SessionEvent} {s s' : SessionSystem} (hc : s.Coherent)
    (hissued : TicketsIssued es s) (hstep : Step s operation result s') :
    TicketsIssued (es ++ [⟨s, operation, result, s'⟩]) s' := by
  obtain ⟨-, hmove, -, happend⟩ := coherent_step hc hstep
  intro ticket hin
  rw [happend] at hin
  rcases List.mem_append.mp hin with hold | hnew
  · obtain ⟨begun, hbegun, hrest⟩ := hissued ticket hold
    exact ⟨begun, List.mem_append_left _ hbegun, hrest⟩
  · obtain ⟨-, -, hsame, -⟩ := move_ticket hmove hnew
    exact ⟨_, List.mem_append_right _ (List.mem_singleton_self _), hnew, hsame.symm⟩

theorem generationMoves_step {es : List SessionEvent} {s s' : SessionSystem} (hc : s.Coherent)
    (hissued : TicketsIssued es s) (hstep : Step s operation result s') :
    GenerationMoves es ⟨s, operation, result, s'⟩ := by
  obtain ⟨-, hmove, -, -⟩ := coherent_step hc hstep
  obtain ⟨m', issued⟩ := s'
  have hplain : ∀ {r : SessionResult}, operation.restores = false → operation.batch = none →
      (m'.state.generation = s.machine.state.generation ∨
        m'.state.generation = s.machine.state.generation + 1) →
      GenerationMoves es ⟨s, operation, r, ⟨m', issued⟩⟩ := by
    intro r hrestores hbatch hgeneration
    exact ⟨fun h => by simp [hrestores] at h, fun _ h => by simp [hbatch] at h,
      fun _ => hgeneration⟩
  cases hmove with
  | refused kept =>
    refine ⟨nofun, nofun, fun _ => .inl ?_⟩
    exact congrArg (·.state.generation) kept.visible_eq
  | registeredHostRisk idle fresh => exact hplain rfl rfl (.inl rfl)
  | registeredOwnership idle fresh => exact hplain rfl rfl (.inl rfl)
  | accepted free newer effect =>
    have hgeneration := generation_of_effect effect
    exact hplain rfl rfl hgeneration
  | begun begins free newer effect answered issued =>
    obtain ⟨hbatch, hrestores⟩ := batch_of_begins begins
    have hgeneration := generation_of_effect effect
    exact hplain hrestores hbatch hgeneration
  | committed commits presents resolves answered =>
    have hrestores : operation.restores = false := by
      cases operation <;> first | rfl | simp [SessionOperation.commits] at commits
    exact hplain hrestores (batch_of_checkpoint presents).1 (.inl rfl)
  | @restored _ answer checkpoint restores presents resolves unchanged answered =>
    refine ⟨fun _ _ => ?_, fun _ h => ?_, fun h => ?_⟩
    · obtain ⟨begun, hbegun, hticket, hvisible⟩ :=
        hissued checkpoint (hstep.2 checkpoint presents resolves.reducer.symm)
      exact ⟨begun, hbegun, checkpoint, hticket, presents,
        (congrArg VisibleState.state hvisible).symm⟩
    · simp [(batch_of_checkpoint presents).1] at h
    · simp [(h rfl).1] at restores
  | observed asks effect answered =>
    obtain ⟨hbatch, hrestores, -⟩ := batch_of_action asks
    exact hplain hrestores hbatch (generation_of_effect effect)
  | @batch observations _ observed =>
    refine ⟨nofun, fun _ h _ => ?_, fun h => ?_⟩
    · obtain rfl := Option.some.inj h
      exact generation_of_observed observed
    · cases (h rfl).2
  | retained => exact hplain rfl rfl (.inl rfl)

end Moves

/-! ### Freshness over whole runs -/

/-- How often a host-risk lease was registered, and how many accepted opens it authorised. -/
def hostRiskRegistrations (id : HostRiskLeaseId) (es : List SessionEvent) : ℕ :=
  es.countP fun e => e.output.isOk && decide (e.input.registersHostRisk = some id)

def hostRiskOpens (id : HostRiskLeaseId) (es : List SessionEvent) : ℕ :=
  es.countP fun e => e.output.isOk && decide (e.input.presentedLeases.hostRisk = some id)

/-- The same for an ownership lease. -/
def ownershipRegistrations (id : SandboxOwnershipLeaseId) (es : List SessionEvent) : ℕ :=
  es.countP fun e => e.output.isOk && decide (e.input.registersOwnership = some id)

def ownershipOpens (id : SandboxOwnershipLeaseId) (es : List SessionEvent) : ℕ :=
  es.countP fun e => e.output.isOk && decide (e.input.presentedLeases.ownership = some id)

/-- The ids of the commands, stops and runs a history issued, in order. -/
def acceptedCommands (es : List SessionEvent) : List ℕ :=
  es.flatMap fun e => acceptedBy e.input e.output

def issuedIds (ids : SessionState → List ℕ) (es : List SessionEvent) : List ℕ :=
  es.flatMap fun e => issuedBy ids e.pre.machine e.input e.output e.post.machine

section Freshness

variable [Sha256] {reducerInstance : ℕ} {sessionId : SessionId}
  {provisioningEpoch : ProvisioningEpoch} {helperBuild : HelperBuildId} {es : List SessionEvent}
  {s : SessionSystem}

theorem hostRiskOpens_le
    (run : Run Step (start reducerInstance sessionId provisioningEpoch helperBuild) es s)
    (id : HostRiskLeaseId) : hostRiskOpens id es ≤ hostRiskRegistrations id es := by
  have h := run.used_le_provided (fun s => slot s.machine.hostRiskLeases id)
    (fun e => e.output.isOk && decide (e.input.presentedLeases.hostRisk = some id))
    (fun e => e.output.isOk && decide (e.input.registersHostRisk = some id)) Coherent
    (coherent_start _ _ _ _) (by simp [slot, start, SessionMachine.new])
    fun s i o s' hc hstep => by
      obtain ⟨hc', hmove, -⟩ := coherent_step hc hstep
      exact ⟨hc', slot_move (slotMove_of_move hmove).1 id⟩
  exact (Nat.le_add_right _ _).trans h

theorem ownershipOpens_le
    (run : Run Step (start reducerInstance sessionId provisioningEpoch helperBuild) es s)
    (id : SandboxOwnershipLeaseId) : ownershipOpens id es ≤ ownershipRegistrations id es := by
  have h := run.used_le_provided (fun s => slot s.machine.sandboxOwnershipLeases id)
    (fun e => e.output.isOk && decide (e.input.presentedLeases.ownership = some id))
    (fun e => e.output.isOk && decide (e.input.registersOwnership = some id)) Coherent
    (coherent_start _ _ _ _) (by simp [slot, start, SessionMachine.new])
    fun s i o s' hc hstep => by
      obtain ⟨hc', hmove, -⟩ := coherent_step hc hstep
      exact ⟨hc', slot_move (slotMove_of_move hmove).2 id⟩
  exact (Nat.le_add_right _ _).trans h

theorem acceptedCommands_increasing
    (run : Run Step (start reducerInstance sessionId provisioningEpoch helperBuild) es s) :
    (acceptedCommands es).Pairwise (· < ·) :=
  (run.issued_increasing (fun s => commandMark s.machine)
    (fun e => acceptedBy e.input e.output) Coherent (coherent_start _ _ _ _)
    fun s i o s' hc hstep => by
      obtain ⟨hc', hmove, -⟩ := coherent_step hc hstep
      exact ⟨hc', accepted_of_move hmove⟩).1

theorem issuedIds_increasing {mark : SessionMachine → ℕ} {ids : SessionState → List ℕ}
    (hw : Watermark mark ids)
    (run : Run Step (start reducerInstance sessionId provisioningEpoch helperBuild) es s) :
    (issuedIds ids es).Pairwise (· < ·) :=
  (run.issued_increasing (fun s : SessionSystem => mark s.machine)
    (fun e : SessionEvent => issuedBy ids e.pre.machine e.input e.output e.post.machine) Coherent
    (coherent_start _ _ _ _) fun s i o s' hc hstep => by
      obtain ⟨hc', hmove, -⟩ := coherent_step hc hstep
      exact ⟨hc', issued_of_move hw hmove⟩).1

/-- CORRECT (one-use authority, fresh tokens): along every run a lease registered at most once opens
    at most one target, whether or not that open is rejected later; accepted command ids and the ids
    of newly issued stops and runs strictly increase; and the visible generation moves as
    `GenerationMoves` says. -/
theorem authority_and_tokens_fresh
    (run : Run Step (start reducerInstance sessionId provisioningEpoch helperBuild) es s) :
    (∀ id, hostRiskRegistrations id es ≤ 1 → hostRiskOpens id es ≤ 1) ∧
    (∀ id, ownershipRegistrations id es ≤ 1 → ownershipOpens id es ≤ 1) ∧
    (acceptedCommands es).Pairwise (· < ·) ∧
    (issuedIds SessionState.stopIds es).Pairwise (· < ·) ∧
    (issuedIds SessionState.runIds es).Pairwise (· < ·) ∧
    ∀ earlier e later, es = earlier ++ e :: later → GenerationMoves earlier e := by
  refine ⟨fun id h => (hostRiskOpens_le run id).trans h,
    fun id h => (ownershipOpens_le run id).trans h, acceptedCommands_increasing run,
    issuedIds_increasing stopWatermark run, issuedIds_increasing runWatermark run, ?_⟩
  refine (run.event_history (fun es s => s.Coherent ∧ TicketsIssued es s) GenerationMoves
    ⟨coherent_start _ _ _ _, fun _ h => by cases h⟩ fun es s i o s' h hstep => ?_).2
  exact ⟨⟨(coherent_step h.1 hstep).1, ticketsIssued_step h.1 h.2 hstep⟩,
    generationMoves_step h.1 h.2 hstep⟩

end Freshness

/-- Continue the stopped sample, report a stop with a wrong token, then a stop and an exit at
    once. -/
def sampleBatches : List SessionOperation := sampleAttach ++
  [.acceptCommand (sampleEnvelope 2 3 (.continue (sampleStop 3 1))),
    .applyUnsolicitedObservations
      [.stopped (sampleStop 5 9) .userPause 3],
    .applyUnsolicitedObservations
      [.stopped (sampleStop 5 2) .userPause 3,
        .exited ⟨sampleSession, 6⟩ 0]]

theorem authority_and_tokens_fresh_sampleBatches :
    acceptedCommands (execute (@call sampleHash) sampleStart sampleBatches).1 = [1, 2] ∧
    issuedIds SessionState.stopIds (execute (@call sampleHash) sampleStart sampleBatches).1 =
      [1, 2] ∧
    hostRiskOpens sampleLease (execute (@call sampleHash) sampleStart sampleBatches).1 ≤ 1 :=
  ⟨by decide, by decide, (@authority_and_tokens_fresh sampleHash _ _ _ _ _ _
    (@run_calls sampleHash sampleStart sampleBatches (by decide))).1 sampleLease (by decide)⟩

/-- An accepted batch of two observations advances the generation by two in one call. -/
theorem generation_advances_twice :
    ∃ es s, Run (@Step sampleHash) sampleStart es s ∧
      (∀ id, hostRiskRegistrations id es ≤ 1) ∧ (∀ id, ownershipRegistrations id es ≤ 1) ∧
      ∃ e ∈ es, e.input.restores = false ∧
        e.post.machine.state.generation = e.pre.machine.state.generation + 2 := by
  refine ⟨_, _, @run_calls sampleHash sampleStart sampleBatches (by decide), fun id => ?_,
    fun id => ?_, ?_⟩
  · have hall : (execute (@call sampleHash) sampleStart sampleBatches).1.countP
        (fun e => e.input.registersHostRisk.isSome) = 1 := by decide
    refine le_trans (List.countP_mono_left fun e _ h => ?_) hall.le
    simp only [Bool.and_eq_true, decide_eq_true_eq] at h
    simp [h.2]
  · have hnone : (execute (@call sampleHash) sampleStart sampleBatches).1.countP
        (fun e => e.input.registersOwnership.isSome) = 0 := by decide
    refine le_trans (List.countP_mono_left fun e _ h => ?_) (hnone.le.trans (Nat.zero_le 1))
    simp only [Bool.and_eq_true, decide_eq_true_eq] at h
    simp [h.2]
  · have hany : (execute (@call sampleHash) sampleStart sampleBatches).1.any (fun e =>
        decide (e.input.restores = false) &&
          decide (e.post.machine.state.generation = e.pre.machine.state.generation + 2)) =
            true := by
      decide
    obtain ⟨e, he, h⟩ := List.any_eq_true.mp hany
    simp only [Bool.and_eq_true, decide_eq_true_eq] at h
    exact ⟨e, he, h⟩

end SessionSystem

end ReSymbol.Debugger
