import ReSymbol.Debugger.BreakpointDiscipline

/-! Breakpoint table and target memory, side by side.

    The target is a byte memory. A pending plan may be executed once: the byte it expects is found
    at its address and is replaced. Only then can its acknowledgement be produced, so an accepted
    acknowledgement is one whose plan was executed. Between execution and acknowledgement the table
    lags behind the memory by exactly that byte; `executedOn` keeps the memory the plan was
    executed on, and `settled` is the memory the table describes.

        call planArm     execute            call acknowledgeSuccess
        ───────────▶ ●  ─────────▶ ●  ───────────────────────────▶ ●
        settled      =  memory     ≠  memory                       = memory -/

namespace ReSymbol.Debugger
open Schemes

/-- The bytes of the target. -/
abbrev ByteMemory := MemoryAddress → UInt8

/-- The byte a retained breakpoint keeps in memory: the trap while armed, the original otherwise. -/
def BreakpointEntry.byte (e : BreakpointEntry) : UInt8 :=
  match e.phase with
  | .armed => int3Opcode
  | .awaitingSingleStep | .readyToRearm => e.originalByte

/-- A reducer and the target it plans for. -/
structure BreakpointSystem where
  machine : SoftwareBreakpointStateMachine
  memory : ByteMemory
  executedOn : Option ByteMemory

namespace BreakpointSystem

open SoftwareBreakpointStateMachine (AddressFree TableValid PlanFor Advance Move Answer Valid
  lookup_insert lookup_erase steppedEntry sampleMachine sampleBreakpoint sampleArm)

def new (machine : SoftwareBreakpointStateMachine) (memory : ByteMemory) : BreakpointSystem :=
  ⟨machine, memory, none⟩

/-- The memory the table describes. -/
def settled (sys : BreakpointSystem) : ByteMemory := sys.executedOn.getD sys.memory

inductive Input where
  | call (op : BreakpointOperation)
  | execute

/-- An accepted acknowledgement settles the executed plan. -/
def after (sys : BreakpointSystem) (answer : Answer)
    (machine : SoftwareBreakpointStateMachine) : BreakpointSystem :=
  match answer with
  | .ok (.transition _) => ⟨machine, sys.memory, none⟩
  | _ => ⟨machine, sys.memory, sys.executedOn⟩

/-- The acknowledgement of the pending plan is produced only once the plan was executed. -/
def Honest (sys : BreakpointSystem) (op : BreakpointOperation) : Prop :=
  ∀ plan, sys.machine.pendingPlan = some plan → op = .acknowledgeSuccess plan.acknowledgement →
    sys.executedOn.isSome = true

inductive Step (sys : BreakpointSystem) : Input → Option Answer → BreakpointSystem → Prop
  | call {op : BreakpointOperation} {answer : Answer} {machine : SoftwareBreakpointStateMachine}
      (run : op.apply sys.machine = (answer, machine)) (honest : sys.Honest op) :
      Step sys (.call op) (some answer) (sys.after answer machine)
  | execute {plan : SoftwareBreakpointActionPlan}
      (pending : sys.machine.pendingPlan = some plan) (once : sys.executedOn = none)
      (found : sys.memory plan.bytes.breakpoint.address = plan.bytes.expectedByte) :
      Step sys .execute none
        { sys with
          memory := Function.update sys.memory plan.bytes.breakpoint.address
            plan.bytes.replacementByte
          executedOn := some sys.memory }

/-! ### Coherence of a table with a memory -/

/-- Retained breakpoints keep their bytes, and every other address its initial byte. -/
structure Coherent (m₀ : ByteMemory) (table : BreakpointTable) (memory : ByteMemory) : Prop where
  original : ∀ (id : BreakpointId) (e : BreakpointEntry), table[id]? = some e →
    m₀ e.breakpoint.address = e.originalByte
  retained : ∀ (id : BreakpointId) (e : BreakpointEntry), table[id]? = some e →
    memory e.breakpoint.address = e.byte
  untouched : ∀ address, AddressFree table address → memory address = m₀ address

section Table

variable {m₀ memory : ByteMemory} {table : BreakpointTable} {id : BreakpointId}
  {e : BreakpointEntry}

/-- Storing the byte of an entry together with the entry, when no other entry is in the way. -/
theorem Coherent.insert (h : Coherent m₀ table memory)
    (original : m₀ e.breakpoint.address = e.originalByte)
    (same : ∀ x : BreakpointEntry, table[id]? = some x →
      x.breakpoint.address = e.breakpoint.address)
    (others : ∀ (k : BreakpointId) (x : BreakpointEntry), k ≠ id → table[k]? = some x →
      x.breakpoint.address ≠ e.breakpoint.address) :
    Coherent m₀ (table.insert id e) (Function.update memory e.breakpoint.address e.byte) := by
  refine ⟨fun k x hx => ?_, fun k x hx => ?_, fun address hfree => ?_⟩
  · rw [lookup_insert] at hx
    split_ifs at hx with hk
    · obtain rfl := Option.some.inj hx
      exact original
    · exact h.original k x hx
  · rw [lookup_insert] at hx
    split_ifs at hx with hk
    · obtain rfl := Option.some.inj hx
      exact Function.update_self ..
    · rw [Function.update_of_ne (others k x (Ne.symm hk) hx)]
      exact h.retained k x hx
  · have hself := hfree id e (by simp)
    rw [Function.update_of_ne hself.symm]
    refine h.untouched address fun k x hx => ?_
    by_cases hk : id = k
    · subst hk
      rw [same x hx]
      exact hself
    · exact hfree k x (by simp [hk, hx])

/-- Putting the original byte back together with dropping the entry. -/
theorem Coherent.erase (h : Coherent m₀ table memory) (hold : table[id]? = some e)
    (others : ∀ (k : BreakpointId) (x : BreakpointEntry), k ≠ id → table[k]? = some x →
      x.breakpoint.address ≠ e.breakpoint.address) :
    Coherent m₀ (table.erase id) (Function.update memory e.breakpoint.address e.originalByte) := by
  have hlook : ∀ (k : BreakpointId) (x : BreakpointEntry), (table.erase id)[k]? = some x →
      id ≠ k ∧ table[k]? = some x := by
    intro k x hx
    rw [lookup_erase] at hx
    split_ifs at hx with hk
    exact ⟨hk, hx⟩
  refine ⟨fun k x hx => h.original k x (hlook k x hx).2, fun k x hx => ?_, fun address hfree => ?_⟩
  · obtain ⟨hk, hx⟩ := hlook k x hx
    rw [Function.update_of_ne (others k x (Ne.symm hk) hx)]
    exact h.retained k x hx
  · by_cases haddr : address = e.breakpoint.address
    · rw [haddr, Function.update_self, h.original id e hold]
    · rw [Function.update_of_ne haddr]
      refine h.untouched address fun k x hx => ?_
      by_cases hk : id = k
      · subst hk
        obtain rfl := Option.some.inj (hold.symm.trans hx)
        exact fun heq => haddr heq.symm
      · exact hfree k x (by simp [hk, hx])

/-- Entries of other ids sit at other addresses. -/
theorem others_of_valid {capacity : ℕ} (hv : TableValid capacity table)
    (hold : table[id]? = some e) (k : BreakpointId) (x : BreakpointEntry) (hk : k ≠ id)
    (hx : table[k]? = some x) : x.breakpoint.address ≠ e.breakpoint.address :=
  fun heq => hk (hv.addresses k id x e hx hold heq)

/-- Rewriting a retained entry in place, with the byte its new phase keeps. -/
theorem Coherent.modify {capacity : ℕ} {e' : BreakpointEntry} (h : Coherent m₀ table memory)
    (hv : TableValid capacity table) (hold : table[id]? = some e)
    (hsame : e'.breakpoint = e.breakpoint) (horiginal : e'.originalByte = e.originalByte) :
    Coherent m₀ (table.insert id e') (Function.update memory e.breakpoint.address e'.byte) := by
  rw [← hsame]
  refine h.insert ?_ (fun x hx => ?_) fun k x hk hx => ?_
  · rw [hsame, horiginal]
    exact h.original id e hold
  · obtain rfl := Option.some.inj (hold.symm.trans hx)
    rw [hsame]
  · rw [hsame]
    exact others_of_valid hv hold k x hk hx

end Table

/-! ### The invariant of the system -/

/-- The pending plan was executed: its byte is in memory, and the memory before had the byte it
    expects. -/
def Outstanding (sys : BreakpointSystem) (base : ByteMemory) : Prop :=
  ∃ plan, sys.machine.pendingPlan = some plan ∧
    base plan.bytes.breakpoint.address = plan.bytes.expectedByte ∧
    sys.memory = Function.update base plan.bytes.breakpoint.address plan.bytes.replacementByte

structure Inv (capacity : ℕ) (m₀ : ByteMemory) (sys : BreakpointSystem) : Prop where
  valid : Valid sys.machine
  capacity_eq : sys.machine.capacity = capacity
  coherent : sys.machine.poisonEvidence = none →
    Coherent m₀ sys.machine.breakpoints sys.settled
  outstanding : sys.machine.poisonEvidence = none → ∀ base, sys.executedOn = some base →
    sys.Outstanding base

section Steps

variable {capacity : ℕ} {m₀ : ByteMemory} {sys sys' : BreakpointSystem}

/-- The byte of an executed plan is what the advanced table expects. -/
theorem coherent_advance {base : ByteMemory} {p : PendingOperation}
    {t : SoftwareBreakpointTransition} {table : BreakpointTable} (hv : Valid sys.machine)
    (hc : Coherent m₀ sys.machine.breakpoints base) (pending : sys.machine.pending = some p)
    (found : base p.plan.bytes.breakpoint.address = p.plan.bytes.expectedByte)
    (advance : Advance sys.machine.breakpoints p t table) :
    Coherent m₀ table (Function.update base p.plan.bytes.breakpoint.address
      p.plan.bytes.replacementByte) := by
  have hplan := hv.pending p pending
  cases hplan with
  | arm operationId stop entry fresh free room valid armed =>
    cases advance
    have hbyte : int3Opcode = entry.byte := by simp [BreakpointEntry.byte, armed]
    have horiginal : m₀ entry.breakpoint.address = entry.originalByte := by
      rw [← hc.untouched _ free]
      exact found
    show Coherent m₀ _ (Function.update base entry.breakpoint.address int3Opcode)
    rw [hbyte]
    exact hc.insert horiginal (fun x hx => by simp [fresh] at hx) fun k x _ hx => free k x hx
  | restore operationId stop id entry retained armed =>
    cases advance with
    | restored retained' persistent =>
      obtain rfl := Option.some.inj (retained.symm.trans retained')
      exact hc.modify hv.table retained rfl rfl
    | temporaryRemoved retained' temporary =>
      exact hc.erase retained (others_of_valid hv.table retained)
  | rearm operationId stop id entry retained ready =>
    cases advance with
    | rearmed retained' =>
      obtain rfl := Option.some.inj (retained.symm.trans retained')
      exact hc.modify hv.table retained rfl rfl
  | remove operationId stop id entry retained armed =>
    cases advance
    exact hc.erase retained (others_of_valid hv.table retained)

/-- Correlating a single step leaves the byte as it is. -/
theorem coherent_stepped {id : BreakpointId} {entry : BreakpointEntry} {token : StopToken}
    (hv : Valid sys.machine) (hc : Coherent m₀ sys.machine.breakpoints sys.settled)
    (retained : sys.machine.breakpoints[id]? = some entry)
    (awaiting : entry.phase = .awaitingSingleStep) :
    Coherent m₀ (sys.machine.steppedTo id entry token).breakpoints sys.settled := by
  have hbyte : (steppedEntry token entry).byte =
      sys.settled entry.breakpoint.address := by
    rw [hc.retained id entry retained]
    simp [BreakpointEntry.byte, steppedEntry, awaiting]
  have h : Coherent m₀ (sys.machine.steppedTo id entry token).breakpoints
      (Function.update sys.settled entry.breakpoint.address
        (steppedEntry token entry).byte) :=
    hc.modify hv.table retained rfl rfl
  rwa [hbyte, Function.update_eq_self] at h

/-- Nothing was executed while nothing is pending. -/
theorem Inv.executedOn_eq_none (hi : sys.Inv capacity m₀)
    (healthy : sys.machine.poisonEvidence = none)
    (idle : sys.machine.pending = none) : sys.executedOn = none := by
  cases hex : sys.executedOn with
  | none => rfl
  | some base =>
    obtain ⟨plan, hplan, -⟩ := hi.outstanding healthy base hex
    simp [SoftwareBreakpointStateMachine.pendingPlan, idle] at hplan

theorem inv_move {op : BreakpointOperation} {answer : Answer}
    {machine : SoftwareBreakpointStateMachine} (hi : sys.Inv capacity m₀)
    (run : op.apply sys.machine = (answer, machine)) (honest : sys.Honest op) :
    (sys.after answer machine).Inv capacity m₀ := by
  have move := SoftwareBreakpointStateMachine.move_of_step hi.valid run
  have hvalid := SoftwareBreakpointStateMachine.valid_move hi.valid move
  have hcapacity : machine.capacity = capacity := move.capacity_eq.trans hi.capacity_eq
  cases move with
  | refused e => exact hi
  | planned value p healthy idle next operation plan =>
    have hnone := hi.executedOn_eq_none healthy idle
    exact ⟨hvalid, hcapacity, fun _ => hi.coherent healthy, fun _ base hbase => by
      simp [after, hnone] at hbase⟩
  | acknowledged p t table healthy pending advance =>
    obtain ⟨plan, hplan, hop⟩ := SoftwareBreakpointStateMachine.acknowledgement_of_transition
      healthy
      (congrArg Prod.fst run)
    obtain ⟨base, hbase⟩ := Option.isSome_iff_exists.mp (honest plan hplan hop)
    have hc := hi.coherent healthy
    rw [settled, hbase, Option.getD_some] at hc
    obtain ⟨plan, hplan, found, hmemory⟩ := hi.outstanding healthy base hbase
    obtain rfl : p.plan = plan := by
      simpa [SoftwareBreakpointStateMachine.pendingPlan, pending] using hplan
    refine ⟨hvalid, hcapacity, fun _ => ?_, fun _ base' h => by simp [after] at h⟩
    have hadvance := coherent_advance hi.valid hc pending found advance
    rwa [← hmemory] at hadvance
  | stepped id entry token healthy idle retained awaiting later =>
    have hnone := hi.executedOn_eq_none healthy idle
    exact ⟨hvalid, hcapacity, fun _ => coherent_stepped hi.valid
      (hi.coherent healthy) retained awaiting,
      fun _ base hbase => by simp [after, hnone] at hbase⟩
  | poisoned rejection received healthy =>
    exact ⟨hvalid, hcapacity, fun h => by
      simp [after, SoftwareBreakpointStateMachine.poisonedBy] at h, fun h => by
      simp [after, SoftwareBreakpointStateMachine.poisonedBy] at h⟩

theorem inv_step {input : Input} {answer : Option Answer} (hi : sys.Inv capacity m₀)
    (step : Step sys input answer sys') : sys'.Inv capacity m₀ := by
  cases step with
  | call run honest =>
    exact inv_move hi run honest
  | execute pending once found =>
    refine ⟨hi.valid, hi.capacity_eq, fun healthy => ?_, fun _ base hbase => ?_⟩
    · have hc := hi.coherent healthy
      rwa [settled, once] at hc
    · obtain rfl := Option.some.inj hbase
      exact ⟨_, pending, found, rfl⟩

theorem inv_new {sessionId : SessionId} {machine : SoftwareBreakpointStateMachine}
    (init : SoftwareBreakpointStateMachine.withCapacity sessionId capacity = .ok machine)
    (m₀ : ByteMemory) : (new machine m₀).Inv capacity m₀ := by
  obtain ⟨hvalid, hempty, hcapacity⟩ := SoftwareBreakpointStateMachine.valid_withCapacity init
  refine ⟨hvalid, hcapacity, fun _ => ?_, fun _ base h => by simp [new] at h⟩
  show Coherent m₀ machine.breakpoints m₀
  rw [hempty]
  exact ⟨fun id e he => by simp at he, fun id e he => by simp at he, fun _ _ => rfl⟩

end Steps

/-! ### Runs -/

/-- The retained entries in the order of their ids have distinct ids and addresses. -/
theorem distinct_entries {machine : SoftwareBreakpointStateMachine} (hv : Valid machine) :
    machine.entries.Pairwise fun e e' =>
      e.breakpoint.id ≠ e'.breakpoint.id ∧ e.breakpoint.address ≠ e'.breakpoint.address := by
  have hkeys := machine.breakpoints.distinct_keys_toList
  refine List.pairwise_map.mpr (hkeys.imp_of_mem fun {a b} ha hb hne => ?_)
  have ha := Std.ExtTreeMap.mem_toList_iff_getElem?_eq_some.mp ha
  have hb := Std.ExtTreeMap.mem_toList_iff_getElem?_eq_some.mp hb
  have hne : a.1 ≠ b.1 := by simpa using hne
  refine ⟨?_, fun haddr => hne (hv.table.addresses _ _ _ _ ha hb haddr)⟩
  rw [(hv.table.entry _ _ ha).key, (hv.table.entry _ _ hb).key]
  exact hne

/-- Memory coherence. After every run that did not poison the reducer, and with `settled` the
    memory (or, if the pending plan was already executed, the memory it was executed on, which
    differs from the memory by that plan's byte): every retained breakpoint found its original
    byte before it was armed and has `0xcc` in memory while armed and its original byte otherwise;
    every other address holds its initial byte; ids and addresses are distinct and within the
    capacity; and an empty table with nothing pending means that memory is the initial one. -/
theorem table_memory_coherent {sessionId : SessionId} {capacity : ℕ}
    {machine : SoftwareBreakpointStateMachine} {m₀ : ByteMemory}
    {es : List (Event BreakpointSystem Input (Option Answer))} {sys : BreakpointSystem}
    (init : SoftwareBreakpointStateMachine.withCapacity sessionId capacity = .ok machine)
    (run : Run Step (new machine m₀) es sys) (healthy : sys.machine.poisonEvidence = none) :
    (∀ e ∈ sys.machine.entries, m₀ e.breakpoint.address = e.originalByte ∧
      (e.phase = .armed → sys.settled e.breakpoint.address = 0xcc) ∧
      (e.phase = .awaitingSingleStep ∨ e.phase = .readyToRearm →
        sys.settled e.breakpoint.address = e.originalByte)) ∧
    (∀ address, (∀ e ∈ sys.machine.entries, e.breakpoint.address ≠ address) →
      sys.settled address = m₀ address) ∧
    (sys.executedOn = none → sys.settled = sys.memory) ∧
    (∀ base, sys.executedOn = some base → sys.settled = base ∧ sys.Outstanding base) ∧
    (sys.machine.entries.Pairwise fun e e' =>
      e.breakpoint.id ≠ e'.breakpoint.id ∧ e.breakpoint.address ≠ e'.breakpoint.address) ∧
    sys.machine.entries.length ≤ capacity ∧
    (sys.machine.entries = [] → sys.machine.pendingPlan = none → sys.memory = m₀) := by
  have hi : sys.Inv capacity m₀ :=
    run.invariant (Inv capacity m₀) (inv_new init m₀) fun _ _ _ _ hi step => inv_step hi step
  have hc := hi.coherent healthy
  have hmem : ∀ e : BreakpointEntry, e ∈ sys.machine.entries ↔
      ∃ id : BreakpointId, sys.machine.breakpoints[id]? = some e := by
    intro e
    simp [SoftwareBreakpointStateMachine.entries, Std.ExtTreeMap.mem_toList_iff_getElem?_eq_some]
  have huntouched : ∀ address, (∀ e ∈ sys.machine.entries, e.breakpoint.address ≠ address) →
      sys.settled address = m₀ address := fun address hfree =>
    hc.untouched address fun id e he => hfree e ((hmem e).mpr ⟨id, he⟩)
  refine ⟨fun e he => ?_, huntouched, fun h => by simp [settled, h], fun base hbase => ?_,
    distinct_entries hi.valid, ?_, fun hempty hidle => ?_⟩
  · obtain ⟨id, he⟩ := (hmem e).mp he
    have hbyte := hc.retained id e he
    refine ⟨hc.original id e he, fun harmed => ?_, fun hother => ?_⟩
    · rw [hbyte, BreakpointEntry.byte, harmed]
      rfl
    · rcases hother with hphase | hphase <;> rw [hbyte, BreakpointEntry.byte, hphase]
  · exact ⟨by simp [settled, hbase], hi.outstanding healthy base hbase⟩
  · rw [← hi.capacity_eq]
    simpa [SoftwareBreakpointStateMachine.entries] using hi.valid.table.count
  · have hnone : sys.executedOn = none := hi.executedOn_eq_none healthy
      (by simpa [SoftwareBreakpointStateMachine.pendingPlan] using hidle)
    funext address
    have h := huntouched address fun e he => by simp [hempty] at he
    rwa [settled, hnone] at h

/-- The sample breakpoint is armed over a `nop`: planned, executed, acknowledged. -/
theorem table_memory_coherent_sampleArm :
    SoftwareBreakpointStateMachine.withCapacity sampleSession 1 = .ok sampleMachine ∧
      ∃ es sys, Run Step (new sampleMachine fun _ => 0x90) es sys ∧
        sys.machine.entries.length = 1 ∧ sys.settled = sys.memory ∧
        ∀ e ∈ sys.machine.entries, e.phase = .armed → sys.settled e.breakpoint.address = 0xcc := by
  have init : SoftwareBreakpointStateMachine.withCapacity sampleSession 1 = .ok sampleMachine := rfl
  have planned : Step (new sampleMachine fun _ => 0x90) (.call (.planArm
      (sampleStop 3 1) sampleBreakpoint 0x90 .persistent)) _ _ :=
    .call rfl (by rintro plan ⟨⟩)
  have executed := (Run.start.next planned).next (.execute rfl rfl rfl)
  have acknowledged := executed.next
    (show Step _ (.call (.acknowledgeSuccess sampleArm.acknowledgement)) _ _ from
      .call rfl fun _ _ _ => rfl)
  have h := table_memory_coherent init acknowledged rfl
  exact ⟨init, _, _, acknowledged, by decide, h.2.2.1 rfl, fun e he => (h.1 e he).2.1⟩

end BreakpointSystem

end ReSymbol.Debugger
