import ReSymbol.LinuxDebugHost.Tables

/-! Where debugging is transparent to the target.

    The target is a step function on registers and logical memory; the `INT3` bytes of the debugger
    are kept beside the memory they hide. Its undisturbed run is the sequence of states from the
    start on, and the number of instructions it retired says how far a debugged target has come.

        run 0 ──▶ run 1 ──▶ … ──▶ run n ──▶ …          undisturbed
          ▲                         ▲
        stop                      stop                 seen through the session

    Every stop shows the state of the run after the retired instructions, steps retire one and
    continuations run to the first later armed address, exactly if no continuation starts at an
    armed address, no step from an unarmed address ends one byte past an armed one, and the target
    leaves the bytes under the armed addresses as they are. -/

namespace ReSymbol.LinuxDebugHost.Transparency
open Schemes Schemes.Reducer LinuxDebugSession TargetSession

/-! ### A deterministic target -/

/-- Registers and logical memory. -/
structure Machine where
  registers : X64Registers
  memory : Memory UInt8

/-- The undisturbed run. -/
def run (program : Machine → Machine) (start : Machine) (n : ℕ) : Machine := program^[n] start

/-- The program neither writes nor contains an `INT3` where it executes. -/
structure WellBehaved (program : Machine → Machine) (start : Machine) : Prop where
  keepsCode : ∀ n k, (run program start n).memory (run program start k).registers.rip.toNat =
    start.memory (run program start k).registers.rip.toNat
  noInt3 : ∀ k, start.memory (run program start k).registers.rip.toNat ≠ breakpointByte

/-- A target under the debugger: the machine, the addresses where an `INT3` of the debugger stands,
    the number of retired instructions, whether it was resumed for one step, and how many
    instructions the debugger waits for before its wait is interrupted. -/
structure Debuggee where
  machine : Machine
  planted : UInt64 → Bool
  retired : ℕ
  stepping : Bool
  patience : ℕ

namespace Debuggee

def start (machine : Machine) : Debuggee :=
  { machine, planted := fun _ => false, retired := 0, stepping := false, patience := 0 }

/-- The byte in the target's memory. -/
def byte (t : Debuggee) (address : UInt64) : UInt8 :=
  if t.planted address then breakpointByte else t.machine.memory address.toNat

/-- Write one byte: `INT3` is planted over the logical byte, any other byte replaces it. -/
def writeByte (t : Debuggee) (address : UInt64) (value : UInt8) : Debuggee :=
  if value = breakpointByte then { t with planted := Function.update t.planted address true }
  else
    { t with
      machine := { t.machine with memory := Function.update t.machine.memory address.toNat value }
      planted := Function.update t.planted address false }

def writeBytes (t : Debuggee) (address : UInt64) : List UInt8 → Debuggee
  | [] => t
  | value :: rest => writeBytes (t.writeByte address value) (address + 1) rest

/-- Execute the instruction at the instruction pointer. A byte that it changes is no `INT3`
    any more. -/
def retire (program : Machine → Machine) (t : Debuggee) : Debuggee :=
  { t with
    machine := program t.machine
    planted := fun a => t.planted a &&
      (program t.machine).memory a.toNat == t.machine.memory a.toNat
    retired := t.retired + 1 }

/-- Execute an `INT3`. -/
def trap (t : Debuggee) : Debuggee :=
  { t with machine := { t.machine with
      registers := t.machine.registers.setInstructionPointer (t.machine.registers.rip + 1) } }

/-- The instruction pointer stands on an `INT3`. -/
def AtInt3 (t : Debuggee) : Prop := t.byte t.machine.registers.rip = breakpointByte

instance (t : Debuggee) : Decidable t.AtInt3 := by
  unfold AtInt3; infer_instance

/-- Run until an `INT3` is executed, for a limited number of instructions. -/
def runFor (program : Machine → Machine) : ℕ → Debuggee → Option Debuggee
  | 0, _ => none
  | k + 1, t => if t.AtInt3 then some t.trap else runFor program k (t.retire program)

/-- Run up to the next stop. -/
def proceed (program : Machine → Machine) (t : Debuggee) : Option Debuggee :=
  if t.stepping then some (if t.AtInt3 then t.trap else t.retire program)
  else t.runFor program t.patience

/-- Every call succeeds, except a wait that is interrupted before the target stops. -/
def ops (program : Machine → Machine) : PtraceOps Debuggee where
  cont _ := update fun t => { t with stepping := false }
  singleStep _ := update fun t => { t with stepping := true }
  wait := fun t => match t.proceed program with
    | some t' => (.ok (.stopped sigtrap), t')
    | none => (.error (.syscall "waitpid" 4), t)
  readRegisters := fun t => (.ok t.machine.registers, t)
  writeRegisters registers := update fun t => { t with machine := { t.machine with registers } }
  readMemory address len :=
    fun t => (.ok ((List.range len).map fun i => t.byte (address + UInt64.ofNat i)), t)
  writeMemory address bytes := update fun t => t.writeBytes address bytes
  peekUser _ := fun t => (.ok 0, t)
  pokeUser _ _ := fun t => (.ok (), t)
  detach := fun t => (.ok (), t)
  kill := fun t => (.ok (), t)

end Debuggee

/-- The calls that only observe and control the execution. -/
def Controls : Call → Prop
  | .setBreakpoint _ | .clearBreakpoint _ | .readMemory _ _ | .readRegisters
  | .continueExecution | .singleStep => True
  | _ => False

abbrev Session := LinuxDebugSession Debuggee

/-- Make a call whose waits last for this many instructions. -/
def perform (program : Machine → Machine) (input : Call × ℕ) (s : Session) :
    Except HostError Answer × Session :=
  applyCall (Debuggee.ops program) input.1 { s with ops := { s.ops with patience := input.2 } }

/-- One call of the debugger that was not interrupted. -/
def Step (program : Machine → Machine) (s : Session) (input : Call × ℕ)
    (answer : Except HostError Answer) (s' : Session) : Prop :=
  Controls input.1 ∧ perform program input s = (answer, s') ∧ answer ≠ .error (.syscall "waitpid" 4)

/-! ### What the session shows -/

/-- The memory seen through the session: the hidden bytes in place of the armed ones. -/
def seen (s : Session) (address : UInt64) : UInt8 :=
  match s.breakpoints[address]? with
  | some armed => armed.originalByte
  | none => s.ops.byte address

section Contract

variable (program : Machine → Machine) (start : Machine)

/-- The session shows the undisturbed run after the retired instructions. -/
structure Shows (s : Session) : Prop where
  registers : s.ops.machine.registers = (run program start s.ops.retired).registers
  memory : ∀ a, seen s a = (run program start s.ops.retired).memory a.toNat

/-- A read answers with the state of the undisturbed run after the retired instructions. -/
structure ReadsRun (e : Event Session (Call × ℕ) (Except HostError Answer)) : Prop where
  registers : e.input.1 = .readRegisters →
    e.output = .ok (.registers (run program start e.pre.ops.retired).registers)
  memory : ∀ a len, e.input.1 = .readMemory a len → len ≤ maxMemoryTransferBytes →
    Target.Accessible a len →
      e.output = .ok (.bytes (readSpan (run program start e.pre.ops.retired).memory a.toNat len))

/-- The call is transparent. -/
structure Transparent (e : Event Session (Call × ℕ) (Except HostError Answer)) : Prop where
  shows : Shows program start e.post
  reads : ReadsRun program start e
  order : e.pre.ops.retired ≤ e.post.ops.retired
  singleStep : e.input.1 = .singleStep → e.post.ops.retired = e.pre.ops.retired + 1
  continueExecution : e.input.1 = .continueExecution →
    e.pre.ops.retired < e.post.ops.retired ∧
    (run program start e.post.ops.retired).registers.rip ∈ e.pre.breakpoints ∧
    ∀ k, e.pre.ops.retired < k → k < e.post.ops.retired →
      (run program start k).registers.rip ∉ e.pre.breakpoints

/-- The undisturbed run comes to an armed address after so many instructions, and to none before. -/
def FirstArmed (s : Session) (j : ℕ) : Prop :=
  (run program start (s.ops.retired + j)).registers.rip ∈ s.breakpoints ∧
    ∀ i < j, (run program start (s.ops.retired + i)).registers.rip ∉ s.breakpoints

/-- After so many instructions the armed addresses hold what they hold now. -/
def CodeKept (s : Session) (j : ℕ) : Prop := ∀ a ∈ s.breakpoints,
  (run program start (s.ops.retired + j)).memory a.toNat =
    (run program start s.ops.retired).memory a.toNat

/-- The call does not meet one of the cases that the session gets wrong. -/
structure Clean (e : Event Session (Call × ℕ) (Except HostError Answer)) : Prop where
  continueExecution : e.input.1 = .continueExecution →
    e.pre.ops.machine.registers.rip ∉ e.pre.breakpoints
  singleStep : e.input.1 = .singleStep → e.pre.ops.machine.registers.rip ∉ e.pre.breakpoints →
    (run program start (e.pre.ops.retired + 1)).registers.rip - 1 ∉ e.pre.breakpoints
  continued : e.input.1 = .continueExecution → ∀ j, FirstArmed program start e.pre j →
    CodeKept program start e.pre j
  stepped : e.input.1 = .singleStep → CodeKept program start e.pre 1

end Contract

/-! ### Running the target -/

section Proofs

variable {program : Machine → Machine} {start : Machine}

/-- The `INT3` bytes in the target are those of the armed addresses, where it can execute them. -/
structure Tracks (program : Machine → Machine) (start : Machine) (armed : UInt64 → Prop)
    (t : Debuggee) : Prop where
  machine : t.machine = run program start t.retired
  planted : ∀ a, t.planted a = true → armed a
  executed : ∀ k, armed (run program start k).registers.rip →
    t.planted (run program start k).registers.rip = true

theorem run_succ (program : Machine → Machine) (start : Machine) (n : ℕ) :
    run program start (n + 1) = program (run program start n) :=
  Function.iterate_succ_apply' program n start

/-- The target stands on an `INT3` exactly at an armed address. -/
theorem atInt3_iff (hprogram : WellBehaved program start) {armed : UInt64 → Prop} {t : Debuggee}
    (h : Tracks program start armed t) : t.AtInt3 ↔ armed t.machine.registers.rip := by
  unfold Debuggee.AtInt3 Debuggee.byte
  constructor
  · intro hbyte
    split_ifs at hbyte with hplanted
    · exact h.planted _ hplanted
    · rw [h.machine, hprogram.keepsCode] at hbyte
      exact absurd hbyte (hprogram.noInt3 _)
  · intro harmed
    have hplanted : t.planted t.machine.registers.rip = true := by
      rw [h.machine] at harmed ⊢
      exact h.executed _ harmed
    rw [if_pos hplanted]

/-- An instruction keeps the `INT3` bytes where the target executes. -/
theorem tracks_retire (hprogram : WellBehaved program start) {armed : UInt64 → Prop} {t : Debuggee}
    (h : Tracks program start armed t) : Tracks program start armed (t.retire program) := by
  have hmachine : program t.machine = run program start (t.retired + 1) := by
    rw [run_succ, h.machine]
  refine ⟨hmachine, fun a hplanted => ?_, fun k harmed => ?_⟩
  · simp only [Debuggee.retire, Bool.and_eq_true] at hplanted
    exact h.planted a hplanted.1
  · simp only [Debuggee.retire, Bool.and_eq_true, beq_iff_eq]
    refine ⟨h.executed k harmed, ?_⟩
    rw [hmachine, h.machine, hprogram.keepsCode, hprogram.keepsCode]

/-- A run that stops has retired every instruction before the first armed address. -/
theorem runFor_eq_some (hprogram : WellBehaved program start) {armed : UInt64 → Prop} {k : ℕ}
    {t t' : Debuggee} (h : Tracks program start armed t) (hrun : t.runFor program k = some t') :
    ∃ u j, Tracks program start armed u ∧ t' = u.trap ∧ u.retired = t.retired + j ∧
      armed (run program start (t.retired + j)).registers.rip ∧
      ∀ i < j, ¬ armed (run program start (t.retired + i)).registers.rip := by
  induction k generalizing t with
  | zero => simp [Debuggee.runFor] at hrun
  | succ k ih =>
    rw [Debuggee.runFor] at hrun
    by_cases hint3 : t.AtInt3
    · rw [if_pos hint3, Option.some.injEq] at hrun
      have harmed := (atInt3_iff hprogram h).mp hint3
      rw [h.machine] at harmed
      exact ⟨t, 0, h, hrun.symm, rfl, harmed, by simp⟩
    · rw [if_neg hint3] at hrun
      obtain ⟨u, j, htracks, rfl, hretired, harmed, hbefore⟩ := ih (tracks_retire hprogram h) hrun
      have hnext : (t.retire program).retired = t.retired + 1 := rfl
      rw [hnext, Nat.add_assoc, Nat.add_comm 1 j] at hretired harmed
      refine ⟨u, j + 1, htracks, rfl, hretired, harmed, fun i hi => ?_⟩
      rcases i with _ | i
      · rw [atInt3_iff hprogram h, h.machine] at hint3
        exact hint3
      · have := hbefore i (by omega)
        rwa [hnext, Nat.add_assoc, Nat.add_comm 1 i] at this

/-- A target that comes to an armed address stops, if it is waited for long enough. -/
theorem runFor_returns (hprogram : WellBehaved program start) {armed : UInt64 → Prop} {j : ℕ}
    {t : Debuggee} (h : Tracks program start armed t)
    (harmed : armed (run program start (t.retired + j)).registers.rip) :
    ∃ t', t.runFor program (j + 1) = some t' := by
  induction j generalizing t with
  | zero =>
    refine ⟨t.trap, ?_⟩
    rw [Debuggee.runFor, if_pos ((atInt3_iff hprogram h).mpr ?_)]
    rw [h.machine]
    exact harmed
  | succ j ih =>
    by_cases hint3 : t.AtInt3
    · exact ⟨t.trap, by rw [Debuggee.runFor, if_pos hint3]⟩
    · have hnext : (t.retire program).retired + j = t.retired + (j + 1) := by
        change t.retired + 1 + j = _
        omega
      obtain ⟨t', hrun⟩ := ih (tracks_retire hprogram h) (hnext ▸ harmed)
      exact ⟨t', by rw [Debuggee.runFor, if_neg hint3, hrun]⟩

/-! ### The calls -/

/-- The session with the target in another state. -/
def withTarget (s : Session) (t : Debuggee) : Session := { s with ops := t }

/-- How a trap is classified without hardware slots. -/
def trapped (s : Session) : WaitOutcome × Session :=
  if s.ops.machine.registers.rip - 1 ∈ s.breakpoints then
    (.breakpointHit (s.ops.machine.registers.rip - 1), withTarget s { s.ops with
      machine := { s.ops.machine with registers :=
        s.ops.machine.registers.setInstructionPointer (s.ops.machine.registers.rip - 1) } })
  else (.stopped (.stopped sigtrap), s)

theorem trapped_of_armed {s : Session} (h : s.ops.machine.registers.rip - 1 ∈ s.breakpoints) :
    trapped s = (.breakpointHit (s.ops.machine.registers.rip - 1), withTarget s { s.ops with
      machine := { s.ops.machine with registers :=
        s.ops.machine.registers.setInstructionPointer (s.ops.machine.registers.rip - 1) } }) :=
  if_pos h

theorem trapped_of_free {s : Session} (h : s.ops.machine.registers.rip - 1 ∉ s.breakpoints) :
    trapped s = (.stopped (.stopped sigtrap), s) := if_neg h

theorem requireAlive_run {s : Session} (h : s.alive = true) : requireAlive s = (.ok (), s) := by
  simp [requireAlive, refuse, h]

theorem classifyTrap_run {s : Session} (hhardware : ∀ i, s.hardware i = none) :
    classifyTrap (Debuggee.ops program) (.stopped sigtrap) s =
      (.ok (trapped s).1, (trapped s).2) := by
  have hcheck : checkHardwareHit (Debuggee.ops program) s = (.ok none, s) := by
    rw [checkHardwareHit, look_bind_run, if_pos hhardware]
    rfl
  rw [classifyTrap, bind_of_ok hcheck]
  change (if s.ops.machine.registers.rip - 1 ∈ s.breakpoints then _ else _ : Reducer _ _ _) s = _
  by_cases harmed : s.ops.machine.registers.rip - 1 ∈ s.breakpoints
  · rw [if_pos harmed, trapped_of_armed harmed]
    rfl
  · rw [if_neg harmed, trapped_of_free harmed]
    rfl

theorem wait_run {s : Session} {t : Debuggee} (h : s.ops.proceed program = some t) :
    call (Debuggee.ops program).wait s = (.ok (.stopped sigtrap), withTarget s t) := by
  simp [call, within, Debuggee.ops, h, withTarget]

theorem waitAndClassify_run {s : Session} {t : Debuggee} (hhardware : ∀ i, s.hardware i = none)
    (h : s.ops.proceed program = some t) :
    waitAndClassify (Debuggee.ops program) s =
      (.ok (trapped (withTarget s t)).1, (trapped (withTarget s t)).2) := by
  rw [waitAndClassify, bind_of_ok (wait_run h)]
  exact classifyTrap_run hhardware

theorem readRawByte_run (s : Session) (a : UInt64) :
    readRawByte (Debuggee.ops program) a s = (.ok (s.ops.byte a), s) := by
  have hread : call ((Debuggee.ops program).readMemory a 1) s = (.ok [s.ops.byte a], s) := by
    simp [call, within, Debuggee.ops, List.range_succ]
  rw [readRawByte, bind_of_ok hread]
  rfl

theorem writeMemory_run (s : Session) (a : UInt64) (value : UInt8) :
    call ((Debuggee.ops program).writeMemory a [value]) s =
      (.ok (), withTarget s (s.ops.writeByte a value)) := rfl

/-- A breakpoint is armed over a byte that was not `INT3`, or nothing changes. -/
theorem wp_setBreakpoint {s : Session} (h : s.alive = true) (a : UInt64) :
    wp (setBreakpoint (Debuggee.ops program) a)
      (fun _ s' => a ∉ s.breakpoints ∧ s.ops.byte a ≠ breakpointByte ∧
        s' = { withTarget s (s.ops.writeByte a breakpointByte) with
          breakpoints := s.breakpoints.insert a ⟨s.ops.byte a⟩ })
      (fun _ s' => s' = s) s := by
  simp only [setBreakpoint, wp_bind, wp_of_ok (requireAlive_run h), wp_look, wp_refuse,
    wp_of_ok (readRawByte_run s a)]
  split_ifs with hmem hsize hbyte
  rw [wp_of_ok (writeMemory_run s a breakpointByte), wp_of_ok (readRawByte_run _ a)]
  have hwritten : (withTarget s (s.ops.writeByte a breakpointByte)).ops.byte a =
    breakpointByte := by
    simp [withTarget, Debuggee.writeByte, Debuggee.byte]
  rw [hwritten]
  simp only [ne_eq, not_true_eq_false, if_false, wp_update]
  exact ⟨hmem, hbyte, rfl⟩

/-- A breakpoint found in place is removed, or nothing changes. -/
theorem wp_clearBreakpoint {s : Session} (h : s.alive = true) (a : UInt64) :
    wp (clearBreakpoint (Debuggee.ops program) a)
      (fun _ s' => ∃ armed, s.breakpoints[a]? = some armed ∧
        s' = { withTarget s (s.ops.writeByte a armed.originalByte) with
          breakpoints := s.breakpoints.erase a })
      (fun _ s' => s' = s) s := by
  simp only [clearBreakpoint, wp_bind, wp_of_ok (requireAlive_run h), wp_look]
  rcases harmed : s.breakpoints[a]? with _ | armed
  · rw [wp_require_none]
  · rw [wp_require_some, wp_of_ok (readRawByte_run s a)]
    simp only [wp_refuse]
    split_ifs with hbyte
    rw [wp_of_ok (writeMemory_run s a armed.originalByte), wp_update]
    exact ⟨armed, rfl, rfl⟩

/-! ### Sessions in step with the run -/

/-- The session is in step with the undisturbed run. -/
structure Sync (program : Machine → Machine) (start : Machine) (s : Session) : Prop where
  alive : s.alive = true
  hardware : ∀ i, s.hardware i = none
  tracks : Tracks program start (· ∈ s.breakpoints) s.ops
  saved : ∀ (a : UInt64) (armed : ArmedBreakpoint), s.breakpoints[a]? = some armed →
    armed.originalByte = (run program start s.ops.retired).memory a.toNat ∧
      armed.originalByte ≠ breakpointByte

theorem Tracks.congr {armed armed' : UInt64 → Prop} {t : Debuggee}
    (h : Tracks program start armed t) (hiff : ∀ a, armed a ↔ armed' a) :
    Tracks program start armed' t :=
  ⟨h.machine, fun a hplanted => (hiff a).mp (h.planted a hplanted),
    fun k harmed => h.executed k ((hiff _).mpr harmed)⟩

theorem tracks_plant {armed : UInt64 → Prop} {t : Debuggee} (h : Tracks program start armed t)
    (a : UInt64) :
    Tracks program start (fun b => armed b ∨ a = b) (t.writeByte a breakpointByte) := by
  have hwrite : t.writeByte a breakpointByte =
      { t with planted := Function.update t.planted a true } := if_pos rfl
  rw [hwrite]
  refine ⟨h.machine, fun b hplanted => ?_, fun k harmed => ?_⟩
  · rcases eq_or_ne b a with rfl | hne
    · exact .inr rfl
    · change Function.update t.planted a true b = true at hplanted
      rw [Function.update_of_ne hne] at hplanted
      exact .inl (h.planted b hplanted)
  · change Function.update t.planted a true _ = true
    rcases eq_or_ne (run program start k).registers.rip a with heq | hne
    · rw [heq, Function.update_self]
    · rw [Function.update_of_ne hne]
      exact h.executed k (harmed.resolve_right hne.symm)

theorem tracks_lift {armed : UInt64 → Prop} {t : Debuggee} (h : Tracks program start armed t)
    {a : UInt64} {value : UInt8} (hvalue : value = t.machine.memory a.toNat)
    (hne : value ≠ breakpointByte) :
    Tracks program start (fun b => a ≠ b ∧ armed b) (t.writeByte a value) := by
  have hwrite : t.writeByte a value = { t with planted := Function.update t.planted a false } := by
    rw [Debuggee.writeByte, if_neg hne, hvalue, Function.update_eq_self]
  rw [hwrite]
  refine ⟨h.machine, fun b hplanted => ?_, fun k harmed => ?_⟩
  · change Function.update t.planted a false b = true at hplanted
    rcases eq_or_ne b a with rfl | hb
    · simp at hplanted
    · rw [Function.update_of_ne hb] at hplanted
      exact ⟨hb.symm, h.planted b hplanted⟩
  · change Function.update t.planted a false _ = true
    rw [Function.update_of_ne harmed.1.symm]
    exact h.executed k harmed.2

theorem sync_planted {s : Session} (h : Sync program start s) {a : UInt64}
    (hnew : a ∉ s.breakpoints) (hbyte : s.ops.byte a ≠ breakpointByte) :
    Sync program start { withTarget s (s.ops.writeByte a breakpointByte) with
      breakpoints := s.breakpoints.insert a ⟨s.ops.byte a⟩ } := by
  have hplanted : s.ops.planted a = false := by
    by_contra hplanted
    exact hnew (h.tracks.planted a (by simpa using hplanted))
  have hretired : (s.ops.writeByte a breakpointByte).retired = s.ops.retired := by
    simp [Debuggee.writeByte]
  refine ⟨h.alive, h.hardware, (tracks_plant h.tracks a).congr fun b => ?_,
    fun b armed harmed => ?_⟩
  · rw [Std.ExtTreeMap.mem_insert, Std.LawfulEqOrd.compare_eq_iff_eq, or_comm]
  · change (s.breakpoints.insert a ⟨s.ops.byte a⟩)[b]? = some armed at harmed
    change armed.originalByte = (run program start
      (s.ops.writeByte a breakpointByte).retired).memory
      b.toNat ∧ _
    rw [hretired]
    rcases eq_or_ne a b with rfl | hne
    · rw [Std.ExtTreeMap.getElem?_insert_self, Option.some.injEq] at harmed
      rw [← harmed]
      refine ⟨?_, hbyte⟩
      rw [← h.tracks.machine]
      simp [Debuggee.byte, hplanted]
    · rw [Std.ExtTreeMap.getElem?_insert, if_neg (by simpa using hne)] at harmed
      exact h.saved b armed harmed

theorem sync_cleared {s : Session} (h : Sync program start s) {a : UInt64} {armed : ArmedBreakpoint}
    (harmed : s.breakpoints[a]? = some armed) :
    Sync program start { withTarget s (s.ops.writeByte a armed.originalByte) with
      breakpoints := s.breakpoints.erase a } := by
  obtain ⟨hsaved, hne⟩ := h.saved a armed harmed
  have hretired : (s.ops.writeByte a armed.originalByte).retired = s.ops.retired := by
    simp [Debuggee.writeByte, hne]
  rw [← h.tracks.machine] at hsaved
  refine ⟨h.alive, h.hardware, (tracks_lift h.tracks hsaved hne).congr fun b => ?_,
    fun b armed' harmed' => ?_⟩
  · simp
  · change (s.breakpoints.erase a)[b]? = some armed' at harmed'
    change armed'.originalByte = (run program start
      (s.ops.writeByte a armed.originalByte).retired).memory b.toNat ∧ _
    rw [hretired]
    rw [Std.ExtTreeMap.getElem?_erase] at harmed'
    split_ifs at harmed'
    exact h.saved b armed' harmed'

/-- Shown is the undisturbed run, exactly if the table holds its bytes. -/
theorem shows_iff {s : Session} (htracks : Tracks program start (· ∈ s.breakpoints) s.ops) :
    Shows program start s ↔ ∀ (a : UInt64) (armed : ArmedBreakpoint),
      s.breakpoints[a]? = some armed →
        armed.originalByte = (run program start s.ops.retired).memory a.toNat := by
  constructor
  · intro h a armed harmed
    have hseen := h.memory a
    rwa [seen, harmed] at hseen
  · intro h
    refine ⟨by rw [htracks.machine], fun a => ?_⟩
    rcases harmed : s.breakpoints[a]? with _ | armed
    · have hplanted : s.ops.planted a = false := by
        by_contra hplanted
        obtain ⟨armed, harmed'⟩ := getElem?_of_mem (htracks.planted a (by simpa using hplanted))
        simp [harmed] at harmed'
      simp [seen, harmed, Debuggee.byte, hplanted, htracks.machine]
    · simp [seen, harmed, h a armed harmed]

theorem Sync.shows {s : Session} (h : Sync program start s) : Shows program start s :=
  (shows_iff h.tracks).mpr fun a armed harmed => (h.saved a armed harmed).1

/-- A resumed target that tracks the run shows it, exactly if the bytes under the breakpoints are
    what they were. -/
theorem shows_resumed_iff {s : Session} (h : Sync program start s) {u : Debuggee}
    (htracks : Tracks program start (· ∈ s.breakpoints) u) :
    Shows program start (withTarget s u) ↔ ∀ a ∈ s.breakpoints,
      (run program start u.retired).memory a.toNat =
        (run program start s.ops.retired).memory a.toNat := by
  rw [shows_iff htracks]
  constructor
  · intro hbytes a hmem
    obtain ⟨armed, harmed⟩ := getElem?_of_mem hmem
    exact (hbytes a armed harmed).symm.trans (h.saved a armed harmed).1
  · intro hbytes a armed harmed
    exact (h.saved a armed harmed).1.trans (hbytes a (mem_of_getElem? harmed)).symm

theorem sync_resumed {s : Session} (h : Sync program start s) {u : Debuggee}
    (htracks : Tracks program start (· ∈ s.breakpoints) u)
    (hbytes : ∀ a ∈ s.breakpoints, (run program start u.retired).memory a.toNat =
      (run program start s.ops.retired).memory a.toNat) : Sync program start (withTarget s u) := by
  refine ⟨h.alive, h.hardware, htracks, fun a armed harmed => ?_⟩
  obtain ⟨hsaved, hne⟩ := h.saved a armed harmed
  exact ⟨hsaved.trans (hbytes a (mem_of_getElem? harmed)).symm, hne⟩

/-! ### Resuming the target -/

/-- The target resumed for one step, or until it stops. -/
def resumed (t : Debuggee) (stepping : Bool) : Debuggee := { t with stepping }

theorem Tracks.resumed {armed : UInt64 → Prop} {t : Debuggee} (h : Tracks program start armed t)
    (stepping : Bool) : Tracks program start armed (resumed t stepping) :=
  ⟨h.machine, h.planted, h.executed⟩

theorem continueExecution_run {s : Session} (h : Sync program start s) {t : Debuggee}
    (hproceed : (resumed s.ops false).proceed program = some t) :
    continueExecution (Debuggee.ops program) s =
      (.ok (trapped (withTarget s t)).1, (trapped (withTarget s t)).2) := by
  rw [continueExecution, bind_of_ok (requireAlive_run h.alive)]
  exact waitAndClassify_run (s := withTarget s (resumed s.ops false)) h.hardware hproceed

theorem continueExecution_interrupted {s : Session} (h : s.alive = true)
    (hproceed : (resumed s.ops false).proceed program = none) :
    (continueExecution (Debuggee.ops program) s).1 = .error (.syscall "waitpid" 4) := by
  have hwait : call (Debuggee.ops program).wait (withTarget s (resumed s.ops false)) =
      (.error (.syscall "waitpid" 4), withTarget s (resumed s.ops false)) := by
    simp [call, within, Debuggee.ops, withTarget, hproceed]
  rw [continueExecution, bind_of_ok (requireAlive_run h)]
  change (waitAndClassify (Debuggee.ops program) (withTarget s (resumed s.ops false))).1 = _
  rw [waitAndClassify, bind_of_error hwait]

theorem singleStep_run {s : Session} (h : Sync program start s)
    (hfree : s.ops.machine.registers.rip ∉ s.breakpoints) {t : Debuggee}
    (hproceed : (resumed s.ops true).proceed program = some t) :
    singleStep (Debuggee.ops program) s =
      (.ok (trapped (withTarget s t)).1, (trapped (withTarget s t)).2) := by
  have hregisters : call (Debuggee.ops program).readRegisters s =
      (.ok s.ops.machine.registers, s) := rfl
  rw [singleStep, bind_of_ok (requireAlive_run h.alive), bind_of_ok hregisters, look_bind_run]
  change (if s.ops.machine.registers.rip ∈ s.breakpoints then _ else _ : Reducer _ _ _) s = _
  rw [if_neg hfree]
  exact waitAndClassify_run (s := withTarget s (resumed s.ops true)) h.hardware hproceed

theorem singleStep_run_armed {s : Session} (h : Sync program start s) {armed : ArmedBreakpoint}
    (harmed : s.breakpoints[s.ops.machine.registers.rip]? = some armed) {t : Debuggee}
    (hproceed : (resumed (s.ops.writeByte s.ops.machine.registers.rip armed.originalByte)
      true).proceed program = some t) :
    singleStep (Debuggee.ops program) s = (.ok (.stopped (.stopped sigtrap)),
      withTarget s (t.writeByte s.ops.machine.registers.rip breakpointByte)) := by
  have hregisters : call (Debuggee.ops program).readRegisters s =
      (.ok s.ops.machine.registers, s) := rfl
  have hstep : stepOffBreakpoint (Debuggee.ops program) s.ops.machine.registers.rip s =
      (.ok (.stopped sigtrap),
        withTarget s (t.writeByte s.ops.machine.registers.rip breakpointByte)) := by
    let lifted := s.ops.writeByte s.ops.machine.registers.rip armed.originalByte
    have hresume : call ((Debuggee.ops program).singleStep 0) (withTarget s lifted) =
        (.ok (), withTarget s (resumed lifted true)) := rfl
    rw [stepOffBreakpoint, look_bind_run, bind_of_ok (require_eq_ok.mpr ⟨harmed, rfl⟩),
      bind_of_ok (writeMemory_run s _ armed.originalByte), bind_of_ok hresume,
      bind_of_ok (wait_run (s := withTarget s (resumed lifted true)) hproceed)]
    rfl
  rw [singleStep, bind_of_ok (requireAlive_run h.alive), bind_of_ok hregisters, look_bind_run]
  change (if s.ops.machine.registers.rip ∈ s.breakpoints then _ else _ : Reducer _ _ _) s = _
  rw [if_pos (mem_of_getElem? harmed)]
  exact bind_of_ok hstep

/-- Rewinding an executed `INT3` gives the target before it. -/
theorem trapped_trap {s : Session} {u : Debuggee} (h : u.machine.registers.rip ∈ s.breakpoints) :
    (trapped (withTarget s u.trap)).2 = withTarget s u := by
  have hback : u.trap.machine.registers.rip - 1 = u.machine.registers.rip := by
    simp [Debuggee.trap, X64Registers.setInstructionPointer]
  rw [trapped_of_armed (by simpa only [withTarget, hback] using h)]
  simp only [withTarget, hback]
  rfl

/-! ### The calls of a run -/

/-- The session of a call that starts with this patience. -/
def patient (s : Session) (patience : ℕ) : Session := withTarget s { s.ops with patience }

theorem Sync.patient {s : Session} (h : Sync program start s) (patience : ℕ) :
    Sync program start (patient s patience) :=
  ⟨h.alive, h.hardware, ⟨h.tracks.machine, h.tracks.planted, h.tracks.executed⟩, h.saved⟩

/-- What is shown of a call that starts in step with the run. -/
structure Settled (program : Machine → Machine) (start : Machine)
    (e : Event Session (Call × ℕ) (Except HostError Answer)) : Prop where
  transparent_iff : Transparent program start e ↔ Clean program start e
  sync : Clean program start e → Sync program start e.post

/-- A call that does not resume the target. -/
theorem settled_of_still {e : Event Session (Call × ℕ) (Except HostError Answer)}
    (hsync : Sync program start e.post) (hretired : e.post.ops.retired = e.pre.ops.retired)
    (hreads : ReadsRun program start e) (hcontinue : e.input.1 ≠ .continueExecution)
    (hstep : e.input.1 ≠ .singleStep) :
    Settled program start e := by
  exact ⟨⟨fun _ => ⟨fun h => absurd h hcontinue, fun h => absurd h hstep,
      fun h => absurd h hcontinue, fun h => absurd h hstep⟩,
    fun _ => ⟨hsync.shows, hreads, hretired.ge, fun h => absurd h hstep,
      fun h => absurd h hcontinue⟩⟩, fun _ => hsync⟩

theorem FirstArmed.unique {s : Session} {i j : ℕ} (hi : FirstArmed program start s i)
    (hj : FirstArmed program start s j) : i = j := by
  rcases lt_trichotomy i j with hlt | heq | hlt
  · exact absurd hi.1 (hj.2 i hlt)
  · exact heq
  · exact absurd hj.1 (hi.2 j hlt)

/-- A continuation that was not interrupted ends at the first armed address. -/
theorem settled_continue {s : Session} (h : Sync program start s) {k j : ℕ} {u : Debuggee}
    {answer : Except HostError Answer} (htracks : Tracks program start (· ∈ s.breakpoints) u)
    (hretired : u.retired = s.ops.retired + j) (hfirst : FirstArmed program start s j) :
    Settled program start ⟨s, (.continueExecution, k), answer, withTarget s u⟩ := by
  obtain ⟨harmed, hbefore⟩ := hfirst
  have hshows := shows_resumed_iff h htracks
  have hsync := sync_resumed h htracks
  rw [hretired] at hshows hsync
  have hpost : (withTarget s u).ops.retired = s.ops.retired + j := hretired
  have hstart : s.ops.machine.registers.rip ∉ s.breakpoints ↔ 0 < j := by
    rw [h.tracks.machine]
    constructor
    · intro hfree
      refine Nat.pos_of_ne_zero fun hzero => hfree ?_
      rwa [hzero] at harmed
    · exact fun hj => hbefore 0 hj
  refine ⟨⟨fun ht => ⟨fun _ => ?_, fun hcall => (nomatch hcall), fun _ j' hfirst => ?_,
    fun hcall => (nomatch hcall)⟩, fun hc => ?_⟩,
    fun hc => hsync (hc.continued rfl j ⟨harmed, hbefore⟩)⟩
  · have hlt := (ht.continueExecution rfl).1
    simp only [hpost] at hlt
    exact hstart.mpr (by omega)
  · obtain rfl : j = j' := FirstArmed.unique ⟨harmed, hbefore⟩ hfirst
    exact hshows.mp ht.shows
  · have hj := hstart.mp (hc.continueExecution rfl)
    refine ⟨hshows.mpr (hc.continued rfl j ⟨harmed, hbefore⟩),
      ⟨fun hcall => (nomatch hcall), fun _ _ hcall => (nomatch hcall)⟩, ?_,
      fun hcall => (nomatch hcall),
      fun _ => ⟨?_, ?_, fun i (hi : s.ops.retired < i) hlast => ?_⟩⟩
    · simp only [hpost]
      omega
    · simp only [hpost]
      omega
    · simpa only [hpost] using harmed
    · simp only [hpost] at hlast
      have := hbefore (i - s.ops.retired) (by omega)
      rwa [Nat.add_sub_cancel' (by omega)] at this

/-- A step that shows the state after one instruction. -/
theorem settled_step {s : Session} (h : Sync program start s) {k : ℕ} {u : Debuggee}
    {answer : Except HostError Answer} (htracks : Tracks program start (· ∈ s.breakpoints) u)
    (hretired : u.retired = s.ops.retired + 1)
    (hland : s.ops.machine.registers.rip ∉ s.breakpoints →
      (run program start (s.ops.retired + 1)).registers.rip - 1 ∉ s.breakpoints) :
    Settled program start ⟨s, (.singleStep, k), answer, withTarget s u⟩ := by
  have hshows := shows_resumed_iff h htracks
  have hsync := sync_resumed h htracks
  rw [hretired] at hshows hsync
  refine ⟨⟨fun ht => ⟨fun hcall => (nomatch hcall), fun _ => hland, fun hcall => (nomatch hcall),
    fun _ => ?_⟩, fun hc => ?_⟩, fun hc => hsync (hc.stepped rfl)⟩
  · exact hshows.mp ht.shows
  · refine ⟨hshows.mpr (hc.stepped rfl),
      ⟨fun hcall => (nomatch hcall), fun _ _ hcall => (nomatch hcall)⟩, ?_, fun _ => hretired,
      fun hcall => (nomatch hcall)⟩
    exact (Nat.le_succ _).trans hretired.ge

/-- A step that ends one byte past an armed address is taken for a hit and shows a state that the
    target is not in. -/
theorem settled_rewound {s : Session} {k : ℕ} {t : Debuggee} {answer : Except HostError Answer}
    (hmachine : t.machine = run program start (s.ops.retired + 1))
    (hretired : t.retired = s.ops.retired + 1)
    (hfree : s.ops.machine.registers.rip ∉ s.breakpoints)
    (hland : t.machine.registers.rip - 1 ∈ s.breakpoints) :
    Settled program start ⟨s, (.singleStep, k), answer, (trapped (withTarget s t)).2⟩ := by
  have hunclean : ¬ Clean program start
      ⟨s, (.singleStep, k), answer, (trapped (withTarget s t)).2⟩ := by
    intro hc
    refine hc.singleStep rfl hfree ?_
    rwa [← hmachine]
  refine ⟨⟨fun ht => ?_, fun hc => absurd hc hunclean⟩, fun hc => absurd hc hunclean⟩
  have hshows : Shows program start (trapped (withTarget s t)).2 := ht.shows
  rw [trapped_of_armed (s := withTarget s t) hland] at hshows
  have hregisters : t.machine.registers.setInstructionPointer (t.machine.registers.rip - 1) =
      (run program start t.retired).registers := hshows.registers
  rw [hretired, ← hmachine] at hregisters
  exact absurd (congrArg X64Registers.rip hregisters) (by simp [X64Registers.setInstructionPointer])

/-- The lifted breakpoint lets the target retire the instruction under it. -/
theorem tracks_steppedOff (hprogram : WellBehaved program start) {s : Session}
    (h : Sync program start s) {armed : ArmedBreakpoint}
    (harmed : s.breakpoints[s.ops.machine.registers.rip]? = some armed) :
    ∃ t, (resumed (s.ops.writeByte s.ops.machine.registers.rip armed.originalByte) true).proceed
        program = some t ∧ t.retired = s.ops.retired + 1 ∧
      Tracks program start (· ∈ s.breakpoints)
        (t.writeByte s.ops.machine.registers.rip breakpointByte) := by
  obtain ⟨hsaved, hne⟩ := h.saved _ armed harmed
  rw [← h.tracks.machine] at hsaved
  have hlifted := (tracks_lift h.tracks hsaved hne).resumed true
  have hrip : (resumed (s.ops.writeByte s.ops.machine.registers.rip armed.originalByte)
      true).machine.registers.rip = s.ops.machine.registers.rip := by
    simp [resumed, Debuggee.writeByte, hne]
  have hretired : (s.ops.writeByte s.ops.machine.registers.rip armed.originalByte).retired =
      s.ops.retired := by
    simp [Debuggee.writeByte, hne]
  have hfree : ¬ (resumed (s.ops.writeByte s.ops.machine.registers.rip armed.originalByte)
      true).AtInt3 := by
    rw [atInt3_iff hprogram hlifted, hrip]
    simp
  refine ⟨_, (if_pos rfl).trans (congrArg some (if_neg hfree)), congrArg (· + 1) hretired,
    (tracks_plant (tracks_retire hprogram hlifted) _).congr fun b => ?_⟩
  constructor
  · rintro (hb | rfl)
    · exact hb.2
    · exact mem_of_getElem? harmed
  · intro hb
    rcases eq_or_ne s.ops.machine.registers.rip b with heq | hne'
    · exact .inr heq
    · exact .inl ⟨hne', hb⟩

/-- The calls that do not resume the target. -/
def Still : Call → Prop
  | .setBreakpoint _ | .clearBreakpoint _ | .readMemory _ _ | .readRegisters => True
  | _ => False

/-- They leave the session in step with the run. -/
theorem wp_still {s : Session} (h : Sync program start s) {call : Call} (hstill : Still call) :
    wp (applyCall (Debuggee.ops program) call)
      (fun _ t => Sync program start t ∧ t.ops.retired = s.ops.retired)
      (fun _ t => Sync program start t ∧ t.ops.retired = s.ops.retired) s := by
  cases call with
  | setBreakpoint a =>
    rw [applyCall, wp_bind]
    refine wp_mono (wp_setBreakpoint h.alive a) ?_ ?_
    · rintro _ t ⟨hnew, hbyte, rfl⟩
      exact ⟨sync_planted h hnew hbyte, by simp [withTarget, Debuggee.writeByte]⟩
    · rintro _ t rfl
      exact ⟨h, rfl⟩
  | clearBreakpoint a =>
    rw [applyCall, wp_bind]
    refine wp_mono (wp_clearBreakpoint h.alive a) ?_ ?_
    · rintro _ t ⟨armed, harmed, rfl⟩
      refine ⟨sync_cleared h harmed, ?_⟩
      simp [withTarget, Debuggee.writeByte, (h.saved a armed harmed).2]
    · rintro _ t rfl
      exact ⟨h, rfl⟩
  | readMemory a len =>
    have hread : LinuxDebugSession.call ((Debuggee.ops program).readMemory a len) s =
        (.ok ((List.range len).map fun i => s.ops.byte (a + UInt64.ofNat i)), s) := rfl
    simp only [applyCall, readMemory, wp_bind, wp_of_ok (requireAlive_run h.alive), wp_refuse]
    split_ifs
    · exact ⟨h, trivial⟩
    · rw [wp_of_ok hread]
      exact ⟨h, rfl⟩
  | readRegisters =>
    have hread : LinuxDebugSession.call (Debuggee.ops program).readRegisters s =
        (.ok s.ops.machine.registers, s) := rfl
    simp only [applyCall, readRegisters, wp_bind, wp_of_ok (requireAlive_run h.alive),
      wp_of_ok hread]
    exact ⟨h, rfl⟩
  | setHwBreakpoint _ | setWatchpoint _ _ _ | clearHw _ | writeRegisters _ | writeMemory _ _
  | continueExecution | singleStep => exact hstill.elim

/-- What is read from a session in step with the run. -/
theorem readMemory_run {s : Session} (h : Sync program start s) {a : UInt64} {len : ℕ}
    (hsize : len ≤ maxMemoryTransferBytes) (hlen : Target.Accessible a len) :
    readMemory (Debuggee.ops program) a len s =
      (.ok (readSpan (run program start s.ops.retired).memory a.toNat len), s) := by
  have hread : call ((Debuggee.ops program).readMemory a len) s =
      (.ok ((List.range len).map fun i => s.ops.byte (a + UInt64.ofNat i)), s) := rfl
  rw [readMemory, bind_of_ok (requireAlive_run h.alive), refuse_bind_run, if_neg (by omega),
    bind_of_ok hread]
  refine Prod.ext (congrArg Except.ok ?_) rfl
  refine substituteOriginals_eq hlen _ _ (by simp) (fun bp hmem => ?_) fun i hi => ?_
  · exact (h.saved bp.1 bp.2 (Std.ExtTreeMap.mem_toList_iff_getElem?_eq_some.mp hmem)).1
  · have haddress : (a + UInt64.ofNat i).toNat = a.toNat + i := by
      rcases hlen with hlen | hlen
      · omega
      · rw [UInt64.toNat_add, UInt64.toNat_ofNat']
        omega
    rcases harmed : s.breakpoints[a + UInt64.ofNat i]? with _ | armed
    · have hseen := h.shows.memory (a + UInt64.ofNat i)
      rw [seen, harmed, haddress] at hseen
      simp [hi, hseen]
    · exact .inr ⟨(_, armed), Std.ExtTreeMap.mem_toList_iff_getElem?_eq_some.mpr harmed, haddress⟩

theorem readsRun_of_sync {s s' : Session} {call : Call} {k : ℕ} {answer : Except HostError Answer}
    (h : Sync program start s) (hperform : perform program (call, k) s = (answer, s')) :
    ReadsRun program start ⟨s, (call, k), answer, s'⟩ := by
  have hp := h.patient k
  constructor
  · intro (hcall : call = .readRegisters)
    have hread : readRegisters (Debuggee.ops program) (patient s k) =
        (.ok s.ops.machine.registers, patient s k) := by
      rw [readRegisters, bind_of_ok (requireAlive_run hp.alive)]
      rfl
    have hrun := bind_of_ok (f := fun registers => pure (Answer.registers registers)) hread
    subst hcall
    refine (congrArg Prod.fst (hperform.symm.trans hrun)).trans ?_
    rw [h.tracks.machine]
    rfl
  · intro a len (hcall : call = .readMemory a len) hsize hlen
    have hrun := bind_of_ok (f := fun bytes => pure (Answer.bytes bytes))
      (readMemory_run hp hsize hlen)
    subst hcall
    exact congrArg Prod.fst (hperform.symm.trans hrun)

theorem settled_still {s s' : Session} {call : Call} {k : ℕ} {answer : Except HostError Answer}
    (h : Sync program start s) (hstill : Still call)
    (hperform : perform program (call, k) s = (answer, s')) :
    Settled program start ⟨s, (call, k), answer, s'⟩ := by
  obtain ⟨hsync, hretired⟩ := wp_state (wp_still (h.patient k) hstill) hperform
  refine settled_of_still hsync hretired (readsRun_of_sync h hperform) ?_ ?_
  · rintro rfl
    exact hstill
  · rintro rfl
    exact hstill

theorem settled_continueExecution (hprogram : WellBehaved program start) {s s' : Session} {k : ℕ}
    {answer : Except HostError Answer} (h : Sync program start s)
    (hperform : perform program (.continueExecution, k) s = (answer, s'))
    (hwaited : answer ≠ .error (.syscall "waitpid" 4)) :
    Settled program start ⟨s, (.continueExecution, k), answer, s'⟩ := by
  have hp := h.patient k
  change applyCall (Debuggee.ops program) .continueExecution (patient s k) = (answer, s')
    at hperform
  rcases hproceed : (resumed (patient s k).ops false).proceed program with _ | t
  · -- the wait was interrupted
    have herror := continueExecution_interrupted hp.alive hproceed
    have hanswer := congrArg Prod.fst (bind_of_error
      (f := fun outcome => pure (Answer.outcome outcome))
      (Prod.ext herror rfl))
    exact absurd ((congrArg Prod.fst hperform).symm.trans hanswer) hwaited
  · obtain ⟨u, j, htracks, rfl, hretired, harmed, hbefore⟩ :=
      runFor_eq_some hprogram (hp.tracks.resumed false) hproceed
    have hrip : u.machine.registers.rip ∈ (patient s k).breakpoints := by
      rw [htracks.machine, hretired]
      exact harmed
    rw [applyCall, bind_of_ok (continueExecution_run hp hproceed), trapped_trap hrip] at hperform
    obtain ⟨-, rfl⟩ := Prod.mk.inj hperform
    exact settled_continue h htracks hretired ⟨harmed, hbefore⟩

theorem settled_singleStep (hprogram : WellBehaved program start) {s s' : Session} {k : ℕ}
    {answer : Except HostError Answer} (h : Sync program start s)
    (hperform : perform program (.singleStep, k) s = (answer, s')) :
    Settled program start ⟨s, (.singleStep, k), answer, s'⟩ := by
  have hp := h.patient k
  change applyCall (Debuggee.ops program) .singleStep (patient s k) = (answer, s') at hperform
  by_cases hmem : s.ops.machine.registers.rip ∈ s.breakpoints
  · obtain ⟨armed, harmed⟩ := getElem?_of_mem hmem
    obtain ⟨t, hproceed, hretired, htracks⟩ := tracks_steppedOff hprogram hp harmed
    rw [applyCall, bind_of_ok (singleStep_run_armed hp harmed hproceed)] at hperform
    obtain ⟨-, rfl⟩ := Prod.mk.inj hperform
    have hone : t.retired = s.ops.retired + 1 := hretired
    refine settled_step h htracks ?_ (fun hfree => absurd hmem hfree)
    simpa [Debuggee.writeByte] using hone
  · have hfree : ¬ (resumed (patient s k).ops true).AtInt3 := by
      rwa [atInt3_iff hprogram (hp.tracks.resumed true)]
    have hproceed : (resumed (patient s k).ops true).proceed program =
        some ((resumed (patient s k).ops true).retire program) :=
      (if_pos rfl).trans (congrArg some (if_neg hfree))
    have htracks := tracks_retire hprogram (hp.tracks.resumed true)
    have hmachine := htracks.machine
    rw [applyCall, bind_of_ok (singleStep_run hp hmem hproceed)] at hperform
    obtain ⟨-, rfl⟩ := Prod.mk.inj hperform
    by_cases hland : ((resumed (patient s k).ops true).retire program).machine.registers.rip - 1 ∈
        s.breakpoints
    · exact settled_rewound hmachine rfl hmem hland
    · rw [trapped_of_free hland]
      refine settled_step h htracks rfl fun _ => ?_
      rw [hmachine] at hland
      exact hland

/-- One call that starts in step with the run. -/
theorem settled_of_step (hprogram : WellBehaved program start) {s s' : Session}
    {input : Call × ℕ} {answer : Except HostError Answer} (h : Sync program start s)
    (hstep : Step program s input answer s') : Settled program start ⟨s, input, answer, s'⟩ := by
  obtain ⟨call, k⟩ := input
  obtain ⟨hcontrols, hperform, hwaited⟩ := hstep
  cases call with
  | setBreakpoint _ | clearBreakpoint _ | readMemory _ _ | readRegisters =>
    exact settled_still h trivial hperform
  | continueExecution => exact settled_continueExecution hprogram h hperform hwaited
  | singleStep => exact settled_singleStep hprogram h hperform
  | setHwBreakpoint _ | setWatchpoint _ _ _ | clearHw _ | writeRegisters _ | writeMemory _ _ =>
    exact hcontrols.elim

theorem sync_start (program : Machine → Machine) (start : Machine) :
    Sync program start (.new (.start start)) := by
  refine ⟨rfl, fun _ => rfl, ⟨rfl, fun a h => ?_, fun k h => ?_⟩, fun a armed h => ?_⟩
  · simp [Debuggee.start, LinuxDebugSession.new] at h
  · simp [LinuxDebugSession.new] at h
  · simp [LinuxDebugSession.new] at h

/-- A continuation with an armed address ahead returns, if it is waited for long enough. -/
theorem continueExecution_returns (hprogram : WellBehaved program start) {s : Session}
    (h : Sync program start s) {j : ℕ}
    (harmed : (run program start (s.ops.retired + j)).registers.rip ∈ s.breakpoints) :
    ∃ k answer s', Step program s (.continueExecution, k) answer s' := by
  have hp := h.patient (j + 1)
  obtain ⟨t, hproceed⟩ := runFor_returns hprogram (hp.tracks.resumed false) harmed
  have hrun := bind_of_ok (f := fun outcome => pure (Answer.outcome outcome))
    (continueExecution_run hp hproceed)
  exact ⟨j + 1, _, _, trivial, hrun, by simp⟩

end Proofs

/-- CORRECT (transparent debugging): a run of the debugger shows the undisturbed run of the target
    at every stop, exactly if every call of it is clean; and a continuation of such a run returns
    whenever an armed address lies ahead. -/
theorem debugging_transparent_iff_clean {program : Machine → Machine} {start : Machine}
    (hprogram : WellBehaved program start)
    {es : List (Event Session (Call × ℕ) (Except HostError Answer))} {s : Session}
    (hrun : Run (Step program) (.new (.start start)) es s) :
    ((∀ e ∈ es, Transparent program start e) ↔ ∀ e ∈ es, Clean program start e) ∧
    ((∀ e ∈ es, Clean program start e) → ∀ j,
      (run program start (s.ops.retired + j)).registers.rip ∈ s.breakpoints →
        ∃ k answer s', Step program s (.continueExecution, k) answer s') := by
  have hhistory := hrun.history_invariant
    (fun es s => ((∀ e ∈ es, Transparent program start e) ↔ ∀ e ∈ es, Clean program start e) ∧
      ((∀ e ∈ es, Clean program start e) → Sync program start s))
    ⟨by simp, fun _ => sync_start program start⟩ ?_
  · exact ⟨hhistory.1, fun hclean _ => continueExecution_returns hprogram (hhistory.2 hclean)⟩
  · -- once a call was not clean, neither side holds any more
    rintro es s input answer s' - ⟨hiff, hsync⟩ hstep
    simp only [List.forall_mem_append, List.forall_mem_singleton]
    constructor
    · constructor
      · rintro ⟨hall, hlast⟩
        have hclean := hiff.mp hall
        exact ⟨hclean, (settled_of_step hprogram (hsync hclean) hstep).transparent_iff.mp hlast⟩
      · rintro ⟨hclean, hlast⟩
        exact ⟨hiff.mpr hclean,
          (settled_of_step hprogram (hsync hclean) hstep).transparent_iff.mpr hlast⟩
    · rintro ⟨hclean, hlast⟩
      exact (settled_of_step hprogram (hsync hclean) hstep).sync hlast

/-- A program of `NOP`s. -/
def nops (m : Machine) : Machine :=
  { m with registers := m.registers.setInstructionPointer (m.registers.rip + 1) }

def nopStart : Machine := { registers := { rip := 0x1000 }, memory := fun _ => 0x90 }

theorem nops_wellBehaved : WellBehaved nops nopStart := by
  have hmemory : ∀ n, (run nops nopStart n).memory = fun _ => 0x90 := by
    intro n
    induction n with
    | zero => rfl
    | succ n ih => rw [run_succ, ← ih]; rfl
  refine ⟨fun n k => by rw [hmemory]; rfl, fun k => ?_⟩
  change (0x90 : UInt8) ≠ breakpointByte
  decide

/-- A breakpoint armed where the target stands, and a continuation. -/
theorem run_armedHere : ∃ s₁ s₂, Run (Step nops) (.new (.start nopStart))
    [⟨.new (.start nopStart), (.setBreakpoint 0x1000, 0), .ok .done, s₁⟩,
      ⟨s₁, (.continueExecution, 1), .ok (.outcome (.breakpointHit 0x1000)), s₂⟩] s₂ ∧
    s₁.ops.retired = 0 ∧ s₂.ops.retired = 0 :=
  ⟨_, _, (Run.start.next ⟨trivial, rfl, by simp⟩).next ⟨trivial, rfl, by simp⟩, rfl, rfl⟩

/-- Continuing from a breakpoint runs into the same breakpoint again. -/
theorem continue_rehits_breakpoint : WellBehaved nops nopStart ∧
    ∃ es s, Run (Step nops) (.new (.start nopStart)) es s ∧
      ∃ e ∈ es, e.input.1 = .continueExecution ∧
        e.output = .ok (.outcome (.breakpointHit 0x1000)) ∧
        e.post.ops.retired = e.pre.ops.retired ∧ ¬ Transparent nops nopStart e := by
  obtain ⟨s₁, s₂, hrun, h₁, h₂⟩ := run_armedHere
  refine ⟨nops_wellBehaved, _, _, hrun, _, List.mem_cons_of_mem _ (List.mem_singleton.mpr rfl),
    rfl, rfl, h₂.trans h₁.symm, fun htransparent => ?_⟩
  have hprogress : s₁.ops.retired < s₂.ops.retired := (htransparent.continueExecution rfl).1
  omega

theorem debugging_transparent_iff_clean_armedHere :
    ∃ es s, Run (Step nops) (.new (.start nopStart)) es s ∧ es ≠ [] ∧
      ((∀ e ∈ es, Transparent nops nopStart e) ↔ ∀ e ∈ es, Clean nops nopStart e) := by
  obtain ⟨s₁, s₂, hrun, -, -⟩ := run_armedHere
  exact ⟨_, _, hrun, by simp, (debugging_transparent_iff_clean nops_wellBehaved hrun).1⟩

end ReSymbol.LinuxDebugHost.Transparency
