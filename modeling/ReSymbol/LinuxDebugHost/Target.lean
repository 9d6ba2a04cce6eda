import ReSymbol.LinuxDebugHost.DebugRegisters
import ReSymbol.Schemes.Patches

/-! A target under the session.

    The target has registers, memory, and a USER area with the debug registers. While it lives,
    every ptrace call on it succeeds, except a transfer that touches the last address. What it does
    between a resumption and its next stop is a move, given together with the call that resumes it:
    the registers it stops with, the bytes it stores, the `DR6` bits that the CPU sets, the `INT3`
    it executed, and the event of the stop.

        (session, target) ──(call, move)──▶ (answer, session', target') -/

namespace ReSymbol.LinuxDebugHost
open Schemes Schemes.Reducer

/-! ### Targets and moves -/

/-- What a resumed target does up to its next stop. -/
structure Move where
  registers : X64Registers
  stores : List (UInt64 × UInt8)
  status : UInt64
  int3 : Option UInt64
  event : StopEvent

structure Target where
  registers : X64Registers
  memory : Memory UInt8
  user : ℕ → UInt64
  live : Bool
  detached : Bool
  moves : List Move

/-- The condition of the slot triggered during the move. -/
def Move.Triggers (m : Move) (slot : Fin hardwareSlots) : Prop := bit m.status slot.val = true

/-- The memory after the target's own stores. -/
def Move.storesOn (m : Move) (memory : Memory UInt8) : Memory UInt8 :=
  m.stores.foldl (fun memory store => writeSpan memory store.1.toNat [store.2]) memory

namespace Target

/-- Run up to the next stop. Bits of `DR6` stay set until they are written. -/
def advance (t : Target) (m : Move) : Target :=
  { t with
    registers := m.registers
    memory := m.storesOn t.memory
    user := Function.update t.user dr6Offset (t.user dr6Offset ||| m.status)
    live := !m.event.isTerminal }

/-- A call that succeeds exactly while the target lives. -/
def whileLive {α : Type} (operation : String) (answer : Target → α) (effect : Target → Target) :
    Reducer Target HostError α :=
  fun t => if t.live then (.ok (answer t), effect t) else (.error (.syscall operation 3), t)

/-- The transfer does not touch the last address. -/
def Accessible (address : UInt64) (len : ℕ) : Prop := len = 0 ∨ address.toNat + len < 2 ^ 64

instance (address : UInt64) (len : ℕ) : Decidable (Accessible address len) := by
  unfold Accessible; infer_instance

def ops : PtraceOps Target where
  cont _ := whileLive "PTRACE_CONT" (fun _ => ()) id
  singleStep _ := whileLive "PTRACE_SINGLESTEP" (fun _ => ()) id
  wait := fun t => match t.moves with
    | [] => (.error (.syscall "waitpid" 10), t)
    | m :: rest => (.ok m.event, { t.advance m with moves := rest })
  readRegisters := whileLive "PTRACE_GETREGS" registers id
  writeRegisters r := whileLive "PTRACE_SETREGS" (fun _ => ()) fun t => { t with registers := r }
  readMemory address len := do
    refuse (¬ Accessible address len) (.syscall "PTRACE_PEEKTEXT" 5)
    whileLive "PTRACE_PEEKTEXT" (fun t => readSpan t.memory address.toNat len) id
  writeMemory address bytes := do
    refuse (¬ Accessible address bytes.length) (.syscall "PTRACE_POKETEXT" 5)
    whileLive "PTRACE_POKETEXT" (fun _ => ()) fun t =>
      { t with memory := writeSpan t.memory address.toNat bytes }
  peekUser offset := whileLive "PTRACE_PEEKUSER" (fun t => t.user offset) id
  pokeUser offset value := whileLive "PTRACE_POKEUSER" (fun _ => ()) fun t =>
    { t with user := Function.update t.user offset value }
  detach := whileLive "PTRACE_DETACH" (fun _ => ()) fun t => { t with detached := true }
  kill := whileLive "kill" (fun _ => ()) fun t => { t with live := false }

end Target

/-- A session over such a target. -/
abbrev TargetSession := LinuxDebugSession Target

/-- Make a call, with what the target does if the call resumes it. -/
def perform (input : Call × Move) (s : TargetSession) : Except HostError Answer × TargetSession :=
  LinuxDebugSession.applyCall Target.ops input.1
    { s with ops := { s.ops with moves := [input.2] } }

/-! ### What the calls do to a live target -/

namespace TargetSession
open LinuxDebugSession

/-- The session and the target agree that the target lives. -/
structure Live (s : TargetSession) : Prop where
  alive : s.alive = true
  live : s.ops.live = true

/-- The session with other bytes in the target. -/
def poke (s : TargetSession) (address : UInt64) (bytes : List UInt8) : TargetSession :=
  { s with ops := { s.ops with memory := writeSpan s.ops.memory address.toNat bytes } }

/-- The session with another word in the USER area. -/
def pokeUser (s : TargetSession) (offset : ℕ) (value : UInt64) : TargetSession :=
  { s with ops := { s.ops with user := Function.update s.ops.user offset value } }

/-- The session after the target ran up to its next stop. -/
def resumed (s : TargetSession) (m : Move) : TargetSession :=
  { s with ops := { s.ops.advance m with moves := [] } }

/-- The session after the target is gone. -/
def buried (s : TargetSession) : TargetSession := { s with alive := false }

/-- The session with the instruction pointer moved. -/
def rewound (s : TargetSession) (address : UInt64) : TargetSession :=
  { s with ops := { s.ops with registers := s.ops.registers.setInstructionPointer address } }

/-- How a trap is classified. -/
def trapped (s : TargetSession) (event : StopEvent) : WaitOutcome × TargetSession :=
  match s.hardwareHit (s.ops.user dr6Offset) with
  | some outcome => (outcome, s.pokeUser dr6Offset 0)
  | none =>
    if s.ops.registers.rip - 1 ∈ s.breakpoints then
      (.breakpointHit (s.ops.registers.rip - 1), s.rewound (s.ops.registers.rip - 1))
    else (.stopped event, s)

/-- How a stop after this move is classified. -/
def classified (s : TargetSession) (m : Move) : WaitOutcome × TargetSession :=
  if m.event.isTerminal then (.finished m.event, (s.resumed m).buried)
  else if m.event = .stopped sigtrap then (s.resumed m).trapped m.event
  else (.stopped m.event, s.resumed m)

/-- One step off a breakpoint. -/
def steppedOff (s : TargetSession) (m : Move) (address : UInt64) (armed : ArmedBreakpoint) :
    WaitOutcome × TargetSession :=
  let stepped := (s.poke address [armed.originalByte]).resumed m
  if m.event.isTerminal then (.finished m.event, stepped.buried)
  else (.stopped m.event, stepped.poke address [breakpointByte])

variable {s : TargetSession}

@[simp] theorem resumed_registers (s : TargetSession) (m : Move) :
    (s.resumed m).ops.registers = m.registers := rfl

@[simp] theorem resumed_live (s : TargetSession) (m : Move) :
    (s.resumed m).ops.live = !m.event.isTerminal := rfl

@[simp] theorem resumed_dr6 (s : TargetSession) (m : Move) :
    (s.resumed m).ops.user dr6Offset = s.ops.user dr6Offset ||| m.status := by
  simp [resumed, Target.advance]

theorem trapped_of_hit {outcome : WaitOutcome} {event : StopEvent}
    (h : s.hardwareHit (s.ops.user dr6Offset) = some outcome) :
    s.trapped event = (outcome, s.pokeUser dr6Offset 0) := by
  rw [trapped, h]

theorem trapped_of_armed {event : StopEvent} (h : s.hardwareHit (s.ops.user dr6Offset) = none)
    (harmed : s.ops.registers.rip - 1 ∈ s.breakpoints) : s.trapped event =
      (.breakpointHit (s.ops.registers.rip - 1), s.rewound (s.ops.registers.rip - 1)) := by
  rw [trapped, h]
  exact if_pos harmed

theorem trapped_of_free {event : StopEvent} (h : s.hardwareHit (s.ops.user dr6Offset) = none)
    (hfree : s.ops.registers.rip - 1 ∉ s.breakpoints) : s.trapped event = (.stopped event, s) := by
  rw [trapped, h]
  exact if_neg hfree

theorem call_whileLive {α : Type} (h : s.ops.live = true) (operation : String)
    (answer : Target → α) (effect : Target → Target) :
    call (Target.whileLive operation answer effect) s =
      (.ok (answer s.ops), { s with ops := effect s.ops }) := by
  simp [call, within, Target.whileLive, h]

theorem call_cont (h : s.ops.live = true) (signal : ℤ) :
    call (Target.ops.cont signal) s = (.ok (), s) := call_whileLive h _ _ _

theorem call_singleStep (h : s.ops.live = true) (signal : ℤ) :
    call (Target.ops.singleStep signal) s = (.ok (), s) := call_whileLive h _ _ _

theorem call_readRegisters (h : s.ops.live = true) :
    call Target.ops.readRegisters s = (.ok s.ops.registers, s) := call_whileLive h _ _ _

theorem call_rewind (h : s.ops.live = true) (address : UInt64) :
    call (Target.ops.writeRegisters (s.ops.registers.setInstructionPointer address)) s =
      (.ok (), s.rewound address) := call_whileLive h _ _ _

theorem call_peekUser (h : s.ops.live = true) (offset : ℕ) :
    call (Target.ops.peekUser offset) s = (.ok (s.ops.user offset), s) := call_whileLive h _ _ _

theorem call_pokeUser (h : s.ops.live = true) (offset : ℕ) (value : UInt64) :
    call (Target.ops.pokeUser offset value) s = (.ok (), s.pokeUser offset value) :=
  call_whileLive h _ _ _

theorem call_readMemory (h : s.ops.live = true) {address : UInt64} {len : ℕ}
    (ha : Target.Accessible address len) :
    call (Target.ops.readMemory address len) s =
      (.ok (readSpan s.ops.memory address.toNat len), s) := by
  simp [call, within, Target.ops, Target.whileLive, h, ha]

theorem call_readMemory_inaccessible {address : UInt64} {len : ℕ}
    (ha : ¬ Target.Accessible address len) :
    call (Target.ops.readMemory address len) s = (.error (.syscall "PTRACE_PEEKTEXT" 5), s) := by
  simp [call, within, Target.ops, ha]

theorem call_writeMemory (h : s.ops.live = true) {address : UInt64} {bytes : List UInt8}
    (ha : Target.Accessible address bytes.length) :
    call (Target.ops.writeMemory address bytes) s = (.ok (), s.poke address bytes) := by
  simp [call, within, Target.ops, Target.whileLive, h, ha, poke]

theorem call_writeMemory_inaccessible {address : UInt64} {bytes : List UInt8}
    (ha : ¬ Target.Accessible address bytes.length) :
    call (Target.ops.writeMemory address bytes) s = (.error (.syscall "PTRACE_POKETEXT" 5), s) := by
  simp [call, within, Target.ops, ha]

theorem call_wait {m : Move} (h : s.ops.moves = [m]) :
    call Target.ops.wait s = (.ok m.event, s.resumed m) := by
  simp [call, within, Target.ops, h, resumed]

theorem readRawByte_run (h : s.ops.live = true) {address : UInt64}
    (ha : Target.Accessible address 1) :
    readRawByte Target.ops address s = (.ok (s.ops.memory address.toNat), s) := by
  rw [readRawByte, bind_of_ok (call_readMemory h ha)]
  simp [readSpan, require]

theorem requireAlive_run (h : s.alive = true) : requireAlive s = (.ok (), s) := by
  simp [requireAlive, refuse, h]

theorem requireAlive_dead (h : s.alive = false) :
    requireAlive s = (.error .targetNotAlive, s) := by
  simp [requireAlive, refuse, h]

theorem hardwareHit_eq_none (h : ∀ i, s.hardware i = none) (status : UInt64) :
    s.hardwareHit status = none := by
  simp [hardwareHit, h]

theorem checkHardwareHit_run (h : s.ops.live = true) :
    checkHardwareHit Target.ops s =
      (.ok (s.hardwareHit (s.ops.user dr6Offset)),
        if (s.hardwareHit (s.ops.user dr6Offset)).isSome then s.pokeUser dr6Offset 0 else s) := by
  rw [checkHardwareHit, look_bind_run]
  by_cases hfree : ∀ i, s.hardware i = none
  · rw [if_pos hfree, hardwareHit_eq_none hfree]
    rfl
  · rw [if_neg hfree]
    rw [bind_of_ok (call_peekUser h _)]
    rcases hhit : s.hardwareHit (s.ops.user dr6Offset) with _ | outcome
    · simp
    · simp only [Option.isSome_some, if_true]
      rw [bind_of_ok (call_pokeUser h _ _)]
      rfl

theorem classifyTrap_run (h : s.ops.live = true) (event : StopEvent) :
    classifyTrap Target.ops event s = (.ok (s.trapped event).1, (s.trapped event).2) := by
  rw [classifyTrap, bind_of_ok (checkHardwareHit_run h), trapped]
  rcases hhit : s.hardwareHit (s.ops.user dr6Offset) with _ | outcome
  · simp only [Option.isSome_none, Bool.false_eq_true, if_false]
    rw [bind_of_ok (call_readRegisters h), look_bind_run]
    change (if s.ops.registers.rip - 1 ∈ s.breakpoints then _ else _ : Reducer _ _ _) s = _
    by_cases harmed : s.ops.registers.rip - 1 ∈ s.breakpoints
    · rw [if_pos harmed, if_pos harmed]
      exact bind_of_ok (call_rewind h _)
    · rw [if_neg harmed, if_neg harmed]
      rfl
  · simp

theorem waitAndClassify_run {m : Move} (hm : s.ops.moves = [m]) :
    waitAndClassify Target.ops s = (.ok (s.classified m).1, (s.classified m).2) := by
  rw [waitAndClassify, bind_of_ok (call_wait hm), classified]
  rcases hevent : m.event with signal | code | signal
  · by_cases htrap : signal = sigtrap
    · have hlive : (s.resumed m).ops.live = true := by simp [hevent, StopEvent.isTerminal]
      simp [htrap, StopEvent.isTerminal, classifyTrap_run hlive]
    · simp [htrap, StopEvent.isTerminal]
  all_goals simp [StopEvent.isTerminal, buried]

theorem continueExecution_run (h : s.Live) {m : Move} (hm : s.ops.moves = [m]) :
    continueExecution Target.ops s = (.ok (s.classified m).1, (s.classified m).2) := by
  rw [continueExecution, bind_of_ok (requireAlive_run h.alive), bind_of_ok (call_cont h.live _)]
  exact waitAndClassify_run hm

/-- Stepping from an address without a breakpoint. -/
theorem singleStep_run (h : s.Live) {m : Move} (hm : s.ops.moves = [m])
    (hfree : s.ops.registers.rip ∉ s.breakpoints) :
    singleStep Target.ops s = (.ok (s.classified m).1, (s.classified m).2) := by
  rw [singleStep, bind_of_ok (requireAlive_run h.alive), bind_of_ok (call_readRegisters h.live),
    look_bind_run]
  change (if s.ops.registers.rip ∈ s.breakpoints then _ else _ : Reducer _ _ _) s = _
  rw [if_neg hfree, bind_of_ok (call_singleStep h.live _)]
  exact waitAndClassify_run hm

theorem singleStep_run_armed (h : s.Live) {m : Move} (hm : s.ops.moves = [m])
    {armed : ArmedBreakpoint} (harmed : s.breakpoints[s.ops.registers.rip]? = some armed)
    (ha : Target.Accessible s.ops.registers.rip 1) :
    singleStep Target.ops s = (.ok (s.steppedOff m s.ops.registers.rip armed).1,
      (s.steppedOff m s.ops.registers.rip armed).2) := by
  have hmem : s.ops.registers.rip ∈ s.breakpoints := by
    rw [← Std.ExtTreeMap.isSome_getElem?_iff_mem, harmed]
    rfl
  rw [singleStep, bind_of_ok (requireAlive_run h.alive), bind_of_ok (call_readRegisters h.live),
    look_bind_run]
  change (if s.ops.registers.rip ∈ s.breakpoints then _ else _ : Reducer _ _ _) s = _
  rw [if_pos hmem]
  have hstep : stepOffBreakpoint Target.ops s.ops.registers.rip s =
      (.ok m.event, (s.steppedOff m s.ops.registers.rip armed).2) := by
    let lifted : TargetSession := s.poke s.ops.registers.rip [armed.originalByte]
    rw [stepOffBreakpoint, look_bind_run, bind_of_ok (require_eq_ok.mpr ⟨harmed, rfl⟩),
      bind_of_ok (call_writeMemory h.live ha), bind_of_ok (call_singleStep (s := lifted) h.live _),
      bind_of_ok (call_wait (s := lifted) hm), steppedOff]
    by_cases hterminal : m.event.isTerminal = true
    · rw [if_pos hterminal, if_pos hterminal]
      rfl
    · have hlive : (lifted.resumed m).ops.live = true := by simp [hterminal]
      rw [if_neg hterminal, if_neg hterminal]
      exact bind_of_ok (call_writeMemory hlive ha)
  refine (bind_of_ok hstep).trans ?_
  rw [steppedOff]
  by_cases hterminal : m.event.isTerminal = true <;> simp [hterminal]

/-! ### Breakpoints and slots -/

/-- The session after a breakpoint was armed. -/
def planted (s : TargetSession) (address : UInt64) : TargetSession :=
  { s.poke address [breakpointByte] with
    breakpoints := s.breakpoints.insert address ⟨s.ops.memory address.toNat⟩ }

/-- The session after a breakpoint was removed. -/
def unplanted (s : TargetSession) (address : UInt64) (armed : ArmedBreakpoint) : TargetSession :=
  { s.poke address [armed.originalByte] with breakpoints := s.breakpoints.erase address }

/-- The session after a slot was programmed. -/
def occupied (s : TargetSession) (slot : Fin hardwareSlots) (armed : HardwareSlot)
    (lengthBits : UInt64) : TargetSession :=
  { (s.pokeUser (drAddressOffset slot) armed.address).pokeUser dr7Offset
      (clearDr7Slot (s.ops.user dr7Offset) slot ||| 1 <<< UInt64.ofNat (2 * slot.val) |||
        encodeNibble armed.kind lengthBits <<< UInt64.ofNat (16 + 4 * slot.val)) with
    hardware := Function.update s.hardware slot (some armed) }

/-- The session after a slot was released. -/
def released (s : TargetSession) (slot : Fin hardwareSlots) : TargetSession :=
  { (s.pokeUser dr7Offset (clearDr7Slot (s.ops.user dr7Offset) slot)).pokeUser
      (drAddressOffset slot) 0 with
    hardware := Function.update s.hardware slot none }

theorem mem_planted {address a : UInt64} :
    a ∈ (s.planted address).breakpoints ↔ address = a ∨ a ∈ s.breakpoints := by
  simp [planted]

theorem mem_unplanted {address a : UInt64} {armed : ArmedBreakpoint} :
    a ∈ (s.unplanted address armed).breakpoints ↔ address ≠ a ∧ a ∈ s.breakpoints := by
  simp [unplanted]

/-- No two slots watch one address. -/
def Distinct (hardware : Fin hardwareSlots → Option HardwareSlot) : Prop :=
  ∀ i i' slot slot', hardware i = some slot → hardware i' = some slot' →
    slot.address = slot'.address → i = i'

theorem Distinct.free {hardware : Fin hardwareSlots → Option HardwareSlot} (h : Distinct hardware)
    (slot : Fin hardwareSlots) : Distinct (Function.update hardware slot none) := by
  intro i i' armed armed' harmed harmed' heq
  rcases eq_or_ne i slot with rfl | hi
  · simp at harmed
  rcases eq_or_ne i' slot with rfl | hi'
  · simp at harmed'
  rw [Function.update_of_ne hi] at harmed
  rw [Function.update_of_ne hi'] at harmed'
  exact h i i' armed armed' harmed harmed' heq

theorem Distinct.occupy {hardware : Fin hardwareSlots → Option HardwareSlot} (h : Distinct hardware)
    (slot : Fin hardwareSlots) {new : HardwareSlot}
    (hnew : ∀ i armed, hardware i = some armed → armed.address ≠ new.address) :
    Distinct (Function.update hardware slot (some new)) := by
  intro i i' armed armed' harmed harmed' heq
  by_cases hi : i = slot <;> by_cases hi' : i' = slot
  · rw [hi, hi']
  · rw [hi, Function.update_self, Option.some.injEq] at harmed
    rw [Function.update_of_ne hi'] at harmed'
    exact absurd (heq.symm.trans (by rw [← harmed])) (hnew i' armed' harmed')
  · rw [hi', Function.update_self, Option.some.injEq] at harmed'
    rw [Function.update_of_ne hi] at harmed
    exact absurd (heq.trans (by rw [← harmed'])) (hnew i armed harmed)
  · rw [Function.update_of_ne hi] at harmed
    rw [Function.update_of_ne hi'] at harmed'
    exact h i i' armed armed' harmed harmed' heq

theorem address_of_slotAt {address : UInt64} {slot : Fin hardwareSlots}
    (h : s.slotAt address = some slot) :
    ∃ armed, s.hardware slot = some armed ∧ armed.address = address := by
  have hany := List.find?_some h
  rcases hslot : s.hardware slot with _ | armed
  · simp [hslot] at hany
  · exact ⟨armed, rfl, by simpa [hslot] using hany⟩

theorem address_ne_of_slotAt {address : UInt64} (h : s.slotAt address = none)
    {i : Fin hardwareSlots} {armed : HardwareSlot} (harmed : s.hardware i = some armed) :
    armed.address ≠ address := by
  have hall := List.find?_eq_none.mp h i (List.mem_finRange i)
  simpa [harmed] using hall

theorem hardware_of_freeSlot {slot : Fin hardwareSlots} (h : s.freeSlot = some slot) :
    s.hardware slot = none := by
  simpa using List.find?_some h

theorem drAddressOffset_ne_dr7Offset (slot : Fin hardwareSlots) :
    drAddressOffset slot ≠ dr7Offset := by
  have := slot.isLt
  simp only [drAddressOffset, dr7Offset, hardwareSlots] at *
  omega

theorem wp_readRawByte (h : s.ops.live = true) {address : UInt64} {Q : UInt8 → TargetSession → Prop}
    {E : HostError → TargetSession → Prop} :
    wp (readRawByte Target.ops address) Q E s =
      if Target.Accessible address 1 then Q (s.ops.memory address.toNat) s
      else E (.syscall "PTRACE_PEEKTEXT" 5) s := by
  split_ifs with ha
  · rw [wp_of_ok (readRawByte_run h ha)]
  · rw [readRawByte, wp_bind, wp_of_error (call_readMemory_inaccessible ha)]

/-- A breakpoint is armed over a byte that was not `INT3`, or nothing changes. -/
theorem wp_setBreakpoint (h : s.Live) (address : UInt64) :
    wp (setBreakpoint Target.ops address)
      (fun _ s' => address ∉ s.breakpoints ∧ Target.Accessible address 1 ∧
        s.ops.memory address.toNat ≠ breakpointByte ∧ s' = s.planted address)
      (fun _ s' => s' = s) s := by
  simp only [setBreakpoint, wp_bind, wp_of_ok (requireAlive_run h.alive), wp_look, wp_refuse,
    wp_readRawByte h.live]
  split_ifs with hmem hsize ha hbyte
  rw [wp_of_ok (call_writeMemory h.live ha)]
  have hlive : (s.poke address [breakpointByte]).ops.live = true := h.live
  have hwritten : (s.poke address [breakpointByte]).ops.memory address.toNat = breakpointByte := by
    simp [poke, writeSpan]
  rw [wp_readRawByte hlive, if_pos ha, hwritten]
  simp only [ne_eq, not_true_eq_false, if_false, wp_update]
  exact ⟨hmem, ha, hbyte, rfl⟩

/-- A breakpoint found in place is removed. Nothing changes where none was found. -/
theorem wp_clearBreakpoint (h : s.Live) (address : UInt64) :
    wp (clearBreakpoint Target.ops address)
      (fun _ s' => ∃ armed, s.breakpoints[address]? = some armed ∧ s' = s.unplanted address armed)
      (fun _ s' => s' = s ∧ (address ∈ s.breakpoints → Target.Accessible address 1 →
        s.ops.memory address.toNat ≠ breakpointByte)) s := by
  simp only [clearBreakpoint, wp_bind, wp_of_ok (requireAlive_run h.alive), wp_look]
  rcases harmed : s.breakpoints[address]? with _ | armed
  · rw [wp_require_none]
    refine ⟨rfl, fun hmem => ?_⟩
    rw [← Std.ExtTreeMap.isSome_getElem?_iff_mem, harmed] at hmem
    exact absurd hmem (by simp)
  · rw [wp_require_some, wp_readRawByte h.live]
    split_ifs with ha
    · simp only [wp_refuse]
      split_ifs with hbyte
      · exact ⟨trivial, fun _ _ => hbyte⟩
      · rw [wp_of_ok (call_writeMemory h.live ha), wp_update]
        exact ⟨armed, rfl, rfl⟩
    · exact ⟨rfl, fun _ ha' => absurd ha' ha⟩

/-- A free slot is programmed for an address no slot has, or nothing changes. -/
theorem wp_armHardware (h : s.Live) (address len : UInt64) (kind : HardwareKind) :
    wp (armHardware Target.ops address len kind)
      (fun _ s' => ∃ slot lengthBits, s.slotAt address = none ∧ s.freeSlot = some slot ∧
        encodeLength kind len = .ok lengthBits ∧ s' = s.occupied slot ⟨address, kind⟩ lengthBits)
      (fun _ s' => s' = s) s := by
  rcases hlen : encodeLength kind len with e | lengthBits <;>
    simp only [armHardware, wp_bind, wp_of_ok (requireAlive_run h.alive), wp_look, wp_refuse, hlen,
      wp_lift]
  · split_ifs
  · split_ifs with hat
    rcases hfree : s.freeSlot with _ | slot
    · rw [wp_require_none]
    · have hlive : (s.pokeUser (drAddressOffset slot) address).ops.live = true := h.live
      rw [wp_require_some, wp_of_ok (call_pokeUser h.live _ _), wp_of_ok (call_peekUser hlive _),
        wp_of_ok (call_pokeUser hlive _ _), wp_update]
      refine ⟨slot, lengthBits, by simpa using hat, rfl, rfl, ?_⟩
      simp [occupied, pokeUser, Function.update_of_ne (drAddressOffset_ne_dr7Offset slot).symm]

/-- The slot at the address is released. Nothing changes when no slot is there. -/
theorem wp_clearHw (h : s.Live) (address : UInt64) :
    wp (clearHw Target.ops address)
      (fun _ s' => ∃ slot, s.slotAt address = some slot ∧ s' = s.released slot)
      (fun _ s' => s' = s ∧ s.slotAt address = none) s := by
  simp only [clearHw, wp_bind, wp_of_ok (requireAlive_run h.alive), wp_look]
  rcases hat : s.slotAt address with _ | slot
  · rw [wp_require_none]
    exact ⟨rfl, rfl⟩
  · rw [wp_require_some, wp_of_ok (call_peekUser h.live _), wp_of_ok (call_pokeUser h.live _ _)]
    have hlive : (s.pokeUser dr7Offset (clearDr7Slot
      (s.ops.user dr7Offset) slot)).ops.live = true :=
      h.live
    rw [wp_of_ok (call_pokeUser hlive _ _), wp_update]
    exact ⟨slot, rfl, rfl⟩

/-! ### Memory -/

/-- The byte a covered breakpoint hides after the write. -/
def hiddenByte (address : UInt64) (bytes : List UInt8) (bpAddress : UInt64) : ArmedBreakpoint :=
  ⟨bytes.getD (bpAddress.toNat - address.toNat) 0⟩

/-- A breakpoint armed again after a write that covered it. -/
def reasserted (address : UInt64) (bytes : List UInt8) (s : TargetSession) (bpAddress : UInt64) :
    TargetSession :=
  if covers address bytes.length bpAddress then
    { s.poke bpAddress [breakpointByte] with
      breakpoints := s.breakpoints.insert bpAddress (hiddenByte address bytes bpAddress) }
  else s

/-- The session after a write to the target's memory. -/
def rewritten (s : TargetSession) (address : UInt64) (bytes : List UInt8) : TargetSession :=
  s.breakpoints.keys.foldl (reasserted address bytes) (s.poke address bytes)

/-- Only the memory of the target and the breakpoint table differ. -/
def OnlyMemory (s s' : TargetSession) : Prop :=
  s' = { s with
    ops := { s.ops with memory := s'.ops.memory }
    breakpoints := s'.breakpoints }

theorem OnlyMemory.trans {s s' s'' : TargetSession} (h : OnlyMemory s s')
    (h' : OnlyMemory s' s'') : OnlyMemory s s'' := by
  unfold OnlyMemory at *
  rw [h', h]

theorem onlyMemory_poke (s : TargetSession) (address : UInt64) (bytes : List UInt8) :
    OnlyMemory s (s.poke address bytes) := rfl

theorem onlyMemory_reasserted (s : TargetSession) (address : UInt64) (bytes : List UInt8)
    (bpAddress : UInt64) : OnlyMemory s (reasserted address bytes s bpAddress) := by
  unfold reasserted
  split_ifs <;> rfl

/-- The table and the memory after some of the breakpoints were armed again. -/
theorem foldl_reasserted (address : UInt64) (bytes : List UInt8) (ks : List UInt64)
    (s : TargetSession) :
    OnlyMemory s (ks.foldl (reasserted address bytes) s) ∧
    (∀ a, (ks.foldl (reasserted address bytes) s).breakpoints[a]? =
      if a ∈ ks ∧ covers address bytes.length a then some (hiddenByte address bytes a)
      else s.breakpoints[a]?) ∧
    ∀ n, (ks.foldl (reasserted address bytes) s).ops.memory n =
      if ∃ a ∈ ks, covers address bytes.length a ∧ a.toNat = n then breakpointByte
      else s.ops.memory n := by
  induction ks generalizing s with
  | nil => exact ⟨rfl, by simp, by simp⟩
  | cons k ks ih =>
    obtain ⟨hframe, htable, hmemory⟩ := ih (reasserted address bytes s k)
    refine ⟨(onlyMemory_reasserted s address bytes k).trans hframe, ?_, ?_⟩
    · intro a
      rw [List.foldl_cons, htable a]
      by_cases hc : covers address bytes.length k
      · rcases eq_or_ne k a with rfl | hne
        · simp [reasserted, hc]
        · simp [reasserted, hc, hne, Std.ExtTreeMap.getElem?_insert, hne.symm]
      · rcases eq_or_ne k a with rfl | hne
        · simp [reasserted, hc]
        · simp [reasserted, hc, hne.symm]
    · intro n
      rw [List.foldl_cons, hmemory n]
      by_cases hc : covers address bytes.length k
      · rcases eq_or_ne k.toNat n with rfl | hne
        · simp [reasserted, hc, poke, writeSpan]
        · have hout : writeSpan s.ops.memory k.toNat [breakpointByte] n = s.ops.memory n :=
            writeSpan_outside _ fun hle => by simp; omega
          simp [reasserted, hc, hne, poke, hout]
      · simp [reasserted, hc]

/-- The covered breakpoints hide the written bytes, the other ones what they hid before. -/
theorem rewritten_getElem? (s : TargetSession) (address : UInt64) (bytes : List UInt8)
    (a : UInt64) : (s.rewritten address bytes).breakpoints[a]? =
      if a ∈ s.breakpoints ∧ covers address bytes.length a then some (hiddenByte address bytes a)
      else s.breakpoints[a]? := by
  rw [rewritten, (foldl_reasserted address bytes _ _).2.1 a]
  simp only [Std.ExtTreeMap.mem_keys]
  rfl

theorem mem_rewritten {address : UInt64} {bytes : List UInt8} {a : UInt64} :
    a ∈ (s.rewritten address bytes).breakpoints ↔ a ∈ s.breakpoints := by
  rw [← Std.ExtTreeMap.isSome_getElem?_iff_mem, rewritten_getElem?]
  split_ifs with hc
  · simp [hc.1]
  · exact Std.ExtTreeMap.isSome_getElem?_iff_mem

theorem rewritten_memory (s : TargetSession) (address : UInt64) (bytes : List UInt8) (n : ℕ) :
    (s.rewritten address bytes).ops.memory n =
      if ∃ a ∈ s.breakpoints, covers address bytes.length a ∧ a.toNat = n then breakpointByte
      else writeSpan s.ops.memory address.toNat bytes n := by
  rw [rewritten, (foldl_reasserted address bytes _ _).2.2 n]
  simp only [Std.ExtTreeMap.mem_keys]
  rfl

theorem onlyMemory_rewritten (s : TargetSession) (address : UInt64) (bytes : List UInt8) :
    OnlyMemory s (s.rewritten address bytes) :=
  (onlyMemory_poke s address bytes).trans (foldl_reasserted address bytes _ _).1

theorem reassert_run (h : s.ops.live = true) {address : UInt64} {bytes : List UInt8}
    {bpAddress : UInt64} (ha : Target.Accessible bpAddress 1) :
    reassert Target.ops address bytes bpAddress s =
      (.ok (), reasserted address bytes s bpAddress) := by
  unfold reassert reasserted
  split_ifs with hc
  · rw [update_bind_run]
    refine call_writeMemory ?_ ?_
    · exact h
    · exact ha
  · rfl

/-- The caller's bytes are written and the breakpoints below them armed again, or nothing
    changes. -/
theorem wp_writeMemory (h : s.Live) (haccess : ∀ a ∈ s.breakpoints, Target.Accessible a 1)
    (address : UInt64) (bytes : List UInt8) :
    wp (writeMemory Target.ops address bytes)
      (fun _ s' => Target.Accessible address bytes.length ∧ s' = s.rewritten address bytes)
      (fun _ s' => s' = s) s := by
  simp only [writeMemory, wp_bind, wp_of_ok (requireAlive_run h.alive), wp_look, wp_refuse]
  split_ifs with hsize
  by_cases ha : Target.Accessible address bytes.length
  · rw [wp_of_ok (call_writeMemory h.live ha)]
    -- the rounds left lead from the current session to the rewritten one
    refine wp_forM (fun ks s' => OnlyMemory s s' ∧ (∀ k ∈ ks, k ∈ s.breakpoints) ∧
      ks.foldl (reasserted address bytes) s' = s.rewritten address bytes) ?_
      (fun s' hs' => ⟨ha, hs'.2.2⟩) _ _ ⟨rfl, fun k hk => ?_, rfl⟩
    · rintro k ks s' ⟨hframe, hmem, hrest⟩
      have hlive : s'.ops.live = true := by rw [hframe]; exact h.live
      rw [wp_of_ok (reassert_run hlive (haccess k (hmem k (by simp))))]
      exact ⟨hframe.trans (onlyMemory_reasserted s' address bytes k),
        fun k' hk' => hmem k' (by simp [hk']), hrest⟩
    · exact Std.ExtTreeMap.mem_keys.mp hk
  · rw [wp_of_error (call_writeMemory_inaccessible ha)]

theorem wp_ignoring {x : Reducer TargetSession HostError Unit} {Q : Unit → TargetSession → Prop}
    {E : HostError → TargetSession → Prop} :
    wp (ignoring x) Q E s = wp x (fun _ => Q ()) (fun _ => Q ()) s := by
  simp only [ignoring, wp_bind, wp_attempt, wp_pure]

/-- No call does anything once the target is known to be gone. -/
theorem applyCall_dead (h : s.alive = false) (c : Call) :
    applyCall Target.ops c s = (.error .targetNotAlive, s) := by
  have hdead := requireAlive_dead h
  cases c <;> refine bind_of_error (bind_of_error hdead)

theorem readMemory_run (h : s.Live) (address : UInt64) (len : ℕ) :
    readMemory Target.ops address len s =
      (if maxMemoryTransferBytes < len then .error (.transferTooLarge len maxMemoryTransferBytes)
        else if Target.Accessible address len then
          .ok (substituteOriginals address len s.breakpoints.toList
            (readSpan s.ops.memory address.toNat len))
        else .error (.syscall "PTRACE_PEEKTEXT" 5), s) := by
  rw [readMemory, bind_of_ok (requireAlive_run h.alive), refuse_bind_run]
  split_ifs with hsize ha
  · rfl
  · rw [bind_of_ok (call_readMemory h.live ha)]
    rfl
  · exact bind_of_error (call_readMemory_inaccessible ha)

/-! ### Everything a call can do -/

/-- What a call does to a live session, with its answer. -/
inductive Effect (s : TargetSession) (m : Move) :
    Call → Except HostError Answer → TargetSession → Prop
  | failed {c e} (hc : c ≠ .continueExecution ∧ c ≠ .singleStep) : Effect s m c (.error e) s
  | readRegisters : Effect s m .readRegisters (.ok (.registers s.ops.registers)) s
  | readMemory {address len bytes} : Effect s m (.readMemory address len) (.ok (.bytes bytes)) s
  | wroteRegisters {registers} : Effect s m (.writeRegisters registers) (.ok .done)
      { s with ops := { s.ops with registers } }
  | wroteMemory {address bytes} (ha : Target.Accessible address bytes.length) :
      Effect s m (.writeMemory address bytes) (.ok .done) (s.rewritten address bytes)
  | planted {address} (hnew : address ∉ s.breakpoints) (ha : Target.Accessible address 1) :
      Effect s m (.setBreakpoint address) (.ok .done) (s.planted address)
  | unplanted {address armed} (harmed : s.breakpoints[address]? = some armed) :
      Effect s m (.clearBreakpoint address) (.ok .done) (s.unplanted address armed)
  | occupied {c address len kind slot lengthBits}
      (hc : c = .setHwBreakpoint address ∧ len = 1 ∧ kind = .execute ∨
        c = .setWatchpoint address len kind)
      (hnew : s.slotAt address = none) (hfree : s.freeSlot = some slot)
      (hlen : encodeLength kind len = .ok lengthBits) :
      Effect s m c (.ok .done) (s.occupied slot ⟨address, kind⟩ lengthBits)
  | released {address slot} (hat : s.slotAt address = some slot) :
      Effect s m (.clearHw address) (.ok .done) (s.released slot)
  | continued : Effect s m .continueExecution (.ok (.outcome (s.classified m).1))
      (s.classified m).2
  | stepped (hfree : s.ops.registers.rip ∉ s.breakpoints) :
      Effect s m .singleStep (.ok (.outcome (s.classified m).1)) (s.classified m).2
  | steppedOff {armed} (harmed : s.breakpoints[s.ops.registers.rip]? = some armed) :
      Effect s m .singleStep (.ok (.outcome (s.steppedOff m s.ops.registers.rip armed).1))
        (s.steppedOff m s.ops.registers.rip armed).2

theorem getElem?_of_mem {breakpoints : Std.ExtTreeMap UInt64 ArmedBreakpoint} {a : UInt64}
    (h : a ∈ breakpoints) : ∃ armed, breakpoints[a]? = some armed :=
  Option.isSome_iff_exists.mp (Std.ExtTreeMap.isSome_getElem?_iff_mem.mpr h)

theorem mem_of_getElem? {breakpoints : Std.ExtTreeMap UInt64 ArmedBreakpoint} {a : UInt64}
    {armed : ArmedBreakpoint} (h : breakpoints[a]? = some armed) : a ∈ breakpoints := by
  rw [← Std.ExtTreeMap.isSome_getElem?_iff_mem, h]
  rfl

/-- An operation without an answer, as a call. -/
theorem effect_of_wp {x : Reducer TargetSession HostError Unit} {m : Move} {c : Call}
    (hc : c ≠ .continueExecution ∧ c ≠ .singleStep)
    (hrun : applyCall Target.ops c = do x; return .done)
    (h : wp x (fun _ s' => Effect s m c (.ok .done) s') (fun _ s' => s' = s) s) :
    Effect s m c (applyCall Target.ops c s).1 (applyCall Target.ops c s).2 := by
  rw [hrun]
  rcases hx : x s with ⟨e | _, s'⟩
  · have hs := wp_error h hx
    rw [bind_of_error hx, hs]
    exact .failed hc
  · have hs := wp_ok h hx
    rw [bind_of_ok hx]
    exact hs

theorem effect_applyCall (h : s.Live) (haccess : ∀ a ∈ s.breakpoints, Target.Accessible a 1)
    {m : Move} (hm : s.ops.moves = [m]) (c : Call) :
    Effect s m c (applyCall Target.ops c s).1 (applyCall Target.ops c s).2 := by
  cases c with
  | setHwBreakpoint address =>
    refine effect_of_wp (by simp) rfl (wp_mono (wp_armHardware h address 1 .execute) ?_ ?_)
    · rintro _ _ ⟨slot, lengthBits, hnew, hfree, hlen, rfl⟩
      exact .occupied (.inl ⟨rfl, rfl, rfl⟩) hnew hfree hlen
    · exact fun _ _ hs => hs
  | setWatchpoint address len kind =>
    refine effect_of_wp (by simp) rfl (wp_mono (wp_armHardware h address len kind) ?_ ?_)
    · rintro _ _ ⟨slot, lengthBits, hnew, hfree, hlen, rfl⟩
      exact .occupied (.inr rfl) hnew hfree hlen
    · exact fun _ _ hs => hs
  | clearHw address =>
    refine effect_of_wp (by simp) rfl (wp_mono (wp_clearHw h address) ?_ ?_)
    · rintro _ _ ⟨slot, hat, rfl⟩
      exact .released hat
    · exact fun _ _ hs => hs.1
  | readRegisters =>
    have hrun : applyCall Target.ops .readRegisters s = (.ok (.registers s.ops.registers), s) := by
      refine bind_of_ok (a := s.ops.registers) ?_
      exact (bind_of_ok (requireAlive_run h.alive)).trans (call_readRegisters h.live)
    rw [hrun]
    exact .readRegisters
  | writeRegisters registers =>
    refine effect_of_wp (by simp) rfl ?_
    rw [writeRegisters, wp_bind, wp_of_ok (requireAlive_run h.alive), Target.ops,
      wp_of_ok (call_whileLive h.live _ _ _)]
    exact .wroteRegisters
  | readMemory address len =>
    rw [applyCall, bind_pure_run, readMemory_run h]
    split_ifs
    · exact .failed (by simp)
    · exact .readMemory
    · exact .failed (by simp)
  | writeMemory address bytes =>
    refine effect_of_wp (by simp) rfl (wp_mono (wp_writeMemory h haccess address bytes) ?_ ?_)
    · rintro _ _ ⟨ha, rfl⟩
      exact .wroteMemory ha
    · exact fun _ _ hs => hs
  | setBreakpoint address =>
    refine effect_of_wp (by simp) rfl (wp_mono (wp_setBreakpoint h address) ?_ ?_)
    · rintro _ _ ⟨hnew, ha, -, rfl⟩
      exact .planted hnew ha
    · exact fun _ _ hs => hs
  | clearBreakpoint address =>
    refine effect_of_wp (by simp) rfl (wp_mono (wp_clearBreakpoint h address) ?_ ?_)
    · rintro _ _ ⟨armed, harmed, rfl⟩
      exact .unplanted harmed
    · exact fun _ _ hs => hs.1
  | continueExecution =>
    rw [applyCall, bind_of_ok (continueExecution_run h hm)]
    exact .continued
  | singleStep =>
    rcases harmed : s.breakpoints[s.ops.registers.rip]? with _ | armed
    · have hfree : s.ops.registers.rip ∉ s.breakpoints := fun hmem => by
        obtain ⟨armed, harmed'⟩ := getElem?_of_mem hmem
        simp [harmed] at harmed'
      rw [applyCall, bind_of_ok (singleStep_run h hm hfree)]
      exact .stepped hfree
    · rw [applyCall, bind_of_ok (singleStep_run_armed h hm harmed
        (haccess _ (mem_of_getElem? harmed)))]
      exact .steppedOff harmed

end TargetSession

end ReSymbol.LinuxDebugHost
