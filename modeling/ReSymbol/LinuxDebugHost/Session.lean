import ReSymbol.Schemes.Triples

/-! The live debug session over ptrace.

    A session drives one stopped target through a narrow set of ptrace calls. It keeps two tables:
    the original bytes hidden by its software breakpoints, and the occupant of each of the four
    debug-register slots.

        set a        hide the byte at a under INT3
        continue     cont ▷ wait ▷ classify
        step         RIP hidden:  restore ▷ step ▷ wait ▷ re-arm
                     otherwise:   step ▷ wait ▷ classify
        classify     DR6 names an occupied slot   the hit of that slot
                     RIP − 1 is hidden            rewind RIP, breakpoint hit
                     otherwise                    stopped -/

namespace ReSymbol.LinuxDebugHost
open Schemes Schemes.Reducer

/-! ### Shared types -/

/-- The x86-64 software-breakpoint byte. -/
def breakpointByte : UInt8 := 0xCC

def maxMemoryTransferBytes : ℕ := 16 * 1024 * 1024

def maxSoftwareBreakpoints : ℕ := 4096

def hardwareSlots : ℕ := 4

/-- USER-area byte offset of the debug registers. -/
def userDebugregOffset : ℕ := 848

def drAddressOffset (slot : Fin hardwareSlots) : ℕ := userDebugregOffset + 8 * slot.val

def dr6Offset : ℕ := userDebugregOffset + 48

def dr7Offset : ℕ := userDebugregOffset + 56

inductive HardwareKind where
  | execute
  | write
  | readWrite
  deriving DecidableEq

/-- The register file, in the order of `user_regs_struct`. -/
structure X64Registers where
  r15 : UInt64 := 0
  r14 : UInt64 := 0
  r13 : UInt64 := 0
  r12 : UInt64 := 0
  rbp : UInt64 := 0
  rbx : UInt64 := 0
  r11 : UInt64 := 0
  r10 : UInt64 := 0
  r9 : UInt64 := 0
  r8 : UInt64 := 0
  rax : UInt64 := 0
  rcx : UInt64 := 0
  rdx : UInt64 := 0
  rsi : UInt64 := 0
  rdi : UInt64 := 0
  origRax : UInt64 := 0
  rip : UInt64 := 0
  cs : UInt64 := 0
  eflags : UInt64 := 0
  rsp : UInt64 := 0
  ss : UInt64 := 0
  fsBase : UInt64 := 0
  gsBase : UInt64 := 0
  ds : UInt64 := 0
  es : UInt64 := 0
  fs : UInt64 := 0
  gs : UInt64 := 0

def X64Registers.instructionPointer (r : X64Registers) : UInt64 := r.rip

def X64Registers.setInstructionPointer (r : X64Registers) (value : UInt64) : X64Registers :=
  { r with rip := value }

/-- What a traced target did when it next stopped or exited. -/
inductive StopEvent where
  | stopped (signal : ℤ)
  | exited (code : ℤ)
  | terminated (signal : ℤ)
  deriving DecidableEq

def StopEvent.isTerminal : StopEvent → Bool
  | .exited _ | .terminated _ => true
  | .stopped _ => false

def sigtrap : ℤ := 5

inductive WaitOutcome where
  | stopped (event : StopEvent)
  | finished (event : StopEvent)
  | breakpointHit (address : UInt64)
  | watchpointHit (address : UInt64)

inductive HostError where
  | syscall (operation : String) (errno : ℤ)
  | transferTooLarge (requested limit : ℕ)
  | unexpectedByte (address : UInt64) (found expected : UInt8)
  | breakpointExists (address : UInt64)
  | breakpointMissing (address : UInt64)
  | breakpointCapacity (limit : ℕ)
  | noHardwareSlot (limit : ℕ)
  | hardwareBreakpointExists (address : UInt64)
  | hardwareBreakpointMissing (address : UInt64)
  | invalidWatchpointLength (length : UInt64)
  | targetNotAlive

/-- The ptrace calls that a backend with states `σ` offers. -/
structure PtraceOps (σ : Type) where
  cont : ℤ → Reducer σ HostError Unit
  singleStep : ℤ → Reducer σ HostError Unit
  wait : Reducer σ HostError StopEvent
  readRegisters : Reducer σ HostError X64Registers
  writeRegisters : X64Registers → Reducer σ HostError Unit
  readMemory : UInt64 → ℕ → Reducer σ HostError (List UInt8)
  writeMemory : UInt64 → List UInt8 → Reducer σ HostError Unit
  peekUser : ℕ → Reducer σ HostError UInt64
  pokeUser : ℕ → UInt64 → Reducer σ HostError Unit
  detach : Reducer σ HostError Unit
  kill : Reducer σ HostError Unit

/-! ### Debug-register fields -/

/-- `DR7` without a slot's enable bit and its condition and length nibble. -/
def clearDr7Slot (dr7 : UInt64) (slot : Fin hardwareSlots) : UInt64 :=
  dr7 &&& ~~~(1 <<< UInt64.ofNat (2 * slot.val)) &&& ~~~(0b1111 <<< UInt64.ofNat
    (16 + 4 * slot.val))

def encodeCondition : HardwareKind → UInt64
  | .execute => 0b00
  | .write => 0b01
  | .readWrite => 0b11

def encodeLength (kind : HardwareKind) (len : UInt64) : Except HostError UInt64 :=
  match kind with
  | .execute => if len = 1 then .ok 0b00 else .error (.invalidWatchpointLength len)
  | .write | .readWrite =>
    if len = 1 then .ok 0b00
    else if len = 2 then .ok 0b01
    else if len = 4 then .ok 0b11
    else if len = 8 then .ok 0b10
    else .error (.invalidWatchpointLength len)

/-- The condition and length nibble of a slot. -/
def encodeNibble (kind : HardwareKind) (lengthBits : UInt64) : UInt64 :=
  encodeCondition kind ||| lengthBits <<< 2

/-! ### The session -/

/-- One armed software breakpoint: the original byte it hides. -/
structure ArmedBreakpoint where
  originalByte : UInt8

/-- One occupied debug-register slot. -/
structure HardwareSlot where
  address : UInt64
  kind : HardwareKind

structure LinuxDebugSession (σ : Type) where
  ops : σ
  breakpoints : Std.ExtTreeMap UInt64 ArmedBreakpoint
  hardware : Fin hardwareSlots → Option HardwareSlot
  alive : Bool

namespace LinuxDebugSession

variable {σ : Type}

/-- Wrap a backend whose target is in its initial stop. -/
def new (ops : σ) : LinuxDebugSession σ :=
  { ops, breakpoints := ∅, hardware := fun _ => none, alive := true }

/-- The slot that is occupied at this address. -/
def slotAt (s : LinuxDebugSession σ) (address : UInt64) : Option (Fin hardwareSlots) :=
  (List.finRange hardwareSlots).find? fun i => (s.hardware i).any (·.address = address)

/-- The first free slot. -/
def freeSlot (s : LinuxDebugSession σ) : Option (Fin hardwareSlots) :=
  (List.finRange hardwareSlots).find? fun i => (s.hardware i).isNone

/-- The breakpoint lies in the range of a transfer, whose end saturates. -/
def covers (address : UInt64) (len : ℕ) (bpAddress : UInt64) : Prop :=
  address ≤ bpAddress ∧ bpAddress.toNat < min (address.toNat + len) (2 ^ 64 - 1)

instance (address : UInt64) (len : ℕ) (bpAddress : UInt64) :
    Decidable (covers address len bpAddress) := by
  unfold covers; infer_instance

/-- The bytes of a read with the original bytes of the covered breakpoints put back. -/
def substituteOriginals (address : UInt64) (len : ℕ)
    (armed : List (UInt64 × ArmedBreakpoint)) (bytes : List UInt8) : List UInt8 :=
  armed.foldl (fun bytes bp =>
    if covers address len bp.1 then
      bytes.set (bp.1.toNat - address.toNat) bp.2.originalByte
    else bytes) bytes

/-- The outcome of an occupied slot that fired. -/
def HardwareSlot.hit (armed : HardwareSlot) : WaitOutcome :=
  match armed.kind with
  | .execute => .breakpointHit armed.address
  | .write | .readWrite => .watchpointHit armed.address

/-- The outcome of the lowest occupied slot whose status bit is set. -/
def hardwareHit (s : LinuxDebugSession σ) (status : UInt64) : Option WaitOutcome :=
  (List.finRange hardwareSlots).findSome? fun i =>
    if status &&& 1 <<< UInt64.ofNat i.val = 0 then none else (s.hardware i).map HardwareSlot.hit

variable (ops : PtraceOps σ)

/-- A call on the backend. -/
def call {α : Type} (x : Reducer σ HostError α) : Reducer (LinuxDebugSession σ) HostError α :=
  within LinuxDebugSession.ops (fun t s => { s with ops := t }) id x

/-- A target that is gone is not asked. -/
def requireAlive : Reducer (LinuxDebugSession σ) HostError Unit := do
  let s ← look
  refuse (s.alive = false) .targetNotAlive

/-- The byte in the target, `INT3` and all. -/
def readRawByte (address : UInt64) : Reducer (LinuxDebugSession σ) HostError UInt8 := do
  let bytes ← call (ops.readMemory address 1)
  require bytes.head? (.syscall "read_memory" 0)

/-- Release the slot armed at `address`. -/
def clearHw (address : UInt64) : Reducer (LinuxDebugSession σ) HostError Unit := do
  requireAlive
  let s ← look
  let slot ← require (s.slotAt address) (.hardwareBreakpointMissing address)
  let dr7 ← call (ops.peekUser dr7Offset)
  call (ops.pokeUser dr7Offset (clearDr7Slot dr7 slot))
  call (ops.pokeUser (drAddressOffset slot) 0)
  update fun s => { s with hardware := Function.update s.hardware slot none }

/-- Take a free slot, program the address, and set the slot's bits in `DR7`. -/
def armHardware (address len : UInt64) (kind : HardwareKind) :
    Reducer (LinuxDebugSession σ) HostError Unit := do
  requireAlive
  let s ← look
  refuse (s.slotAt address).isSome (.hardwareBreakpointExists address)
  let lengthBits ← lift (encodeLength kind len)
  let slot ← require s.freeSlot (.noHardwareSlot hardwareSlots)
  call (ops.pokeUser (drAddressOffset slot) address)
  let dr7 ← call (ops.peekUser dr7Offset)
  call (ops.pokeUser dr7Offset (clearDr7Slot dr7 slot ||| 1 <<< UInt64.ofNat (2 * slot.val) |||
    encodeNibble kind lengthBits <<< UInt64.ofNat (16 + 4 * slot.val)))
  update fun s => { s with hardware := Function.update s.hardware slot (some ⟨address, kind⟩) }

def setHwBreakpoint (address : UInt64) : Reducer (LinuxDebugSession σ) HostError Unit :=
  armHardware ops address 1 .execute

def setWatchpoint (address len : UInt64) (kind : HardwareKind) :
    Reducer (LinuxDebugSession σ) HostError Unit :=
  armHardware ops address len kind

def readRegisters : Reducer (LinuxDebugSession σ) HostError X64Registers := do
  requireAlive
  call ops.readRegisters

def writeRegisters (registers : X64Registers) : Reducer (LinuxDebugSession σ) HostError Unit := do
  requireAlive
  call (ops.writeRegisters registers)

/-- Read memory with the hidden original bytes in place. -/
def readMemory (address : UInt64) (len : ℕ) :
    Reducer (LinuxDebugSession σ) HostError (List UInt8) := do
  requireAlive
  refuse (maxMemoryTransferBytes < len) (.transferTooLarge len maxMemoryTransferBytes)
  let bytes ← call (ops.readMemory address len)
  let s ← look
  return substituteOriginals address len s.breakpoints.toList bytes

/-- After a write, the covered breakpoint hides the new byte and is armed again. -/
def reassert (address : UInt64) (bytes : List UInt8) (bpAddress : UInt64) :
    Reducer (LinuxDebugSession σ) HostError Unit := do
  if covers address bytes.length bpAddress then
    let originalByte := bytes.getD (bpAddress.toNat - address.toNat) 0
    update fun s => { s with breakpoints := s.breakpoints.insert bpAddress ⟨originalByte⟩ }
    call (ops.writeMemory bpAddress [breakpointByte])

/-- Writes, and puts the armed `INT3` bytes back. -/
def writeMemory (address : UInt64) (bytes : List UInt8) :
    Reducer (LinuxDebugSession σ) HostError Unit := do
  requireAlive
  refuse (maxMemoryTransferBytes < bytes.length)
    (.transferTooLarge bytes.length maxMemoryTransferBytes)
  call (ops.writeMemory address bytes)
  let s ← look
  s.breakpoints.keys.forM (reassert ops address bytes)

/-- Arm a software breakpoint. -/
def setBreakpoint (address : UInt64) : Reducer (LinuxDebugSession σ) HostError Unit := do
  requireAlive
  let s ← look
  refuse (address ∈ s.breakpoints) (.breakpointExists address)
  refuse (maxSoftwareBreakpoints ≤ s.breakpoints.size) (.breakpointCapacity maxSoftwareBreakpoints)
  let originalByte ← readRawByte ops address
  refuse (originalByte = breakpointByte) (.unexpectedByte address originalByte 0x00)
  call (ops.writeMemory address [breakpointByte])
  let written ← readRawByte ops address
  if written ≠ breakpointByte then
    let _ ← (attempt (call (ops.writeMemory address [originalByte])) :
      Reducer (LinuxDebugSession σ) HostError (Except HostError Unit))
    raise (.unexpectedByte address written breakpointByte)
  update fun s => { s with breakpoints := s.breakpoints.insert address ⟨originalByte⟩ }

/-- Remove a software breakpoint. -/
def clearBreakpoint (address : UInt64) : Reducer (LinuxDebugSession σ) HostError Unit := do
  requireAlive
  let s ← look
  let armed ← require s.breakpoints[address]? (.breakpointMissing address)
  let current ← readRawByte ops address
  refuse (current ≠ breakpointByte) (.unexpectedByte address current breakpointByte)
  call (ops.writeMemory address [armed.originalByte])
  update fun s => { s with breakpoints := s.breakpoints.erase address }

/-- The hit of an occupied slot that `DR6` reports, which is then acknowledged. -/
def checkHardwareHit : Reducer (LinuxDebugSession σ) HostError (Option WaitOutcome) := do
  let s ← look
  if ∀ i, s.hardware i = none then return none
  let status ← call (ops.peekUser dr6Offset)
  let outcome := s.hardwareHit status
  if outcome.isSome then call (ops.pokeUser dr6Offset 0)
  return outcome

/-- Without a hardware hit, a `SIGTRAP` one byte past a breakpoint is taken for its `INT3`. -/
def classifyTrap (event : StopEvent) : Reducer (LinuxDebugSession σ) HostError WaitOutcome := do
  match ← checkHardwareHit ops with
  | some outcome => return outcome
  | none =>
    let registers ← call ops.readRegisters
    let candidate := registers.instructionPointer - 1
    let s ← look
    if candidate ∈ s.breakpoints then
      call (ops.writeRegisters (registers.setInstructionPointer candidate))
      return .breakpointHit candidate
    return .stopped event

/-- Waits for a stop and finds its breakpoint or slot. -/
def waitAndClassify : Reducer (LinuxDebugSession σ) HostError WaitOutcome := do
  let event ← call ops.wait
  match event with
  | .exited _ | .terminated _ =>
    update fun s => { s with alive := false }
    return .finished event
  | .stopped signal =>
    if signal = sigtrap then classifyTrap ops event
    else return .stopped event

/-- Restore the original byte, step over the instruction, and arm the breakpoint again. -/
def stepOffBreakpoint (address : UInt64) : Reducer (LinuxDebugSession σ) HostError StopEvent := do
  let s ← look
  let armed ← require s.breakpoints[address]? (.breakpointMissing address)
  call (ops.writeMemory address [armed.originalByte])
  call (ops.singleStep 0)
  let event ← call ops.wait
  if event.isTerminal then
    update fun s => { s with alive := false }
    return event
  call (ops.writeMemory address [breakpointByte])
  return event

/-- Resume the target until it next stops. -/
def continueExecution : Reducer (LinuxDebugSession σ) HostError WaitOutcome := do
  requireAlive
  call (ops.cont 0)
  waitAndClassify ops

/-- One instruction; off a breakpoint if there is one. -/
def singleStep : Reducer (LinuxDebugSession σ) HostError WaitOutcome := do
  requireAlive
  let registers ← call ops.readRegisters
  let s ← look
  if registers.instructionPointer ∈ s.breakpoints then
    let event ← stepOffBreakpoint ops registers.instructionPointer
    return if event.isTerminal then .finished event else .stopped event
  call (ops.singleStep 0)
  waitAndClassify ops

/-- Run a step of the cleanup whose failure is ignored. -/
def ignoring (x : Reducer (LinuxDebugSession σ) HostError Unit) :
    Reducer (LinuxDebugSession σ) HostError Unit := do
  let _ ← (attempt x : Reducer (LinuxDebugSession σ) HostError (Except HostError Unit))

/-- Let the target go with every breakpoint removed. -/
def detach : Reducer (LinuxDebugSession σ) HostError Unit := do
  let s ← look
  if s.alive then
    s.breakpoints.keys.forM fun address => ignoring (clearBreakpoint ops address)
    let s ← look
    let addresses := (List.finRange hardwareSlots).filterMap fun i =>
      (s.hardware i).map HardwareSlot.address
    addresses.forM fun address => ignoring (clearHw ops address)
    call ops.detach

end LinuxDebugSession

/-! ### Sequences of calls -/

/-- The calls that leave the session in place. -/
inductive Call where
  | setHwBreakpoint (address : UInt64)
  | setWatchpoint (address len : UInt64) (kind : HardwareKind)
  | clearHw (address : UInt64)
  | readRegisters
  | writeRegisters (registers : X64Registers)
  | readMemory (address : UInt64) (len : ℕ)
  | writeMemory (address : UInt64) (bytes : List UInt8)
  | setBreakpoint (address : UInt64)
  | clearBreakpoint (address : UInt64)
  | continueExecution
  | singleStep

inductive Answer where
  | done
  | registers (registers : X64Registers)
  | bytes (bytes : List UInt8)
  | outcome (outcome : WaitOutcome)

def LinuxDebugSession.applyCall {σ : Type} (ops : PtraceOps σ) :
    Call → Reducer (LinuxDebugSession σ) HostError Answer
  | .setHwBreakpoint address => do setHwBreakpoint ops address; return .done
  | .setWatchpoint address len kind => do setWatchpoint ops address len kind; return .done
  | .clearHw address => do clearHw ops address; return .done
  | .readRegisters => do return .registers (← readRegisters ops)
  | .writeRegisters registers => do writeRegisters ops registers; return .done
  | .readMemory address len => do return .bytes (← readMemory ops address len)
  | .writeMemory address bytes => do writeMemory ops address bytes; return .done
  | .setBreakpoint address => do setBreakpoint ops address; return .done
  | .clearBreakpoint address => do clearBreakpoint ops address; return .done
  | .continueExecution => do return .outcome (← continueExecution ops)
  | .singleStep => do return .outcome (← singleStep ops)

end ReSymbol.LinuxDebugHost
