import ReSymbol.Schemes.Bytes
import ReSymbol.LinuxDebugHost.Tables
import ReSymbol.GdbRemote.MemoryRequests

/-! The stub over a live session.

    The adapter turns the operations of a remote target into calls on a ptrace session. A request
    asks for one call or for none, and the reply tells the call's answer. So a conversation with the
    stub is a run of the session, and what holds after every run holds at the other end of the wire:
    breakpoints never show.

        payload ──dispatch──▶ reply
           ▾                    ▴
         call c ──perform──▶ answer -/

namespace ReSymbol.GdbRemote
open Schemes LinuxDebugHost LinuxDebugSession

/-! ### Register packets -/

def amd64GpacketBytes : ℕ := 17 * 8 + 7 * 4

def lowU32 (value : UInt64) : UInt64 := value &&& 0xffffffff

/-- The registers in the order of the protocol. -/
def toGpacket (r : X64Registers) : Bytes :=
  [r.rax, r.rbx, r.rcx, r.rdx, r.rsi, r.rdi, r.rbp, r.rsp, r.r8, r.r9, r.r10, r.r11, r.r12, r.r13,
    r.r14, r.r15, r.rip].flatMap (fun reg => leBytes 8 reg.toNat) ++
  [r.eflags, r.cs, r.ss, r.ds, r.es, r.fs, r.gs].flatMap fun reg => leBytes 4 (lowU32 reg).toNat

/-- What the packet does not carry stays as it is. -/
def applyGpacket (r : X64Registers) (raw : Bytes) : Except TargetError X64Registers :=
  if raw.length < amd64GpacketBytes then
    .error (.registers s!"expected at least {amd64GpacketBytes} bytes, got {raw.length}")
  else
    let u64 index := UInt64.ofNat (ofLeBytes (window raw (index * 8) 8))
    let u32 index := UInt64.ofNat (ofLeBytes (window raw (17 * 8 + index * 4) 4))
    .ok { r with
      rax := u64 0, rbx := u64 1, rcx := u64 2, rdx := u64 3, rsi := u64 4, rdi := u64 5,
      rbp := u64 6, rsp := u64 7, r8 := u64 8, r9 := u64 9, r10 := u64 10, r11 := u64 11,
      r12 := u64 12, r13 := u64 13, r14 := u64 14, r15 := u64 15, rip := u64 16, eflags := u32 0,
      cs := u32 1, ss := u32 2, ds := u32 3, es := u32 4, fs := u32 5, gs := u32 6 }

/-- CORRECT (register packets): a packet that is applied brings all that it carries, the flags and
    selectors cut to 32 bits, and leaves the rest. -/
theorem applyGpacket_toGpacket (r r' : X64Registers) :
    applyGpacket r (toGpacket r') = .ok { r' with
      origRax := r.origRax, fsBase := r.fsBase, gsBase := r.gsBase
      eflags := lowU32 r'.eflags, cs := lowU32 r'.cs, ss := lowU32 r'.ss, ds := lowU32 r'.ds
      es := lowU32 r'.es, fs := lowU32 r'.fs, gs := lowU32 r'.gs } := by
  have h64 : ∀ v : UInt64, UInt64.ofNat (ofLeBytes (leBytes 8 v.toNat)) = v := by
    intro v
    rw [ofLeBytes_leBytes v.toNat_lt, UInt64.ofNat_toNat]
  have h32 : ∀ v : UInt64, UInt64.ofNat (ofLeBytes (leBytes 4 (lowU32 v).toNat)) = lowU32 v := by
    intro v
    have hlt : (lowU32 v).toNat < 256 ^ 4 := by
      rw [lowU32, UInt64.toNat_and]
      exact Nat.and_lt_two_pow _ (n := 32) (by decide)
    rw [ofLeBytes_leBytes hlt, UInt64.ofNat_toNat]
  have hlength : ¬ (toGpacket r').length < amd64GpacketBytes := Nat.lt_irrefl 164
  rw [applyGpacket, if_neg hlength]
  refine congrArg Except.ok (X64Registers.mk.injEq .. ▸ ?_)
  exact ⟨h64 _, h64 _, h64 _, h64 _, h64 _, h64 _, h64 _, h64 _, h64 _, h64 _, h64 _, h64 _, h64 _,
    h64 _, h64 _, rfl, h64 _, h32 _, h32 _, h64 _, h32 _, rfl, rfl, h32 _, h32 _, h32 _, h32 _⟩

/-! ### The adapter -/

/-- GDB's number of `SIGTRAP`. -/
def gdbSigtrap : UInt8 := 5

structure PtraceRemoteTarget where
  session : TargetSession
  lastStop : StopReply
  selectedThread : Option UInt64

def PtraceRemoteTarget.new (session : TargetSession) : PtraceRemoteTarget :=
  ⟨session, .signal gdbSigtrap, none⟩

/-- There is no condition for reads alone. -/
def watchToHardware : WatchKind → HardwareKind
  | .write => .write
  | .read | .access => .readWrite

def clampU8 (value : ℤ) : UInt8 := UInt8.ofNat (value % 256).toNat

def signalToU8 (signal : ℤ) : UInt8 := if signal = sigtrap then gdbSigtrap else clampU8 signal

def eventToReply : StopEvent → StopReply
  | .stopped signal => .signal (signalToU8 signal)
  | .exited code => .exited (clampU8 code)
  | .terminated signal => .terminated (signalToU8 signal)

def outcomeToReply : WaitOutcome → StopReply
  | .breakpointHit _ | .watchpointHit _ => .signal gdbSigtrap
  | .stopped event | .finished event => eventToReply event

/-- What the adapter reads of its host: the leader, the threads and the texts of errors. -/
structure PtraceHost where
  leaderTid : UInt64
  readThreadIds : Target → List UInt64
  display : HostError → String

variable (host : PtraceHost)

/-- A call on the session; its error becomes one of the target. -/
def onSession {α : Type} (wrap : String → TargetError) (x : Reducer TargetSession HostError α) :
    StateM PtraceRemoteTarget (Except TargetError α) := fun p =>
  ((x p.session).1.mapError fun e => wrap (host.display e), { p with session := (x p.session).2 })

/-- Resume, and record the stop. -/
def record (x : Reducer TargetSession HostError WaitOutcome) :
    StateM PtraceRemoteTarget (Except TargetError StopReply) := do
  match ← onSession host .execution x with
  | .error e => pure (.error e)
  | .ok outcome =>
    modify fun p => { p with lastStop := outcomeToReply outcome }
    pure (.ok (outcomeToReply outcome))

/-- Without a description, breakpoints are of one byte. -/
def withKind (kind : UInt64) (operation : StateM PtraceRemoteTarget (Except TargetError Unit)) :
    StateM PtraceRemoteTarget (Except TargetError Unit) :=
  if kind ≠ 1 then
    pure (.error (.breakpoint s!"software breakpoint kind {kind} is invalid; target requires 1"))
  else operation

/-- A session as the target of the stub. -/
def ptraceTarget : RemoteTarget PtraceRemoteTarget where
  targetDescription _ := none
  readRegisters := do
    let registers ← onSession host .register (readRegisters Target.ops)
    pure (registers.map toGpacket)
  writeRegisters raw := do
    match ← onSession host .register (readRegisters Target.ops) with
    | .error e => pure (.error e)
    | .ok current =>
      match applyGpacket current raw with
      | .error e => pure (.error e)
      | .ok registers => onSession host .register (writeRegisters Target.ops registers)
  readMemory addr len := onSession host .memory (readMemory Target.ops addr len)
  writeMemory addr data := onSession host .memory (writeMemory Target.ops addr data)
  cont := record host (continueExecution Target.ops)
  step := record host (singleStep Target.ops)
  setSwBreakpointWithKind addr kind :=
    withKind kind (onSession host .breakpoint (setBreakpoint Target.ops addr))
  removeSwBreakpointWithKind addr kind :=
    withKind kind (onSession host .breakpoint (clearBreakpoint Target.ops addr))
  setHwBreakpoint addr := onSession host .breakpoint (setHwBreakpoint Target.ops addr)
  removeHwBreakpoint addr := onSession host .breakpoint (clearHw Target.ops addr)
  setWatchpoint addr len kind :=
    onSession host .breakpoint (setWatchpoint Target.ops addr len (watchToHardware kind))
  removeWatchpoint addr _ _ := onSession host .breakpoint (clearHw Target.ops addr)
  stopReason := fun p => (p.lastStop, p)
  threadIds := fun p => (.ok (host.readThreadIds p.session.ops), p)
  currentThread := fun p => (.ok (p.selectedThread.getD host.leaderTid), p)
  setCurrentThread id := fun p => (.ok (), { p with selectedThread := some id })
  stoppedThread := fun p => (some host.leaderTid, p)

/-! ### What requests ask for -/

/-- What a request asks of the session: one call, whose answer is the reply; no call, and a reply
    that its text alone decides; or nothing, as for stops, threads and the end of the
    conversation. -/
inductive Demand where
  | call (c : Call)
  | reply (text : Bytes)
  | question

def Demand.isCall : Demand → Bool
  | .call _ => true
  | _ => false

section Demands

variable (limits : ProtocolLimits)

/-- Behind `G`: a packet that fits is applied to the registers of the target. -/
def registersDemand (registers : X64Registers) (rest : Bytes) : Demand :=
  match hexDecode rest with
  | none => .reply errorReply
  | some raw =>
    if raw.length ≤ limits.maxPacketPayload / 2 then
      match applyGpacket registers raw with
      | .ok registers => .call (.writeRegisters registers)
      | .error _ => .reply errorReply
    else .reply errorReply

/-- Behind `m`. -/
def readDemand (rest : Bytes) : Demand :=
  match parseAddrLen rest with
  | none => .reply errorReply
  | some (addr, len) =>
    if len.toNat > maxRead limits then .reply errorReply else .call (.readMemory addr len.toNat)

/-- Behind `M`. -/
def writeDemand (rest : Bytes) : Demand :=
  match parseWrite rest with
  | none => .reply errorReply
  | some (addr, declaredLen, bytes) =>
    if declaredLen.toNat ≠ bytes.length ∨ bytes.length > limits.maxMemoryTransfer then
      .reply errorReply
    else .call (.writeMemory addr bytes)

/-- Behind `Z` and `z`. The kind of a software breakpoint is its length, one byte. -/
def breakpointDemand (set : Bool) : Bytes → Demand
  | [] => .reply errorReply
  | bptype :: afterType =>
    match parseBreakpoint afterType with
    | none => .reply errorReply
    | some (addr, third) =>
      if bptype = 0x30 then
        if third ≠ 1 then .reply errorReply
        else .call (if set then .setBreakpoint addr else .clearBreakpoint addr)
      else if bptype = 0x31 then .call (if set then .setHwBreakpoint addr else .clearHw addr)
      else if bptype = 0x32 ∨ bptype = 0x33 ∨ bptype = 0x34 then
        .call (if set then .setWatchpoint addr third (watchToHardware (watchKindOf bptype))
          else .clearHw addr)
      else .reply emptyReply

/-- Behind `v`: the first action counts. -/
def resumeDemand (rest : Bytes) : Demand :=
  if rest = ascii "Cont?" then .reply (ascii "vCont;c;s")
  else if (ascii "Cont;").isPrefixOf rest then
    let actions := rest.drop (ascii "Cont;").length
    match (((splitOnce semicolon actions).map Prod.fst).getD actions).head? with
    | none => .reply emptyReply
    | some letter =>
      if letter = 0x63 ∨ letter = 0x43 then .call .continueExecution
      else if letter = 0x73 ∨ letter = 0x53 then .call .singleStep
      else .reply emptyReply
  else .reply emptyReply

/-- What a request asks of a session whose target has these registers. -/
def demand (registers : X64Registers) : Bytes → Demand
  | [] => .reply emptyReply
  | first :: rest =>
    if first = 0x3f then .question
    else if first = 0x67 then .call .readRegisters
    else if first = 0x47 then registersDemand limits registers rest
    else if first = 0x6d then readDemand limits rest
    else if first = 0x4d then writeDemand limits rest
    else if first = 0x63 then .call .continueExecution
    else if first = 0x73 then .call .singleStep
    else if first = 0x5a then breakpointDemand true rest
    else if first = 0x7a then breakpointDemand false rest
    else if first = 0x71 then .question
    else if first = 0x48 then .question
    else if first = 0x54 then .question
    else if first = 0x76 then resumeDemand rest
    else if first = 0x44 then .question
    else if first = 0x6b then .question
    else .reply emptyReply

/-- How the answer of a call reads on the wire. Stops by a signal name the leader, and registers are
    told when their packet fits. -/
def answerReply : Except HostError Answer → Bytes
  | .error _ => errorReply
  | .ok .done => okReply
  | .ok (.bytes data) => hexEncode data
  | .ok (.registers registers) =>
    if amd64GpacketBytes ≤ limits.maxPacketPayload / 2 then hexEncode (toGpacket registers)
    else errorReply
  | .ok (.outcome outcome) =>
    match outcomeToReply outcome with
    | .signal number => ascii "T" ++ hexByte number ++ ascii "thread:" ++
        lowerHex host.leaderTid.toNat ++ ascii ";"
    | reply => stopReplyPacket reply

/-- The request was served as it asks: its call is made on the session, and its answer is told. -/
def Served {α : Type} (wrap : Bytes → α) (s : TargetSession) (out : α × PtraceRemoteTarget) :
    Demand → Prop
  | .call c => out.1 = wrap (answerReply host limits (applyCall Target.ops c s).1) ∧
      out.2.session = (applyCall Target.ops c s).2
  | .reply text => out.1 = wrap text ∧ out.2.session = s
  | .question => out.2.session = s

end Demands

/-! ### Every request is served as it asks -/

section Serving

variable {host} {limits : ProtocolLimits} {p : PtraceRemoteTarget}

theorem Served.ite_of {α : Type} {wrap : Bytes → α} {s : TargetSession} {c : Prop} [Decidable c]
    {x y : StateM PtraceRemoteTarget α} {d e : Demand}
    (hx : c → Served host limits wrap s (x p) d) (hy : ¬ c → Served host limits wrap s (y p) e) :
    Served host limits wrap s ((if c then x else y) p) (if c then d else e) := by
  by_cases hc : c
  · rw [if_pos hc, if_pos hc]
    exact hx hc
  · rw [if_neg hc, if_neg hc]
    exact hy hc

theorem served_replying {x : StateM PtraceRemoteTarget Bytes} {d : Demand}
    (h : Served host limits id p.session (x p) d) :
    Served host limits .reply p.session (replying x p) d := by
  cases d with
  | call c => exact ⟨congrArg Disposition.reply h.1, h.2⟩
  | reply text => exact ⟨congrArg Disposition.reply h.1, h.2⟩
  | question => exact h

theorem served_question {x : StateM PtraceRemoteTarget Bytes}
    (h : Keeps PtraceRemoteTarget.session x) :
    Served host limits .reply p.session (replying x p) .question := h p

theorem onSession_run {α : Type} {wrap : String → TargetError}
    {x : Reducer TargetSession HostError α} {r : Except HostError α} {s : TargetSession}
    (h : x p.session = (r, s)) :
    onSession host wrap x p = (r.mapError fun e => wrap (host.display e),
      { p with session := s }) := by
  rw [onSession, h]

/-- One call, and a reply made of its answer. -/
theorem served_onSession {α : Type} {wrap : String → TargetError}
    {x : Reducer TargetSession HostError α} (f : α → Answer) {c : Call}
    (hc : applyCall Target.ops c = do return f (← x)) {reply : Except TargetError α → Bytes}
    (hreply : reply ((x p.session).1.mapError fun e => wrap (host.display e)) =
      answerReply host limits ((x p.session).1.map f)) :
    Served host limits id p.session ((do pure (reply (← onSession host wrap x)) :
      StateM PtraceRemoteTarget Bytes) p) (.call c) := by
  rw [Served, hc, Reducer.bind_pure_run]
  exact ⟨hreply, rfl⟩

theorem served_unit {wrap : String → TargetError} {x : Reducer TargetSession HostError Unit}
    {c : Call} (hc : applyCall Target.ops c = do return (fun _ => .done) (← x)) :
    Served host limits id p.session ((do pure (unitReply (← onSession host wrap x)) :
      StateM PtraceRemoteTarget Bytes) p) (.call c) := by
  refine served_onSession (fun _ => .done) hc ?_
  cases (x p.session).1 <;> rfl

theorem served_resume {x : Reducer TargetSession HostError WaitOutcome} {c : Call}
    (hc : applyCall Target.ops c = do return .outcome (← x)) :
    Served host limits id p.session ((do resumeReply (ptraceTarget host) (← record host x) :
      StateM PtraceRemoteTarget Bytes) p) (.call c) := by
  rw [Served, hc, Reducer.bind_pure_run]
  rcases hx : x p.session with ⟨e | outcome, s⟩
  · have hrecord : record host x p = (.error (.execution (host.display e)),
      { p with session := s }) :=
      run_bind (onSession_run hx)
    rw [run_bind hrecord]
    exact ⟨rfl, rfl⟩
  · have hrecord : record host x p = (.ok (outcomeToReply outcome),
        { p with session := s, lastStop := outcomeToReply outcome }) :=
      run_bind (onSession_run hx)
    rw [run_bind hrecord]
    dsimp only [resumeReply, Except.map, answerReply]
    cases outcomeToReply outcome <;> exact ⟨rfl, rfl⟩

/-- Reading the registers leaves the session as it was, and fails when writing them would. -/
theorem readRegisters_run (s : TargetSession) :
    readRegisters Target.ops s = (.ok s.ops.registers, s) ∨
      ∃ e, readRegisters Target.ops s = (.error e, s) ∧
        ∀ r, ∃ e', writeRegisters Target.ops r s = (.error e', s) := by
  cases halive : s.alive
  · have hdead := TargetSession.requireAlive_dead halive
    exact .inr ⟨_, Reducer.bind_of_error hdead, fun r => ⟨_, Reducer.bind_of_error hdead⟩⟩
  · have hrun := TargetSession.requireAlive_run halive
    cases hlive : s.ops.live
    · refine .inr ⟨.syscall "PTRACE_GETREGS" 3, ?_, fun r => ⟨.syscall "PTRACE_SETREGS" 3, ?_⟩⟩
      · rw [readRegisters, Reducer.bind_of_ok hrun]
        simp [call, Reducer.within, Target.ops, Target.whileLive, hlive]
      · rw [writeRegisters, Reducer.bind_of_ok hrun]
        simp [call, Reducer.within, Target.ops, Target.whileLive, hlive]
    · left
      rw [readRegisters, Reducer.bind_of_ok hrun, TargetSession.call_readRegisters hlive]

theorem length_substituteOriginals (address : UInt64) (len : ℕ)
    (armed : List (UInt64 × ArmedBreakpoint)) (bytes : Bytes) :
    (substituteOriginals address len armed bytes).length = bytes.length := by
  unfold substituteOriginals
  induction armed generalizing bytes with
  | nil => rfl
  | cons bp armed ih =>
    rw [List.foldl_cons, ih]
    split <;> simp

theorem length_of_readMemory {s : TargetSession} {addr : UInt64} {len : ℕ} {bytes : Bytes}
    (h : (readMemory Target.ops addr len s).1 = .ok bytes) : bytes.length = len := by
  cases halive : s.alive
  · rw [readMemory, Reducer.bind_of_error (TargetSession.requireAlive_dead halive)] at h
    cases h
  cases hlive : s.ops.live
  · have hcall : ∃ e, call (Target.ops.readMemory addr len) s = (.error e, s) := by
      by_cases haccess : Target.Accessible addr len
      · refine ⟨.syscall "PTRACE_PEEKTEXT" 3, ?_⟩
        simp [call, Reducer.within, Target.ops, Target.whileLive, hlive, haccess]
      · exact ⟨_, TargetSession.call_readMemory_inaccessible haccess⟩
    obtain ⟨e, hcall⟩ := hcall
    rw [readMemory, Reducer.bind_of_ok (TargetSession.requireAlive_run halive),
      Reducer.refuse_bind_run] at h
    split_ifs at h
    rw [Reducer.bind_of_error hcall] at h
    cases h
  · rw [TargetSession.readMemory_run ⟨halive, hlive⟩] at h
    split_ifs at h
    obtain rfl := Except.ok.inj h
    simp [length_substituteOriginals]

theorem served_readRegisters :
    Served host limits id p.session (handleReadRegisters (ptraceTarget host) limits p)
      (.call .readRegisters) := by
  rw [Served, applyCall, Reducer.bind_pure_run]
  rcases readRegisters_run p.session with hrun | ⟨e, hrun, -⟩
  · have hread : (ptraceTarget host).readRegisters p =
      (.ok (toGpacket p.session.ops.registers), p) :=
      run_bind (onSession_run hrun)
    rw [handleReadRegisters, run_bind hread, hrun]
    have hlength : (toGpacket p.session.ops.registers).length = amd64GpacketBytes := rfl
    by_cases hfits : amd64GpacketBytes ≤ limits.maxPacketPayload / 2
    · simp [Except.map, answerReply, registerPacketIsValid, hlength, hfits]
      exact ⟨rfl, rfl⟩
    · simp [Except.map, answerReply, registerPacketIsValid, hlength, hfits]
      exact ⟨rfl, rfl⟩
  · have hread : (ptraceTarget host).readRegisters p = (.error (.register (host.display e)), p) :=
      run_bind (onSession_run hrun)
    rw [handleReadRegisters, run_bind hread, hrun]
    exact ⟨rfl, rfl⟩

theorem served_writeRegisters (rest : Bytes) :
    Served host limits id p.session (handleWriteRegisters (ptraceTarget host) limits rest p)
      (registersDemand limits p.session.ops.registers rest) := by
  unfold handleWriteRegisters registersDemand
  rcases hexDecode rest with _ | raw
  · exact ⟨rfl, rfl⟩
  dsimp only
  have hvalid : registerPacketIsValid (ptraceTarget host) limits p raw =
      decide (raw.length ≤ limits.maxPacketPayload / 2) := Bool.and_true _
  rw [run_bind (show (get : StateM _ _) p = (p, p) from rfl), hvalid]
  by_cases hfits : raw.length ≤ limits.maxPacketPayload / 2
  · simp only [hfits, decide_true, if_true]
    rcases readRegisters_run p.session with hrun | ⟨e, hrun, hwrite⟩
    · have hwrites : (ptraceTarget host).writeRegisters raw p =
          (match applyGpacket p.session.ops.registers raw with
            | .error e => pure (.error e)
            | .ok registers => onSession host .register (writeRegisters Target.ops registers) :
              StateM PtraceRemoteTarget (Except TargetError Unit)) p :=
        run_bind (onSession_run hrun)
      show Served host limits id p.session (unitReply ((ptraceTarget host).writeRegisters raw p).1,
        ((ptraceTarget host).writeRegisters raw p).2) _
      rw [hwrites]
      cases applyGpacket p.session.ops.registers raw with
      | error e => exact ⟨rfl, rfl⟩
      | ok registers => exact served_unit rfl
    · have hwrites : (ptraceTarget host).writeRegisters raw p =
          (.error (.register (host.display e)), p) := run_bind (onSession_run hrun)
      rw [run_bind hwrites]
      cases applyGpacket p.session.ops.registers raw with
      | error e => exact ⟨rfl, rfl⟩
      | ok registers =>
        obtain ⟨e', hfails⟩ := hwrite registers
        have hcall : applyCall Target.ops (.writeRegisters registers) p.session =
            (.error e', p.session) := Reducer.bind_of_error hfails
        rw [Served, hcall]
        exact ⟨rfl, rfl⟩
  · simp only [hfits, decide_false, if_false]
    exact ⟨rfl, rfl⟩

theorem served_readMemory (rest : Bytes) :
    Served host limits id p.session (handleReadMemory (ptraceTarget host) limits rest p)
      (readDemand limits rest) := by
  unfold handleReadMemory readDemand
  rcases parseAddrLen rest with _ | ⟨addr, len⟩
  · exact ⟨rfl, rfl⟩
  refine Served.ite_of (fun _ => ⟨rfl, rfl⟩) fun _ => ?_
  refine served_onSession .bytes rfl ?_
  cases hread : (readMemory Target.ops addr len.toNat p.session).1 with
  | error e => rfl
  | ok bytes => exact if_pos (length_of_readMemory hread)

theorem served_writeMemory (rest : Bytes) :
    Served host limits id p.session (handleWriteMemory (ptraceTarget host) limits rest p)
      (writeDemand limits rest) := by
  unfold handleWriteMemory writeDemand
  rcases parseWrite rest with _ | ⟨addr, declaredLen, bytes⟩
  · exact ⟨rfl, rfl⟩
  exact Served.ite_of (fun _ => ⟨rfl, rfl⟩) fun _ => served_unit rfl

theorem served_breakpoint (rest : Bytes) (set : Bool) :
    Served host limits id p.session (handleBreakpoint (ptraceTarget host) rest set p)
      (breakpointDemand set rest) := by
  rcases rest with _ | ⟨bptype, afterType⟩
  · exact ⟨rfl, rfl⟩
  unfold handleBreakpoint breakpointDemand
  dsimp only
  rcases parseBreakpoint afterType with _ | ⟨addr, third⟩
  · exact ⟨rfl, rfl⟩
  have hkind : ∀ {x : Reducer TargetSession HostError Unit} {c : Call},
      applyCall Target.ops c = (do return (fun _ => .done) (← x)) →
      Served host limits id p.session ((do pure (unitReply (← withKind third
        (onSession host .breakpoint x))) : StateM PtraceRemoteTarget Bytes) p)
        (if third ≠ 1 then .reply errorReply else .call c) := by
    intro x c hc
    by_cases hthird : third ≠ 1
    · rw [if_pos hthird, withKind, if_pos hthird]
      exact ⟨rfl, rfl⟩
    · rw [if_neg hthird, withKind, if_neg hthird]
      exact served_unit hc
  cases set <;> exact Served.ite_of (fun _ => hkind rfl) fun _ =>
    Served.ite_of (fun _ => served_unit rfl) fun _ =>
      Served.ite_of (fun _ => served_unit rfl) fun _ => ⟨rfl, rfl⟩

theorem served_vPacket (rest : Bytes) :
    Served host limits id p.session (handleVPacket (ptraceTarget host) rest p)
      (resumeDemand rest) := by
  refine Served.ite_of (fun _ => ⟨rfl, rfl⟩) fun _ =>
    Served.ite_of (fun _ => ?_) fun _ => ⟨rfl, rfl⟩
  dsimp only
  generalize ((splitOnce semicolon (rest.drop (ascii "Cont;").length)).map Prod.fst).getD
    (rest.drop (ascii "Cont;").length) = firstAction
  -- the session does not see which thread is selected
  have hselect : ∀ thread, ∃ q, selectActionThread (ptraceTarget host) thread p = ((), q) ∧
      q.session = p.session := by
    rintro (_ | tid)
    · exact ⟨_, rfl, rfl⟩
    · exact ⟨_, rfl, rfl⟩
  generalize (splitOnce colon firstAction).bind _ = thread
  obtain ⟨q, hq, hsession⟩ := hselect thread
  rw [run_bind hq, ← hsession]
  cases firstAction.head? with
  | none => exact ⟨rfl, rfl⟩
  | some letter =>
    exact Served.ite_of (fun _ => served_resume rfl) fun _ =>
      Served.ite_of (fun _ => served_resume rfl) fun _ => ⟨rfl, rfl⟩

theorem asks_ptraceTarget : (ptraceTarget host).Asks PtraceRemoteTarget.session where
  stopReason _ := rfl
  threadIds _ := rfl
  currentThread _ := rfl
  setCurrentThread _ _ := rfl
  stoppedThread _ := rfl

theorem served_dispatch (payload : Bytes) :
    Served host limits .reply p.session (dispatch (ptraceTarget host) limits payload p)
      (demand limits p.session.ops.registers payload) := by
  rcases payload with _ | ⟨first, rest⟩
  · exact ⟨rfl, rfl⟩
  have hasks : (ptraceTarget host).Asks _ := asks_ptraceTarget
  unfold dispatch demand
  dsimp only
  -- one case for each letter, in the order of the source
  repeat' refine Served.ite_of (fun _ => ?_) fun _ => ?_
  · exact served_question (hasks.stopReason.bind (keeps_stopReplyFor hasks))
  · exact served_replying served_readRegisters
  · exact served_replying (served_writeRegisters rest)
  · exact served_replying (served_readMemory rest)
  · exact served_replying (served_writeMemory rest)
  · exact served_replying (served_resume rfl)
  · exact served_replying (served_resume rfl)
  · exact served_replying (served_breakpoint rest true)
  · exact served_replying (served_breakpoint rest false)
  · exact served_question (keeps_handleQuery hasks rest)
  · exact served_question (keeps_handleSetThread hasks rest)
  · exact served_question (keeps_handleIsThreadAlive hasks rest)
  · exact served_replying (served_vPacket rest)
  · exact rfl
  · exact rfl
  · exact ⟨rfl, rfl⟩

end Serving

/-! ### Conversations -/

/-- The session of a target with these moves ahead. -/
def facing (s : TargetSession) (moves : List Move) : TargetSession :=
  { s with ops := { s.ops with moves := moves } }

/-- One request to a stub whose target keeps its code. -/
def StubStep (host : PtraceHost) (limits : ProtocolLimits) (p : PtraceRemoteTarget)
    (input : Bytes × Move) (answer : Disposition) (p' : PtraceRemoteTarget) : Prop :=
  KeepsCode p.session input.2 ∧ dispatch (ptraceTarget host) limits input.1
    { p with session := facing p.session [input.2] } = (answer, p')

/-- The sessions differ at most in the moves that lie ahead. -/
def SameSession (s s' : TargetSession) : Prop := ∃ moves, s' = facing s moves

theorem SameSession.refl (s : TargetSession) : SameSession s s := ⟨s.ops.moves, rfl⟩

theorem SameSession.live_eq {s s' : TargetSession} (h : SameSession s s') :
    s.ops.live = s'.ops.live := by
  obtain ⟨moves, rfl⟩ := h
  rfl

/-- A request and its reply. -/
abbrev Exchanged := Event PtraceRemoteTarget (Bytes × Move) Disposition

/-- What the request asked for. -/
def asked (limits : ProtocolLimits) (e : Exchanged) : Demand :=
  demand limits e.pre.session.ops.registers e.input.1

/-- The request asked for this call, with this move of the target, and the reply tells its
    answer. -/
def Tells (host : PtraceHost) (limits : ProtocolLimits) (e : Exchanged)
    (call : Event Watched (Call × Move) (Except HostError Answer)) : Prop :=
  asked limits e = .call call.input.1 ∧ e.input.2 = call.input.2 ∧
    e.output = .reply (answerReply host limits call.output)

/-- Calls after which memory may hold other bytes. -/
def changesMemory : Call → Bool
  | .writeMemory _ _ | .continueExecution | .singleStep => true
  | _ => false

/-- Requests that neither write memory nor run the target. -/
def Quiet (limits : ProtocolLimits) (e : Exchanged) : Prop :=
  ∀ c, asked limits e = .call c → changesMemory c = false

variable {host} {limits : ProtocolLimits} {p p' p₀ : PtraceRemoteTarget} {x : Watched}
  {es : List Exchanged} {e : Exchanged}

theorem served_of_step (hx : SameSession x.session e.pre.session)
    (hstep : StubStep host limits e.pre e.input e.output e.post) :
    Served host limits .reply (facing x.session [e.input.2]) (e.output, e.post)
      (asked limits e) := by
  have hfacing : facing e.pre.session [e.input.2] = facing x.session [e.input.2] := by
    obtain ⟨moves, hmoves⟩ := hx
    rw [hmoves]
    rfl
  rw [← hstep.2, ← hfacing]
  exact served_dispatch (p := { e.pre with session := facing e.pre.session [e.input.2] }) e.input.1

/-- A request that asks for a call is that call on the session. -/
theorem stub_call {c : Call} (hx : SameSession x.session e.pre.session)
    (hstep : StubStep host limits e.pre e.input e.output e.post) (hc : asked limits e = .call c) :
    ∃ result x', x.Step (c, e.input.2) result x' ∧
      e.output = .reply (answerReply host limits result) ∧
      SameSession x'.session e.post.session ∧
      (changesMemory c = false → x'.intended.logical = x.intended.logical) := by
  have hserved := served_of_step hx hstep
  rw [hc] at hserved
  have hcode : KeepsCode x.session e.input.2 := by
    obtain ⟨moves, hmoves⟩ := hx
    have hcode := hstep.1
    rw [hmoves] at hcode
    exact hcode
  refine ⟨_, _, ⟨hcode, rfl⟩, hserved.1, hserved.2 ▸ SameSession.refl _, fun hquiet => ?_⟩
  cases c <;> first | rfl | cases hquiet

/-- Any other request leaves the session as it is. -/
theorem stub_other (hx : SameSession x.session e.pre.session)
    (hstep : StubStep host limits e.pre e.input e.output e.post)
    (hother : ∀ c, asked limits e ≠ .call c) :
    SameSession x.session e.post.session ∧
      ∀ text, asked limits e = .reply text → e.output = .reply text := by
  have hserved := served_of_step hx hstep
  cases hasked : asked limits e with
  | call c => exact absurd hasked (hother c)
  | reply text =>
    rw [hasked] at hserved
    exact ⟨⟨_, hserved.2⟩, fun _ h => Demand.reply.inj h ▸ hserved.1⟩
  | question =>
    rw [hasked] at hserved
    exact ⟨⟨_, hserved⟩, nofun⟩

/-- A conversation with the stub is a run of its session. -/
theorem stub_run (x₀ : Watched) (hx : SameSession x₀.session p₀.session)
    (run : Run (StubStep host limits) p₀ es p) :
    ∃ calls x, Run Watched.Step x₀ calls x ∧
      List.Forall₂ (Tells host limits) (es.filter fun e => (asked limits e).isCall) calls ∧
      SameSession x.session p.session ∧
      (∀ e ∈ es, ∀ text, asked limits e = .reply text → e.output = .reply text) ∧
      ((∀ e ∈ es, Quiet limits e) → x.intended.logical = x₀.intended.logical) := by
  induction run with
  | start => exact ⟨[], x₀, .start, .nil, hx, List.forall_mem_nil _, fun _ => rfl⟩
  | @next es p i o p' _ hstep ih =>
    obtain ⟨calls, x, hrun, hcarries, hsession, hreplies, hlogical⟩ := ih
    by_cases hcall : ∃ c, asked limits ⟨p, i, o, p'⟩ = .call c
    · obtain ⟨c, hasked⟩ := hcall
      obtain ⟨result, x', hcall, hanswer, hsession', hquiet⟩ :=
        stub_call (e := ⟨p, i, o, p'⟩) hsession hstep hasked
      refine ⟨_, x', hrun.next hcall, ?_, hsession', ?_, fun h => ?_⟩
      · rw [List.filter_append, List.filter_singleton, hasked]
        exact List.rel_append hcarries (.cons ⟨hasked, rfl, hanswer⟩ .nil)
      · refine List.forall_mem_append.mpr ⟨hreplies, List.forall_mem_singleton.mpr fun text h => ?_⟩
        cases hasked.symm.trans h
      · obtain ⟨hbefore, hlast⟩ := List.forall_mem_append.mp h
        rw [hquiet (hlast _ (List.mem_singleton_self _) c hasked), hlogical hbefore]
    · have hother := not_exists.mp hcall
      obtain ⟨hsession', hreply⟩ := stub_other (e := ⟨p, i, o, p'⟩) hsession hstep hother
      have hskip : (asked limits ⟨p, i, o, p'⟩).isCall = false := by
        cases hasked : asked limits ⟨p, i, o, p'⟩ with
        | call c => exact absurd hasked (hother c)
        | reply text => rfl
        | question => rfl
      refine ⟨calls, x, hrun, ?_, hsession', ?_, fun h => hlogical (List.forall_mem_append.mp h).1⟩
      · rw [List.filter_append, List.filter_singleton, hskip]
        simpa using hcarries
      · exact List.forall_mem_append.mpr ⟨hreplies, List.forall_mem_singleton.mpr hreply⟩

/-- What the session is after a run of calls, while its target lives. -/
theorem mirrored_of_run {t : Target} (hlive : t.live = true)
    {calls : List (Event Watched (Call × Move) (Except HostError Answer))}
    (run : Run Watched.Step (Watched.start t) calls x) (halive : x.session.ops.live = true) :
    Mirrored (t.user dr7Offset) x.session x.intended :=
  (run.invariant (fun x => MirroredWhileAlive (t.user dr7Offset) x.session x.intended)
    (mirrored_start hlive).whileAlive fun _ _ _ _ h hstep => step_mirrored h hstep).2 halive

/-- Reads show the logical memory. -/
theorem stub_read {dr7 : UInt64} (h : Mirrored dr7 x.session x.intended)
    (hx : SameSession x.session e.pre.session)
    (hstep : StubStep host limits e.pre e.input e.output e.post) {addr : UInt64} {len : ℕ}
    (hasked : asked limits e = .call (.readMemory addr len)) (hsize : len ≤ maxMemoryTransferBytes)
    (haccess : Target.Accessible addr len) :
    e.output = .reply (hexEncode (readSpan x.intended.logical addr.toNat len)) := by
  have hserved := served_of_step hx hstep
  rw [hasked] at hserved
  have hread : applyCall Target.ops (.readMemory addr len) (facing x.session [e.input.2]) =
      (.ok (.bytes (readSpan x.intended.logical addr.toNat len)),
        facing x.session [e.input.2]) := by
    have hlive : TargetSession.Live (facing x.session [e.input.2]) := ⟨h.live.alive, h.live.live⟩
    rw [applyCall, Reducer.bind_pure_run, TargetSession.readMemory_run hlive,
      if_neg (not_lt.mpr hsize), if_pos haccess]
    exact congrArg (fun bytes => (Except.ok (Answer.bytes bytes), _))
      (substituteOriginals_of_mirrors h.memory haccess)
  rw [Served, hread] at hserved
  exact hserved.1

end ReSymbol.GdbRemote
