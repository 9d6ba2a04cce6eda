import ReSymbol.Schemes.Reducer
import ReSymbol.GdbRemote.Serving

/-! Client and server agree on memory requests.

    The two ends of the wire write and read the texts of memory requests on their own. What the
    client admits under its limits is read by a server with the same limits as what was meant,
    reaches the target once, and comes back whole; a text that is not a memory request never reaches
    the target.

        readMemory addr len ─▶ m‹addr›,‹len› ─▶ target.readMemory addr len
                 bytes ◀───── hexEncode bytes ◀───── bytes  -/

namespace ReSymbol.GdbRemote
open Schemes

variable {τ : Type}

/-! ### A target that records its calls -/

inductive TargetCall where
  | readRegisters
  | writeRegisters (raw : Bytes)
  | readMemory (addr : UInt64) (len : ℕ)
  | writeMemory (addr : UInt64) (data : Bytes)
  | cont
  | step
  | setSwBreakpoint (addr kind : UInt64)
  | removeSwBreakpoint (addr kind : UInt64)
  | setHwBreakpoint (addr : UInt64)
  | removeHwBreakpoint (addr : UInt64)
  | setWatchpoint (addr len : UInt64) (kind : WatchKind)
  | removeWatchpoint (addr len : UInt64) (kind : WatchKind)
  | stopReason
  | threadIds
  | currentThread
  | setCurrentThread (id : UInt64)
  | stoppedThread

/-- An operation of the target that leaves a trace. -/
def recorded {α : Type} (call : TargetCall) (operation : StateM τ α) :
    StateM (τ × List TargetCall) α :=
  fun s => ((operation s.1).1, ((operation s.1).2, s.2 ++ [call]))

def recording (target : RemoteTarget τ) : RemoteTarget (τ × List TargetCall) where
  targetDescription s := target.targetDescription s.1
  readRegisters := recorded .readRegisters target.readRegisters
  writeRegisters raw := recorded (.writeRegisters raw) (target.writeRegisters raw)
  readMemory addr len := recorded (.readMemory addr len) (target.readMemory addr len)
  writeMemory addr data := recorded (.writeMemory addr data) (target.writeMemory addr data)
  cont := recorded .cont target.cont
  step := recorded .step target.step
  setSwBreakpointWithKind addr kind :=
    recorded (.setSwBreakpoint addr kind) (target.setSwBreakpointWithKind addr kind)
  removeSwBreakpointWithKind addr kind :=
    recorded (.removeSwBreakpoint addr kind) (target.removeSwBreakpointWithKind addr kind)
  setHwBreakpoint addr := recorded (.setHwBreakpoint addr) (target.setHwBreakpoint addr)
  removeHwBreakpoint addr := recorded (.removeHwBreakpoint addr) (target.removeHwBreakpoint addr)
  setWatchpoint addr len kind :=
    recorded (.setWatchpoint addr len kind) (target.setWatchpoint addr len kind)
  removeWatchpoint addr len kind :=
    recorded (.removeWatchpoint addr len kind) (target.removeWatchpoint addr len kind)
  stopReason := recorded .stopReason target.stopReason
  threadIds := recorded .threadIds target.threadIds
  currentThread := recorded .currentThread target.currentThread
  setCurrentThread id := recorded (.setCurrentThread id) (target.setCurrentThread id)
  stoppedThread := recorded .stoppedThread target.stoppedThread

/-! ### Texts of memory requests -/

/-- A number of one to sixteen digits. -/
def HexNumber (text : Bytes) (value : ℕ) : Prop :=
  text ≠ [] ∧ text.length ≤ 16 ∧ (∀ byte ∈ text, IsHexDigit byte) ∧
    text.foldlM pushHexNat 0 = some value

/-- Two digits for every byte. -/
def HexData (text : Bytes) (data : Bytes) : Prop :=
  text.length = 2 * data.length ∧ (∀ byte ∈ text, IsHexDigit byte) ∧ hexDecode text = some data

/-- The text behind `m` asks for so many bytes. -/
def ReadsAs (rest : Bytes) (addr : UInt64) (len : ℕ) : Prop :=
  ∃ a l, rest = a ++ comma :: l ∧ HexNumber a addr.toNat ∧ HexNumber l len

/-- The text behind `M` brings these bytes, as many as it declares. -/
def WritesAs (rest : Bytes) (addr : UInt64) (data : Bytes) : Prop :=
  ∃ a l d, rest = (a ++ comma :: l) ++ colon :: d ∧ HexNumber a addr.toNat ∧
    HexNumber l data.length ∧ HexData d data

theorem isHexDigit_of_fromHexDigit {byte digit : UInt8} (h : fromHexDigit byte = some digit) :
    IsHexDigit byte := by
  unfold fromHexDigit at h
  unfold IsHexDigit
  split_ifs at h with h₁ h₂ h₃
  · exact .inl h₁
  · exact .inr (.inl h₂)
  · exact .inr (.inr h₃)

theorem isHexDigit_of_foldlM {text : Bytes} {start value : ℕ}
    (h : text.foldlM pushHexNat start = some value) : ∀ byte ∈ text, IsHexDigit byte := by
  induction text generalizing start with
  | nil => simp
  | cons byte text ih =>
    rw [List.foldlM_cons, Option.bind_eq_bind, Option.bind_eq_some_iff] at h
    obtain ⟨next, hnext, hrest⟩ := h
    obtain ⟨digit, hdigit, -⟩ := Option.map_eq_some_iff.mp hnext
    intro byte' hmem
    rcases List.mem_cons.mp hmem with rfl | hmem
    · exact isHexDigit_of_fromHexDigit hdigit
    · exact ih hrest byte' hmem

/-- A number grows by at most four bits a digit. -/
theorem foldlM_pushHexNat_lt {text : Bytes} {start value : ℕ}
    (h : text.foldlM pushHexNat start = some value) : value < (start + 1) * 16 ^ text.length := by
  induction text generalizing start with
  | nil =>
    obtain rfl : start = value := by simpa using h
    simp
  | cons byte text ih =>
    rw [List.foldlM_cons, Option.bind_eq_bind, Option.bind_eq_some_iff] at h
    obtain ⟨next, hnext, hrest⟩ := h
    obtain ⟨digit, hdigit, rfl⟩ := Option.map_eq_some_iff.mp hnext
    have hlt := fromHexDigit_lt hdigit
    calc value < (16 * start + digit.toNat + 1) * 16 ^ text.length := ih hrest
      _ ≤ (16 * (start + 1)) * 16 ^ text.length := Nat.mul_le_mul_right _ (by omega)
      _ = (start + 1) * 16 ^ (byte :: text).length := by rw [List.length_cons, pow_succ]; ring

/-- What the parser reads is a number, and the value is its value. -/
theorem parseHexU64_eq_some {text : Bytes} {value : UInt64} :
    parseHexU64 text = some value ↔ HexNumber text value.toNat := by
  unfold parseHexU64 HexNumber
  by_cases hshape : text = [] ∨ text.length > 16
  · rw [if_pos hshape]
    constructor
    · intro h
      cases h
    · rintro ⟨hne, hle, -⟩
      rcases hshape with h | h
      · exact absurd h hne
      · omega
  · rw [if_neg hshape, show (0 : UInt64) = UInt64.ofNat 0 from rfl, foldlM_pushHexDigit,
      Option.map_eq_some_iff]
    obtain ⟨hne, hle⟩ := not_or.mp hshape
    constructor
    · rintro ⟨n, hn, rfl⟩
      have hlt := foldlM_pushHexNat_lt hn
      have hpow : 16 ^ text.length ≤ 16 ^ 16 := Nat.pow_le_pow_right (by omega) (by omega)
      have hvalue : (UInt64.ofNat n).toNat = n := by
        rw [UInt64.toNat_ofNat']
        omega
      rw [hvalue]
      exact ⟨hne, by omega, isHexDigit_of_foldlM hn, hn⟩
    · rintro ⟨-, -, -, hn⟩
      exact ⟨value.toNat, hn, UInt64.ofNat_toNat⟩

theorem parseAddrLen_eq_some {text : Bytes} {addr len : UInt64}
    (h : parseAddrLen text = some (addr, len)) : ReadsAs text addr len.toNat := by
  simp only [parseAddrLen, Option.bind_eq_bind, Option.bind_eq_some_iff, Option.some.injEq,
    Prod.mk.injEq, Prod.exists] at h
  obtain ⟨front, back, hsplit, addr', haddr, len', hlen, rfl, rfl⟩ := h
  exact ⟨front, back, eq_append_of_splitOnce hsplit, parseHexU64_eq_some.mp haddr,
    parseHexU64_eq_some.mp hlen⟩

theorem hexData_of_hexDecode {text data : Bytes} (h : hexDecode text = some data) :
    HexData text data := by
  induction text using hexDecode.induct generalizing data with
  | case1 =>
    obtain rfl : [] = data := by simpa [hexDecode] using h
    exact ⟨rfl, by simp, h⟩
  | case2 byte => simp [hexDecode] at h
  | case3 hi lo rest ih =>
    refine ⟨?_, ?_, h⟩
    all_goals
      simp only [hexDecode, Option.bind_eq_bind, Option.bind_eq_some_iff, Option.some.injEq] at h
      obtain ⟨hi', hhi, lo', hlo, bytes, hrest, rfl⟩ := h
      obtain ⟨hlength, hdigits, -⟩ := ih hrest
    · simp only [List.length_cons]
      omega
    · intro byte hmem
      rcases List.mem_cons.mp hmem with rfl | hmem
      · exact isHexDigit_of_fromHexDigit hhi
      · rcases List.mem_cons.mp hmem with rfl | hmem
        · exact isHexDigit_of_fromHexDigit hlo
        · exact hdigits byte hmem

theorem writesAs_of_parseWrite {rest data : Bytes} {addr declaredLen : UInt64}
    (h : parseWrite rest = some (addr, declaredLen, data))
    (hlen : declaredLen.toNat = data.length) :
    WritesAs rest addr data := by
  simp only [parseWrite, Option.bind_eq_bind, Option.bind_eq_some_iff, Option.some.injEq,
    Prod.mk.injEq, Prod.exists] at h
  obtain ⟨spec, d, hsplit, addr', len', hspec, bytes, hdata, rfl, rfl, rfl⟩ := h
  obtain ⟨a, l, rfl, ha, hl⟩ := parseAddrLen_eq_some hspec
  exact ⟨a, l, d, eq_append_of_splitOnce hsplit, ha, hlen ▸ hl, hexData_of_hexDecode hdata⟩

/-! ### What the server makes of a request of the client -/

theorem parseAddrLen_text (addr : UInt64) {len : ℕ} (h : len < 2 ^ 64) :
    parseAddrLen (lowerHex addr.toNat ++ comma :: lowerHex len) =
      some (addr, UInt64.ofNat len) := by
  rw [parseAddrLen_lowerHex addr.toNat_lt h, UInt64.ofNat_toNat]

theorem colon_not_mem_spec (addr : UInt64) (len : ℕ) :
    colon ∉ lowerHex addr.toNat ++ comma :: lowerHex len := by
  have hnumber : ∀ n, colon ∉ lowerHex n := separator_not_mem_lowerHex (.inr rfl)
  intro hmem
  rcases List.mem_append.mp hmem with hmem | hmem
  · exact hnumber _ hmem
  · rcases List.mem_cons.mp hmem with hmem | hmem
    · exact absurd hmem (by decide)
    · exact hnumber _ hmem

theorem parseWrite_text (addr : UInt64) {data : Bytes} (h : data.length < 2 ^ 64) :
    parseWrite ((lowerHex addr.toNat ++ comma :: lowerHex data.length) ++ colon :: hexEncode data) =
      some (addr, UInt64.ofNat data.length, data) := by
  simp only [parseWrite, splitOnce_append (colon_not_mem_spec addr data.length),
    parseAddrLen_text addr h, hexDecode_hexEncode, Option.bind_eq_bind, Option.bind_some]

section Served

variable (target : RemoteTarget τ) (limits : ProtocolLimits)

theorem dispatch_read (rest : Bytes) :
    dispatch target limits (0x6d :: rest) = replying (handleReadMemory target limits rest) := rfl

theorem dispatch_write (rest : Bytes) :
    dispatch target limits (0x4d :: rest) = replying (handleWriteMemory target limits rest) := rfl

variable {target limits}

theorem handleReadMemory_run (target : RemoteTarget τ) {rest : Bytes} {addr len : UInt64}
    (h : parseAddrLen rest = some (addr, len)) (hle : len.toNat ≤ maxRead limits) (t : τ) :
    handleReadMemory target limits rest t =
      (readReply len.toNat (target.readMemory addr len.toNat t).1,
        (target.readMemory addr len.toNat t).2) := by
  simp only [handleReadMemory, h, if_neg (not_lt.mpr hle)]
  rfl

theorem handleWriteMemory_run (target : RemoteTarget τ) {rest data : Bytes}
    {addr declaredLen : UInt64}
    (h : parseWrite rest = some (addr, declaredLen, data)) (hlen : declaredLen.toNat = data.length)
    (hle : data.length ≤ limits.maxMemoryTransfer) (t : τ) :
    handleWriteMemory target limits rest t =
      (unitReply (target.writeMemory addr data t).1, (target.writeMemory addr data t).2) := by
  have hadmits : ¬ (declaredLen.toNat ≠ data.length ∨ data.length > limits.maxMemoryTransfer) := by
    omega
  simp only [handleWriteMemory, h, if_neg hadmits]
  rfl

end Served

/-! ### Reads -/

variable {target : RemoteTarget τ} {limits : ProtocolLimits}

/-- What the client sends: a read within both limits whose text is within the packet limit. -/
def ReadAdmitted (limits : ProtocolLimits) (addr : UInt64) (len : ℕ) : Prop :=
  len ≤ limits.maxMemoryTransfer ∧ len ≤ (limits.maxPacketPayload - 1) / 2 ∧
    (readText addr len).length ≤ limits.maxPacketPayload

/-- What a read call returns for an outcome of the target. -/
def readOutcome (len : ℕ) : Except TargetError Bytes → Except ClientError Bytes
  | .ok bytes => if bytes.length = len then .ok bytes else .error (.stub errorReply)
  | .error _ => .error (.stub errorReply)

/-- Both sides mean the same by a read. -/
structure ReadsAgree (target : RemoteTarget τ) (limits : ProtocolLimits) (addr : UInt64) (len : ℕ) :
    Prop where
  /-- The server reads the same address and length out of the text. -/
  parsed : ∃ rest, readText addr len = 0x6d :: rest ∧
    parseAddrLen rest = some (addr, UInt64.ofNat len) ∧ (UInt64.ofNat len).toNat = len
  /-- It calls the target once, with them. -/
  served : ∀ t log, dispatch (recording target) limits (readText addr len) (t, log) =
    (.reply (readReply len (target.readMemory addr len t).1),
      ((target.readMemory addr len t).2, log ++ [.readMemory addr len]))
  /-- The reply to a successful read fits and carries the bytes. -/
  replied : ∀ bytes : Bytes, bytes.length = len →
    (readReply len (.ok bytes)).length ≤ limits.maxPacketPayload ∧
      decodeRead len (readReply len (.ok bytes)) = .ok bytes
  /-- The call returns what the target answered. -/
  returned : ∀ t log, GdbRemoteClient.readMemory limits
      (transact limits.maxPacketPayload limits.maxPacketPayload
      (dispatch (recording target) limits))
      addr len (t, log) =
    (readOutcome len (target.readMemory addr len t).1,
      ((target.readMemory addr len t).2, log ++ [.readMemory addr len]))

theorem isErrorReply_eq_false_of_even {reply : Bytes} {n : ℕ} (h : reply.length = 2 * n) :
    isErrorReply reply = false := by
  unfold isErrorReply
  split
  · simp only [List.length_cons, List.length_nil] at h
    omega
  · rfl

theorem decodeRead_hexEncode (bytes : Bytes) :
    decodeRead bytes.length (hexEncode bytes) = .ok bytes := by
  have herror := isErrorReply_eq_false_of_even (length_hexEncode bytes)
  simp only [decodeRead, decodeHexReply, herror, Bool.false_eq_true, if_false, hexDecode_hexEncode,
    except_ok_bind, ne_eq, not_true_eq_false]

theorem decodeRead_readReply (len : ℕ) (outcome : Except TargetError Bytes) :
    decodeRead len (readReply len outcome) = readOutcome len outcome := by
  cases outcome with
  | error e => rfl
  | ok bytes =>
    by_cases hlen : bytes.length = len
    · subst hlen
      simp only [readReply, readOutcome, if_true, decodeRead_hexEncode]
    · simp only [readReply, readOutcome, if_neg hlen]
      rfl

theorem length_readReply_le {len limit : ℕ} (hlen : 2 * len ≤ limit) (hlimit : 3 ≤ limit)
    (outcome : Except TargetError Bytes) : (readReply len outcome).length ≤ limit := by
  have herror : errorReply.length = 3 := by decide
  cases outcome with
  | error e => exact herror ▸ hlimit
  | ok bytes =>
    rw [readReply]
    split
    · rw [length_hexEncode]
      omega
    · omega

theorem readsAgree {addr : UInt64} {len : ℕ} (h : ReadAdmitted limits addr len) :
    ReadsAgree target limits addr len := by
  obtain ⟨htransfer, hpacket, htext⟩ := h
  have hlt : len < 2 ^ 64 := by
    have := limits.transfer_le
    unfold usizeMax at this
    omega
  have hnat : (UInt64.ofNat len).toNat = len := UInt64.toNat_ofNat_of_lt' hlt
  have hparsed := parseAddrLen_text addr hlt
  have hmax : (UInt64.ofNat len).toNat ≤ maxRead limits := by
    rw [hnat, maxRead]
    omega
  have hserved : ∀ t log, dispatch (recording target) limits (readText addr len) (t, log) =
      (.reply (readReply len (target.readMemory addr len t).1),
        ((target.readMemory addr len t).2, log ++ [.readMemory addr len])) := by
    intro t log
    have hrun := handleReadMemory_run (recording target) hparsed hmax (t, log)
    rw [hnat] at hrun
    rw [readText, dispatch_read]
    simp only [replying, bind, StateT.bind, hrun]
    rfl
  have hroom : 2 * len ≤ limits.maxPacketPayload := by omega
  have hthree : 3 ≤ limits.maxPacketPayload := by
    have haddr := length_lowerHex_pos addr.toNat
    have hlength := length_lowerHex_pos len
    simp only [readText, List.length_cons, List.length_append] at htext
    omega
  refine ⟨⟨_, rfl, hparsed, hnat⟩, hserved, fun bytes hbytes => ⟨?_, ?_⟩, fun t log => ?_⟩
  · exact length_readReply_le hroom hthree (.ok bytes)
  · rw [decodeRead_readReply, readOutcome, if_pos hbytes]
  · have hadmits : ¬ (len > limits.maxMemoryTransfer ∨
      len > (limits.maxPacketPayload - 1) / 2) := by
      omega
    have hdelivered := length_readReply_le hroom hthree (target.readMemory addr len t).1
    rw [GdbRemoteClient.readMemory, if_neg hadmits]
    simp only [bind, StateT.bind, transact_run htext htext, hserved, answered,
      deliver_of_fits hdelivered hdelivered]
    rw [← decodeRead_readReply]
    rfl

/-! ### Writes -/

/-- What the client sends: data within the transfer limit whose text is within the packet limit. -/
def WriteAdmitted (limits : ProtocolLimits) (addr : UInt64) (data : Bytes) : Prop :=
  data.length ≤ limits.maxMemoryTransfer ∧ (writeText addr data).length ≤ limits.maxPacketPayload

/-- What a write call returns for an outcome of the target. -/
def writeOutcome : Except TargetError Unit → Except ClientError Unit
  | .ok () => .ok ()
  | .error _ => .error (.stub errorReply)

/-- Both sides mean the same by a write. -/
structure WritesAgree (target : RemoteTarget τ) (limits : ProtocolLimits) (addr : UInt64)
    (data : Bytes) : Prop where
  /-- The server reads the same address and bytes out of the text. -/
  parsed : ∃ rest, writeText addr data = 0x4d :: rest ∧
    parseWrite rest = some (addr, UInt64.ofNat data.length, data) ∧
      (UInt64.ofNat data.length).toNat = data.length
  /-- It calls the target once, with them. -/
  served : ∀ t log, dispatch (recording target) limits (writeText addr data) (t, log) =
    (.reply (unitReply (target.writeMemory addr data t).1),
      ((target.writeMemory addr data t).2, log ++ [.writeMemory addr data]))
  /-- The call returns what the target answered. -/
  returned : ∀ t log, GdbRemoteClient.writeMemory limits
      (transact limits.maxPacketPayload limits.maxPacketPayload
      (dispatch (recording target) limits))
      addr data (t, log) =
    (writeOutcome (target.writeMemory addr data t).1,
      ((target.writeMemory addr data t).2, log ++ [.writeMemory addr data]))

theorem expectOk_unitReply (outcome : Except TargetError Unit) :
    expectOk (unitReply outcome) = writeOutcome outcome := by
  cases outcome with
  | error e =>
    show expectOk errorReply = .error (.stub errorReply)
    decide
  | ok u => rfl

theorem length_unitReply_le (outcome : Except TargetError Unit) :
    (unitReply outcome).length ≤ 3 := by
  cases outcome with
  | error e =>
    show errorReply.length ≤ 3
    decide
  | ok u =>
    show okReply.length ≤ 3
    decide

theorem writesAgree {addr : UInt64} {data : Bytes} (h : WriteAdmitted limits addr data) :
    WritesAgree target limits addr data := by
  obtain ⟨htransfer, htext⟩ := h
  have hlt : data.length < 2 ^ 64 := by
    have := limits.transfer_le
    unfold usizeMax at this
    omega
  have hnat : (UInt64.ofNat data.length).toNat = data.length := UInt64.toNat_ofNat_of_lt' hlt
  have hparsed := parseWrite_text addr hlt
  have hserved : ∀ t log, dispatch (recording target) limits (writeText addr data) (t, log) =
      (.reply (unitReply (target.writeMemory addr data t).1),
        ((target.writeMemory addr data t).2, log ++ [.writeMemory addr data])) := by
    intro t log
    have hrun := handleWriteMemory_run (recording target) hparsed hnat htransfer (t, log)
    rw [writeText, dispatch_write]
    simp only [replying, bind, StateT.bind, hrun]
    rfl
  refine ⟨⟨_, rfl, hparsed, hnat⟩, hserved, fun t log => ?_⟩
  have hdelivered : (unitReply (target.writeMemory addr data t).1).length ≤
      limits.maxPacketPayload := by
    have hreply := length_unitReply_le (target.writeMemory addr data t).1
    simp only [writeText, List.length_cons, List.length_append] at htext
    omega
  rw [GdbRemoteClient.writeMemory, if_neg (not_lt.mpr htransfer), if_neg (not_lt.mpr htext)]
  simp only [bind, StateT.bind, transact_run htext htext, hserved, answered,
    deliver_of_fits hdelivered hdelivered]
  rw [← expectOk_unitReply]
  rfl

/-! ### What reaches the target -/

def TargetCall.isMemory : TargetCall → Bool
  | .readMemory _ _ => true
  | .writeMemory _ _ => true
  | _ => false

/-- The memory calls that were recorded. -/
def memoryCalls (s : τ × List TargetCall) : List TargetCall := s.2.filter TargetCall.isMemory

theorem keeps_recorded {α : Type} {call : TargetCall} (h : call.isMemory = false)
    (operation : StateM τ α) : Keeps memoryCalls (recorded call operation) := by
  intro s
  simp [memoryCalls, recorded, List.filter_append, h]

/-- Only requests for memory make memory calls. -/
def OnlyForMemory (first : UInt8) (calls calls' : List TargetCall) : Prop :=
  first ≠ 0x6d → first ≠ 0x4d → calls' = calls

theorem moves_recorded {α : Type} {call : TargetCall} (h : call.isMemory = false)
    (operation : StateM τ α) (first : UInt8) :
    Moves memoryCalls (OnlyForMemory first) (recorded call operation) :=
  fun s _ _ => keeps_recorded h operation s

theorem acts_recording : (recording target).Acts memoryCalls OnlyForMemory where
  refl _ _ _ _ := rfl
  readRegisters := moves_recorded rfl _ _
  writeRegisters _ := moves_recorded rfl _ _
  readMemory _ _ _ hread _ := absurd rfl hread
  writeMemory _ _ _ _ hwrite := absurd rfl hwrite
  cont _ _ := moves_recorded rfl _ _
  step _ _ := moves_recorded rfl _ _
  setSw _ _ := moves_recorded rfl _ _
  removeSw _ _ := moves_recorded rfl _ _
  setHw _ := moves_recorded rfl _ _
  removeHw _ := moves_recorded rfl _ _
  setWatch _ _ _ := moves_recorded rfl _ _
  removeWatch _ _ _ := moves_recorded rfl _ _
  stopReason := keeps_recorded rfl _
  threadIds := keeps_recorded rfl _
  currentThread := keeps_recorded rfl _
  setCurrentThread _ := keeps_recorded rfl _
  stoppedThread := keeps_recorded rfl _

/-- Requests that are not for memory make no memory call. -/
theorem keeps_dispatch {first : UInt8} (rest : Bytes) (hread : first ≠ 0x6d)
    (hwrite : first ≠ 0x4d) :
    Keeps memoryCalls (dispatch (recording target) limits (first :: rest)) :=
  fun s => moves_dispatch acts_recording first rest s hread hwrite

/-- A text behind `m` that asks for nothing is answered with an error, and the target is left
    alone. -/
theorem malformed_read_refused (target : RemoteTarget τ) (limits : ProtocolLimits) {rest : Bytes}
    (h : ∀ addr len, ¬ ReadsAs rest addr len) (t : τ) :
    dispatch target limits (0x6d :: rest) t = (.reply errorReply, t) := by
  cases hparse : parseAddrLen rest with
  | none =>
    rw [dispatch_read, handleReadMemory, hparse]
    rfl
  | some spec => exact absurd (parseAddrLen_eq_some hparse) (h spec.1 spec.2.toNat)

/-- So is a text behind `M` that brings nothing. -/
theorem malformed_write_refused (target : RemoteTarget τ) (limits : ProtocolLimits) {rest : Bytes}
    (h : ∀ addr data, ¬ WritesAs rest addr data) (t : τ) :
    dispatch target limits (0x4d :: rest) t = (.reply errorReply, t) := by
  rw [dispatch_write, handleWriteMemory]
  cases hparse : parseWrite rest with
  | none => rfl
  | some parts =>
    obtain ⟨addr, declaredLen, data⟩ := parts
    have hrefused : declaredLen.toNat ≠ data.length ∨ data.length > limits.maxMemoryTransfer := by
      refine .inl fun hlen => ?_
      exact h addr data (writesAs_of_parseWrite hparse hlen)
    simp only [if_pos hrefused]
    rfl

/-- What a request can do to the memory of the target. -/
inductive MemoryEffect (payload : Bytes) (s s' : τ × List TargetCall) : Prop
  | none (h : memoryCalls s' = memoryCalls s)
  | read {rest : Bytes} {addr : UInt64} {len : ℕ} (hpayload : payload = 0x6d :: rest)
      (htext : ReadsAs rest addr len) (hlog : s'.2 = s.2 ++ [.readMemory addr len])
  | write {rest : Bytes} {addr : UInt64} {data : Bytes} (hpayload : payload = 0x4d :: rest)
      (htext : WritesAs rest addr data) (hlog : s'.2 = s.2 ++ [.writeMemory addr data])

theorem memoryEffect_read (rest : Bytes) (s : τ × List TargetCall) :
    MemoryEffect (0x6d :: rest) s (dispatch (recording target) limits (0x6d :: rest) s).2 := by
  cases hparse : parseAddrLen rest with
  | none =>
    refine .none ?_
    rw [dispatch_read, handleReadMemory, hparse]
    rfl
  | some spec =>
    obtain ⟨addr, len⟩ := spec
    by_cases hle : len.toNat ≤ maxRead limits
    · refine .read rfl (parseAddrLen_eq_some hparse) ?_
      have hrun := handleReadMemory_run (recording target) hparse hle s
      rw [dispatch_read]
      simp only [replying, bind, StateT.bind, hrun]
      rfl
    · refine .none ?_
      simp only [dispatch_read, handleReadMemory, hparse, if_pos (not_le.mp hle)]
      rfl

theorem memoryEffect_write (rest : Bytes) (s : τ × List TargetCall) :
    MemoryEffect (0x4d :: rest) s (dispatch (recording target) limits (0x4d :: rest) s).2 := by
  cases hparse : parseWrite rest with
  | none =>
    refine .none ?_
    rw [dispatch_write, handleWriteMemory, hparse]
    rfl
  | some parts =>
    obtain ⟨addr, declaredLen, data⟩ := parts
    by_cases hadmits : declaredLen.toNat ≠ data.length ∨ data.length > limits.maxMemoryTransfer
    · refine .none ?_
      simp only [dispatch_write, handleWriteMemory, hparse, if_pos hadmits]
      rfl
    · obtain ⟨hlen, hle⟩ := not_or.mp hadmits
      rw [ne_eq, not_not] at hlen
      refine .write rfl (writesAs_of_parseWrite hparse hlen) ?_
      have hrun := handleWriteMemory_run (recording target) hparse hlen (not_lt.mp hle) s
      rw [dispatch_write]
      simp only [replying, bind, StateT.bind, hrun]
      rfl

theorem memoryEffect_dispatch (payload : Bytes) (s : τ × List TargetCall) :
    MemoryEffect payload s (dispatch (recording target) limits payload s).2 := by
  cases payload with
  | nil => exact .none rfl
  | cons first rest =>
    by_cases hread : first = 0x6d
    · exact hread ▸ memoryEffect_read rest s
    · by_cases hwrite : first = 0x4d
      · exact hwrite ▸ memoryEffect_write rest s
      · exact .none (keeps_dispatch rest hread hwrite s)

/-- CORRECT (memory requests): what the client admits is what the server serves, once; and only the
    text of a memory request makes a memory call. -/
theorem memory_requests_agree (target : RemoteTarget τ) (limits : ProtocolLimits) :
    (∀ addr len, ReadAdmitted limits addr len → ReadsAgree target limits addr len) ∧
    (∀ addr data, WriteAdmitted limits addr data → WritesAgree target limits addr data) ∧
    (∀ rest, (∀ addr len, ¬ ReadsAs rest addr len) →
      ∀ t log, dispatch (recording target) limits (0x6d :: rest) (t, log) =
        (.reply errorReply, (t, log))) ∧
    (∀ rest, (∀ addr data, ¬ WritesAs rest addr data) →
      ∀ t log, dispatch (recording target) limits (0x4d :: rest) (t, log) =
        (.reply errorReply, (t, log))) ∧
    ∀ payload s, MemoryEffect payload s (dispatch (recording target) limits payload s).2 :=
  ⟨fun _ _ => readsAgree, fun _ _ => writesAgree,
    fun _ h t log => malformed_read_refused (recording target) limits h (t, log),
    fun _ h t log => malformed_write_refused (recording target) limits h (t, log),
    memoryEffect_dispatch⟩

/-- A target whose state is its memory, from address zero on. -/
def shelf : RemoteTarget Bytes :=
  { inert with
    readMemory := fun addr len memory => (.ok ((memory.drop addr.toNat).take len), memory) }

theorem memory_requests_agree_shelf :
    ReadAdmitted .default 1 2 ∧
    GdbRemoteClient.readMemory .default (transact 0x1000 0x1000
      (dispatch (recording shelf) .default))
        1 2 ([7, 8, 9], []) = (.ok [8, 9], ([7, 8, 9], [.readMemory 1 2])) := by
  have hadmitted : ReadAdmitted .default 1 2 := ⟨by decide, by decide, by decide⟩
  exact ⟨hadmitted, ((memory_requests_agree shelf .default).1 1 2 hadmitted).returned [7, 8, 9] []⟩

end ReSymbol.GdbRemote
