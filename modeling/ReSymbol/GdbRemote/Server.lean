import ReSymbol.GdbRemote.Exchange

/-! The requests that the stub answers.

    The first byte of a packet selects the request. A request drives the target through the narrow
    interface of `RemoteTarget`; whatever it does not understand is answered with an error or with
    the empty packet.

        ?  g G  m M  c s  Z z  q  H T v  ──▶ reply
        D ──▶ reply, then stop      k ──▶ stop   -/

namespace ReSymbol.GdbRemote

/-! ### Texts -/

/-- The bytes of an ASCII text. -/
def ascii (text : String) : Bytes := text.toList.map fun c => UInt8.ofNat c.toNat

/-- `{:x}`. -/
def lowerHex (n : ℕ) : Bytes := (Nat.toDigits 16 n).map fun c => UInt8.ofNat c.toNat

def hexEncode (data : Bytes) : Bytes := data.flatMap hexByte

/-- A digit that is left over makes the text invalid, like a byte that is no digit. -/
def hexDecode : Bytes → Option Bytes
  | [] => some []
  | [_] => none
  | hi :: lo :: rest => do
    let hi ← fromHexDigit hi
    let lo ← fromHexDigit lo
    let bytes ← hexDecode rest
    some ((hi <<< 4 ||| lo) :: bytes)

/-- One more digit of a number. -/
def pushHexDigit (value : UInt64) (byte : UInt8) : Option UInt64 := do
  let digit ← fromHexDigit byte
  some (value <<< 4 ||| digit.toUInt64)

/-- Up to sixteen hex digits. -/
def parseHexU64 (data : Bytes) : Option UInt64 :=
  if data = [] ∨ data.length > 16 then none else data.foldlM pushHexDigit 0

/-- The parts in front of and behind the first occurrence of a separator. -/
def splitOnce (separator : UInt8) : Bytes → Option (Bytes × Bytes)
  | [] => none
  | byte :: rest =>
    if byte = separator then some ([], rest)
    else (splitOnce separator rest).map fun (front, back) => (byte :: front, back)

/-- `,` -/
def comma : UInt8 := 0x2c

/-- `:` -/
def colon : UInt8 := 0x3a

/-- `;` -/
def semicolon : UInt8 := 0x3b

/-- `.` -/
def dot : UInt8 := 0x2e

/-- Two numbers around a comma. -/
def parseAddrLen (bytes : Bytes) : Option (UInt64 × UInt64) := do
  let (front, back) ← splitOnce comma bytes
  let addr ← parseHexU64 front
  let len ← parseHexU64 back
  some (addr, len)

/-! ### Targets -/

/-- Limits are numbers of bytes, as `usize`. -/
structure ProtocolLimits where
  maxPacketPayload : ℕ
  maxMemoryTransfer : ℕ
  maxTargetDescription : ℕ
  packet_le : maxPacketPayload ≤ usizeMax
  transfer_le : maxMemoryTransfer ≤ usizeMax
  description_le : maxTargetDescription ≤ usizeMax

def ProtocolLimits.default : ProtocolLimits where
  maxPacketPayload := 0x1000
  maxMemoryTransfer := 0x1000 / 2
  maxTargetDescription := 256 * 1024
  packet_le := by decide
  transfer_le := by decide
  description_le := by decide

inductive StopReply where
  | signal (number : UInt8)
  | exited (code : UInt8)
  | terminated (number : UInt8)

inductive WatchKind where
  | write
  | read
  | access

inductive TargetError where
  | memory (message : String)
  | register (message : String)
  | execution (message : String)
  | breakpoint (message : String)
  | registers (message : String)
  | unavailable
  | unsupported (message : String)

/-- The metadata of a register file that the server reads. The document is a slice. -/
structure TargetDescription where
  xml : Bytes
  registerPacketBytes : ℕ
  xml_le : xml.length ≤ isizeMax

/-- The backend that the server drives. -/
structure RemoteTarget (τ : Type) where
  targetDescription : τ → Option TargetDescription
  readRegisters : StateM τ (Except TargetError Bytes)
  writeRegisters : Bytes → StateM τ (Except TargetError Unit)
  readMemory : UInt64 → ℕ → StateM τ (Except TargetError Bytes)
  writeMemory : UInt64 → Bytes → StateM τ (Except TargetError Unit)
  cont : StateM τ (Except TargetError StopReply)
  step : StateM τ (Except TargetError StopReply)
  setSwBreakpointWithKind : UInt64 → UInt64 → StateM τ (Except TargetError Unit)
  removeSwBreakpointWithKind : UInt64 → UInt64 → StateM τ (Except TargetError Unit)
  setHwBreakpoint : UInt64 → StateM τ (Except TargetError Unit)
  removeHwBreakpoint : UInt64 → StateM τ (Except TargetError Unit)
  setWatchpoint : UInt64 → UInt64 → WatchKind → StateM τ (Except TargetError Unit)
  removeWatchpoint : UInt64 → UInt64 → WatchKind → StateM τ (Except TargetError Unit)
  stopReason : StateM τ StopReply
  threadIds : StateM τ (Except TargetError (List UInt64))
  currentThread : StateM τ (Except TargetError UInt64)
  setCurrentThread : UInt64 → StateM τ (Except TargetError Unit)
  stoppedThread : StateM τ (Option UInt64)

/-! ### Replies -/

def okReply : Bytes := ascii "OK"

def emptyReply : Bytes := []

def errorReply : Bytes := ascii "E01"

/-- The reply to an operation without an answer. -/
def unitReply : Except TargetError Unit → Bytes
  | .ok () => okReply
  | .error _ => errorReply

def stopReplyPacket : StopReply → Bytes
  | .signal number => ascii "S" ++ hexByte number
  | .exited code => ascii "W" ++ hexByte code
  | .terminated number => ascii "X" ++ hexByte number

section Requests

variable {τ : Type} (target : RemoteTarget τ) (limits : ProtocolLimits)

/-- A stop by a signal names its thread when the target knows it. -/
def stopReplyFor (reply : StopReply) : StateM τ Bytes :=
  match reply with
  | .signal number => do
    match ← target.stoppedThread with
    | some thread =>
      pure (ascii "T" ++ hexByte number ++ ascii "thread:" ++ lowerHex thread.toNat ++ ascii ";")
    | none => pure (stopReplyPacket reply)
  | _ => pure (stopReplyPacket reply)

/-- The reply to an operation that resumes the target. -/
def resumeReply (outcome : Except TargetError StopReply) : StateM τ Bytes :=
  match outcome with
  | .ok reply => stopReplyFor target reply
  | .error _ => pure errorReply

/-! ### Registers and memory -/

def registerPacketIsValid (t : τ) (raw : Bytes) : Bool :=
  decide (raw.length ≤ limits.maxPacketPayload / 2) &&
    (target.targetDescription t).all fun description =>
      decide (raw.length = description.registerPacketBytes)

/-- The `g` packet. -/
def handleReadRegisters : StateM τ Bytes := do
  match ← target.readRegisters with
  | .ok bytes =>
    if registerPacketIsValid target limits (← get) bytes then pure (hexEncode bytes)
    else pure errorReply
  | .error _ => pure errorReply

/-- The `G` packet. -/
def handleWriteRegisters (rest : Bytes) : StateM τ Bytes := do
  match hexDecode rest with
  | some raw =>
    if registerPacketIsValid target limits (← get) raw then
      pure (unitReply (← target.writeRegisters raw))
    else pure errorReply
  | none => pure errorReply

def maxRead : ℕ := min limits.maxMemoryTransfer (limits.maxPacketPayload / 2)

/-- The reply to a read of so many bytes. -/
def readReply (len : ℕ) : Except TargetError Bytes → Bytes
  | .ok bytes => if bytes.length = len then hexEncode bytes else errorReply
  | .error _ => errorReply

/-- The `m` packet. -/
def handleReadMemory (rest : Bytes) : StateM τ Bytes :=
  match parseAddrLen rest with
  | none => pure errorReply
  | some (addr, len) =>
    if len.toNat > maxRead limits then pure errorReply
    else do pure (readReply len.toNat (← target.readMemory addr len.toNat))

/-- The parts of the text of a write request. -/
def parseWrite (rest : Bytes) : Option (UInt64 × UInt64 × Bytes) := do
  let (spec, data) ← splitOnce colon rest
  let (addr, declaredLen) ← parseAddrLen spec
  let bytes ← hexDecode data
  some (addr, declaredLen, bytes)

/-- The `M` packet. -/
def handleWriteMemory (rest : Bytes) : StateM τ Bytes :=
  match parseWrite rest with
  | none => pure errorReply
  | some (addr, declaredLen, bytes) =>
    if declaredLen.toNat ≠ bytes.length ∨ bytes.length > limits.maxMemoryTransfer then
      pure errorReply
    else do pure (unitReply (← target.writeMemory addr bytes))

/-! ### Breakpoints -/

/-- The address and the third field of a breakpoint request. Conditions and commands behind a
    semicolon are ignored. -/
def parseBreakpoint (afterType : Bytes) : Option (UInt64 × UInt64) := do
  let fields := if afterType.head? = some comma then afterType.tail else afterType
  let fields := ((splitOnce semicolon fields).map Prod.fst).getD fields
  let (addrBytes, thirdBytes) ← splitOnce comma fields
  let addr ← parseHexU64 addrBytes
  let third ← parseHexU64 thirdBytes
  some (addr, third)

def watchKindOf (bptype : UInt8) : WatchKind :=
  if bptype = 0x32 then .write else if bptype = 0x33 then .read else .access

/-- The `Z` and `z` packets. -/
def handleBreakpoint (rest : Bytes) (set : Bool) : StateM τ Bytes :=
  match rest with
  | [] => pure errorReply
  | bptype :: afterType =>
    match parseBreakpoint afterType with
    | none => pure errorReply
    | some (addr, third) =>
      -- the type is `0`, `1`, or one of `2`, `3` and `4`
      if bptype = 0x30 then do
        pure (unitReply (← if set then target.setSwBreakpointWithKind addr third
          else target.removeSwBreakpointWithKind addr third))
      else if bptype = 0x31 then do
        pure (unitReply (← if set then target.setHwBreakpoint addr
          else target.removeHwBreakpoint addr))
      else if bptype = 0x32 ∨ bptype = 0x33 ∨ bptype = 0x34 then do
        pure (unitReply (← if set then target.setWatchpoint addr third (watchKindOf bptype)
          else target.removeWatchpoint addr third (watchKindOf bptype)))
      else pure emptyReply

/-! ### Queries -/

/-- A chunk of a document, behind `m` when there is more of it and `l` when there is not. -/
def descriptionChunk (xml : Bytes) (offset requested : ℕ) : Bytes :=
  if offset > xml.length then errorReply
  else
    let maxChunk := limits.maxPacketPayload - 1
    let chunkLen := min (min requested maxChunk) (xml.length - offset)
    (if offset + chunkLen < xml.length then ascii "m" else ascii "l") ++
      (xml.drop offset).take chunkLen

/-- What stands behind `qXfer:features:read:`. -/
def handleTargetDescription (request : Bytes) (t : τ) : Bytes :=
  if (ascii "target.xml:").isPrefixOf request then
    match parseAddrLen (request.drop (ascii "target.xml:").length) with
    | none => errorReply
    | some (offset, requested) =>
      match target.targetDescription t with
      | none => emptyReply
      | some description =>
        descriptionChunk limits description.xml offset.toNat requested.toNat
  else emptyReply

/-- The thread list in one packet, when it fits. -/
def threadList (out : Bytes) : Bool → List UInt64 → Option Bytes
  | _, [] => some out
  | first, id :: ids =>
    let encoded := lowerHex id.toNat
    let separator := if first then [] else [comma]
    if out.length + separator.length + encoded.length > limits.maxPacketPayload then none
    else threadList (out ++ separator ++ encoded) false ids

/-- The `q` packets. -/
def handleQuery (rest : Bytes) : StateM τ Bytes := do
  if (ascii "Supported").isPrefixOf rest then
    let supported := ascii "PacketSize=" ++ lowerHex limits.maxPacketPayload ++ ascii ";swbreak+"
    if (target.targetDescription (← get)).isSome then
      pure (supported ++ ascii ";qXfer:features:read+")
    else pure supported
  else if (ascii "Xfer:features:read:").isPrefixOf rest then
    pure (handleTargetDescription target limits (rest.drop (ascii "Xfer:features:read:").length)
      (← get))
  else if (ascii "Attached").isPrefixOf rest then pure (ascii "1")
  else if rest = ascii "C" then
    match ← target.currentThread with
    | .ok tid => pure (ascii "QC" ++ lowerHex tid.toNat)
    | .error _ => pure (ascii "QC01")
  else if rest = ascii "fThreadInfo" then
    match ← target.threadIds with
    | .ok (id :: ids) =>
      pure ((threadList limits (ascii "m") true (id :: ids)).getD errorReply)
    | _ => pure (ascii "l")
  else if rest = ascii "sThreadInfo" then pure (ascii "l")
  else pure emptyReply

/-! ### Threads -/

/-- A thread id behind the last dot and an optional `p`; `-1` selects no thread. -/
def parseThreadId (bytes : Bytes) : Option UInt64 :=
  let tail := ((splitOnce dot bytes.reverse).map fun (back, _) => back.reverse).getD bytes
  let tail := if tail.head? = some 0x70 then tail.tail else tail
  if tail = ascii "-1" then none else parseHexU64 tail

/-- The `H` packet. -/
def handleSetThread (rest : Bytes) : StateM τ Bytes :=
  match rest with
  | [] => pure okReply
  | _ :: idBytes =>
    match parseThreadId idBytes with
    | none => pure okReply
    | some tid =>
      if tid = 0 then pure okReply else do pure (unitReply (← target.setCurrentThread tid))

/-- The `T` packet. -/
def handleIsThreadAlive (rest : Bytes) : StateM τ Bytes :=
  match parseThreadId rest with
  | none => pure errorReply
  | some tid => do
    match ← target.threadIds with
    | .ok ids => pure (if tid ∈ ids then okReply else errorReply)
    | .error _ => pure errorReply

/-- A thread behind the first action is selected before the action, whatever comes of it. -/
def selectActionThread (thread : Option UInt64) : StateM τ Unit :=
  match thread with
  | none => pure ()
  | some tid => do
    let _ ← target.setCurrentThread tid
    pure ()

/-- The `v` packets. -/
def handleVPacket (rest : Bytes) : StateM τ Bytes :=
  if rest = ascii "Cont?" then pure (ascii "vCont;c;s")
  else if (ascii "Cont;").isPrefixOf rest then do
    let actions := rest.drop (ascii "Cont;").length
    let firstAction := ((splitOnce semicolon actions).map Prod.fst).getD actions
    selectActionThread target ((splitOnce colon firstAction).bind fun (_, id) => parseThreadId id)
    match firstAction.head? with
    | none => pure emptyReply
    | some letter =>
      if letter = 0x63 ∨ letter = 0x43 then resumeReply target (← target.cont)
      else if letter = 0x73 ∨ letter = 0x53 then resumeReply target (← target.step)
      else pure emptyReply
  else pure emptyReply

/-! ### Dispatch -/

/-- Answer the reply of a request. -/
def replying (request : StateM τ Bytes) : StateM τ Disposition := do
  pure (.reply (← request))

/-- One request, by its first letter. -/
def dispatch (payload : Bytes) : StateM τ Disposition :=
  match payload with
  | [] => pure (.reply emptyReply)
  | first :: rest =>
    if first = 0x3f then replying do stopReplyFor target (← target.stopReason)
    else if first = 0x67 then replying (handleReadRegisters target limits)
    else if first = 0x47 then replying (handleWriteRegisters target limits rest)
    else if first = 0x6d then replying (handleReadMemory target limits rest)
    else if first = 0x4d then replying (handleWriteMemory target limits rest)
    else if first = 0x63 then replying do resumeReply target (← target.cont)
    else if first = 0x73 then replying do resumeReply target (← target.step)
    else if first = 0x5a then replying (handleBreakpoint target rest true)
    else if first = 0x7a then replying (handleBreakpoint target rest false)
    else if first = 0x71 then replying (handleQuery target limits rest)
    else if first = 0x48 then replying (handleSetThread target rest)
    else if first = 0x54 then replying (handleIsThreadAlive target rest)
    else if first = 0x76 then replying (handleVPacket target rest)
    else if first = 0x44 then pure (.detach okReply)
    else if first = 0x6b then pure .kill
    else pure (.reply emptyReply)

end Requests

/-! ### Numbers in texts -/

/-- One more digit of a number, without a bound. -/
def pushHexNat (value : ℕ) (byte : UInt8) : Option ℕ :=
  (fromHexDigit byte).map fun digit => 16 * value + digit.toNat

theorem fromHexDigit_lt {byte digit : UInt8} (h : fromHexDigit byte = some digit) :
    digit.toNat < 16 := by
  have hall : ∀ byte : UInt8, (fromHexDigit byte).all fun digit => decide (digit.toNat < 16) := by
    rintro ⟨byte⟩
    revert byte
    decide +kernel
  simpa [h] using hall byte

/-- A shift by a digit and the digit in its place. -/
theorem shiftLeft_or_digit (value : ℕ) {digit : UInt8} (h : digit.toNat < 16) :
    UInt64.ofNat value <<< 4 ||| digit.toUInt64 = UInt64.ofNat (16 * value + digit.toNat) := by
  apply UInt64.toNat_inj.mp
  have hshift : (UInt64.ofNat value <<< 4).toNat = (value % 2 ^ 60) <<< 4 := by
    have hfour : (4 : UInt64).toNat % 64 = 4 := by decide
    rw [UInt64.toNat_shiftLeft, UInt64.toNat_ofNat', hfour, Nat.shiftLeft_eq, Nat.shiftLeft_eq]
    omega
  rw [UInt64.toNat_or, hshift, UInt8.toNat_toUInt64, UInt64.toNat_ofNat',
    ← Nat.shiftLeft_add_eq_or_of_lt (by omega), Nat.shiftLeft_eq]
  omega

theorem pushHexDigit_ofNat (value : ℕ) (byte : UInt8) :
    pushHexDigit (UInt64.ofNat value) byte = (pushHexNat value byte).map UInt64.ofNat := by
  unfold pushHexDigit pushHexNat
  cases hdigit : fromHexDigit byte with
  | none => rfl
  | some digit => simp [shiftLeft_or_digit value (fromHexDigit_lt hdigit)]

theorem foldlM_pushHexDigit (data : Bytes) (value : ℕ) :
    data.foldlM pushHexDigit (UInt64.ofNat value) =
      (data.foldlM pushHexNat value).map UInt64.ofNat := by
  induction data generalizing value with
  | nil => rfl
  | cons byte data ih =>
    rw [List.foldlM_cons, List.foldlM_cons, pushHexDigit_ofNat]
    cases pushHexNat value byte with
    | none => rfl
    | some next => exact ih next

theorem ofNat_digitChar {d : ℕ} (h : d < 16) :
    UInt8.ofNat (Nat.digitChar d).toNat = hexDigit (UInt8.ofNat d) := by
  interval_cases d <;> decide

theorem fromHexDigit_hexDigit {d : ℕ} (h : d < 16) :
    fromHexDigit (hexDigit (UInt8.ofNat d)) = some (UInt8.ofNat d) := by
  interval_cases d <;> decide

/-- The last digit comes off the end. -/
theorem lowerHex_eq (n : ℕ) : lowerHex n =
    (if n < 16 then [] else lowerHex (n / 16)) ++ [hexDigit (UInt8.ofNat (n % 16))] := by
  unfold lowerHex
  rw [Nat.toDigits_eq_if (by decide)]
  by_cases h : n < 16
  · rw [if_pos h, if_pos h, Nat.mod_eq_of_lt h, List.map_singleton, ofNat_digitChar h]
    rfl
  · rw [if_neg h, if_neg h, List.map_append, List.map_singleton,
      ofNat_digitChar (Nat.mod_lt n (by decide))]

theorem foldlM_lowerHex (n : ℕ) : (lowerHex n).foldlM pushHexNat 0 = some n := by
  induction n using Nat.strongRecOn with
  | ind n ih =>
    have hdigit := fromHexDigit_hexDigit (Nat.mod_lt n (by decide : 16 > 0))
    have hmod : (UInt8.ofNat (n % 16)).toNat = n % 16 := by
      rw [UInt8.toNat_ofNat']
      omega
    rw [lowerHex_eq]
    by_cases h : n < 16
    · simp only [if_pos h, List.nil_append, List.foldlM_cons, List.foldlM_nil, pushHexNat, hdigit,
        Option.map_some, hmod, Option.bind_eq_bind, Option.bind_some, Option.pure_def,
        Option.some.injEq]
      omega
    · simp only [if_neg h, List.foldlM_append, ih (n / 16) (by omega), Option.bind_eq_bind,
        Option.bind_some, List.foldlM_cons, List.foldlM_nil, pushHexNat, hdigit, Option.map_some,
        hmod, Option.pure_def, Option.some.injEq]
      omega

theorem length_lowerHex_pos (n : ℕ) : 0 < (lowerHex n).length := by
  rw [lowerHex_eq, List.length_append, List.length_singleton]
  omega

theorem length_lowerHex_le {n k : ℕ} (hk : 0 < k) (h : n < 16 ^ k) : (lowerHex n).length ≤ k := by
  induction k generalizing n with
  | zero => omega
  | succ k ih =>
    rw [lowerHex_eq, List.length_append, List.length_singleton]
    by_cases hn : n < 16
    · rw [if_pos hn, List.length_nil]
      omega
    · rw [if_neg hn]
      have hpos : 0 < k := by
        rcases k with _ | k
        · simp at h
          omega
        · omega
      have hrest : n / 16 < 16 ^ k := by
        rw [pow_succ] at h
        omega
      have := ih hpos hrest
      omega

theorem mem_lowerHex {n : ℕ} {byte : UInt8} (h : byte ∈ lowerHex n) :
    ∃ d < 16, byte = hexDigit (UInt8.ofNat d) := by
  induction n using Nat.strongRecOn with
  | ind n ih =>
    rw [lowerHex_eq, List.mem_append, List.mem_singleton] at h
    rcases h with h | rfl
    · by_cases hn : n < 16
      · simp [if_pos hn] at h
      · rw [if_neg hn] at h
        exact ih (n / 16) (by omega) h
    · exact ⟨n % 16, Nat.mod_lt n (by decide), rfl⟩

theorem separator_not_mem_lowerHex {separator : UInt8} (h : separator = comma ∨ separator = colon)
    (n : ℕ) : separator ∉ lowerHex n := by
  intro hmem
  obtain ⟨d, hd, hdigit⟩ := mem_lowerHex hmem
  rcases h with rfl | rfl <;> interval_cases d <;> exact absurd hdigit (by decide)

theorem parseHexU64_lowerHex {n : ℕ} (h : n < 2 ^ 64) :
    parseHexU64 (lowerHex n) = some (UInt64.ofNat n) := by
  have hpos := length_lowerHex_pos n
  have hlength : (lowerHex n).length ≤ 16 := length_lowerHex_le (by omega) (by omega)
  have hne : ¬ (lowerHex n = [] ∨ (lowerHex n).length > 16) := by
    rintro (hnil | hlong)
    · simp [hnil] at hpos
    · omega
  rw [parseHexU64, if_neg hne, show (0 : UInt64) = UInt64.ofNat 0 from rfl, foldlM_pushHexDigit,
    foldlM_lowerHex, Option.map_some]

/-! ### Bytes in texts -/

theorem length_hexEncode (data : Bytes) : (hexEncode data).length = 2 * data.length := by
  induction data with
  | nil => rfl
  | cons byte data ih =>
    have hbyte : (hexByte byte).length = 2 := rfl
    rw [hexEncode, List.flatMap_cons, List.length_append, ← hexEncode, ih, hbyte, List.length_cons]
    omega

theorem hexDecode_hexEncode (data : Bytes) : hexDecode (hexEncode data) = some data := by
  induction data with
  | nil => rfl
  | cons byte data ih =>
    show hexDecode (hexDigit (byte >>> 4) :: hexDigit (byte &&& 0x0f) :: hexEncode data) = _
    simp [hexDecode, fromHexDigit_high, fromHexDigit_low, ih, nibbles_eq]

/-! ### Separators -/

theorem splitOnce_append {separator : UInt8} {front back : Bytes} (h : separator ∉ front) :
    splitOnce separator (front ++ separator :: back) = some (front, back) := by
  induction front with
  | nil => simp [splitOnce]
  | cons byte front ih =>
    obtain ⟨hbyte, hfront⟩ := not_or.mp (List.mem_cons.not.mp h)
    rw [List.cons_append, splitOnce, if_neg (Ne.symm hbyte), ih hfront]
    rfl

theorem eq_append_of_splitOnce {separator : UInt8} {bytes front back : Bytes}
    (h : splitOnce separator bytes = some (front, back)) : bytes = front ++ separator :: back := by
  induction bytes generalizing front with
  | nil => simp [splitOnce] at h
  | cons byte bytes ih =>
    by_cases hbyte : byte = separator
    · simp only [splitOnce, if_pos hbyte, Option.some.injEq, Prod.mk.injEq] at h
      obtain ⟨rfl, rfl⟩ := h
      rw [hbyte, List.nil_append]
    · simp only [splitOnce, if_neg hbyte, Option.map_eq_some_iff, Prod.exists, Prod.mk.injEq] at h
      obtain ⟨front', back', hsplit, rfl, rfl⟩ := h
      rw [ih hsplit, List.cons_append]

theorem parseAddrLen_lowerHex {addr len : ℕ} (haddr : addr < 2 ^ 64) (hlen : len < 2 ^ 64) :
    parseAddrLen (lowerHex addr ++ comma :: lowerHex len) =
      some (UInt64.ofNat addr, UInt64.ofNat len) := by
  have hcomma : comma ∉ lowerHex addr := separator_not_mem_lowerHex (.inl rfl) addr
  simp [parseAddrLen, splitOnce_append hcomma, parseHexU64_lowerHex haddr,
    parseHexU64_lowerHex hlen]

end ReSymbol.GdbRemote
