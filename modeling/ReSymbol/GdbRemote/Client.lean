import ReSymbol.GdbRemote.Server

/-! The calls of the client.

    A call checks its limits, writes the text of a request, and reads the reply. The exchange of the
    two over the link is a function here: a packet that one party does not accept is lost, any other
    arrives. That the link delivers such packets exactly once, whatever the interleaving and the
    damages, is the subject of `ExactlyOnce`. -/

namespace ReSymbol.GdbRemote

/-! ### An exchange -/

/-- How a call fails: with an error of its own, with an `Exx` reply, with a reply that is not the
    `OK` it expected, or without a reply, at the end of the stream or at the deadline. -/
inductive ClientError where
  | io (error : IoError)
  | stub (reply : Bytes)
  | notOk (reply : Bytes)
  | lost
  deriving DecidableEq

variable {τ : Type}

/-- The reply on its way to the client. -/
def deliver (clientLimit serverLimit : ℕ) (reply : Bytes) : Except ClientError Bytes :=
  if serverLimit < reply.length ∨ clientLimit < reply.length then .error .lost else .ok reply

/-- What the client hears of a dispatched request. -/
def answered (clientLimit serverLimit : ℕ) : Disposition → Except ClientError Bytes
  | .reply reply => deliver clientLimit serverLimit reply
  | .detach reply => deliver clientLimit serverLimit reply
  | .kill => .error .lost

/-- A request and its reply. A server that refuses the packet does so at every resend. -/
def transact (clientLimit serverLimit : ℕ) (dispatch : Bytes → StateM τ Disposition)
    (payload : Bytes) : StateM τ (Except ClientError Bytes) :=
  if clientLimit < payload.length then pure (.error (.io requestTooLong))
  else if serverLimit < payload.length then pure (.error (.io requestRejected))
  else do pure (answered clientLimit serverLimit (← dispatch payload))

theorem transact_run {clientLimit serverLimit : ℕ} {dispatch : Bytes → StateM τ Disposition}
    {payload : Bytes} {t : τ} (hclient : payload.length ≤ clientLimit)
    (hserver : payload.length ≤ serverLimit) :
    transact clientLimit serverLimit dispatch payload t =
      (answered clientLimit serverLimit (dispatch payload t).1, (dispatch payload t).2) := by
  rw [transact, if_neg (not_lt.mpr hclient), if_neg (not_lt.mpr hserver)]
  rfl

theorem deliver_of_fits {clientLimit serverLimit : ℕ} {reply : Bytes}
    (hclient : reply.length ≤ clientLimit) (hserver : reply.length ≤ serverLimit) :
    deliver clientLimit serverLimit reply = .ok reply :=
  if_neg (by omega)

/-! ### Reading replies -/

/-- `u8::is_ascii_hexdigit`. -/
def IsHexDigit (byte : UInt8) : Prop :=
  (0x30 ≤ byte ∧ byte ≤ 0x39) ∨ (0x61 ≤ byte ∧ byte ≤ 0x66) ∨ (0x41 ≤ byte ∧ byte ≤ 0x46)

instance (byte : UInt8) : Decidable (IsHexDigit byte) :=
  inferInstanceAs (Decidable (_ ∨ _ ∨ _))

def isErrorReply : Bytes → Bool
  | [letter, hi, lo] => decide (letter = 0x45) && decide (IsHexDigit hi) && decide (IsHexDigit lo)
  | _ => false

def decodeHexReply (reply : Bytes) : Except ClientError Bytes :=
  if isErrorReply reply then .error (.stub reply)
  else match hexDecode reply with
    | some bytes => .ok bytes
    | none => .error (.io ⟨.invalidData, "reply was not valid hex"⟩)

def expectOk (reply : Bytes) : Except ClientError Unit :=
  if reply = okReply then .ok ()
  else if isErrorReply reply then .error (.stub reply)
  else .error (.notOk reply)

/-! ### Memory -/

/-- `m{addr:x},{len:x}` -/
def readText (addr : UInt64) (len : ℕ) : Bytes :=
  0x6d :: (lowerHex addr.toNat ++ comma :: lowerHex len)

/-- `M{addr:x},{:x}:` and the data. -/
def writeText (addr : UInt64) (data : Bytes) : Bytes :=
  0x4d :: ((lowerHex addr.toNat ++ comma :: lowerHex data.length) ++ colon :: hexEncode data)

/-- The bytes of a read of this length. -/
def decodeRead (len : ℕ) (reply : Bytes) : Except ClientError Bytes := do
  let bytes ← decodeHexReply reply
  if bytes.length ≠ len then
    .error (.io ⟨.invalidData, "remote returned a partial or oversized memory read"⟩)
  else .ok bytes

namespace GdbRemoteClient

variable (limits : ProtocolLimits) (call : Bytes → StateM τ (Except ClientError Bytes))

def readMemory (addr : UInt64) (len : ℕ) : StateM τ (Except ClientError Bytes) :=
  if len > limits.maxMemoryTransfer ∨ len > (limits.maxPacketPayload - 1) / 2 then
    pure (.error (.io ⟨.invalidInput, "memory read exceeds configured transfer limit"⟩))
  else do
    let reply ← call (readText addr len)
    pure (reply >>= decodeRead len)

def writeMemory (addr : UInt64) (data : Bytes) : StateM τ (Except ClientError Unit) :=
  if data.length > limits.maxMemoryTransfer then
    pure (.error (.io ⟨.invalidInput, "memory write exceeds configured transfer limit"⟩))
  else if (writeText addr data).length > limits.maxPacketPayload then
    pure (.error (.io ⟨.invalidInput, "encoded memory write exceeds configured packet limit"⟩))
  else do
    let reply ← call (writeText addr data)
    pure (reply >>= expectOk)

end GdbRemoteClient

/-- A target of one thread that refuses every operation. -/
def inert : RemoteTarget τ where
  targetDescription _ := none
  readRegisters := pure (.error (.register "no registers"))
  writeRegisters _ := pure (.error (.register "no registers"))
  readMemory _ _ := pure (.error (.memory "no memory"))
  writeMemory _ _ := pure (.error (.memory "no memory"))
  cont := pure (.error (.execution "not running"))
  step := pure (.error (.execution "not running"))
  setSwBreakpointWithKind _ _ := pure (.error (.breakpoint "not running"))
  removeSwBreakpointWithKind _ _ := pure (.error (.breakpoint "not running"))
  setHwBreakpoint _ := pure (.error (.unsupported "hardware breakpoints"))
  removeHwBreakpoint _ := pure (.error (.unsupported "hardware breakpoints"))
  setWatchpoint _ _ _ := pure (.error (.unsupported "hardware watchpoints"))
  removeWatchpoint _ _ _ := pure (.error (.unsupported "hardware watchpoints"))
  stopReason := pure (.signal 5)
  threadIds := pure (.ok [1])
  currentThread := pure (.ok 1)
  setCurrentThread _ := pure (.ok ())
  stoppedThread := pure none

end ReSymbol.GdbRemote
