import ReSymbol.Schemes.Streams
import Mathlib.Tactic

/-! The framing of the GDB remote serial protocol.

    A packet is `$`, the payload with its special bytes escaped, `#` and two hex digits of the sum
    of the transmitted bytes. The reader takes one byte at a time.

            $            #             digit            digit
        idle ──▶ body ──▶ checksum1 ──▶ checksum2 ──▶ idle, a packet
         ↺ + - ^C  ↺ any

    Every stream of packets, acknowledgements, interrupts and other bytes is read back as what was
    sent, and every packet that is accepted from any stream whatever was framed by its checksum. -/

namespace ReSymbol.GdbRemote
open Schemes

def usizeMax : ℕ := 2 ^ 64 - 1

/-- The length of the longest slice. -/
def isizeMax : ℕ := 2 ^ 63 - 1

/-! ### Packets -/

/-- `$` -/
def packetStart : UInt8 := 0x24

/-- `#` -/
def packetEnd : UInt8 := 0x23

/-- `+` -/
def ackByte : UInt8 := 0x2b

/-- `-` -/
def nackByte : UInt8 := 0x2d

/-- Ctrl-C -/
def interruptByte : UInt8 := 0x03

/-- `}` -/
def escapeByte : UInt8 := 0x7d

def escapeMask : UInt8 := 0x20

/-- `*` -/
def rleMarker : UInt8 := 0x2a

def rleBias : UInt8 := 29

/-- The lowercase digit of a nibble. -/
def hexDigit (nibble : UInt8) : UInt8 :=
  if nibble ≤ 9 then 0x30 + nibble else 0x61 + (nibble - 10)

/-- The two digits of a byte, high nibble first. -/
def hexByte (byte : UInt8) : List UInt8 := [hexDigit (byte >>> 4), hexDigit (byte &&& 0x0f)]

def fromHexDigit (byte : UInt8) : Option UInt8 :=
  if 0x30 ≤ byte ∧ byte ≤ 0x39 then some (byte - 0x30)
  else if 0x61 ≤ byte ∧ byte ≤ 0x66 then some (byte - 0x61 + 10)
  else if 0x41 ≤ byte ∧ byte ≤ 0x46 then some (byte - 0x41 + 10)
  else none

/-- The sum of the transmitted bytes. -/
def checksum (body : List UInt8) : UInt8 := body.foldl (· + ·) 0

def Special (byte : UInt8) : Prop :=
  byte = packetEnd ∨ byte = packetStart ∨ byte = escapeByte ∨ byte = rleMarker

instance (byte : UInt8) : Decidable (Special byte) := by
  unfold Special; infer_instance

/-- Append one byte of the payload to the packet and its checksum. -/
def encodeByte (acc : List UInt8 × UInt8) (byte : UInt8) : List UInt8 × UInt8 :=
  if Special byte then
    (acc.1 ++ [escapeByte] ++ [byte ^^^ escapeMask],
      acc.2 + escapeByte + (byte ^^^ escapeMask))
  else (acc.1 ++ [byte], acc.2 + byte)

/-- The complete packet of a payload. -/
def encodePacket (payload : List UInt8) : List UInt8 :=
  let acc := payload.foldl encodeByte ([packetStart], 0)
  acc.1 ++ [packetEnd] ++ hexByte acc.2

/-- Decode what is left of a body after the bytes decoded so far. A run whose length overflows is
    beyond the limit as well. -/
def decodeFrom (maxPayload : ℕ) (out : List UInt8) : List UInt8 → Option (List UInt8)
  | [] => some out
  | byte :: rest =>
    if byte = escapeByte then
      match rest with
      | [] => none
      | escaped :: rest =>
        if out.length = maxPayload then none
        else decodeFrom maxPayload (out ++ [escaped ^^^ escapeMask]) rest
    else if byte = rleMarker then
      match rest with
      | [] => none
      | countByte :: rest =>
        if countByte < rleBias then none
        else match out.getLast? with
          | none => none
          | some previous =>
            let additional := (countByte - rleBias).toNat
            if maxPayload < out.length + additional then none
            else decodeFrom maxPayload (out ++ List.replicate additional previous) rest
    else if out.length = maxPayload then none
    else decodeFrom maxPayload (out ++ [byte]) rest

/-- Reverse the escaping and expand the runs of a body, within a limit. -/
def decodeBodyWithLimit (body : List UInt8) (maxPayload : ℕ) : Option (List UInt8) :=
  decodeFrom maxPayload [] body

/-! ### The reader -/

inductive PacketEvent where
  | ack
  | nack
  | interrupt
  | packet (payload : List UInt8) (checksumOk : Bool)

inductive ReaderState where
  | idle
  | body
  | checksum1
  | checksum2

structure PacketReader where
  state : ReaderState
  body : List UInt8
  runningChecksum : UInt8
  expectedChecksum : UInt8
  maxPayload : ℕ
  maxTransmittedBody : ℕ
  bodyOverflowed : Bool

namespace PacketReader

def withMaxPayload (maxPayload : ℕ) : PacketReader :=
  { state := .idle
    body := []
    runningChecksum := 0
    expectedChecksum := 0
    maxPayload
    maxTransmittedBody := min (maxPayload * 2) usizeMax
    bodyOverflowed := false }

/-- A frame that was not understood. -/
def badPacket : PacketEvent := .packet [] false

def pushIdle (r : PacketReader) (byte : UInt8) : Option PacketEvent × PacketReader :=
  if byte = packetStart then
    (none, { r with body := [], runningChecksum := 0, bodyOverflowed := false, state := .body })
  else if byte = ackByte then (some .ack, r)
  else if byte = nackByte then (some .nack, r)
  else if byte = interruptByte then (some .interrupt, r)
  else (none, r)

def pushBody (r : PacketReader) (byte : UInt8) : Option PacketEvent × PacketReader :=
  if byte = packetEnd then (none, { r with state := .checksum1 })
  else
    let r := { r with runningChecksum := r.runningChecksum + byte }
    if r.body.length < r.maxTransmittedBody then (none, { r with body := r.body ++ [byte] })
    else (none, { r with bodyOverflowed := true })

def pushChecksum1 (r : PacketReader) (byte : UInt8) : Option PacketEvent × PacketReader :=
  match fromHexDigit byte with
  | some value => (none, { r with expectedChecksum := value <<< 4, state := .checksum2 })
  | none => (some badPacket, { r with state := .idle })

def pushChecksum2 (r : PacketReader) (byte : UInt8) : Option PacketEvent × PacketReader :=
  let r := { r with state := .idle }
  match fromHexDigit byte with
  | none => (some badPacket, r)
  | some low =>
    let r := { r with expectedChecksum := r.expectedChecksum ||| low }
    if r.expectedChecksum ≠ r.runningChecksum ∨ r.bodyOverflowed then (some badPacket, r)
    else match decodeBodyWithLimit r.body r.maxPayload with
      | some payload => (some (.packet payload true), r)
      | none => (some badPacket, r)

/-- Consume one received byte. -/
def push (r : PacketReader) (byte : UInt8) : Option PacketEvent × PacketReader :=
  match r.state with
  | .idle => r.pushIdle byte
  | .body => r.pushBody byte
  | .checksum1 => r.pushChecksum1 byte
  | .checksum2 => r.pushChecksum2 byte

end PacketReader

/-! ### The escaped body -/

/-- How one byte of the payload is transmitted. -/
def escape (byte : UInt8) : List UInt8 :=
  if Special byte then [escapeByte, byte ^^^ escapeMask] else [byte]

theorem checksum_append (xs ys : List UInt8) :
    checksum (xs ++ ys) = ys.foldl (· + ·) (checksum xs) := List.foldl_append

theorem foldl_encodeByte (payload : List UInt8) (out body : List UInt8) :
    payload.foldl encodeByte (out ++ body, checksum body) =
      (out ++ (body ++ payload.flatMap escape), checksum (body ++ payload.flatMap escape)) := by
  induction payload generalizing body with
  | nil => simp
  | cons byte rest ih =>
    have hbyte : encodeByte (out ++ body, checksum body) byte =
        (out ++ (body ++ escape byte), checksum (body ++ escape byte)) := by
      unfold encodeByte escape
      split_ifs <;> simp [checksum_append]
    rw [List.foldl_cons, hbyte, ih, List.flatMap_cons, List.append_assoc body]

/-- A packet is its escaped payload between the delimiters. -/
theorem encodePacket_eq (payload : List UInt8) :
    encodePacket payload = packetStart :: (payload.flatMap escape ++
      packetEnd :: hexByte (checksum (payload.flatMap escape))) := by
  have h : payload.foldl encodeByte ([packetStart], 0) =
      ([packetStart] ++ payload.flatMap escape, checksum (payload.flatMap escape)) :=
    foldl_encodeByte payload [packetStart] []
  simp [encodePacket, h]

theorem packetEnd_not_mem_escape (byte : UInt8) : packetEnd ∉ escape byte := by
  unfold escape
  split_ifs with h
  · rcases h with rfl | rfl | rfl | rfl <;> decide
  · intro hmem
    exact h (.inl (List.mem_singleton.mp hmem).symm)

theorem length_escape_le (byte : UInt8) : (escape byte).length ≤ 2 := by
  unfold escape
  split_ifs <;> simp

theorem length_escaped_le (payload : List UInt8) :
    (payload.flatMap escape).length ≤ payload.length * 2 := by
  induction payload with
  | nil => simp
  | cons byte rest ih =>
    have := length_escape_le byte
    simp only [List.flatMap_cons, List.length_append, List.length_cons]
    omega

/-- Decoding takes one byte of the payload off the escaped body. -/
theorem decodeFrom_escape {maxPayload : ℕ} {out : List UInt8} (hroom : out.length < maxPayload)
    (byte : UInt8) (rest : List UInt8) :
    decodeFrom maxPayload out (escape byte ++ rest) = decodeFrom maxPayload
      (out ++ [byte]) rest := by
  have hroom' : out.length ≠ maxPayload := hroom.ne
  unfold escape
  split_ifs with h
  · have hback : byte ^^^ escapeMask ^^^ escapeMask = byte := by
      rw [UInt8.xor_assoc, UInt8.xor_self, UInt8.xor_zero]
    rw [List.cons_append, decodeFrom.eq_def]
    simp [hroom', hback]
  · have hescape : byte ≠ escapeByte := fun heq => h (.inr (.inr (.inl heq)))
    have hrle : byte ≠ rleMarker := fun heq => h (.inr (.inr (.inr heq)))
    rw [List.singleton_append, decodeFrom.eq_def]
    simp [hroom', hescape, hrle]

theorem decodeFrom_escaped {maxPayload : ℕ} (payload : List UInt8) {out : List UInt8}
    (hroom : out.length + payload.length ≤ maxPayload) :
    decodeFrom maxPayload out (payload.flatMap escape) = some (out ++ payload) := by
  induction payload generalizing out with
  | nil => simp [decodeFrom]
  | cons byte rest ih =>
    simp only [List.length_cons] at hroom
    rw [List.flatMap_cons, decodeFrom_escape (by omega), ih (by simp; omega)]
    simp

theorem decodeBodyWithLimit_escaped {payload : List UInt8} {maxPayload : ℕ}
    (h : payload.length ≤ maxPayload) :
    decodeBodyWithLimit (payload.flatMap escape) maxPayload = some payload := by
  rw [decodeBodyWithLimit, decodeFrom_escaped payload (by simpa using h), List.nil_append]

theorem packetEnd_not_mem_escaped (payload : List UInt8) : packetEnd ∉ payload.flatMap escape := by
  intro hmem
  obtain ⟨byte, -, hbyte⟩ := List.mem_flatMap.mp hmem
  exact packetEnd_not_mem_escape byte hbyte

theorem length_decodeFrom_le {maxPayload : ℕ} {body out payload : List UInt8}
    (hout : out.length ≤ maxPayload) (h : decodeFrom maxPayload out body = some payload) :
    payload.length ≤ maxPayload := by
  fun_induction decodeFrom maxPayload out body with
  | case1 out => simpa [← Option.some.inj h] using hout
  | case4 out escaped rest hroom ih => exact ih (by simp; omega) h
  | case9 out countByte rest _ _ previous _ additional hlimit ih =>
    exact ih (by simp; omega) h
  | case11 out byte rest _ _ hroom ih => exact ih (by simp; omega) h
  | _ => simp at h

/-! ### Digits -/

theorem fromHexDigit_high : ∀ byte : UInt8,
    fromHexDigit (hexDigit (byte >>> 4)) = some (byte >>> 4) := by
  rintro ⟨byte⟩
  revert byte
  decide +kernel

theorem fromHexDigit_low : ∀ byte : UInt8,
    fromHexDigit (hexDigit (byte &&& 0x0f)) = some (byte &&& 0x0f) := by
  rintro ⟨byte⟩
  revert byte
  decide +kernel

theorem nibbles_eq : ∀ byte : UInt8, (byte >>> 4) <<< 4 ||| (byte &&& 0x0f) = byte := by
  rintro ⟨byte⟩
  revert byte
  decide +kernel

/-! ### Reading a packet -/

namespace PacketReader

/-- A reader that waits for the next item. -/
structure Waits (maxPayload : ℕ) (r : PacketReader) : Prop where
  idle : r.state = .idle
  limit : r.maxPayload = maxPayload
  transmitted : r.maxTransmittedBody = min (maxPayload * 2) usizeMax

/-- The reader within a body of which these bytes were received. -/
def inBody (r : PacketReader) (received : List UInt8) : PacketReader :=
  { r with
    state := .body
    body := received
    runningChecksum := checksum received
    bodyOverflowed := false }

theorem push_packetStart {r : PacketReader} (h : r.state = .idle) :
    r.push packetStart = (none, r.inBody []) := by
  simp [push, h, pushIdle, inBody, checksum]

theorem push_inBody (r : PacketReader) {received : List UInt8} {byte : UInt8}
    (hbyte : byte ≠ packetEnd) (hroom : received.length < r.maxTransmittedBody) :
    (r.inBody received).push byte = (none, r.inBody (received ++ [byte])) := by
  simp [push, pushBody, inBody, hbyte, hroom, checksum_append]

theorem feed_inBody (r : PacketReader) (bytes : List UInt8) {received : List UInt8}
    (hend : packetEnd ∉ bytes) (hroom : received.length + bytes.length ≤ r.maxTransmittedBody) :
    feed push (r.inBody received) bytes = ([], r.inBody (received ++ bytes)) := by
  induction bytes generalizing received with
  | nil => simp
  | cons byte rest ih =>
    simp only [List.mem_cons, not_or, List.length_cons] at hend hroom
    rw [feed_cons_silent (push_inBody r (Ne.symm hend.1) (by omega)),
      ih hend.2 (by simp; omega), List.append_assoc, List.singleton_append]

/-- What is reported of a complete frame. -/
def frameEvent (maxPayload : ℕ) (body : List UInt8) (sum : UInt8) : PacketEvent :=
  if sum = checksum body then
    match decodeBodyWithLimit body maxPayload with
    | some payload => .packet payload true
    | none => badPacket
  else badPacket

/-- Nothing is reported before the last byte of a frame. -/
theorem feed_frame {maxPayload : ℕ} {r : PacketReader} (h : r.Waits maxPayload)
    {body : List UInt8} (hend : packetEnd ∉ body)
    (hroom : body.length ≤ min (maxPayload * 2) usizeMax) (sum : UInt8) :
    ∃ r₁ r₂, feed push r (packetStart :: (body ++ [packetEnd, hexDigit (sum >>> 4)])) = ([], r₁) ∧
      r₁.push (hexDigit (sum &&& 0x0f)) = (some (frameEvent maxPayload body sum), r₂) ∧
      r₂.Waits maxPayload := by
  let r₀ : PacketReader := { r.inBody body with state := .checksum1 }
  let r₁ : PacketReader := { r₀ with expectedChecksum := (sum >>> 4) <<< 4, state := .checksum2 }
  have hbody : feed push (r.inBody []) body = ([], r.inBody body) :=
    feed_inBody r body hend (by simpa [h.transmitted] using hroom)
  have hdelimiter : (r.inBody body).push packetEnd = (none, r₀) := by
    simp [push, pushBody, inBody, r₀]
  have hhigh : r₀.push (hexDigit (sum >>> 4)) = (none, r₁) := by
    simp [push, pushChecksum1, r₀, r₁, fromHexDigit_high]
  refine ⟨r₁, { r₁ with expectedChecksum := sum, state := .idle }, ?_, ?_,
    ⟨rfl, h.limit, h.transmitted⟩⟩
  · rw [feed_cons_silent (push_packetStart h.idle), feed_append_silent hbody,
      feed_cons_silent hdelimiter, feed_cons_silent hhigh, feed_nil]
  · have hlow : r₁.push (hexDigit (sum &&& 0x0f)) = r₁.pushChecksum2
      (hexDigit (sum &&& 0x0f)) := rfl
    have hsum : r₁.expectedChecksum ||| (sum &&& 0x0f) = sum := nibbles_eq sum
    have hrunning : r₁.runningChecksum = checksum body := rfl
    have hover : r₁.bodyOverflowed = false := rfl
    have hreceived : r₁.body = body := rfl
    have hlimit : r₁.maxPayload = maxPayload := h.limit
    rw [hlow, pushChecksum2, fromHexDigit_low, frameEvent]
    by_cases hmatch : sum = checksum body
    · subst hmatch
      rcases hdecode : decodeBodyWithLimit body maxPayload with _ | payload <;>
        simp [hsum, hrunning, hover, hreceived, hlimit, hdecode]
    · simp [hsum, hrunning, hmatch]

end PacketReader

/-! ### Streams of items -/

/-- What is sent over the wire: packets, single bytes and other bytes between them. -/
inductive Item where
  | packet (payload : List UInt8)
  | ack
  | nack
  | interrupt
  | other (bytes : List UInt8)

namespace Item

def bytes : Item → List UInt8
  | .packet payload => encodePacket payload
  | .ack => [ackByte]
  | .nack => [nackByte]
  | .interrupt => [interruptByte]
  | .other bytes => bytes

/-- What is to be read of an item. -/
def events : Item → List PacketEvent
  | .packet payload => [.packet payload true]
  | .ack => [.ack]
  | .nack => [.nack]
  | .interrupt => [.interrupt]
  | .other _ => []

/-- A payload within the limit, which no slice exceeds, and bytes that mean nothing between
    packets. -/
def Fits (maxPayload : ℕ) : Item → Prop
  | .packet payload => payload.length ≤ maxPayload ∧ payload.length ≤ isizeMax
  | .other bytes => packetStart ∉ bytes ∧ ackByte ∉ bytes ∧ nackByte ∉ bytes ∧ interruptByte ∉ bytes
  | _ => True

end Item

namespace PacketReader

theorem feed_other {maxPayload : ℕ} {r : PacketReader} (h : r.Waits maxPayload) (bytes : List UInt8)
    (hbytes : (Item.other bytes).Fits maxPayload) : feed push r bytes = ([], r) := by
  induction bytes with
  | nil => rfl
  | cons byte rest ih =>
    simp only [Item.Fits, List.mem_cons, not_or] at hbytes ih
    obtain ⟨⟨hstart, hstart'⟩, ⟨hack, hack'⟩, ⟨hnack, hnack'⟩, hinterrupt, hinterrupt'⟩ := hbytes
    have hpush : r.push byte = (none, r) := by
      simp [push, h.idle, pushIdle, Ne.symm hstart, Ne.symm hack, Ne.symm hnack,
        Ne.symm hinterrupt]
    rw [feed_cons_silent hpush]
    exact ih ⟨hstart', hack', hnack', hinterrupt'⟩

/-- The escaped payload never exceeds what the reader retains. -/
theorem escaped_fits {maxPayload : ℕ} {payload : List UInt8}
    (h : (Item.packet payload).Fits maxPayload) :
    (payload.flatMap escape).length ≤ min (maxPayload * 2) usizeMax := by
  have hlength := length_escaped_le payload
  obtain ⟨hlimit, hslice⟩ := h
  simp only [isizeMax, usizeMax] at hslice ⊢
  omega

theorem feed_packet {maxPayload : ℕ} {payload : List UInt8}
    (h : (Item.packet payload).Fits maxPayload) :
    ∃ init last, encodePacket payload = init ++ [last] ∧ ∀ r : PacketReader, r.Waits maxPayload →
      ∃ r₁ r₂, feed push r init = ([], r₁) ∧ r₁.push last = (some (.packet payload true), r₂) ∧
        r₂.Waits maxPayload := by
  let sum := checksum (payload.flatMap escape)
  refine ⟨packetStart :: (payload.flatMap escape ++ [packetEnd, hexDigit (sum >>> 4)]),
    hexDigit (sum &&& 0x0f), by simp [encodePacket_eq, hexByte, sum], fun r hr => ?_⟩
  obtain ⟨r₁, r₂, hsilent, hlast, hwaits⟩ :=
    feed_frame hr (packetEnd_not_mem_escaped payload) (escaped_fits h) sum
  refine ⟨r₁, r₂, hsilent, ?_, hwaits⟩
  rw [hlast, frameEvent, if_pos rfl, decodeBodyWithLimit_escaped h.1]

/-- One item is read from a waiting reader to a waiting reader. -/
theorem feed_item {maxPayload : ℕ} {r : PacketReader} (h : r.Waits maxPayload) {item : Item}
    (hfits : item.Fits maxPayload) :
    (feed push r item.bytes).1 = item.events ∧ (feed push r item.bytes).2.Waits maxPayload := by
  cases item with
  | packet payload =>
    obtain ⟨init, last, hbytes, hread⟩ := feed_packet hfits
    obtain ⟨r₁, r₂, hsilent, hlast, hwaits⟩ := hread r h
    rw [Item.bytes, hbytes, feed_append_silent hsilent, feed_singleton hlast]
    exact ⟨rfl, hwaits⟩
  | other bytes =>
    rw [Item.bytes, feed_other h bytes hfits]
    exact ⟨rfl, h⟩
  | ack | nack | interrupt =>
    simp [Item.bytes, Item.events, feed_cons, push, h.idle, pushIdle, ackByte, nackByte,
      interruptByte, packetStart, h]

/-! ### Arbitrary streams -/

/-- The frame that is being read at the end of a stream: `tail` follows its body. -/
structure Frames (stream : List UInt8) (r : PacketReader) (tail : List UInt8) (body : List UInt8) :
    Prop where
  stream : ∃ before, stream = before ++ packetStart :: (body ++ tail)
  delimited : packetEnd ∉ body
  sum : r.runningChecksum = checksum body
  kept : r.bodyOverflowed = false → r.body = body

/-- What the reader knows of the stream that it has read. -/
structure Follows (maxPayload : ℕ) (stream : List UInt8) (r : PacketReader) : Prop where
  limit : r.maxPayload = maxPayload
  transmitted : r.maxTransmittedBody = min (maxPayload * 2) usizeMax
  bounded : r.body.length ≤ r.maxTransmittedBody
  body : r.state = .body → ∃ body, Frames stream r [] body
  checksum1 : r.state = .checksum1 → ∃ body, Frames stream r [packetEnd] body
  checksum2 : r.state = .checksum2 → ∃ body hi value, Frames stream r [packetEnd, hi] body ∧
    fromHexDigit hi = some value ∧ r.expectedChecksum = value <<< 4

theorem follows_withMaxPayload (maxPayload : ℕ) :
    Follows maxPayload [] (withMaxPayload maxPayload) :=
  ⟨rfl, rfl, by simp [withMaxPayload], fun h => (nomatch h), fun h => (nomatch h),
    fun h => (nomatch h)⟩

/-- Back between two packets, nothing is known of the stream any more. -/
theorem follows_idle {maxPayload : ℕ} {stream stream' : List UInt8} {r r' : PacketReader}
    (h : Follows maxPayload stream r) (hstate : r'.state = .idle)
    (hlimit : r'.maxPayload = r.maxPayload)
    (htransmitted : r'.maxTransmittedBody = r.maxTransmittedBody) (hbody : r'.body = r.body) :
    Follows maxPayload stream' r' := by
  refine ⟨hlimit.trans h.limit, htransmitted.trans h.transmitted, ?_, ?_, ?_, ?_⟩
  · rw [hbody, htransmitted]
    exact h.bounded
  all_goals
    intro hother
    rw [hstate] at hother
    exact nomatch hother

theorem follows_pushIdle {maxPayload : ℕ} {stream : List UInt8} {r : PacketReader}
    (h : Follows maxPayload stream r) (hstate : r.state = .idle) (byte : UInt8) :
    Follows maxPayload (stream ++ [byte]) (r.pushIdle byte).2 := by
  unfold pushIdle
  split_ifs with hstart
  · subst hstart
    refine ⟨h.limit, h.transmitted, by simp, fun _ => ⟨[], ⟨stream, by simp⟩, by simp, rfl,
      fun _ => rfl⟩, fun h => (nomatch h), fun h => (nomatch h)⟩
  all_goals exact follows_idle h hstate rfl rfl rfl

theorem follows_pushBody {maxPayload : ℕ} {stream : List UInt8} {r : PacketReader}
    (h : Follows maxPayload stream r) (hstate : r.state = .body) (byte : UInt8) :
    Follows maxPayload (stream ++ [byte]) (r.pushBody byte).2 := by
  obtain ⟨body, ⟨before, hstream⟩, hdelimited, hsum, hkept⟩ := h.body hstate
  unfold pushBody
  dsimp only
  split_ifs with hend hroom
  · subst hend
    exact ⟨h.limit, h.transmitted, h.bounded, fun h => (nomatch h),
      fun _ => ⟨body, ⟨before, by simp [hstream]⟩, hdelimited, hsum, hkept⟩, fun h => (nomatch h)⟩
  · refine ⟨h.limit, h.transmitted, ?_, fun _ => ⟨body ++ [byte], ⟨before, by simp [hstream]⟩, ?_,
      ?_, ?_⟩, fun h => ?_, fun h => ?_⟩
    · simpa using hroom
    · simp [hdelimited, Ne.symm hend]
    · simp [hsum, checksum_append]
    · intro hover
      simp [hkept hover]
    · simp [hstate] at h
    · simp [hstate] at h
  · refine ⟨h.limit, h.transmitted, h.bounded, fun _ => ⟨body ++ [byte],
      ⟨before, by simp [hstream]⟩, ?_, ?_, fun hover => (nomatch hover)⟩, fun h => ?_, fun h => ?_⟩
    · simp [hdelimited, Ne.symm hend]
    · simp [hsum, checksum_append]
    · simp [hstate] at h
    · simp [hstate] at h

theorem follows_pushChecksum1 {maxPayload : ℕ} {stream : List UInt8} {r : PacketReader}
    (h : Follows maxPayload stream r) (hstate : r.state = .checksum1) (byte : UInt8) :
    Follows maxPayload (stream ++ [byte]) (r.pushChecksum1 byte).2 := by
  obtain ⟨body, ⟨before, hstream⟩, hdelimited, hsum, hkept⟩ := h.checksum1 hstate
  unfold pushChecksum1
  rcases hdigit : fromHexDigit byte with _ | value
  · exact follows_idle h rfl rfl rfl rfl
  · exact ⟨h.limit, h.transmitted, h.bounded, fun h => (nomatch h), fun h => (nomatch h),
      fun _ => ⟨body, byte, value, ⟨⟨before, by simp [hstream]⟩, hdelimited, hsum, hkept⟩, hdigit,
        rfl⟩⟩

theorem pushChecksum2_fields (r : PacketReader) (byte : UInt8) :
    (r.pushChecksum2 byte).2.state = .idle ∧
      (r.pushChecksum2 byte).2.maxPayload = r.maxPayload ∧
      (r.pushChecksum2 byte).2.maxTransmittedBody = r.maxTransmittedBody ∧
      (r.pushChecksum2 byte).2.body = r.body := by
  unfold pushChecksum2
  rcases fromHexDigit byte with _ | low
  · exact ⟨rfl, rfl, rfl, rfl⟩
  · dsimp only
    split_ifs
    · exact ⟨rfl, rfl, rfl, rfl⟩
    · split <;> exact ⟨rfl, rfl, rfl, rfl⟩

theorem follows_push {maxPayload : ℕ} {stream : List UInt8} {r : PacketReader}
    (h : Follows maxPayload stream r) (byte : UInt8) :
    Follows maxPayload (stream ++ [byte]) (r.push byte).2 := by
  unfold push
  cases hstate : r.state with
  | idle => exact follows_pushIdle h hstate byte
  | body => exact follows_pushBody h hstate byte
  | checksum1 => exact follows_pushChecksum1 h hstate byte
  | checksum2 =>
    obtain ⟨hidle, hlimit, htransmitted, hbody⟩ := pushChecksum2_fields r byte
    exact follows_idle h hidle hlimit htransmitted hbody

/-- Only a complete frame whose digits match its body is accepted. -/
theorem accepted_framed {maxPayload : ℕ} {stream : List UInt8} {r : PacketReader}
    (h : Follows maxPayload stream r) {byte : UInt8} {payload : List UInt8}
    (haccept : (r.push byte).1 = some (.packet payload true)) :
    ∃ before body hi lo high low,
      stream ++ [byte] = before ++ packetStart :: (body ++ [packetEnd, hi, lo]) ∧
      packetEnd ∉ body ∧ fromHexDigit hi = some high ∧ fromHexDigit lo = some low ∧
      high <<< 4 ||| low = checksum body ∧ decodeBodyWithLimit body maxPayload = some payload := by
  unfold push at haccept
  cases hstate : r.state with
  | idle =>
    rw [hstate] at haccept
    dsimp only [pushIdle] at haccept
    split_ifs at haccept <;> simp at haccept
  | body =>
    rw [hstate] at haccept
    dsimp only [pushBody] at haccept
    split_ifs at haccept
  | checksum1 =>
    rw [hstate] at haccept
    dsimp only [pushChecksum1] at haccept
    split at haccept <;> simp [badPacket] at haccept
  | checksum2 =>
    rw [hstate] at haccept
    obtain ⟨body, hi, high, ⟨⟨before, hstream⟩, hdelimited, hsum, hkept⟩, hhigh, hexpected⟩ :=
      h.checksum2 hstate
    dsimp only [pushChecksum2] at haccept
    rcases hlow : fromHexDigit byte with _ | low
    · simp [hlow, badPacket] at haccept
    · simp only [hlow] at haccept
      split_ifs at haccept with hbad
      · simp [badPacket] at haccept
      · obtain ⟨hmatch, hover⟩ : r.expectedChecksum ||| low = r.runningChecksum ∧
            r.bodyOverflowed = false := by simpa using hbad
        rw [hkept hover, h.limit] at haccept
        refine ⟨before, body, hi, byte, high, low, by simp [hstream], hdelimited, hhigh, hlow,
          by rw [← hexpected, hmatch, hsum], ?_⟩
        rcases hdecode : decodeBodyWithLimit body maxPayload with _ | decoded
        · simp [hdecode, badPacket] at haccept
        · simpa [hdecode] using haccept

end PacketReader

/-- CORRECT (streaming codec): a reader gives back every stream of items as it was sent, byte by
    byte; and whatever it is fed, its buffer stays within twice the limit and it accepts only
    payloads within the limit, out of frames whose digits match their body. -/
theorem packet_codec_correct (maxPayload : ℕ) :
    (∀ items : List Item, (∀ item ∈ items, item.Fits maxPayload) →
      (feed PacketReader.push (.withMaxPayload maxPayload) (items.flatMap Item.bytes)).1 =
        items.flatMap Item.events) ∧
    ∀ stream : List UInt8,
      let r := (feed PacketReader.push (.withMaxPayload maxPayload) stream).2
      r.body.length ≤ 2 * maxPayload ∧
      ∀ byte payload, (r.push byte).1 = some (.packet payload true) →
        payload.length ≤ maxPayload ∧ ∃ before body hi lo high low,
          stream ++ [byte] = before ++ packetStart :: (body ++ [packetEnd, hi, lo]) ∧
          packetEnd ∉ body ∧ fromHexDigit hi = some high ∧ fromHexDigit lo = some low ∧
          high <<< 4 ||| low = checksum body ∧
          decodeBodyWithLimit body maxPayload = some payload := by
  constructor
  · intro items hfits
    exact (feed_items (PacketReader.Waits maxPayload) Item.bytes Item.events
      (fun item hmem r hr => PacketReader.feed_item hr (hfits item hmem)) ⟨rfl, rfl, rfl⟩).1
  · intro stream
    have hfollows := feed_invariant (PacketReader.Follows maxPayload)
      (PacketReader.follows_withMaxPayload maxPayload)
      (fun _ _ byte h => PacketReader.follows_push h byte) stream
    refine ⟨?_, fun byte payload haccept => ?_⟩
    · have hbounded := hfollows.bounded
      rw [hfollows.transmitted] at hbounded
      exact hbounded.trans ((min_le_left _ _).trans (by omega))
    · obtain ⟨before, body, hi, lo, high, low, hframe⟩ :=
        PacketReader.accepted_framed hfollows haccept
      exact ⟨length_decodeFrom_le (Nat.zero_le _) hframe.2.2.2.2.2, before, body, hi, lo, high, low,
        hframe⟩

end ReSymbol.GdbRemote
