import ReSymbol.Schemes.Reducer
import ReSymbol.Schemes.Loops
import ReSymbol.Schemes.Bytes
import ReSymbol.GdbRemote.Client

/-! The target description is put together from its chunks.

    The client asks for the document piece by piece: an offset and a length in hexadecimal, a chunk
    with a marker in return. `m` says that there is more, `l` that this was the last of it. Each
    side has limits of its own.

        offset 0        offset c₁          offset c₁ + c₂
          ├── m chunk ───┼──── m chunk ──────┼── l chunk ──┤ end of the document

    The bytes that the client has are the first bytes of the document, and the next request begins
    where they end. -/

namespace ReSymbol.GdbRemote
open Schemes Running

variable {τ δ : Type}

/-! ### The client -/

/-- `qXfer:features:read:target.xml:{offset:x},{chunk_size:x}` -/
def descriptionText (offset chunkSize : ℕ) : Bytes :=
  ascii "qXfer:features:read:target.xml:" ++ (lowerHex offset ++ comma :: lowerHex chunkSize)

/-- What the client has of the document, and the target behind the server. -/
structure Fetch (τ : Type) where
  offset : ℕ
  xml : Bytes
  target : τ

def descriptionTooLong : ClientError :=
  .io ⟨.invalidData, "target description exceeds configured aggregate limit"⟩

/-- What the client makes of a reply: more to come, or the document, or no document at all. -/
def acceptChunk (limits : ProtocolLimits) (chunkSize : ℕ) (offset : ℕ) (xml : Bytes) (t : τ)
    (reply : Bytes) : Except ClientError (Round (Fetch τ) (Option Bytes × τ)) :=
  if reply = [] ∧ offset = 0 then .ok (.done (none, t))
  else if isErrorReply reply then .error (.stub reply)
  else match reply with
    | [] => .error (.io ⟨.invalidData, "empty qXfer reply after target description began"⟩)
    | marker :: chunk =>
      -- the marker is `m` or `l`
      if ¬ (marker = 0x6d ∨ marker = 0x6c) ∨ chunk.length > chunkSize then
        .error (.io ⟨.invalidData, "malformed or oversized qXfer target-description chunk"⟩)
      else if marker = 0x6d ∧ chunk = [] then
        .error (.io ⟨.invalidData, "non-final qXfer target-description chunk was empty"⟩)
      else if usizeMax < xml.length + chunk.length then
        .error (.io ⟨.invalidData, "target description size overflow"⟩)
      else if xml.length + chunk.length > limits.maxTargetDescription then
        .error descriptionTooLong
      else if marker = 0x6c then .ok (.done (some (xml ++ chunk), t))
      else .ok (.again ⟨xml.length + chunk.length, xml ++ chunk, t⟩)

/-- One request for a chunk and what comes of it. -/
def fetchChunk (limits : ProtocolLimits) (chunkSize : ℕ)
    (call : Bytes → StateM τ (Except ClientError Bytes)) (s : Fetch τ) :
    Except ClientError (Round (Fetch τ) (Option Bytes × τ)) := do
  let answer := call (descriptionText s.offset chunkSize) s.target
  let reply ← answer.1
  acceptChunk limits chunkSize s.offset s.xml answer.2 reply

def chunkSizeOf (limits : ProtocolLimits) : ℕ := min (limits.maxPacketPayload - 1) 0x800

/-- Text decoding and the XML parser behind it are `parse`. -/
def readTargetDescription (limits : ProtocolLimits)
    (call : Bytes → StateM τ (Except ClientError Bytes)) (parse : Bytes → Except ClientError δ)
    (rounds : ℕ) (t : τ) : Running ClientError (Option δ × τ) := do
  if chunkSizeOf limits = 0 then
    ended (.error (.io ⟨.invalidInput, "packet limit leaves no room for qXfer data"⟩))
  else
    let (document, t') ← loop (fetchChunk limits (chunkSizeOf limits) call) rounds ⟨0, [], t⟩
    match document with
    | none => pure (none, t')
    | some xml => do
      let description ← parse xml
      pure (some description, t')

/-! ### The server -/

section Served

variable (target : RemoteTarget τ) (limits : ProtocolLimits)

/-- The reply to a request for a chunk of a document. -/
def chunkReply (xml : Bytes) (offset chunkLen : ℕ) : Bytes :=
  (if offset + chunkLen < xml.length then (0x6d : UInt8) else 0x6c) :: window xml offset chunkLen

theorem dispatch_descriptionText (offset chunkSize : ℕ) (t : τ) :
    dispatch target limits (descriptionText offset chunkSize) t =
      (.reply (handleTargetDescription target limits
        (ascii "target.xml:" ++ (lowerHex offset ++ comma :: lowerHex chunkSize)) t), t) := rfl

/-- A chunk is as long as both limits and the rest of the document allow. -/
def chunkLenOf (chunkSize remaining : ℕ) : ℕ :=
  min (min chunkSize (limits.maxPacketPayload - 1)) remaining

variable {target limits}

theorem handleTargetDescription_text {t : τ} {description : TargetDescription}
    (h : target.targetDescription t = some description) {offset chunkSize : ℕ}
    (hoffset : offset ≤ description.xml.length) (hchunk : chunkSize < 2 ^ 64) :
    handleTargetDescription target limits
        (ascii "target.xml:" ++ (lowerHex offset ++ comma :: lowerHex chunkSize)) t =
      chunkReply description.xml offset
        (chunkLenOf limits chunkSize (description.xml.length - offset)) := by
  have hlt : offset < 2 ^ 64 := by
    have := description.xml_le
    unfold isizeMax at this
    omega
  have hprefix : (ascii "target.xml:").isPrefixOf
      (ascii "target.xml:" ++ (lowerHex offset ++ comma :: lowerHex chunkSize)) = true := by
    rw [List.isPrefixOf_iff_prefix]
    exact List.prefix_append _ _
  have hoffset' : (UInt64.ofNat offset).toNat = offset := UInt64.toNat_ofNat_of_lt' hlt
  have hchunk' : (UInt64.ofNat chunkSize).toNat = chunkSize := UInt64.toNat_ofNat_of_lt' hchunk
  rw [handleTargetDescription, if_pos hprefix, List.drop_left, parseAddrLen_lowerHex hlt hchunk]
  simp only [h]
  rw [hoffset', hchunk', descriptionChunk, if_neg (not_lt.mpr hoffset), chunkReply, window]
  by_cases hmore : offset + chunkLenOf limits chunkSize (description.xml.length - offset) <
      description.xml.length
  · rw [if_pos hmore]
    exact congrArg (· ++ _) (if_pos hmore)
  · rw [if_neg hmore]
    exact congrArg (· ++ _) (if_neg hmore)

end Served

/-! ### Putting the document together -/

section Document

variable {target : RemoteTarget τ} {client server : ProtocolLimits} {t : τ}
  {description : TargetDescription}

/-- The client may ask for the document from here on. -/
def Asks (client : ProtocolLimits) (xml : Bytes) (offset : ℕ) : Prop :=
  offset = 0 ∨ (offset < xml.length ∧ offset ≤ client.maxTargetDescription)

theorem Asks.le {xml : Bytes} {offset : ℕ} (h : Asks client xml offset) : offset ≤ xml.length := by
  rcases h with rfl | ⟨hlt, -⟩ <;> omega

/-- Every request that the client may send for this document is within both packet limits. -/
def RequestsFit (client server : ProtocolLimits) (xml : Bytes) : Prop :=
  ∀ offset, Asks client xml offset → (descriptionText offset (chunkSizeOf client)).length ≤
    min client.maxPacketPayload server.maxPacketPayload

/-- Requests that fit leave room for a byte of content. -/
theorem RequestsFit.room {xml : Bytes} (h : RequestsFit client server xml) :
    2 ≤ client.maxPacketPayload ∧ 2 ≤ server.maxPacketPayload := by
  have hfirst := h 0 (.inl rfl)
  have htext : (ascii "qXfer:features:read:target.xml:").length = 31 := by decide +kernel
  rw [descriptionText, List.length_append, htext] at hfirst
  omega

/-- The chunk that the server sends at this offset. -/
def nextChunk (client server : ProtocolLimits) (xml : Bytes) (offset : ℕ) : ℕ :=
  chunkLenOf server (chunkSizeOf client) (xml.length - offset)

theorem nextChunk_bounds {xml : Bytes} (h : RequestsFit client server xml) {offset : ℕ}
    (hoffset : offset ≤ xml.length) :
    offset + nextChunk client server xml offset ≤ xml.length ∧
    nextChunk client server xml offset ≤ chunkSizeOf client ∧
    nextChunk client server xml offset + 1 ≤
      min client.maxPacketPayload server.maxPacketPayload ∧
    (offset < xml.length → 0 < nextChunk client server xml offset) := by
  obtain ⟨hclient, hserver⟩ := h.room
  unfold nextChunk chunkLenOf chunkSizeOf
  omega

theorem length_chunkReply {xml : Bytes} {offset chunkLen : ℕ} (h : offset + chunkLen ≤ xml.length) :
    (chunkReply xml offset chunkLen).length = chunkLen + 1 := by
  rw [chunkReply, List.length_cons, length_window h]

/-- What a request for a chunk comes back with. -/
theorem transact_descriptionText (h : target.targetDescription t = some description)
    (hfit : RequestsFit client server description.xml) {offset : ℕ}
    (hasks : Asks client description.xml offset) :
    transact client.maxPacketPayload server.maxPacketPayload (dispatch target server)
        (descriptionText offset (chunkSizeOf client)) t =
      (.ok (chunkReply description.xml offset (nextChunk client server description.xml offset)),
        t) := by
  have htext := hfit offset hasks
  obtain ⟨hend, -, hroom, -⟩ := nextChunk_bounds hfit hasks.le
  have hchunk : chunkSizeOf client < 2 ^ 64 := by
    unfold chunkSizeOf
    omega
  have hreply := length_chunkReply hend
  rw [transact_run (by omega) (by omega), dispatch_descriptionText,
    handleTargetDescription_text h hasks.le hchunk, ← nextChunk, answered,
    deliver_of_fits (by omega) (by omega)]

/-- The client has the first bytes of the document, within its limit, and asks for the next. -/
structure Fetched (client : ProtocolLimits) (xml : Bytes) (t : τ) (s : Fetch τ) : Prop where
  offset_eq : s.offset = s.xml.length
  asks : Asks client xml s.offset
  xml_eq : s.xml = xml.take s.offset
  target_eq : s.target = t
  within : s.xml.length ≤ client.maxTargetDescription

theorem take_append_window (xml : Bytes) (offset len : ℕ) :
    xml.take offset ++ window xml offset len = xml.take (offset + len) := by
  rw [window, List.take_add]

theorem window_to_end {xml : Bytes} {offset len : ℕ} (hend : offset + len = xml.length) :
    xml.take offset ++ window xml offset len = xml := by
  rw [take_append_window, hend, List.take_length]

/-- The call of the client, over a server with limits of its own. -/
def exchange (target : RemoteTarget τ) (client server : ProtocolLimits) :
    Bytes → StateM τ (Except ClientError Bytes) :=
  transact client.maxPacketPayload server.maxPacketPayload (dispatch target server)

/-- What the client makes of the chunk that the server sends. -/
theorem acceptChunk_chunkReply {xml : Bytes} {offset chunkLen chunkSize : ℕ}
    (hend : offset + chunkLen ≤ xml.length) (hsize : chunkLen ≤ chunkSize)
    (hpos : offset < xml.length → 0 < chunkLen) (husize : xml.length ≤ usizeMax) :
    acceptChunk client chunkSize offset (xml.take offset) t (chunkReply xml offset chunkLen) =
      if offset + chunkLen > client.maxTargetDescription then .error descriptionTooLong
      else if offset + chunkLen = xml.length then .ok (.done (some xml, t))
      else .ok (.again ⟨offset + chunkLen, xml.take (offset + chunkLen), t⟩) := by
  have hlength : (window xml offset chunkLen).length = chunkLen := length_window hend
  have htake : (xml.take offset).length = offset := by simp; omega
  have hlimit : ¬ usizeMax < offset + chunkLen := by omega
  have herror : isErrorReply (chunkReply xml offset chunkLen) = false := by
    unfold isErrorReply chunkReply
    split
    · next letter hi lo heq =>
      obtain ⟨rfl, -⟩ := List.cons.inj heq
      split_ifs <;> rfl
    · rfl
  have hcons : ¬ (chunkReply xml offset chunkLen = [] ∧ offset = 0) := by simp [chunkReply]
  unfold acceptChunk
  rw [if_neg hcons, herror, if_neg (by decide)]
  simp only [chunkReply, hlength, htake]
  by_cases hlast : offset + chunkLen = xml.length
  · simp [hlast, window_to_end hlast, not_lt.mpr hsize, not_lt.mpr husize]
  · have hmore : offset + chunkLen < xml.length := by omega
    have hchunk : window xml offset chunkLen ≠ [] := by
      intro hnil
      rw [hnil, List.length_nil] at hlength
      have := hpos (by omega)
      omega
    simp [hmore, hlast, hchunk, hlimit, take_append_window, not_lt.mpr hsize]

theorem fetchChunk_fetched (h : target.targetDescription t = some description)
    (hfit : RequestsFit client server description.xml) {s : Fetch τ}
    (hs : Fetched client description.xml t s) :
    fetchChunk client (chunkSizeOf client) (exchange target client server) s =
      if s.offset + nextChunk client server description.xml s.offset >
          client.maxTargetDescription then .error descriptionTooLong
      else if s.offset + nextChunk client server description.xml s.offset =
          description.xml.length then .ok (.done (some description.xml, t))
      else .ok (.again ⟨s.offset + nextChunk client server description.xml s.offset,
        description.xml.take (s.offset + nextChunk client server description.xml s.offset),
          t⟩) := by
  obtain ⟨hend, hsize, -, hpos⟩ := nextChunk_bounds hfit hs.asks.le
  have husize : description.xml.length ≤ usizeMax := by
    have := description.xml_le
    unfold isizeMax at this
    unfold usizeMax
    omega
  rw [fetchChunk, hs.target_eq, hs.xml_eq, exchange, transact_descriptionText h hfit hs.asks,
    except_ok_bind]
  exact acceptChunk_chunkReply hend hsize hpos husize

/-- The loop ends with the whole document, or at the first chunk that exceeds the limit. -/
theorem fetch_document (h : target.targetDescription t = some description)
    (hfit : RequestsFit client server description.xml) {rounds : ℕ}
    (hrounds : description.xml.length < rounds) :
    loop (fetchChunk client (chunkSizeOf client) (exchange target client server)) rounds
      ⟨0, [], t⟩ =
      ended (if description.xml.length ≤ client.maxTargetDescription
        then .ok (some description.xml, t) else .error descriptionTooLong) := by
  have hround : ∀ s, Fetched client description.xml t s →
      RoundMeets (Fetched client description.xml t) (fun s => description.xml.length - s.offset)
        (fun outcome => outcome = if description.xml.length ≤ client.maxTargetDescription
          then .ok (some description.xml, t) else .error descriptionTooLong) s
        (fetchChunk client (chunkSizeOf client) (exchange target client server) s) := by
    intro s hs
    obtain ⟨hend, -, -, hpos⟩ := nextChunk_bounds hfit hs.asks.le
    rw [fetchChunk_fetched h hfit hs]
    by_cases hlong : s.offset + nextChunk client server description.xml s.offset >
        client.maxTargetDescription
    · rw [if_pos hlong]
      exact (if_neg (by omega)).symm
    · rw [if_neg hlong]
      by_cases hlast : s.offset + nextChunk client server description.xml s.offset =
          description.xml.length
      · rw [if_pos hlast]
        exact (if_pos (by omega)).symm
      · rw [if_neg hlast]
        have hlength : (description.xml.take (s.offset +
            nextChunk client server description.xml s.offset)).length =
            s.offset + nextChunk client server description.xml s.offset := by
          simp
          omega
        have hgrows := hpos (by have := hs.asks.le; omega)
        refine ⟨⟨hlength.symm, .inr ⟨by simp only; omega, by simp only; omega⟩, rfl, rfl,
          by rw [hlength]; omega⟩, ?_⟩
        simp only
        omega
  have hstart : Fetched client description.xml t ⟨0, [], t⟩ :=
    ⟨rfl, .inl rfl, rfl, rfl, Nat.zero_le _⟩
  obtain ⟨outcome, hloop, houtcome⟩ := loop_meets hround hstart (by simpa using hrounds)
  rw [hloop, houtcome]

/-- Whatever the server answers, the client never holds more than its limit. -/
theorem fetch_within {call : Bytes → StateM τ (Except ClientError Bytes)} {chunkSize : ℕ}
    {start s : Fetch τ} (hreach : Reaches (fetchChunk client chunkSize call) start s)
    (hstart : start.xml.length ≤ client.maxTargetDescription) :
    s.xml.length ≤ client.maxTargetDescription := by
  refine hreach.invariant (fun s => s.xml.length ≤ client.maxTargetDescription) ?_ hstart
  intro s s' _ hround
  obtain ⟨reply, -, haccept⟩ := except_bind_eq_ok.mp hround
  unfold acceptChunk at haccept
  split_ifs at haccept
  · cases haccept
  · cases reply with
    | nil => cases haccept
    | cons marker chunk =>
      simp only at haccept
      split_ifs at haccept with _ _ _ hle _
      · cases haccept
      · cases haccept
        rw [List.length_append]
        omega

/-- CORRECT (target description): for every document, the client returns exactly the served bytes
    when they are within its limit, and an error when they are not, without ever holding more. -/
theorem target_description_reassembled (target : RemoteTarget τ) (client server : ProtocolLimits)
    (parse : Bytes → Except ClientError δ) {t : τ} {description : TargetDescription}
    (h : target.targetDescription t = some description)
    (hfit : RequestsFit client server description.xml) {rounds : ℕ}
    (hrounds : description.xml.length < rounds) :
    loop (fetchChunk client (chunkSizeOf client) (exchange target client server)) rounds
      ⟨0, [], t⟩ =
      ended (if description.xml.length ≤ client.maxTargetDescription
        then .ok (some description.xml, t) else .error descriptionTooLong) ∧
    readTargetDescription client (exchange target client server) parse rounds t =
      ended (if description.xml.length ≤ client.maxTargetDescription
        then (parse description.xml).map fun parsed => (some parsed, t)
        else .error descriptionTooLong) ∧
    ∀ s, Reaches (fetchChunk client (chunkSizeOf client) (exchange target client server))
      ⟨0, [], t⟩ s → s.xml.length ≤ client.maxTargetDescription := by
  have hloop := fetch_document h hfit hrounds
  refine ⟨hloop, ?_, fun s hreach => fetch_within hreach (Nat.zero_le _)⟩
  have hroom : chunkSizeOf client ≠ 0 := by
    have := hfit.room.1
    unfold chunkSizeOf
    omega
  rw [readTargetDescription, if_neg hroom, hloop]
  by_cases hle : description.xml.length ≤ client.maxTargetDescription
  · rw [if_pos hle, if_pos hle]
    show (ended (parse description.xml) >>= fun parsed => pure (some parsed, t)) = _
    cases parse description.xml <;> rfl
  · rw [if_neg hle, if_neg hle]
    rfl

end Document

/-- A described target whose state is its document. -/
def described : RemoteTarget TargetDescription := { inert with targetDescription := some }

/-- A document of one hundred bytes, through packets of forty. -/
theorem target_description_reassembled_small :
    ∃ (description : TargetDescription) (limits : ProtocolLimits),
      RequestsFit limits limits description.xml ∧ limits.maxPacketPayload < description.xml.length ∧
      loop (fetchChunk limits (chunkSizeOf limits) (exchange described limits limits)) 101
        ⟨0, [], description⟩ = ended (.ok (some description.xml, description)) := by
  let description : TargetDescription := ⟨List.replicate 100 0x20, 0, by decide⟩
  let limits : ProtocolLimits := ⟨40, 20, 200, by decide, by decide, by decide⟩
  have hfit : RequestsFit limits limits description.xml := by
    intro offset hasks
    have hle : offset ≤ 100 := hasks.le
    have htext : (ascii "qXfer:features:read:target.xml:").length = 31 := by decide +kernel
    have hchunk : (lowerHex (chunkSizeOf limits)).length = 2 := by decide +kernel
    have hoffset : (lowerHex offset).length ≤ 2 := length_lowerHex_le (by omega) (by omega)
    rw [descriptionText, List.length_append, List.length_append, List.length_cons, htext, hchunk]
    show _ ≤ min 40 40
    omega
  have hread := (target_description_reassembled described limits limits
    (fun xml => Except.ok xml) rfl hfit (show 100 < 101 by decide)).1
  exact ⟨description, limits, hfit, by decide, hread⟩

end ReSymbol.GdbRemote
