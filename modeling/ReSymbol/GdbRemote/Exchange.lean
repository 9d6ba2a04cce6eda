import ReSymbol.GdbRemote.Protocol
import ReSymbol.Schemes.Ranking
import Mathlib.Data.Prod.Lex

/-! Requests and replies between the client and the stub.

    Both parties read and write one byte at a time over two ordered channels. A packet is sent again
    after every `-`, and the only fault is a frame whose body was damaged on its way.

        client  sending ─▶ awaitingAck ─▶ receiving ─▶ returning ─▶ ready
                   ▲  -  │    +              │ - ↺
                   └─────┘          ─────────┘
        server  reading ─▶ dispatching ─▶ sending ─▶ awaitingAck ─▶ reading, stopped
                  - ↺                        ▲   -  │     +
                                             └──────┘

    In every interleaving the requests are dispatched once each and in order, every call returns the
    reply to its own request, and no run goes on for ever or stops before. -/

namespace ReSymbol.GdbRemote
open Schemes Relation

/-- A payload or a frame. -/
abbrev Bytes := List UInt8

def maxResends : ℕ := 8

inductive IoErrorKind where
  | invalidInput
  | invalidData
  deriving DecidableEq

structure IoError where
  kind : IoErrorKind
  message : String
  deriving DecidableEq

def requestTooLong : IoError :=
  ⟨.invalidInput, "RSP request exceeds configured packet limit"⟩

def requestRejected : IoError :=
  ⟨.invalidData, "peer rejected packet after maximum resends"⟩

def replyTooLong : IoError :=
  ⟨.invalidData, "RSP reply exceeds configured packet limit"⟩

/-! ### The client -/

/-- Where a call of `transact` stands. -/
inductive ClientPhase where
  | ready
  | sending (payload : Bytes) (resends : ℕ)
  | awaitingAck (payload : Bytes) (resends : ℕ)
  | receiving
  | returning (reply : Bytes)

/-- A client with the bytes it is about to write, the calls it will make and the results of those
    it made. -/
structure GdbRemoteClient where
  phase : ClientPhase
  reader : PacketReader
  maxPacketPayload : ℕ
  out : Bytes
  todo : List Bytes
  results : List (Except IoError Bytes)

namespace GdbRemoteClient

def withLimits (maxPacketPayload : ℕ) (todo : List Bytes) : GdbRemoteClient :=
  { phase := .ready
    reader := .withMaxPayload maxPacketPayload
    maxPacketPayload
    out := []
    todo
    results := [] }

/-- Call `transact`. -/
def begin (c : GdbRemoteClient) (payload : Bytes) (rest : List Bytes) : GdbRemoteClient :=
  if c.maxPacketPayload < payload.length then
    { c with todo := rest, results := c.results ++ [.error requestTooLong] }
  else { c with todo := rest, phase := .sending payload 0 }

/-- The call reads from the channel. -/
def Reads (c : GdbRemoteClient) : Prop :=
  (∃ payload resends, c.phase = .awaitingAck payload resends) ∨ c.phase = .receiving

/-- What a call does with an event of the reader. -/
def handle (c : GdbRemoteClient) (event : Option PacketEvent) : GdbRemoteClient :=
  match c.phase, event with
  | .awaitingAck _ _, some .ack => { c with phase := .receiving }
  | .awaitingAck payload resends, some .nack =>
    if resends < maxResends then { c with phase := .sending payload (resends + 1) }
    else { c with phase := .ready, results := c.results ++ [.error requestRejected] }
  | .receiving, some (.packet reply true) => { c with phase := .returning reply, out := [ackByte] }
  | .receiving, some (.packet _ false) => { c with out := [nackByte] }
  | _, _ => c

def onByte (c : GdbRemoteClient) (byte : UInt8) : GdbRemoteClient :=
  { c with reader := (c.reader.push byte).2 }.handle (c.reader.push byte).1

end GdbRemoteClient

/-! ### The server -/

/-- What the dispatcher decided to do with a packet. -/
inductive Disposition where
  | reply (payload : Bytes)
  | detach (payload : Bytes)
  | kill

/-- Where the loop of `serve` stands; after the last reply it stops. -/
inductive ServerPhase where
  | reading
  | dispatching (payload : Bytes)
  | sending (reply : Bytes) (resends : ℕ) (last : Bool)
  | awaitingAck (reply : Bytes) (resends : ℕ) (last : Bool)
  | stopped (result : Except IoError Unit)

variable {τ : Type}

/-- A server with the bytes it is about to write, the target it drives and the requests that were
    dispatched to it. -/
structure GdbStubServer (τ : Type) where
  phase : ServerPhase
  reader : PacketReader
  maxPacketPayload : ℕ
  out : Bytes
  target : τ
  dispatched : List Bytes

namespace GdbStubServer

def withLimits (maxPacketPayload : ℕ) (target : τ) : GdbStubServer τ :=
  { phase := .reading
    reader := .withMaxPayload maxPacketPayload
    maxPacketPayload
    out := []
    target
    dispatched := [] }

def Reads (v : GdbStubServer τ) : Prop :=
  v.phase = .reading ∨ ∃ reply resends last, v.phase = .awaitingAck reply resends last

/-- The phase after a reply, the last one or not. -/
def afterReply (last : Bool) : ServerPhase := if last then .stopped (.ok ()) else .reading

/-- What the loop does with an event of the reader. After the last resend it gives up waiting. -/
def handle (v : GdbStubServer τ) (event : Option PacketEvent) : GdbStubServer τ :=
  match v.phase, event with
  | .reading, some (.packet payload true) =>
    { v with phase := .dispatching payload, out := [ackByte] }
  | .reading, some (.packet _ false) => { v with out := [nackByte] }
  | .awaitingAck _ _ last, some .ack => { v with phase := afterReply last }
  | .awaitingAck reply resends last, some .nack =>
    if resends < maxResends then { v with phase := .sending reply (resends + 1) last }
    else { v with phase := afterReply last }
  | _, _ => v

def onByte (v : GdbStubServer τ) (byte : UInt8) : GdbStubServer τ :=
  { v with reader := (v.reader.push byte).2 }.handle (v.reader.push byte).1

/-- Start to send a reply. -/
def sendPacket (v : GdbStubServer τ) (reply : Bytes) (last : Bool) : GdbStubServer τ :=
  if v.maxPacketPayload < reply.length then { v with phase := .stopped (.error replyTooLong) }
  else { v with phase := .sending reply 0 last }

/-- Dispatch a packet to the target and act on the outcome. -/
def serve (dispatch : Bytes → τ → Disposition × τ) (v : GdbStubServer τ) (payload : Bytes) :
    GdbStubServer τ :=
  let v' := { v with
    target := (dispatch payload v.target).2
    dispatched := v.dispatched ++ [payload] }
  match (dispatch payload v.target).1 with
  | .reply reply => v'.sendPacket reply false
  | .detach reply => v'.sendPacket reply true
  | .kill => { v' with phase := .stopped (.ok ()) }

end GdbStubServer

/-! ### Both over two channels -/

/-- The bytes under way, and how often the packet that each party sends was damaged. -/
structure System (τ : Type) where
  client : GdbRemoteClient
  server : GdbStubServer τ
  toServer : Bytes
  toClient : Bytes
  requestDamages : ℕ
  replyDamages : ℕ

namespace System

def start (clientLimit serverLimit : ℕ) (requests : List Bytes) (target : τ) : System τ :=
  { client := .withLimits clientLimit requests
    server := .withLimits serverLimit target
    toServer := []
    toClient := []
    requestDamages := 0
    replyDamages := 0 }

/-- A frame whose body was replaced so that its checksum does not match. -/
def Damaged (payload frame : Bytes) : Prop :=
  ∃ body : Bytes, body.length = (payload.flatMap escape).length ∧ packetEnd ∉ body ∧
    checksum body ≠ checksum (payload.flatMap escape) ∧
    frame = packetStart :: (body ++ packetEnd :: hexByte (checksum (payload.flatMap escape)))

/-- How a packet goes on its way, after so many damages and with so many now. -/
inductive Transmits (payload : Bytes) (damages : ℕ) : Bytes → ℕ → Prop
  | intact : Transmits payload damages (encodePacket payload) damages
  | damaged {frame : Bytes} (h : damages < maxResends) (hframe : Damaged payload frame) :
      Transmits payload damages frame (damages + 1)

/-- One step of either party. -/
inductive Step (dispatch : Bytes → τ → Disposition × τ) : System τ → System τ → Prop
  | begins {s : System τ} {payload : Bytes} {rest : List Bytes} (hphase : s.client.phase = .ready)
      (hout : s.client.out = []) (htodo : s.client.todo = payload :: rest) :
      Step dispatch s { s with client := s.client.begin payload rest, requestDamages := 0 }
  | requests {s : System τ} {payload frame : Bytes} {resends damages : ℕ}
      (hphase : s.client.phase = .sending payload resends) (hout : s.client.out = [])
      (hframe : Transmits payload s.requestDamages frame damages) :
      Step dispatch s { s with
        client := { s.client with phase := .awaitingAck payload resends, out := frame }
        requestDamages := damages }
  | clientWrites {s : System τ} {byte : UInt8} {rest : Bytes} (hout : s.client.out = byte :: rest) :
      Step dispatch s { s with
        client := { s.client with out := rest }
        toServer := s.toServer ++ [byte] }
  | clientReads {s : System τ} {byte : UInt8} {rest : Bytes} (hreads : s.client.Reads)
      (hout : s.client.out = []) (hin : s.toClient = byte :: rest) :
      Step dispatch s { s with client := s.client.onByte byte, toClient := rest }
  | returns {s : System τ} {reply : Bytes} (hphase : s.client.phase = .returning reply)
      (hout : s.client.out = []) :
      Step dispatch s { s with client := { s.client with
        phase := .ready
        results := s.client.results ++ [.ok reply] } }
  | serverWrites {s : System τ} {byte : UInt8} {rest : Bytes} (hout : s.server.out = byte :: rest) :
      Step dispatch s { s with
        server := { s.server with out := rest }
        toClient := s.toClient ++ [byte] }
  | serverReads {s : System τ} {byte : UInt8} {rest : Bytes} (hreads : s.server.Reads)
      (hout : s.server.out = []) (hin : s.toServer = byte :: rest) :
      Step dispatch s { s with server := s.server.onByte byte, toServer := rest }
  | dispatches {s : System τ} {payload : Bytes} (hphase : s.server.phase = .dispatching payload)
      (hout : s.server.out = []) :
      Step dispatch s { s with server := s.server.serve dispatch payload, replyDamages := 0 }
  | replies {s : System τ} {reply frame : Bytes} {resends damages : ℕ} {last : Bool}
      (hphase : s.server.phase = .sending reply resends last) (hout : s.server.out = [])
      (hframe : Transmits reply s.replyDamages frame damages) :
      Step dispatch s { s with
        server := { s.server with phase := .awaitingAck reply resends last, out := frame }
        replyDamages := damages }

end System

/-! ### What is asked and answered -/

/-- The replies to a list of requests, dispatched one after the other. -/
def replies (dispatch : Bytes → τ → Disposition × τ) : τ → List Bytes → List Bytes
  | _, [] => []
  | t, payload :: rest =>
    match dispatch payload t with
    | (.reply reply, t') => reply :: replies dispatch t' rest
    | (.detach reply, _) => [reply]
    | (.kill, _) => []

/-- A payload that both parties accept. -/
def FitsBoth (clientLimit serverLimit : ℕ) (payload : Bytes) : Prop :=
  (Item.packet payload).Fits clientLimit ∧ (Item.packet payload).Fits serverLimit

/-- Every request fits and is answered by a reply that fits, and nothing is asked after the client
    detached. -/
def Orderly (dispatch : Bytes → τ → Disposition × τ) (clientLimit serverLimit : ℕ) :
    τ → List Bytes → Prop
  | _, [] => True
  | t, payload :: rest => FitsBoth clientLimit serverLimit payload ∧
    match dispatch payload t with
    | (.reply reply, t') =>
      FitsBoth clientLimit serverLimit reply ∧ Orderly dispatch clientLimit serverLimit t' rest
    | (.detach reply, _) => FitsBoth clientLimit serverLimit reply ∧ rest = []
    | (.kill, _) => False

/-! ### Messages in the streams -/

/-- What the bytes in a stream stand for. -/
inductive Message where
  | ack
  | nack
  | intact (payload : Bytes)
  | damaged (body : Bytes) (sum : UInt8)

namespace Message

def bytes : Message → Bytes
  | .ack => [ackByte]
  | .nack => [nackByte]
  | .intact payload => encodePacket payload
  | .damaged body sum => packetStart :: (body ++ packetEnd :: hexByte sum)

def event : Message → PacketEvent
  | .ack => .ack
  | .nack => .nack
  | .intact payload => .packet payload true
  | .damaged _ _ => .packet [] false

def Fits (limit : ℕ) : Message → Prop
  | .intact payload => (Item.packet payload).Fits limit
  | .damaged body sum => packetEnd ∉ body ∧ body.length ≤ min (limit * 2) usizeMax ∧
      sum ≠ checksum body
  | _ => True

end Message

end ReSymbol.GdbRemote
