import ReSymbol.GdbRemote.Exchange

/-! Requests and replies are exchanged exactly once.

    The bytes on their way from one party to the other stand for a list of messages, the first of
    them partly read. An exchange goes through a few shapes, each with what the two parties do and
    which messages are under way; a byte either stays within a shape or completes a message and
    leads to a shape of lower rank.

       quiet ─▶ requestSending ─▶ requestSent ─▶ dispatching ─▶ replySending ─▶ replySent ─▶ closing
                      ▲               ▼                            ▲               ▼
                      └── rejected ◀──┘                            └ replyRejected ┘  -/

namespace ReSymbol.GdbRemote
open Schemes Relation

/-! ### Streams of messages -/

/-- A message is reported at its last byte. -/
theorem Message.reads {limit : ℕ} {m : Message} (h : m.Fits limit) :
    ∃ init last, m.bytes = init ++ [last] ∧ ∀ r : PacketReader, r.Waits limit →
      ∃ r₁ r₂, feed PacketReader.push r init = ([], r₁) ∧ r₁.push last = (some m.event, r₂) ∧
        r₂.Waits limit := by
  cases m with
  | ack =>
    exact ⟨[], ackByte, rfl, fun r hr => ⟨r, r, rfl, by
      simp [PacketReader.push, hr.idle, PacketReader.pushIdle, ackByte, packetStart, event], hr⟩⟩
  | nack =>
    exact ⟨[], nackByte, rfl, fun r hr => ⟨r, r, rfl, by
      simp [PacketReader.push, hr.idle, PacketReader.pushIdle, ackByte, nackByte, packetStart,
        event], hr⟩⟩
  | intact payload => exact PacketReader.feed_packet h
  | damaged body sum =>
    obtain ⟨hend, hroom, hsum⟩ := h
    refine ⟨packetStart :: (body ++ [packetEnd, hexDigit (sum >>> 4)]), hexDigit (sum &&& 0x0f),
      by simp [bytes, hexByte], fun r hr => ?_⟩
    obtain ⟨r₁, r₂, hsilent, hlast, hwaits⟩ := PacketReader.feed_frame hr hend hroom sum
    refine ⟨r₁, r₂, hsilent, ?_, hwaits⟩
    rw [hlast, PacketReader.frameEvent, if_neg hsum]
    rfl

theorem Message.bytes_ne_nil {limit : ℕ} {m : Message} (h : m.Fits limit) : m.bytes ≠ [] := by
  obtain ⟨init, last, hbytes, -⟩ := Message.reads h
  simp [hbytes]

/-- The reader and the bytes that it has still to read stand for these messages. -/
inductive Carries (limit : ℕ) : PacketReader → Bytes → List Message → Prop
  | empty {r : PacketReader} (h : r.Waits limit) : Carries limit r [] []
  | partway {r base : PacketReader} {m : Message} {ms : List Message} (consumed : Bytes)
      {rest : Bytes} (hbase : base.Waits limit) (hfits : ∀ m' ∈ m :: ms, m'.Fits limit)
      (hbytes : m.bytes = consumed ++ rest) (hrest : rest ≠ [])
      (hfeed : feed PacketReader.push base consumed = ([], r)) :
      Carries limit r (rest ++ ms.flatMap Message.bytes) (m :: ms)

namespace Carries

variable {limit : ℕ} {r : PacketReader} {stream : Bytes} {ms : List Message}

theorem of_waits (h : r.Waits limit) (hfits : ∀ m ∈ ms, m.Fits limit) :
    Carries limit r (ms.flatMap Message.bytes) ms := by
  cases ms with
  | nil => exact .empty h
  | cons m ms => exact .partway [] h hfits rfl (Message.bytes_ne_nil (hfits m (by simp))) rfl

/-- A message is sent. -/
theorem append (h : Carries limit r stream ms) {m : Message} (hm : m.Fits limit) :
    Carries limit r (stream ++ m.bytes) (ms ++ [m]) := by
  cases h with
  | empty h =>
    have hone : ∀ m' ∈ [m], m'.Fits limit := by simpa using hm
    simpa using of_waits h hone
  | @partway _ first ms consumed rest hbase hfits hbytes hrest hfeed =>
    have hall : ∀ m' ∈ first :: (ms ++ [m]), m'.Fits limit := by
      intro m' hmem
      rcases List.mem_append.mp (List.cons_append ▸ hmem) with hmem | hmem
      · exact hfits m' hmem
      · rwa [List.mem_singleton.mp hmem]
    simpa using Carries.partway consumed hbase hall hbytes hrest hfeed

/-- A byte is read: it belongs to the first message, or completes it. -/
theorem read {byte : UInt8} (h : Carries limit r (byte :: stream) ms) :
    (∃ r', r.push byte = (none, r') ∧ Carries limit r' stream ms) ∨
    ∃ m ms' r', ms = m :: ms' ∧ r.push byte = (some m.event, r') ∧ Carries limit r' stream ms' := by
  generalize hstream : byte :: stream = all at h
  cases h with
  | empty h => simp at hstream
  | @partway base m ms consumed rest hbase hfits hbytes hrest hfeed =>
    obtain ⟨init, last, hinit, hreads⟩ := Message.reads (hfits m (by simp))
    obtain ⟨r₁, r₂, hsilent, hlast, hwaits⟩ := hreads base hbase
    obtain ⟨first, rest, rfl⟩ := List.exists_cons_of_ne_nil hrest
    obtain ⟨rfl, rfl⟩ := List.cons.inj hstream
    rcases List.eq_nil_or_concat rest with rfl | ⟨rest', last', rfl⟩
    · -- the last byte of the message
      obtain ⟨rfl, hbyte⟩ := List.append_inj' (hinit.symm.trans hbytes) rfl
      obtain rfl : last = byte := by simpa using hbyte
      rw [hfeed, Prod.mk.injEq] at hsilent
      rw [← hsilent.2] at hlast
      exact .inr ⟨m, ms, r₂, rfl, hlast, of_waits hwaits fun m' hmem => hfits m' (by simp [hmem])⟩
    · left
      rw [List.concat_eq_append] at hbytes ⊢
      have hsplit : init ++ [last] = (consumed ++ byte :: rest') ++ [last'] := by
        simpa [hinit] using hbytes
      obtain ⟨rfl, -⟩ := List.append_inj' hsplit rfl
      have hnone := push_silent hfeed hsilent
      refine ⟨(r.push byte).2, Prod.ext hnone rfl, ?_⟩
      refine .partway (consumed ++ [byte]) hbase hfits (by simp [hbytes]) (by simp) ?_
      rw [feed_append_silent hfeed, feed_cons_silent (Prod.ext hnone rfl), feed_nil]

theorem ne_nil (h : Carries limit r stream ms) (hms : ms ≠ []) : stream ≠ [] := by
  cases h with
  | empty _ => exact absurd rfl hms
  | partway _ _ _ _ hrest _ => simp [hrest]

end Carries

/-! ### The shapes of an exchange -/

variable {τ : Type}

/-- What the shape of an exchange depends on. -/
structure View (τ : Type) where
  client : ClientPhase
  todo : List Bytes
  results : List (Except IoError Bytes)
  server : ServerPhase
  target : τ
  dispatched : List Bytes
  requestDamages : ℕ
  replyDamages : ℕ

def System.view (s : System τ) : View τ :=
  { client := s.client.phase
    todo := s.client.todo
    results := s.client.results
    server := s.server.phase
    target := s.server.target
    dispatched := s.server.dispatched
    requestDamages := s.requestDamages
    replyDamages := s.replyDamages }

/-- The last call has returned, or is about to. -/
inductive Answered : ClientPhase → List (Except IoError Bytes) → List Bytes → ℕ → Prop
  | ready {rs : List Bytes} : Answered .ready (rs.map .ok) rs 0
  | returning {rs : List Bytes} {reply : Bytes} :
      Answered (.returning reply) (rs.map .ok) (rs ++ [reply]) 1

theorem Answered.of_ready {results : List (Except IoError Bytes)} {rs : List Bytes} {extra : ℕ}
    (h : Answered .ready results rs extra) : results = rs.map .ok := by
  cases h
  rfl

theorem Answered.of_returning {results : List (Except IoError Bytes)} {rs : List Bytes} {extra : ℕ}
    {reply : Bytes} (h : Answered (.returning reply) results rs extra) :
    extra = 1 ∧ Answered .ready (results ++ [.ok reply]) rs 0 := by
  cases h with
  | @returning rs =>
    have hall : rs.map Except.ok ++ [(.ok reply : Except IoError Bytes)] =
        (rs ++ [reply]).map .ok := by simp
    rw [hall]
    exact ⟨rfl, .ready⟩

theorem Answered.isPrefix {phase : ClientPhase} {results : List (Except IoError Bytes)}
    {rs : List Bytes} {extra : ℕ} (h : Answered phase results rs extra) :
    results <+: rs.map .ok := by
  cases h with
  | ready => exact List.prefix_rfl
  | returning => exact (List.prefix_append _ _).map _

/-- The server reads, or will do so once it has read the acknowledgement of its last reply. -/
inductive Front : ServerPhase → List Message → Prop
  | reading : Front .reading []
  | awaitingAck {reply : Bytes} {resends : ℕ} : Front (.awaitingAck reply resends false) [.ack]

/-- The client receives, or will do so once it has read the acknowledgement of its request. -/
inductive Told : ClientPhase → List Message → Prop
  | receiving : Told .receiving []
  | awaitingAck {payload : Bytes} {resends : ℕ} : Told (.awaitingAck payload resends) [.ack]

/-- A packet that was sent so many times before, each time damaged. -/
inductive Sent (payload : Bytes) (resends : ℕ) : ℕ → Message → Prop
  | intact : Sent payload resends resends (.intact payload)
  | damaged {body : Bytes} {sum : UInt8} (h : resends < maxResends) :
      Sent payload resends (resends + 1) (.damaged body sum)

section Shapes

variable (dispatch : Bytes → τ → Disposition × τ) (clientLimit serverLimit : ℕ)
  (requests : List Bytes) (t₀ : τ)

/-- What was dispatched and replied so far, and what is still to be. -/
inductive Ledger : Bool → List Bytes → List Bytes → List Bytes → τ → Prop
  | more {dispatched todo rs : List Bytes} {target : τ} (hrequests : requests = dispatched ++ todo)
      (horderly : Orderly dispatch clientLimit serverLimit target todo)
      (hreplies : replies dispatch t₀ requests = rs ++ replies dispatch target todo) :
      Ledger false dispatched todo rs target
  | detached {dispatched rs : List Bytes} {target : τ} (hrequests : requests = dispatched)
      (hreplies : replies dispatch t₀ requests = rs) : Ledger true dispatched [] rs target

/-- The shape of an exchange: the messages to the server, those to the client, and the rank. -/
inductive Shape (v : View τ) : List Message → List Message → ℕ → Prop
  | quiet {rs : List Bytes} {extra : ℕ} {last : Bool}
      (hclient : Answered v.client v.results rs extra)
      (hserver : v.server = GdbStubServer.afterReply last)
      (hledger : Ledger dispatch clientLimit serverLimit requests t₀ last v.dispatched v.todo rs
        v.target) : Shape v [] [] (100 * v.todo.length + extra)
  | closing {rs : List Bytes} {extra : ℕ} {reply : Bytes} {resends : ℕ} {last : Bool}
      (hclient : Answered v.client v.results rs extra)
      (hserver : v.server = .awaitingAck reply resends last)
      (hledger : Ledger dispatch clientLimit serverLimit requests t₀ last v.dispatched v.todo rs
        v.target) : Shape v [.ack] [] (100 * v.todo.length + 2 + extra)
  | requestSending {rs : List Bytes} {payload : Bytes} {resends : ℕ} {front : List Message}
      (hclient : v.client = .sending payload resends) (hresults : v.results = rs.map .ok)
      (hserver : Front v.server front) (hdamages : v.requestDamages = resends)
      (hresends : resends ≤ maxResends)
      (hledger : Ledger dispatch clientLimit serverLimit requests t₀ false v.dispatched
        (payload :: v.todo) rs v.target) :
      Shape v front [] (100 * v.todo.length + 43 + 4 * (maxResends - resends) + front.length)
  | requestSent {rs : List Bytes} {payload : Bytes} {resends : ℕ} {front : List Message}
      {m : Message} (hclient : v.client = .awaitingAck payload resends)
      (hresults : v.results = rs.map .ok) (hserver : Front v.server front)
      (hsent : Sent payload resends v.requestDamages m)
      (hledger : Ledger dispatch clientLimit serverLimit requests t₀ false v.dispatched
        (payload :: v.todo) rs v.target) :
      Shape v (front ++ [m]) []
        (100 * v.todo.length + 42 + 4 * (maxResends - resends) + front.length)
  | rejected {rs : List Bytes} {payload : Bytes} {resends : ℕ}
      (hclient : v.client = .awaitingAck payload resends) (hresults : v.results = rs.map .ok)
      (hserver : v.server = .reading) (hdamages : v.requestDamages = resends + 1)
      (hresends : resends < maxResends)
      (hledger : Ledger dispatch clientLimit serverLimit requests t₀ false v.dispatched
        (payload :: v.todo) rs v.target) :
      Shape v [] [.nack] (100 * v.todo.length + 41 + 4 * (maxResends - resends))
  | dispatching {rs : List Bytes} {payload : Bytes} {back : List Message}
      (hclient : Told v.client back) (hresults : v.results = rs.map .ok)
      (hserver : v.server = .dispatching payload)
      (hledger : Ledger dispatch clientLimit serverLimit requests t₀ false v.dispatched
        (payload :: v.todo) rs v.target) : Shape v [] back (100 * v.todo.length + 39 + back.length)
  | replySending {rs : List Bytes} {reply : Bytes} {resends : ℕ} {last : Bool}
      {back : List Message} (hclient : Told v.client back) (hresults : v.results = rs.map .ok)
      (hserver : v.server = .sending reply resends last) (hdamages : v.replyDamages = resends)
      (hresends : resends ≤ maxResends) (hfits : FitsBoth clientLimit serverLimit reply)
      (hledger : Ledger dispatch clientLimit serverLimit requests t₀ last v.dispatched v.todo
        (rs ++ [reply]) v.target) :
      Shape v [] back (100 * v.todo.length + 5 + 4 * (maxResends - resends) + back.length)
  | replySent {rs : List Bytes} {reply : Bytes} {resends : ℕ} {last : Bool}
      {back : List Message} {m : Message} (hclient : Told v.client back)
      (hresults : v.results = rs.map .ok) (hserver : v.server = .awaitingAck reply resends last)
      (hsent : Sent reply resends v.replyDamages m)
      (hfits : FitsBoth clientLimit serverLimit reply)
      (hledger : Ledger dispatch clientLimit serverLimit requests t₀ last v.dispatched v.todo
        (rs ++ [reply]) v.target) :
      Shape v [] (back ++ [m])
        (100 * v.todo.length + 4 + 4 * (maxResends - resends) + back.length)
  | replyRejected {rs : List Bytes} {reply : Bytes} {resends : ℕ} {last : Bool}
      (hclient : v.client = .receiving) (hresults : v.results = rs.map .ok)
      (hserver : v.server = .awaitingAck reply resends last)
      (hdamages : v.replyDamages = resends + 1) (hresends : resends < maxResends)
      (hfits : FitsBoth clientLimit serverLimit reply)
      (hledger : Ledger dispatch clientLimit serverLimit requests t₀ last v.dispatched v.todo
        (rs ++ [reply]) v.target) :
      Shape v [.nack] [] (100 * v.todo.length + 3 + 4 * (maxResends - resends))

/-- The bytes under way stand for the messages of a shape. -/
structure Sound (s : System τ) (rank : ℕ) : Prop where
  client : s.client.maxPacketPayload = clientLimit
  server : s.server.maxPacketPayload = serverLimit
  shape : ∃ up down, Shape dispatch clientLimit serverLimit requests t₀ s.view up down rank ∧
    Carries serverLimit s.server.reader (s.toServer ++ s.client.out) up ∧
    Carries clientLimit s.client.reader (s.toClient ++ s.server.out) down

end Shapes

/-- The bytes that are still to be written and read. -/
def System.size (s : System τ) : ℕ :=
  2 * (s.client.out.length + s.server.out.length) + s.toServer.length + s.toClient.length

/-! ### Messages completed -/

namespace GdbRemoteClient

variable {c : GdbRemoteClient} {payload : Bytes} {resends : ℕ}

theorem handle_ack (h : c.phase = .awaitingAck payload resends) :
    c.handle (some .ack) = { c with phase := .receiving } := by
  simp [handle, h]

theorem handle_nack (h : c.phase = .awaitingAck payload resends) (hresends : resends < maxResends) :
    c.handle (some .nack) = { c with phase := .sending payload (resends + 1) } := by
  simp [handle, h, hresends]

theorem handle_intact (h : c.phase = .receiving) (reply : Bytes) :
    c.handle (some (.packet reply true)) =
      { c with phase := .returning reply, out := [ackByte] } := by
  simp [handle, h]

theorem handle_damaged (h : c.phase = .receiving) (reply : Bytes) :
    c.handle (some (.packet reply false)) = { c with out := [nackByte] } := by
  simp [handle, h]

end GdbRemoteClient

namespace GdbStubServer

variable {v : GdbStubServer τ} {reply : Bytes} {resends : ℕ} {last : Bool}

theorem handle_ack (h : v.phase = .awaitingAck reply resends last) :
    v.handle (some .ack) = { v with phase := afterReply last } := by
  simp [handle, h]

theorem handle_nack (h : v.phase = .awaitingAck reply resends last)
    (hresends : resends < maxResends) :
    v.handle (some .nack) = { v with phase := .sending reply (resends + 1) last } := by
  simp [handle, h, hresends]

theorem handle_intact (h : v.phase = .reading) (payload : Bytes) :
    v.handle (some (.packet payload true)) =
      { v with phase := .dispatching payload, out := [ackByte] } := by
  simp [handle, h]

theorem handle_damaged (h : v.phase = .reading) (payload : Bytes) :
    v.handle (some (.packet payload false)) = { v with out := [nackByte] } := by
  simp [handle, h]

end GdbStubServer

section Completed

variable {dispatch : Bytes → τ → Disposition × τ} {clientLimit serverLimit : ℕ}
  {requests : List Bytes} {t₀ : τ}

/-- The client completes a message: it may send one in turn, and the rank falls. -/
theorem shape_clientReads {s : System τ} {m : Message} {up ms : List Message} {rank : ℕ}
    (h : Shape dispatch clientLimit serverLimit requests t₀ s.view up (m :: ms) rank)
    (hout : s.client.out = []) :
    ∃ sent rank', rank' < rank ∧ (s.client.handle (some m.event)).out = sent.flatMap Message.bytes ∧
      (∀ m' ∈ sent, m'.Fits serverLimit) ∧
      Shape dispatch clientLimit serverLimit requests t₀
        { s with client := s.client.handle (some m.event) }.view (up ++ sent) ms rank' := by
  generalize hdown : m :: ms = down at h
  cases h with
  | quiet | closing | requestSending | requestSent | replyRejected => simp at hdown
  | rejected hclient hresults hserver hdamages hresends hledger =>
    obtain ⟨rfl, rfl⟩ := List.cons.inj hdown
    rw [Message.event, GdbRemoteClient.handle_nack hclient hresends]
    exact ⟨[], _, by simp [System.view]; omega, hout, by simp, .requestSending rfl hresults
      (hserver ▸ .reading)
      hdamages hresends hledger⟩
  | dispatching hclient hresults hserver hledger =>
    generalize hphase : s.view.client = phase at hclient
    cases hclient with
    | receiving => simp at hdown
    | awaitingAck =>
      obtain ⟨rfl, rfl⟩ := List.cons.inj hdown
      rw [Message.event, GdbRemoteClient.handle_ack hphase]
      exact ⟨[], _, by simp [System.view], hout, by simp,
        .dispatching .receiving hresults hserver hledger⟩
  | replySending hclient hresults hserver hdamages hresends hfits hledger =>
    generalize hphase : s.view.client = phase at hclient
    cases hclient with
    | receiving => simp at hdown
    | awaitingAck =>
      obtain ⟨rfl, rfl⟩ := List.cons.inj hdown
      rw [Message.event, GdbRemoteClient.handle_ack hphase]
      exact ⟨[], _, by simp [System.view], hout, by simp,
        .replySending .receiving hresults hserver hdamages hresends hfits hledger⟩
  | @replySent rs reply _ _ _ _ hclient hresults hserver hsent hfits hledger =>
    generalize hphase : s.view.client = phase at hclient
    cases hclient with
    | awaitingAck =>
      obtain ⟨rfl, rfl⟩ := List.cons.inj hdown
      rw [Message.event, GdbRemoteClient.handle_ack hphase]
      exact ⟨[], _, by simp [System.view], hout, by simp,
        .replySent .receiving hresults hserver hsent hfits hledger⟩
    | receiving =>
      obtain ⟨rfl, rfl⟩ := List.cons.inj hdown
      generalize hreplyDamages : s.view.replyDamages = damages at hsent
      cases hsent with
      | intact =>
        have hanswered : Answered (.returning reply) s.view.results (rs ++ [reply]) 1 := by
          rw [hresults]
          exact .returning
        rw [Message.event, GdbRemoteClient.handle_intact hphase]
        exact ⟨[.ack], _, by simp [System.view]; omega, rfl, by simp [Message.Fits],
          .closing hanswered hserver hledger⟩
      | damaged hresends =>
        rw [Message.event, GdbRemoteClient.handle_damaged hphase]
        exact ⟨[.nack], _, by simp [System.view], rfl, by simp [Message.Fits],
          .replyRejected hphase hresults hserver hreplyDamages hresends hfits hledger⟩

theorem shape_serverReads {s : System τ} {m : Message} {ms down : List Message} {rank : ℕ}
    (h : Shape dispatch clientLimit serverLimit requests t₀ s.view (m :: ms) down rank)
    (hout : s.server.out = []) :
    ∃ sent rank', rank' < rank ∧ (s.server.handle (some m.event)).out = sent.flatMap Message.bytes ∧
      (∀ m' ∈ sent, m'.Fits clientLimit) ∧
      Shape dispatch clientLimit serverLimit requests t₀
        { s with server := s.server.handle (some m.event) }.view ms (down ++ sent) rank' := by
  generalize hup : m :: ms = up at h
  cases h with
  | quiet | rejected | dispatching | replySending | replySent => simp at hup
  | closing hclient hserver hledger =>
    obtain ⟨rfl, rfl⟩ := List.cons.inj hup
    rw [Message.event, GdbStubServer.handle_ack hserver]
    exact ⟨[], _, by simp [System.view], hout, by simp, .quiet hclient rfl hledger⟩
  | requestSending hclient hresults hserver hdamages hresends hledger =>
    generalize hphase : s.view.server = phase at hserver
    cases hserver with
    | reading => simp at hup
    | awaitingAck =>
      obtain ⟨rfl, rfl⟩ := List.cons.inj hup
      rw [Message.event, GdbStubServer.handle_ack hphase]
      exact ⟨[], _, by simp [System.view], hout, by simp,
        .requestSending hclient hresults .reading hdamages hresends hledger⟩
  | requestSent hclient hresults hserver hsent hledger =>
    generalize hphase : s.view.server = phase at hserver
    cases hserver with
    | awaitingAck =>
      obtain ⟨rfl, rfl⟩ := List.cons.inj hup
      rw [Message.event, GdbStubServer.handle_ack hphase]
      exact ⟨[], _, by simp [System.view], hout, by simp,
        .requestSent hclient hresults .reading hsent hledger⟩
    | reading =>
      obtain ⟨rfl, rfl⟩ := List.cons.inj hup
      generalize hrequestDamages : s.view.requestDamages = damages at hsent
      cases hsent with
      | intact =>
        have htold : Told s.view.client [.ack] := by
          rw [hclient]
          exact .awaitingAck
        rw [Message.event, GdbStubServer.handle_intact hphase]
        exact ⟨[.ack], _, by simp [System.view]; omega, rfl, by simp [Message.Fits],
          .dispatching htold hresults rfl hledger⟩
      | damaged hresends =>
        rw [Message.event, GdbStubServer.handle_damaged hphase]
        exact ⟨[.nack], _, by simp [System.view], rfl, by simp [Message.Fits],
          .rejected hclient hresults hphase hrequestDamages hresends hledger⟩
  | replyRejected hclient hresults hserver hdamages hresends hfits hledger =>
    obtain ⟨rfl, rfl⟩ := List.cons.inj hup
    have htold : Told s.view.client [] := by
      rw [hclient]
      exact .receiving
    rw [Message.event, GdbStubServer.handle_nack hserver hresends]
    exact ⟨[], _, by simp [System.view]; omega, hout, by simp,
      .replySending htold hresults rfl hdamages hresends hfits hledger⟩

/-! ### The other steps -/

/-- A request that was dispatched is answered, and the last one closes the ledger. -/
theorem Ledger.serve {dispatched todo rs : List Bytes} {payload : Bytes} {target : τ}
    (h : Ledger dispatch clientLimit serverLimit requests t₀ false dispatched (payload :: todo) rs
      target) :
    ∃ reply last, (dispatch payload target).1 =
        (if last = true then .detach reply else .reply reply) ∧
      FitsBoth clientLimit serverLimit reply ∧
      Ledger dispatch clientLimit serverLimit requests t₀ last (dispatched ++ [payload]) todo
        (rs ++ [reply]) (dispatch payload target).2 := by
  cases h with
  | more hrequests horderly hreplies =>
    rcases hdispatch : dispatch payload target with ⟨reply | reply | _, target'⟩
    · simp only [Orderly, replies, hdispatch] at horderly hreplies
      exact ⟨reply, false, rfl, horderly.2.1,
        .more (by simp [hrequests]) horderly.2.2 (by simp [hreplies])⟩
    · simp only [Orderly, replies, hdispatch] at horderly hreplies
      obtain ⟨-, hfits, rfl⟩ := horderly
      exact ⟨reply, true, rfl, hfits, .detached (by simp [hrequests]) hreplies⟩
    · simp only [Orderly, hdispatch, and_false] at horderly

theorem Ledger.fits {dispatched todo rs : List Bytes} {payload : Bytes} {target : τ}
    (h : Ledger dispatch clientLimit serverLimit requests t₀ false dispatched (payload :: todo) rs
      target) : FitsBoth clientLimit serverLimit payload := by
  cases h with
  | more _ horderly _ => exact horderly.1

theorem Ledger.prefixes {last : Bool} {dispatched todo rs : List Bytes} {target : τ}
    (h : Ledger dispatch clientLimit serverLimit requests t₀ last dispatched todo rs target) :
    dispatched <+: requests ∧ rs <+: replies dispatch t₀ requests := by
  cases h with
  | more hrequests _ hreplies =>
    rw [hreplies]
    exact ⟨hrequests ▸ List.prefix_append _ _, List.prefix_append _ _⟩
  | detached hrequests hreplies => exact ⟨hrequests ▸ List.prefix_rfl, hreplies ▸ List.prefix_rfl⟩

theorem Ledger.complete {last : Bool} {dispatched rs : List Bytes} {target : τ}
    (h : Ledger dispatch clientLimit serverLimit requests t₀ last dispatched [] rs target) :
    dispatched = requests ∧ rs = replies dispatch t₀ requests := by
  cases h with
  | more hrequests _ hreplies =>
    exact ⟨by simpa using hrequests.symm, by simpa [replies] using hreplies.symm⟩
  | detached hrequests hreplies => exact ⟨hrequests.symm, hreplies.symm⟩

/-- A packet goes on its way as a message that stands for it. -/
theorem sent_of_transmits {payload frame : Bytes} {resends damages limit : ℕ}
    (h : System.Transmits payload resends frame damages)
    (hfits : (Item.packet payload).Fits limit) :
    ∃ m : Message, m.bytes = frame ∧ m.Fits limit ∧ Sent payload resends damages m := by
  cases h with
  | intact => exact ⟨.intact payload, rfl, hfits, .intact⟩
  | damaged hresends hframe =>
    obtain ⟨body, hlength, hend, hsum, rfl⟩ := hframe
    refine ⟨.damaged body (checksum (payload.flatMap escape)), rfl, ⟨hend, ?_, hsum.symm⟩,
      .damaged hresends⟩
    rw [hlength]
    exact PacketReader.escaped_fits hfits

theorem shape_begins {v : View τ} {up down : List Message} {rank : ℕ} {payload : Bytes}
    {rest : List Bytes} (h : Shape dispatch clientLimit serverLimit requests t₀ v up down rank)
    (hphase : v.client = .ready) (htodo : v.todo = payload :: rest) :
    FitsBoth clientLimit serverLimit payload ∧ ∃ rank' < rank,
      Shape dispatch clientLimit serverLimit requests t₀
        { v with
          client := .sending payload 0, todo := rest, requestDamages := 0 } up down rank' := by
  cases h with
  | @quiet rs extra last hclient hserver hledger =>
    rw [htodo] at hledger
    cases last with
    | true => cases hledger
    | false =>
      rw [hphase] at hclient
      refine ⟨hledger.fits, _, ?_,
        .requestSending rfl hclient.of_ready (hserver ▸ .reading) rfl (Nat.zero_le _) hledger⟩
      simp [htodo, maxResends]
      omega
  | @closing rs extra reply resends last hclient hserver hledger =>
    rw [htodo] at hledger
    cases last with
    | true => cases hledger
    | false =>
      rw [hphase] at hclient
      refine ⟨hledger.fits, _, ?_,
        .requestSending rfl hclient.of_ready (hserver ▸ .awaitingAck) rfl (Nat.zero_le _) hledger⟩
      simp [htodo, maxResends]
      omega
  | requestSending hclient | requestSent hclient | rejected hclient | replyRejected hclient =>
    exact nomatch hphase.symm.trans hclient
  | dispatching hclient | replySending hclient | replySent hclient =>
    rw [hphase] at hclient
    cases hclient

theorem shape_returns {v : View τ} {up down : List Message} {rank : ℕ} {reply : Bytes}
    (h : Shape dispatch clientLimit serverLimit requests t₀ v up down rank)
    (hphase : v.client = .returning reply) :
    ∃ rank' < rank, Shape dispatch clientLimit serverLimit requests t₀
      { v with client := .ready, results := v.results ++ [.ok reply] } up down rank' := by
  cases h with
  | quiet hclient hserver hledger =>
    rw [hphase] at hclient
    obtain ⟨rfl, hanswered⟩ := hclient.of_returning
    exact ⟨_, by simp, .quiet hanswered hserver hledger⟩
  | closing hclient hserver hledger =>
    rw [hphase] at hclient
    obtain ⟨rfl, hanswered⟩ := hclient.of_returning
    exact ⟨_, by simp, .closing hanswered hserver hledger⟩
  | requestSending hclient | requestSent hclient | rejected hclient | replyRejected hclient =>
    exact nomatch hphase.symm.trans hclient
  | dispatching hclient | replySending hclient | replySent hclient =>
    rw [hphase] at hclient
    cases hclient

theorem shape_requests {v : View τ} {up down : List Message} {rank resends : ℕ} {payload : Bytes}
    (h : Shape dispatch clientLimit serverLimit requests t₀ v up down rank)
    (hphase : v.client = .sending payload resends) :
    (Item.packet payload).Fits serverLimit ∧ v.requestDamages = resends ∧
    ∀ m damages, Sent payload resends damages m → ∃ rank' < rank,
      Shape dispatch clientLimit serverLimit requests t₀
        { v with client := .awaitingAck payload resends, requestDamages := damages }
        (up ++ [m]) down
        rank' := by
  cases h with
  | requestSending hclient hresults hserver hdamages hresends hledger =>
    obtain ⟨rfl, rfl⟩ := ClientPhase.sending.inj (hphase.symm.trans hclient)
    refine ⟨hledger.fits.2, hdamages, fun m damages hsent => ⟨_, ?_,
      .requestSent rfl hresults hserver hsent hledger⟩⟩
    simp
  | requestSent hclient | rejected hclient | replyRejected hclient =>
    exact nomatch hphase.symm.trans hclient
  | quiet hclient | closing hclient | dispatching hclient | replySending hclient
  | replySent hclient =>
    rw [hphase] at hclient
    cases hclient

theorem shape_replies {v : View τ} {up down : List Message} {rank resends : ℕ} {reply : Bytes}
    {last : Bool} (h : Shape dispatch clientLimit serverLimit requests t₀ v up down rank)
    (hphase : v.server = .sending reply resends last) :
    (Item.packet reply).Fits clientLimit ∧ v.replyDamages = resends ∧
    ∀ m damages, Sent reply resends damages m → ∃ rank' < rank,
      Shape dispatch clientLimit serverLimit requests t₀
        { v with server := .awaitingAck reply resends last, replyDamages := damages } up
        (down ++ [m]) rank' := by
  cases h with
  | replySending hclient hresults hserver hdamages hresends hfits hledger =>
    obtain ⟨rfl, rfl, rfl⟩ := ServerPhase.sending.inj (hphase.symm.trans hserver)
    refine ⟨hfits.1, hdamages, fun m damages hsent => ⟨_, ?_,
      .replySent hclient hresults rfl hsent hfits hledger⟩⟩
    simp
  | @quiet _ _ last _ hserver =>
    cases last <;> exact nomatch hphase.symm.trans hserver
  | closing _ hserver | rejected _ _ hserver | dispatching _ _ hserver | replySent _ _ hserver
  | replyRejected _ _ hserver => exact nomatch hphase.symm.trans hserver
  | requestSending _ _ hserver | requestSent _ _ hserver =>
    rw [hphase] at hserver
    cases hserver

theorem shape_dispatches {v : View τ} {up down : List Message} {rank : ℕ} {payload : Bytes}
    (h : Shape dispatch clientLimit serverLimit requests t₀ v up down rank)
    (hphase : v.server = .dispatching payload) :
    ∃ reply last, (dispatch payload v.target).1 =
        (if last = true then .detach reply else .reply reply) ∧
      (Item.packet reply).Fits serverLimit ∧ ∃ rank' < rank,
      Shape dispatch clientLimit serverLimit requests t₀
        { v with
          server := .sending reply 0 last
          target := (dispatch payload v.target).2
          dispatched := v.dispatched ++ [payload]
          replyDamages := 0 } up down rank' := by
  cases h with
  | dispatching hclient hresults hserver hledger =>
    obtain rfl := ServerPhase.dispatching.inj (hphase.symm.trans hserver)
    obtain ⟨reply, last, hdispatch, hfits, hledger'⟩ := hledger.serve
    refine ⟨reply, last, hdispatch, hfits.2, _, ?_,
      .replySending hclient hresults rfl rfl (Nat.zero_le _) hfits hledger'⟩
    simp [maxResends]
  | @quiet _ _ last _ hserver =>
    cases last <;> exact nomatch hphase.symm.trans hserver
  | closing _ hserver | rejected _ _ hserver | replySending _ _ hserver | replySent _ _ hserver
  | replyRejected _ _ hserver => exact nomatch hphase.symm.trans hserver
  | requestSending _ _ hserver | requestSent _ _ hserver =>
    rw [hphase] at hserver
    cases hserver

/-! ### One step -/

theorem GdbRemoteClient.handle_none (c : GdbRemoteClient) : c.handle none = c := by
  unfold GdbRemoteClient.handle
  cases c.phase <;> rfl

theorem GdbRemoteClient.handle_kept (c : GdbRemoteClient) (event : Option PacketEvent) :
    (c.handle event).reader = c.reader ∧
      (c.handle event).maxPacketPayload = c.maxPacketPayload := by
  unfold GdbRemoteClient.handle
  split <;> try split_ifs
  all_goals exact ⟨rfl, rfl⟩

theorem GdbStubServer.handle_none (v : GdbStubServer τ) : v.handle none = v := by
  unfold GdbStubServer.handle
  cases v.phase <;> rfl

theorem GdbStubServer.handle_kept (v : GdbStubServer τ) (event : Option PacketEvent) :
    (v.handle event).reader = v.reader ∧
      (v.handle event).maxPacketPayload = v.maxPacketPayload := by
  unfold GdbStubServer.handle
  split <;> try split_ifs
  all_goals exact ⟨rfl, rfl⟩

theorem Carries.append_all {limit : ℕ} {r : PacketReader} {stream : Bytes} {ms : List Message}
    (h : Carries limit r stream ms) {sent : List Message} (hsent : ∀ m ∈ sent, m.Fits limit) :
    Carries limit r (stream ++ sent.flatMap Message.bytes) (ms ++ sent) := by
  induction sent generalizing stream ms with
  | nil => simpa using h
  | cons m sent ih =>
    have := ih (h.append (hsent m (by simp))) fun m' hmem => hsent m' (by simp [hmem])
    simpa using this

/-- A step keeps the shape and leaves fewer bytes, or leads to a shape of lower rank. -/
theorem sound_step {s s' : System τ} {rank : ℕ}
    (h : Sound dispatch clientLimit serverLimit requests t₀ s rank)
    (hstep : System.Step dispatch s s') :
    ∃ rank', Sound dispatch clientLimit serverLimit requests t₀ s' rank' ∧
      (rank' < rank ∨ rank' = rank ∧ s'.size < s.size) := by
  obtain ⟨hclientLimit, hserverLimit, up, down, hshape, hup, hdown⟩ := h
  cases hstep with
  | @begins payload rest hphase hout htodo =>
    obtain ⟨hfits, rank', hlt, hshape'⟩ := shape_begins hshape hphase htodo
    have hbegin : ¬ s.client.maxPacketPayload < payload.length := by
      rw [hclientLimit]
      exact Nat.not_lt.mpr hfits.1.1
    refine ⟨rank', ?_, .inl hlt⟩
    rw [GdbRemoteClient.begin, if_neg hbegin]
    exact ⟨hclientLimit, hserverLimit, up, down, hshape', hup, hdown⟩
  | @requests payload frame resends damages hphase hout hframe =>
    obtain ⟨hfits, hdamages, hsend⟩ := shape_requests hshape hphase
    rw [show s.requestDamages = resends from hdamages] at hframe
    obtain ⟨m, rfl, hm, hsent⟩ := sent_of_transmits hframe hfits
    obtain ⟨rank', hlt, hshape'⟩ := hsend m damages hsent
    rw [hout, List.append_nil] at hup
    exact ⟨rank', ⟨hclientLimit, hserverLimit, _, down, hshape', hup.append hm, hdown⟩, .inl hlt⟩
  | @clientWrites byte rest hout =>
    refine ⟨rank, ⟨hclientLimit, hserverLimit, up, down, hshape, ?_, hdown⟩, .inr ⟨rfl, ?_⟩⟩
    · simpa [hout] using hup
    · simp [System.size, hout]
      omega
  | @clientReads byte rest hreads hout hin =>
    rw [hin, List.cons_append] at hdown
    rcases hdown.read with ⟨r', hpush, hcarries⟩ | ⟨m, ms, r', rfl, hpush, hcarries⟩
    · -- within a message
      rw [GdbRemoteClient.onByte, hpush, GdbRemoteClient.handle_none]
      refine ⟨rank, ⟨hclientLimit, hserverLimit, up, down, hshape, hup, hcarries⟩,
        .inr ⟨rfl, ?_⟩⟩
      simp [System.size, hin]
    · rw [GdbRemoteClient.onByte, hpush]
      let c : GdbRemoteClient := { s.client with reader := r' }
      obtain ⟨hreader, hlimit⟩ := c.handle_kept (some m.event)
      obtain ⟨sent, rank', hlt, hsentBytes, hsent, hshape'⟩ :=
        shape_clientReads (s := { s with client := c }) hshape hout
      refine ⟨rank', ⟨hlimit.trans hclientLimit, hserverLimit, _, ms, hshape', ?_, ?_⟩, .inl hlt⟩
      · change Carries serverLimit s.server.reader (s.toServer ++ (c.handle (some m.event)).out) _
        rw [hsentBytes]
        rw [hout, List.append_nil] at hup
        exact hup.append_all hsent
      · change Carries clientLimit (c.handle (some m.event)).reader _ ms
        rw [hreader]
        exact hcarries
  | returns hphase hout =>
    obtain ⟨rank', hlt, hshape'⟩ := shape_returns hshape hphase
    exact ⟨rank', ⟨hclientLimit, hserverLimit, up, down, hshape', hup, hdown⟩, .inl hlt⟩
  | @serverWrites byte rest hout =>
    refine ⟨rank, ⟨hclientLimit, hserverLimit, up, down, hshape, hup, ?_⟩, .inr ⟨rfl, ?_⟩⟩
    · simpa [hout] using hdown
    · simp [System.size, hout]
      omega
  | @serverReads byte rest hreads hout hin =>
    rw [hin, List.cons_append] at hup
    rcases hup.read with ⟨r', hpush, hcarries⟩ | ⟨m, ms, r', rfl, hpush, hcarries⟩
    · rw [GdbStubServer.onByte, hpush, GdbStubServer.handle_none]
      refine ⟨rank, ⟨hclientLimit, hserverLimit, up, down, hshape, hcarries, hdown⟩,
        .inr ⟨rfl, ?_⟩⟩
      simp [System.size, hin]
    · rw [GdbStubServer.onByte, hpush]
      let v : GdbStubServer τ := { s.server with reader := r' }
      obtain ⟨hreader, hlimit⟩ := v.handle_kept (some m.event)
      obtain ⟨sent, rank', hlt, hsentBytes, hsent, hshape'⟩ :=
        shape_serverReads (s := { s with server := v }) hshape hout
      refine ⟨rank', ⟨hclientLimit, hlimit.trans hserverLimit, ms, _, hshape', ?_, ?_⟩, .inl hlt⟩
      · change Carries serverLimit (v.handle (some m.event)).reader _ ms
        rw [hreader]
        exact hcarries
      · change Carries clientLimit s.client.reader (s.toClient ++ (v.handle (some m.event)).out) _
        rw [hsentBytes]
        rw [hout, List.append_nil] at hdown
        exact hdown.append_all hsent
  | @dispatches payload hphase hout =>
    obtain ⟨reply, last, hdispatch, hfits, rank', hlt, hshape'⟩ := shape_dispatches hshape hphase
    have hserve : s.server.serve dispatch payload = { s.server with
        phase := .sending reply 0 last
        target := (dispatch payload s.server.target).2
        dispatched := s.server.dispatched ++ [payload] } := by
      have hroom : ¬ s.server.maxPacketPayload < reply.length := by
        rw [hserverLimit]
        exact Nat.not_lt.mpr hfits.1
      rw [GdbStubServer.serve, show (dispatch payload s.server.target).1 = _ from hdispatch]
      cases last <;> exact if_neg hroom
    refine ⟨rank', ?_, .inl hlt⟩
    rw [hserve]
    exact ⟨hclientLimit, hserverLimit, up, down, hshape', hup, hdown⟩
  | @replies reply frame resends damages last hphase hout hframe =>
    obtain ⟨hfits, hdamages, hsend⟩ := shape_replies hshape hphase
    rw [show s.replyDamages = resends from hdamages] at hframe
    obtain ⟨m, rfl, hm, hsent⟩ := sent_of_transmits hframe hfits
    obtain ⟨rank', hlt, hshape'⟩ := hsend m damages hsent
    rw [hout, List.append_nil] at hdown
    exact ⟨rank', ⟨hclientLimit, hserverLimit, up, _, hshape', hup, hdown.append hm⟩, .inl hlt⟩

/-! ### Whole runs -/

theorem sound_start (horderly : Orderly dispatch clientLimit serverLimit t₀ requests) :
    Sound dispatch clientLimit serverLimit requests t₀
      (.start clientLimit serverLimit requests t₀) (100 * requests.length) := by
  refine ⟨rfl, rfl, [], [], ?_, .empty ⟨rfl, rfl, rfl⟩, .empty ⟨rfl, rfl, rfl⟩⟩
  have hledger : Ledger dispatch clientLimit serverLimit requests t₀ false [] requests [] t₀ :=
    .more rfl horderly rfl
  have hclient : Answered (System.start clientLimit serverLimit requests t₀).view.client
      (System.start clientLimit serverLimit requests t₀).view.results [] 0 :=
    @Answered.ready []
  have hserver : (System.start clientLimit serverLimit requests t₀).view.server =
      GdbStubServer.afterReply false := rfl
  exact .quiet hclient hserver hledger

/-- What was dispatched and returned so far. -/
theorem sound_prefixes {s : System τ} {rank : ℕ}
    (h : Sound dispatch clientLimit serverLimit requests t₀ s rank) :
    s.server.dispatched <+: requests ∧
      s.client.results <+: (replies dispatch t₀ requests).map .ok := by
  obtain ⟨-, -, up, down, hshape, -, -⟩ := h
  cases hshape with
  | quiet hclient _ hledger | closing hclient _ hledger =>
    exact ⟨hledger.prefixes.1, hclient.isPrefix.trans (hledger.prefixes.2.map _)⟩
  | requestSending _ hresults _ _ _ hledger | requestSent _ hresults _ _ hledger
  | rejected _ hresults _ _ _ hledger | dispatching _ hresults _ hledger =>
    refine ⟨hledger.prefixes.1, ?_⟩
    rw [show s.client.results = _ from hresults]
    exact hledger.prefixes.2.map _
  | replySending _ hresults _ _ _ _ hledger | replySent _ hresults _ _ _ hledger
  | replyRejected _ hresults _ _ _ _ hledger =>
    refine ⟨hledger.prefixes.1, ?_⟩
    rw [show s.client.results = _ from hresults]
    exact ((List.prefix_append _ _).trans hledger.prefixes.2).map _

/-- A system that cannot go on has answered every request. -/
theorem sound_progress {s : System τ} {rank : ℕ}
    (h : Sound dispatch clientLimit serverLimit requests t₀ s rank)
    (hstuck : ∀ s', ¬ System.Step dispatch s s') :
    s.server.dispatched = requests ∧
      s.client.results = (replies dispatch t₀ requests).map .ok := by
  obtain ⟨hclientLimit, hserverLimit, up, down, hshape, hup, hdown⟩ := h
  have hclientOut : s.client.out = [] := by
    rcases hout : s.client.out with _ | ⟨byte, rest⟩
    · rfl
    · exact absurd (.clientWrites hout) (hstuck _)
  have hserverOut : s.server.out = [] := by
    rcases hout : s.server.out with _ | ⟨byte, rest⟩
    · rfl
    · exact absurd (.serverWrites hout) (hstuck _)
  rw [hclientOut, List.append_nil] at hup
  rw [hserverOut, List.append_nil] at hdown
  -- a message under way can be read by the party that waits for it
  have hserverReads : s.server.Reads → up = [] := by
    intro hreads
    by_contra hne
    obtain ⟨byte, rest, hin⟩ := List.exists_cons_of_ne_nil (hup.ne_nil hne)
    exact hstuck _ (.serverReads hreads hserverOut hin)
  have hclientReads : s.client.Reads → down = [] := by
    intro hreads
    by_contra hne
    obtain ⟨byte, rest, hin⟩ := List.exists_cons_of_ne_nil (hdown.ne_nil hne)
    exact hstuck _ (.clientReads hreads hclientOut hin)
  cases hshape with
  | quiet hclient hserver hledger =>
    generalize hphase : s.view.client = phase at hclient
    generalize hresults : s.view.results = results at hclient
    cases hclient with
    | returning => exact absurd (.returns hphase hclientOut) (hstuck _)
    | ready =>
      rcases htodo : s.view.todo with _ | ⟨payload, rest⟩
      · rw [htodo] at hledger
        obtain ⟨hdispatched, rfl⟩ := hledger.complete
        exact ⟨hdispatched, hresults⟩
      · exact absurd (.begins hphase hclientOut htodo) (hstuck _)
  | closing hclient hserver hledger =>
    exact absurd (hserverReads (.inr ⟨_, _, _, hserver⟩)) (by simp)
  | requestSending hclient =>
    exact absurd (.requests hclient hclientOut .intact) (hstuck _)
  | requestSent hclient hresults hserver =>
    have hreads : s.server.Reads := by
      generalize hphase : s.view.server = phase at hserver
      cases hserver with
      | reading => exact .inl hphase
      | awaitingAck => exact .inr ⟨_, _, _, hphase⟩
    exact absurd (hserverReads hreads) (by simp)
  | rejected hclient => exact absurd (hclientReads (.inl ⟨_, _, hclient⟩)) (by simp)
  | dispatching hclient hresults hserver =>
    exact absurd (.dispatches hserver hserverOut) (hstuck _)
  | replySending hclient hresults hserver =>
    exact absurd (.replies hserver hserverOut .intact) (hstuck _)
  | replySent hclient =>
    have hreads : s.client.Reads := by
      generalize hphase : s.view.client = phase at hclient
      cases hclient with
      | receiving => exact .inr hphase
      | awaitingAck => exact .inl ⟨_, _, hphase⟩
    exact absurd (hclientReads hreads) (by simp)
  | replyRejected hclient hresults hserver =>
    exact absurd (hserverReads (.inr ⟨_, _, _, hserver⟩)) (by simp)

end Completed

/-- CORRECT (exactly once): whatever the interleaving and the damages, the requests are dispatched
    once each and in order, every call returns the reply to its own request, and no run goes on for
    ever or stops before every request was dispatched and answered. -/
theorem requests_answered_once (dispatch : Bytes → τ → Disposition × τ)
    (clientLimit serverLimit : ℕ)
    (requests : List Bytes) (t₀ : τ)
    (horderly : Orderly dispatch clientLimit serverLimit t₀ requests) {s : System τ}
    (hrun : ReflTransGen (System.Step dispatch) (.start clientLimit serverLimit requests t₀) s) :
    s.server.dispatched <+: requests ∧
    s.client.results <+: (replies dispatch t₀ requests).map .ok ∧
    ((∀ s', ¬ System.Step dispatch s s') → s.server.dispatched = requests ∧
      s.client.results = (replies dispatch t₀ requests).map .ok) ∧
    ∀ f : ℕ → System τ, f 0 = s → ¬ ∀ n, System.Step dispatch (f n) (f (n + 1)) := by
  obtain ⟨rank, hsound⟩ := reachable_invariant
    (fun s => ∃ rank, Sound dispatch clientLimit serverLimit requests t₀ s rank)
    ⟨_, sound_start horderly⟩
    (fun s s' ⟨_, hsound⟩ hstep => (sound_step hsound hstep).imp fun _ h => h.1) hrun
  refine ⟨(sound_prefixes hsound).1, (sound_prefixes hsound).2, sound_progress hsound, ?_⟩
  have hranked : Sound dispatch clientLimit serverLimit requests t₀ s
      (ofLex (toLex (rank, s.size))).1 ∧ (ofLex (toLex (rank, s.size))).2 = s.size := ⟨hsound, rfl⟩
  refine no_endless_run (fun s (a : ℕ ×ₗ ℕ) =>
    Sound dispatch clientLimit serverLimit requests t₀ s (ofLex a).1 ∧ (ofLex a).2 = s.size) ?_
    hranked
  rintro s a s' ⟨hsound, hsize⟩ hstep
  obtain ⟨rank', hsound', hlt⟩ := sound_step hsound hstep
  refine ⟨toLex (rank', s'.size), ⟨hsound', rfl⟩, ?_⟩
  rw [Prod.Lex.lt_iff]
  rcases hlt with hlt | ⟨heq, hlt⟩
  · exact .inl hlt
  · exact .inr ⟨heq, hsize ▸ hlt⟩

/-! ### Requests without a reply -/

/-- Some step that the system can take, with nothing damaged. -/
def System.next (dispatch : Bytes → τ → Disposition × τ) (s : System τ) : System τ :=
  match s.client.out, s.server.out, s.client.phase, s.server.phase, s.toClient, s.toServer with
  | byte :: rest, _, _, _, _, _ =>
    { s with client := { s.client with out := rest }, toServer := s.toServer ++ [byte] }
  | [], byte :: rest, _, _, _, _ =>
    { s with server := { s.server with out := rest }, toClient := s.toClient ++ [byte] }
  | [], [], .sending payload resends, _, _, _ =>
    { s with client := { s.client with
        phase := .awaitingAck payload resends
        out := encodePacket payload } }
  | [], [], .returning reply, _, _, _ =>
    { s with client := { s.client with
        phase := .ready
        results := s.client.results ++ [.ok reply] } }
  | [], [], _, .dispatching payload, _, _ =>
    { s with server := s.server.serve dispatch payload, replyDamages := 0 }
  | [], [], _, .sending reply resends last, _, _ =>
    { s with server := { s.server with
        phase := .awaitingAck reply resends last
        out := encodePacket reply } }
  | [], [], .awaitingAck _ _, _, byte :: rest, _ | [], [], .receiving, _, byte :: rest, _ =>
    { s with client := s.client.onByte byte, toClient := rest }
  | [], [], _, .reading, _, byte :: rest | [], [], _, .awaitingAck _ _ _, _, byte :: rest =>
    { s with server := s.server.onByte byte, toServer := rest }
  | [], [], .ready, _, _, _ =>
    match s.client.todo with
    | [] => s
    | payload :: rest => { s with client := s.client.begin payload rest, requestDamages := 0 }
  | _, _, _, _, _, _ => s

theorem System.reaches_next (dispatch : Bytes → τ → Disposition × τ) (s : System τ) :
    ReflTransGen (System.Step dispatch) s (s.next dispatch) := by
  unfold System.next
  split
  · exact .single (.clientWrites (by assumption))
  · exact .single (.serverWrites (by assumption))
  · exact .single (.requests (by assumption) (by assumption) .intact)
  · exact .single (.returns (by assumption) (by assumption))
  · exact .single (.dispatches (by assumption) (by assumption))
  · exact .single (.replies (by assumption) (by assumption) .intact)
  · exact .single (.clientReads (.inl ⟨_, _, by assumption⟩) (by assumption) (by assumption))
  · exact .single (.clientReads (.inr (by assumption)) (by assumption) (by assumption))
  · exact .single (.serverReads (.inl (by assumption)) (by assumption) (by assumption))
  · exact .single (.serverReads (.inr ⟨_, _, _, by assumption⟩) (by assumption) (by assumption))
  · split
    · exact .refl
    · exact .single (.begins (by assumption) (by assumption) (by assumption))
  · exact .refl

theorem System.reaches_iterate (dispatch : Bytes → τ → Disposition × τ) (n : ℕ) (s : System τ) :
    ReflTransGen (System.Step dispatch) s ((System.next dispatch)^[n] s) := by
  induction n generalizing s with
  | zero => exact .refl
  | succ n ih => exact (s.reaches_next dispatch).trans (ih _)

/-- Nothing moves once the server has stopped and the client waits for a reply. -/
theorem stuck_of_stopped {dispatch : Bytes → τ → Disposition × τ} {s : System τ}
    (hclient : s.client.phase = .receiving) (hserver : s.server.phase = .stopped (.ok ()))
    (hclientOut : s.client.out = []) (hserverOut : s.server.out = []) (hempty : s.toClient = [])
    (s' : System τ) : ¬ System.Step dispatch s s' := by
  intro hstep
  cases hstep <;> simp_all [GdbStubServer.Reads]

/-- A target that is killed by `k` and answers everything else with an empty packet. -/
def killable (payload : Bytes) (t : Unit) : Disposition × Unit :=
  if payload = [0x6b] then (.kill, t) else (.reply [], t)

/-- The system after the call that kills the target. -/
def killed : System Unit := (System.next killable)^[15] (.start 16 16 [[0x6b]] ())

/-- The call that kills the target gets no reply. -/
theorem kill_unanswered : ReflTransGen (System.Step killable) (.start 16 16 [[0x6b]] ()) killed ∧
    killed.server.dispatched = [[0x6b]] ∧ killed.client.results = [] ∧
    ∀ s', ¬ System.Step killable killed s' :=
  ⟨System.reaches_iterate killable 15 _, by decide +kernel, rfl,
    stuck_of_stopped rfl rfl rfl rfl rfl⟩

/-- A request that was damaged on its way. -/
theorem requests_answered_once_damaged : ∃ s : System Unit,
    ReflTransGen (System.Step killable) (.start 16 16 [[0x67]] ()) s ∧ s.requestDamages = 1 ∧
      s.client.results <+: [.ok []] := by
  have horderly : Orderly killable 16 16 () [[0x67]] := by
    simp [Orderly, killable, FitsBoth, Item.Fits, isizeMax]
  have hdamaged : System.Damaged [0x67] (packetStart :: ([0x00] ++ packetEnd ::
      hexByte (checksum ([0x67].flatMap escape)))) := ⟨[0x00], by decide, by decide, by decide, rfl⟩
  have hbegun := System.reaches_next killable (.start 16 16 [[0x67]] ())
  have hrun := hbegun.tail (System.Step.requests rfl rfl (.damaged (by decide) hdamaged))
  exact ⟨_, hrun, rfl, (requests_answered_once killable 16 16 [[0x67]] () horderly hrun).2.1⟩

end ReSymbol.GdbRemote
