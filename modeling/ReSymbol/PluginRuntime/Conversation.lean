import ReSymbol.PluginRuntime.Wire

/-! Only one complete conversation is accepted.

    The parser is in one of three phases: nothing has been said, the plugin has introduced itself,
    or it has answered. In each phase a line that does not belong there is refused, so that a parse
    that comes through has read one introduction, the events, and one answer with nothing behind it.

            hello          log, claim ↺         response
        start ──────▶ introduced ──────▶ answered ──▶ end of output

    Nothing leaves the parser before the end, so that no claim of a broken conversation is seen. -/

namespace ReSymbol.PluginRuntime
open Schemes ReSymbol.Core Debugger

/-! ### What a line may say -/

inductive PluginEvent where
  | log (log : PluginLog)
  | claim (claim : SymbolClaim)

def PluginEvent.asLog : PluginEvent → Option PluginLog
  | .log entry => some entry
  | .claim _ => none

def PluginEvent.asClaim : PluginEvent → Option SymbolClaim
  | .log _ => none
  | .claim submitted => some submitted

/-- What is kept of a descriptor. -/
def WireDescriptor.described (wire : WireDescriptor) : PluginDescriptor :=
  ⟨wire.id, wire.name, wire.version, wire.capabilities, wire.requestedPermissions⟩

/-- Valid identifiers, none twice, that are those of the manifest. -/
structure Declares (values : List String) (declared : Finset String) : Prop where
  valid : ∀ value ∈ values, PluginId.admits value = true
  nodup : values.Nodup
  eq : values.toFinset = declared

section Conversations

variable {Value JsonError Version Requirement : Type} [Semver Version Requirement]
  (codec : WireCodec Value JsonError) (manifest : PluginManifest Version Requirement)
  (request : ExternalProcessRequest Value) (limits : RuntimeLimits)

/-- The descriptor is that of the manifest and asks for a process of its own. -/
structure MatchesManifest (wire : WireDescriptor) : Prop where
  id : wire.id = manifest.id.asStr
  name : wire.name = manifest.name
  named : trimmedEmpty wire.name = false
  version : wire.version = versionText manifest.version
  isolation : wire.isolation = ⟨"process", true⟩
  capabilities : Declares wire.capabilities manifest.capabilities
  permissions : Declares wire.requestedPermissions manifest.permissions

def SaysHello (line : List UInt8) (descriptor : PluginDescriptor) : Prop :=
  ∃ wire, codec.output (stripCarriageReturn line) = .ok (.helloResult protocolName ⟨1, 0⟩ wire) ∧
    MatchesManifest manifest wire ∧ descriptor = wire.described

/-- A log, or a claim where claims are asked for and permitted. -/
def SaysEvent (line : List UInt8) : PluginEvent → Prop
  | .log log => ∃ payload wire, codec.output (stripCarriageReturn line) =
      .ok (.event protocolName ⟨1, 0⟩ "plugin-to-host" "log" payload) ∧
      codec.log payload = .ok wire ∧ wire.level ∈ logLevels ∧ log = ⟨wire.level, wire.message⟩
  | .claim claim => request.method = .analyze ∧ claimsSubmit ∈ request.grantedPermissions ∧
      ∃ payload wire, codec.output (stripCarriageReturn line) =
        .ok (.event protocolName ⟨1, 0⟩ "plugin-to-host" "claim" payload) ∧
        codec.claim payload = .ok wire ∧ claimOf codec manifest request wire = .ok claim

/-- Success, under the identifier of the request. -/
def SaysResponse (line : List UInt8) (response : PluginResponse Value) : Prop :=
  response.id = request.id ∧ codec.output (stripCarriageReturn line) =
    .ok (.response protocolName ⟨1, 0⟩ "plugin-to-host" request.id true (some response.result) none)

/-- A line that is not empty and not too long. -/
structure FitsLine (line : List UInt8) : Prop where
  ne_nil : stripCarriageReturn line ≠ []
  length : (stripCarriageReturn line).length ≤ limits.maxMessageBytes

/-- One complete conversation: an introduction, events, and the answer to the request. -/
structure Conversation (lines : List (List UInt8)) (descriptor : PluginDescriptor)
    (events : List PluginEvent) (response : PluginResponse Value) : Prop where
  said : ∃ hello middle last, lines = hello :: (middle ++ [last]) ∧
    SaysHello codec manifest hello descriptor ∧
    List.Forall₂ (SaysEvent codec manifest request) middle events ∧
    SaysResponse codec request last response
  count : lines.length ≤ limits.maxMessages
  fits : ∀ line ∈ lines, FitsLine limits line

end Conversations

/-! ### Checks -/

section Checks

variable {Value JsonError Version Requirement : Type} [Semver Version Requirement]
  {codec : WireCodec Value JsonError} {manifest : PluginManifest Version Requirement}
  {request : ExternalProcessRequest Value} {limits : RuntimeLimits} {line : ℕ}
  {diagnostics : ProcessDiagnostics}

theorem ite_protocolError_eq_ok {α : Type} {c : Prop} [Decidable c] {message : String} {a : α}
    {x : Except (PluginRuntimeError Value JsonError) α} :
    (if c then protocolError line diagnostics message else x) = .ok a ↔ ¬ c ∧ x = .ok a := by
  by_cases hc : c
  · simp [hc, protocolError]
  · simp [hc]

theorem validateProtocol_eq_ok {protocol : String} {version : WireProtocolVersion} {u : Unit} :
    (validateProtocol line diagnostics protocol version :
      Except (PluginRuntimeError Value JsonError) Unit) = .ok u ↔
      protocol = protocolName ∧ version = ⟨1, 0⟩ := by
  obtain ⟨major, minor⟩ := version
  rw [validateProtocol, ite_protocolError_eq_ok, ite_protocolError_eq_ok]
  simp only [not_not, not_or, WireProtocolVersion.mk.injEq, and_true]

theorem requirePluginDirection_eq_ok {direction : String} {u : Unit} :
    (requirePluginDirection line diagnostics direction :
      Except (PluginRuntimeError Value JsonError) Unit) = .ok u ↔
      direction = "plugin-to-host" := by
  rw [requirePluginDirection]
  by_cases h : direction = "plugin-to-host"
  · simp [h]
  · simp [h, protocolError]

theorem validateUniqueIdentifiers_eq_ok {values : List String} {label field : String}
    {parsed : Finset String} :
    (validateUniqueIdentifiers line diagnostics values label field :
      Except (PluginRuntimeError Value JsonError) (Finset String)) = .ok parsed ↔
      Declares values parsed := by
  -- the fold from any set of identifiers seen before
  have hfold : ∀ seen : Finset String,
      (values.foldlM (fun parsed value =>
        if ¬ PluginId.admits value then
          (protocolError line diagnostics ("invalid descriptor " ++ label ++ ": " ++
            invalidIdentifier field value) : Except (PluginRuntimeError Value JsonError) _)
        else if value ∈ parsed then
          protocolError line diagnostics ("descriptor contains a duplicate " ++ label)
        else .ok (insert value parsed)) seen) = .ok parsed ↔
      (∀ value ∈ values, PluginId.admits value = true) ∧ values.Nodup ∧
        (∀ value ∈ values, value ∉ seen) ∧ parsed = seen ∪ values.toFinset := by
    induction values with
    | nil =>
      intro seen
      simp only [List.foldlM_nil, pure, Except.pure, Except.ok.injEq]
      constructor
      · rintro rfl
        simp
      · rintro ⟨-, -, -, rfl⟩
        simp
    | cons value values ih =>
      intro seen
      simp only [List.foldlM_cons, except_bind_eq_ok, ite_protocolError_eq_ok, ih, not_not,
        Except.ok.injEq, List.forall_mem_cons, List.nodup_cons, List.toFinset_cons]
      constructor
      · rintro ⟨_, ⟨hvalid, hnew, rfl⟩, hall, hnodup, hfresh, rfl⟩
        refine ⟨⟨hvalid, hall⟩, ⟨fun hmem => ?_, hnodup⟩, ⟨hnew, fun v hv => ?_⟩, ?_⟩
        · exact hfresh value hmem (Finset.mem_insert_self _ _)
        · exact fun hseen => hfresh v hv (Finset.mem_insert_of_mem hseen)
        · rw [Finset.insert_union, Finset.union_insert]
      · rintro ⟨⟨hvalid, hall⟩, ⟨hmem, hnodup⟩, ⟨hnew, hfresh⟩, rfl⟩
        refine ⟨_, ⟨hvalid, hnew, rfl⟩, hall, hnodup, fun v hv => ?_, ?_⟩
        · rw [Finset.mem_insert, not_or]
          exact ⟨fun heq => hmem (heq ▸ hv), hfresh v hv⟩
        · rw [Finset.insert_union, Finset.union_insert]
  rw [validateUniqueIdentifiers, hfold]
  constructor
  · rintro ⟨hall, hnodup, -, rfl⟩
    exact ⟨hall, hnodup, by rw [Finset.empty_union]⟩
  · rintro ⟨hall, hnodup, rfl⟩
    exact ⟨hall, hnodup, by simp, by rw [Finset.empty_union]⟩

theorem validateDescriptor_eq_ok {wire : WireDescriptor} {descriptor : PluginDescriptor} :
    (validateDescriptor line diagnostics wire manifest :
      Except (PluginRuntimeError Value JsonError) PluginDescriptor) = .ok descriptor ↔
      MatchesManifest manifest wire ∧ descriptor = wire.described := by
  rw [validateDescriptor]
  simp only [ite_protocolError_eq_ok, except_bind_eq_ok, validateUniqueIdentifiers_eq_ok, not_not,
    not_or, Except.ok.injEq, Bool.not_eq_false, Bool.not_eq_true]
  constructor
  · rintro ⟨-, hid, ⟨hnamed, hname⟩, hversion, ⟨hmode, hrequired⟩, _, hcapabilities, rfl, _,
      hpermissions, rfl, rfl⟩
    refine ⟨⟨hid, hname, hnamed, hversion, ?_, hcapabilities, hpermissions⟩, rfl⟩
    rw [← hmode, ← hrequired]
  · rintro ⟨⟨hid, hname, hnamed, hversion, hisolation, hcapabilities, hpermissions⟩, rfl⟩
    refine ⟨hid ▸ manifest.id.valid, hid, ⟨hnamed, hname⟩, hversion, ?_, _, hcapabilities, rfl, _,
      hpermissions, rfl, rfl⟩
    rw [hisolation]
    exact ⟨rfl, rfl⟩

theorem parseLog_eq_ok {payload : Value} {log : PluginLog} :
    parseLog line diagnostics codec payload = .ok log ↔ ∃ wire, codec.log payload = .ok wire ∧
      wire.level ∈ logLevels ∧ log = ⟨wire.level, wire.message⟩ := by
  rw [parseLog]
  simp only [except_bind_eq_ok, mapError_eq_ok, ite_protocolError_eq_ok, not_not, Except.ok.injEq,
    @eq_comm _ log]

theorem parseClaim_eq_ok {payload : Value} {claim : SymbolClaim} :
    parseClaim line diagnostics codec payload manifest request = .ok claim ↔
      ∃ wire, codec.claim payload = .ok wire ∧
        claimOf codec manifest request wire = .ok claim := by
  rw [parseClaim]
  simp only [except_bind_eq_ok, mapError_eq_ok]

end Checks

/-! ### One line -/

section Lines

variable {Value JsonError Version Requirement : Type} [Semver Version Requirement]
  {codec : WireCodec Value JsonError} {manifest : PluginManifest Version Requirement}
  {request : ExternalProcessRequest Value} {limits : RuntimeLimits}
  {diagnostics : ProcessDiagnostics} {st st' : ParseState Value} {line : List UInt8}

/-- Nothing has been said. -/
def ParseState.Fresh (st : ParseState Value) : Prop :=
  st.descriptor = none ∧ st.response = none ∧ st.claims = [] ∧ st.logs = []

/-- The state after an event. -/
def ParseState.hear (st : ParseState Value) : PluginEvent → ParseState Value
  | .log log => { st with logs := st.logs ++ [log] }
  | .claim claim => { st with claims := st.claims ++ [claim] }

def ParseState.count (st : ParseState Value) : ParseState Value :=
  { st with messageCount := st.messageCount + 1 }

variable (codec manifest request) in
/-- Everything that a line can say when it is accepted. -/
inductive Heard (line : List UInt8) (st : ParseState Value) : ParseState Value → Prop
  | hello {descriptor : PluginDescriptor} (hfresh : st.Fresh)
      (htold : SaysHello codec manifest line descriptor) :
      Heard line st { st with descriptor := some descriptor }
  | event {event : PluginEvent} (hopen : st.descriptor.isSome) (hunanswered : st.response = none)
      (htold : SaysEvent codec manifest request line event) : Heard line st (st.hear event)
  | response {response : PluginResponse Value} (hopen : st.descriptor.isSome)
      (hunanswered : st.response = none) (htold : SaysResponse codec request line response) :
      Heard line st { st with response := some response }

theorem parseMessage_hello {protocol : String} {version : WireProtocolVersion}
    {wire : WireDescriptor} :
    parseMessage codec manifest request diagnostics st (.helloResult protocol version wire) =
      .ok st' ↔ (protocol = protocolName ∧ version = ⟨1, 0⟩) ∧ st.Fresh ∧
        MatchesManifest manifest wire ∧ st' = { st with descriptor := some wire.described } := by
  rw [parseMessage]
  simp only [except_bind_eq_ok, validateProtocol_eq_ok, ite_protocolError_eq_ok,
    validateDescriptor_eq_ok, pure, Except.pure, Except.ok.injEq, not_or, not_not,
    ParseState.Fresh, Option.not_isSome_iff_eq_none]
  constructor
  · rintro ⟨_, hframe, hfresh, _, ⟨hmatches, rfl⟩, rfl⟩
    exact ⟨hframe, hfresh, hmatches, rfl⟩
  · rintro ⟨hframe, hfresh, hmatches, rfl⟩
    exact ⟨(), hframe, hfresh, _, ⟨hmatches, rfl⟩, rfl⟩

theorem parseEvent_eq_ok {method : String} {payload : Value} :
    parseEvent codec manifest request diagnostics st method payload = .ok st' ↔
      (method = "log" ∧ ∃ wire, codec.log payload = .ok wire ∧ wire.level ∈ logLevels ∧
        st' = st.hear (.log ⟨wire.level, wire.message⟩)) ∨
      (method = "claim" ∧ request.method = .analyze ∧ claimsSubmit ∈ request.grantedPermissions ∧
        ∃ wire claim, codec.claim payload = .ok wire ∧
          claimOf codec manifest request wire = .ok claim ∧ st' = st.hear (.claim claim)) := by
  rw [parseEvent]
  by_cases hlog : method = "log"
  · subst hlog
    simp only [if_true, except_bind_eq_ok, parseLog_eq_ok, pure, Except.pure, Except.ok.injEq,
      true_and, String.reduceEq, false_and, or_false]
    constructor
    · rintro ⟨_, ⟨wire, hwire, hlevel, rfl⟩, rfl⟩
      exact ⟨wire, hwire, hlevel, rfl⟩
    · rintro ⟨wire, hwire, hlevel, rfl⟩
      exact ⟨_, ⟨wire, hwire, hlevel, rfl⟩, rfl⟩
  by_cases hclaim : method = "claim"
  · subst hclaim
    simp only [String.reduceEq, if_false, if_true, false_and, true_and, false_or]
    by_cases hanalyze : request.method = .analyze
    · by_cases hgranted : claimsSubmit ∈ request.grantedPermissions
      · simp only [if_neg (not_not.mpr hanalyze), if_neg (not_not.mpr hgranted),
          except_bind_eq_ok, parseClaim_eq_ok, pure, Except.pure, Except.ok.injEq]
        constructor
        · rintro ⟨claim, ⟨wire, hwire, hof⟩, rfl⟩
          exact ⟨hanalyze, hgranted, wire, claim, hwire, hof, rfl⟩
        · rintro ⟨-, -, wire, claim, hwire, hof, rfl⟩
          exact ⟨claim, ⟨wire, hwire, hof⟩, rfl⟩
      · simp [hanalyze, hgranted]
    · simp [hanalyze]
  · simp [hlog, hclaim, protocolError]

theorem parseResponse_eq_ok {id : String} {ok : Bool} {result : Option Value}
    {error : Option (WireError Value)} :
    (parseResponse diagnostics st id ok result error :
      Except (PluginRuntimeError Value JsonError) _) = .ok st' ↔
      ∃ value, ok = true ∧ result = some value ∧ error = none ∧
        st' = { st with response := some ⟨id, value⟩ } := by
  rcases ok with _ | _ <;> rcases result with _ | value <;> rcases error with _ | error <;>
    unfold parseResponse
  · simp [protocolError]
  · dsimp only
    split_ifs <;> simp [protocolError]
  · simp [protocolError]
  · simp [protocolError]
  · simp [protocolError]
  · simp [protocolError]
  · simp [eq_comm]
  · simp [protocolError]

/-- What a line says is heard, and nothing else is accepted. -/
theorem parseMessage_eq_ok {output : PluginOutput Value}
    (houtput : codec.output (stripCarriageReturn line) = .ok output) :
    parseMessage codec manifest request diagnostics st output = .ok st' ↔
      Heard codec manifest request line st st' := by
  cases output with
  | helloResult protocol version wire =>
    rw [parseMessage_hello]
    constructor
    · rintro ⟨⟨rfl, rfl⟩, hfresh, hmatches, rfl⟩
      exact .hello hfresh ⟨wire, houtput, hmatches, rfl⟩
    · intro hheard
      cases hheard with
      | hello hfresh htold =>
        obtain ⟨wire', hline, hmatches, rfl⟩ := htold
        cases houtput.symm.trans hline
        exact ⟨⟨rfl, rfl⟩, hfresh, hmatches, rfl⟩
      | @event event _ _ htold =>
        cases event with
        | log entry =>
          obtain ⟨payload, wire', hline, -⟩ := htold
          cases houtput.symm.trans hline
        | claim submitted =>
          obtain ⟨-, -, payload, wire', hline, -⟩ := htold
          cases houtput.symm.trans hline
      | response _ _ htold => cases houtput.symm.trans htold.2
  | response protocol version direction id ok result error =>
    rw [parseMessage]
    simp only [except_bind_eq_ok, validateProtocol_eq_ok, requirePluginDirection_eq_ok,
      ite_protocolError_eq_ok, parseResponse_eq_ok, not_not, Option.isNone_iff_eq_none,
      Option.not_isSome_iff_eq_none]
    constructor
    · rintro ⟨_, ⟨rfl, rfl⟩, _, rfl, hopen, hunanswered, rfl, value, rfl, rfl, rfl, rfl⟩
      exact .response (Option.ne_none_iff_isSome.mp hopen) hunanswered ⟨rfl, houtput⟩
    · intro hheard
      cases hheard with
      | hello hfresh htold =>
        obtain ⟨wire', hline, -⟩ := htold
        cases houtput.symm.trans hline
      | @event event _ _ htold =>
        cases event with
        | log entry =>
          obtain ⟨payload, wire', hline, -⟩ := htold
          cases houtput.symm.trans hline
        | claim submitted =>
          obtain ⟨-, -, payload, wire', hline, -⟩ := htold
          cases houtput.symm.trans hline
      | @response response hopen hunanswered htold =>
        obtain ⟨hid, hline⟩ := htold
        cases houtput.symm.trans hline
        refine ⟨(), ⟨rfl, rfl⟩, (), rfl, Option.ne_none_iff_isSome.mpr hopen, hunanswered, rfl, _,
          rfl, rfl, rfl, ?_⟩
        rw [← hid]
  | event protocol version direction method payload =>
    rw [parseMessage]
    simp only [except_bind_eq_ok, validateProtocol_eq_ok, requirePluginDirection_eq_ok,
      ite_protocolError_eq_ok, parseEvent_eq_ok, Option.isNone_iff_eq_none,
      Option.not_isSome_iff_eq_none]
    constructor
    · rintro ⟨_, ⟨rfl, rfl⟩, _, rfl, hopen, hunanswered,
        ⟨rfl, wire, hwire, hlevel, rfl⟩ | ⟨rfl, hmethod, hgranted, wire, claim, hwire, hof, rfl⟩⟩
      · exact .event (Option.ne_none_iff_isSome.mp hopen) hunanswered
          ⟨payload, wire, houtput, hwire, hlevel, rfl⟩
      · exact .event (Option.ne_none_iff_isSome.mp hopen) hunanswered
          ⟨hmethod, hgranted, payload, wire, houtput, hwire, hof⟩
    · intro hheard
      cases hheard with
      | hello hfresh htold =>
        obtain ⟨wire', hline, -⟩ := htold
        cases houtput.symm.trans hline
      | @event event hopen hunanswered htold =>
        cases event with
        | log entry =>
          obtain ⟨payload', wire, hline, hwire, hlevel, rfl⟩ := htold
          cases houtput.symm.trans hline
          exact ⟨(), ⟨rfl, rfl⟩, (), rfl, Option.ne_none_iff_isSome.mpr hopen, hunanswered,
            .inl ⟨rfl, wire, hwire, hlevel, rfl⟩⟩
        | claim submitted =>
          obtain ⟨hmethod, hgranted, payload', wire, hline, hwire, hof⟩ := htold
          cases houtput.symm.trans hline
          exact ⟨(), ⟨rfl, rfl⟩, (), rfl, Option.ne_none_iff_isSome.mpr hopen, hunanswered,
            .inr ⟨rfl, hmethod, hgranted, wire, submitted, hwire, hof, rfl⟩⟩
      | response _ _ htold => cases houtput.symm.trans htold.2

theorem Heard.exists_output (h : Heard codec manifest request line st st') :
    ∃ output, codec.output (stripCarriageReturn line) = .ok output := by
  cases h with
  | hello _ htold =>
    obtain ⟨wire, hline, -⟩ := htold
    exact ⟨_, hline⟩
  | @event event _ _ htold =>
    cases event with
    | log entry =>
      obtain ⟨payload, wire, hline, -⟩ := htold
      exact ⟨_, hline⟩
    | claim submitted =>
      obtain ⟨-, -, payload, wire, hline, -⟩ := htold
      exact ⟨_, hline⟩
  | response _ _ htold => exact ⟨_, htold.2⟩

/-- A line is accepted when it fits the limits and says something that belongs there. -/
theorem parseLine_eq_ok :
    parseLine codec manifest request limits diagnostics st line = .ok st' ↔
      st.messageCount + 1 ≤ limits.maxMessages ∧ FitsLine limits line ∧
        Heard codec manifest request line st.count st' := by
  rw [parseLine]
  by_cases hcount : st.messageCount + 1 > limits.maxMessages
  · rw [if_pos hcount]
    simp only [reduceCtorEq, false_iff, not_and]
    omega
  rw [if_neg hcount, ite_protocolError_eq_ok]
  by_cases hlength : (stripCarriageReturn line).length > limits.maxMessageBytes
  · rw [if_pos hlength]
    simp only [reduceCtorEq, and_false, false_iff, not_and]
    intro _ hfits
    have := hfits.length
    omega
  rw [if_neg hlength]
  simp only [except_bind_eq_ok, mapError_eq_ok]
  constructor
  · rintro ⟨hne, output, houtput, hmessage⟩
    exact ⟨by omega, ⟨hne, by omega⟩, (parseMessage_eq_ok houtput).mp hmessage⟩
  · rintro ⟨-, hfits, hheard⟩
    obtain ⟨output, houtput⟩ := hheard.exists_output
    exact ⟨hfits.ne_nil, output, houtput, (parseMessage_eq_ok houtput).mpr hheard⟩

/-! ### The phases -/

/-- Behind the answer nothing is accepted. -/
theorem foldlM_parseLine_answered {lines : List (List UInt8)} (h : st.response.isSome) :
    lines.foldlM (parseLine codec manifest request limits diagnostics) st = .ok st' ↔
      lines = [] ∧ st' = st := by
  cases lines with
  | nil => simp [pure, Except.pure, eq_comm]
  | cons line lines =>
    simp only [List.foldlM_cons, except_bind_eq_ok, parseLine_eq_ok, reduceCtorEq, false_and,
      iff_false]
    rintro ⟨next, ⟨-, -, hheard⟩, -⟩
    have hanswered : st.count.response.isSome := h
    cases hheard with
    | hello hfresh =>
      rw [hfresh.2.1] at hanswered
      cases hanswered
    | event _ hunanswered =>
      rw [hunanswered] at hanswered
      cases hanswered
    | response _ hunanswered =>
      rw [hunanswered] at hanswered
      cases hanswered

/-- The state after so many lines with these events and the answer. -/
def ParseState.answered (st : ParseState Value) (count : ℕ) (events : List PluginEvent)
    (response : PluginResponse Value) : ParseState Value where
  messageCount := st.messageCount + count
  descriptor := st.descriptor
  response := some response
  claims := st.claims ++ events.filterMap PluginEvent.asClaim
  logs := st.logs ++ events.filterMap PluginEvent.asLog

theorem ParseState.answered_hear (st : ParseState Value) (count : ℕ) (event : PluginEvent)
    (events : List PluginEvent) (response : PluginResponse Value) :
    (st.count.hear event).answered count events response =
      st.answered (count + 1) (event :: events) response := by
  cases event with
  | log entry =>
    simp only [hear, answered, ParseState.count, List.filterMap_cons, PluginEvent.asLog,
      PluginEvent.asClaim, List.append_assoc, List.singleton_append, ParseState.mk.injEq, and_true]
    omega
  | claim submitted =>
    simp only [hear, answered, ParseState.count, List.filterMap_cons, PluginEvent.asLog,
      PluginEvent.asClaim, List.append_assoc, List.singleton_append, ParseState.mk.injEq, and_true]
    omega

/-- Behind the introduction: events, and the answer as the last line. -/
theorem foldlM_parseLine_introduced {lines : List (List UInt8)} {response : PluginResponse Value}
    (hopen : st.descriptor.isSome) (hunanswered : st.response = none) :
    lines.foldlM (parseLine codec manifest request limits diagnostics) st = .ok st' ∧
        st'.response = some response ↔
      ∃ middle last events, lines = middle ++ [last] ∧
        List.Forall₂ (SaysEvent codec manifest request) middle events ∧
        SaysResponse codec request last response ∧
        st.messageCount + lines.length ≤ limits.maxMessages ∧
        (∀ line ∈ lines, FitsLine limits line) ∧
        st' = st.answered lines.length events response := by
  induction lines generalizing st with
  | nil =>
    simp only [List.foldlM_nil, pure, Except.pure, Except.ok.injEq]
    constructor
    · rintro ⟨rfl, hresponse⟩
      rw [hunanswered] at hresponse
      cases hresponse
    · rintro ⟨middle, last, events, heq, -⟩
      simp at heq
  | cons line lines ih =>
    simp only [List.foldlM_cons, except_bind_eq_ok, parseLine_eq_ok]
    constructor
    · rintro ⟨⟨next, ⟨hcount, hfits, hheard⟩, hrest⟩, hresponse⟩
      cases hheard with
      | hello hfresh =>
        have hnone : st.descriptor = none := hfresh.1
        rw [hnone] at hopen
        cases hopen
      | @event event _ _ htold =>
        have hopen' : (st.count.hear event).descriptor.isSome := by
          cases event <;> exact hopen
        have hunanswered' : (st.count.hear event).response = none := by
          cases event <;> exact hunanswered
        have hcounted : (st.count.hear event).messageCount = st.messageCount + 1 := by
          cases event <;> rfl
        obtain ⟨middle, last, events, rfl, hevents, hlast, hlimit, hall, rfl⟩ :=
          (ih hopen' hunanswered').mp ⟨hrest, hresponse⟩
        refine ⟨line :: middle, last, event :: events, rfl, .cons htold hevents, hlast, ?_, ?_, ?_⟩
        · rw [List.length_cons]
          omega
        · exact List.forall_mem_cons.mpr ⟨hfits, hall⟩
        · rw [ParseState.answered_hear, List.length_cons]
      | @response said _ _ htold =>
        obtain ⟨rfl, rfl⟩ := (foldlM_parseLine_answered rfl).mp hrest
        obtain rfl : said = response := Option.some.inj hresponse
        refine ⟨[], line, [], rfl, .nil, htold, hcount, ?_, ?_⟩
        · simpa using hfits
        · simp [ParseState.answered, ParseState.count]
    · rintro ⟨middle, last, events, heq, hevents, hlast, hlimit, hall, rfl⟩
      obtain ⟨hfits, hall⟩ := List.forall_mem_cons.mp hall
      rw [List.length_cons] at hlimit
      cases hevents with
      | nil =>
        obtain ⟨rfl, rfl⟩ := List.cons.inj heq
        refine ⟨⟨_, ⟨by omega, hfits, .response hopen hunanswered hlast⟩, ?_⟩, rfl⟩
        rw [foldlM_parseLine_answered rfl]
        simp [ParseState.answered, ParseState.count]
      | @cons _ event middle events htold hevents =>
        obtain ⟨rfl, rfl⟩ := List.cons.inj heq
        have hopen' : (st.count.hear event).descriptor.isSome := by
          cases event <;> exact hopen
        have hunanswered' : (st.count.hear event).response = none := by
          cases event <;> exact hunanswered
        have hcounted : (st.count.hear event).messageCount = st.messageCount + 1 := by
          cases event <;> rfl
        obtain ⟨hrest, hresponse⟩ := (ih hopen' hunanswered').mpr
          ⟨middle, last, events, rfl, hevents, hlast, by omega, hall,
            (ParseState.answered_hear _ _ _ _ _).symm⟩
        exact ⟨⟨_, ⟨by omega, hfits, .event hopen hunanswered htold⟩, hrest⟩, rfl⟩

/-! ### The whole output -/

/-- What a conversation comes to. -/
def executionOf (diagnostics : ProcessDiagnostics) (exitCode : Option ℤ)
    (descriptor : PluginDescriptor) (events : List PluginEvent)
    (response : PluginResponse Value) : PluginExecution Value where
  descriptor
  response
  claims := events.filterMap PluginEvent.asClaim
  logs := events.filterMap PluginEvent.asLog
  diagnostics
  exitCode

theorem finishOutput_eq_ok {exitCode : Option ℤ} {execution : PluginExecution Value} :
    (finishOutput diagnostics exitCode st :
      Except (PluginRuntimeError Value JsonError) _) = .ok execution ↔
      ∃ descriptor response, st.descriptor = some descriptor ∧ st.response = some response ∧
        execution = ⟨descriptor, response, st.claims, st.logs, diagnostics, exitCode⟩ := by
  rw [finishOutput]
  cases hdescriptor : st.descriptor with
  | none => simp [protocolError]
  | some descriptor =>
    cases hresponse : st.response with
    | none => simp [protocolError]
    | some response => simp [eq_comm]

/-- The state in which the plugin has introduced itself. -/
def ParseState.introduced (descriptor : PluginDescriptor) : ParseState Value :=
  { ParseState.start with descriptor := some descriptor }

/-- From the start, the lines that are accepted are one conversation. -/
theorem foldlM_parseLine_start {lines : List (List UInt8)} {descriptor : PluginDescriptor}
    {response : PluginResponse Value} :
    lines.foldlM (parseLine codec manifest request limits diagnostics) .start = .ok st' ∧
        st'.descriptor = some descriptor ∧ st'.response = some response ↔
      ∃ events, Conversation codec manifest request limits lines descriptor events response ∧
        st' = (ParseState.introduced descriptor).answered lines.length events response := by
  cases lines with
  | nil =>
    constructor
    · rintro ⟨hfold, hdescriptor, -⟩
      obtain rfl : ParseState.start = st' := Except.ok.inj hfold
      cases hdescriptor
    · rintro ⟨events, ⟨⟨hello, middle, last, heq, -⟩, -, -⟩, -⟩
      cases heq
  | cons line lines =>
    simp only [List.foldlM_cons, except_bind_eq_ok, parseLine_eq_ok]
    have hcounted : ∀ events,
        ({ ParseState.start.count with descriptor := some descriptor } : ParseState Value).answered
          lines.length events response =
          (ParseState.introduced descriptor).answered (lines.length + 1) events response := by
      intro events
      simp only [ParseState.answered, ParseState.introduced, ParseState.count, ParseState.start,
        ParseState.mk.injEq, and_true]
      omega
    constructor
    · rintro ⟨⟨next, ⟨hcount, hfits, hheard⟩, hrest⟩, hdescriptor, hresponse⟩
      cases hheard with
      | @hello said hfresh htold =>
        obtain ⟨middle, last, events, rfl, hevents, hlast, hlimit, hall, rfl⟩ :=
          (foldlM_parseLine_introduced rfl rfl).mp ⟨hrest, hresponse⟩
        obtain rfl : said = descriptor := Option.some.inj hdescriptor
        refine ⟨events, ⟨⟨line, middle, last, rfl, htold, hevents, hlast⟩, ?_, ?_⟩, ?_⟩
        · simp only [ParseState.count, ParseState.start] at hlimit
          rw [List.length_cons]
          omega
        · exact List.forall_mem_cons.mpr ⟨hfits, hall⟩
        · rw [hcounted, List.length_cons]
      | event hopen => cases hopen
      | response hopen => cases hopen
    · rintro ⟨events, ⟨⟨hello, middle, last, heq, htold, hevents, hlast⟩, hlimit, hall⟩, rfl⟩
      obtain ⟨rfl, rfl⟩ := List.cons.inj heq
      obtain ⟨hfits, hall⟩ := List.forall_mem_cons.mp hall
      rw [List.length_cons] at hlimit
      have hfresh : (ParseState.start.count : ParseState Value).Fresh := ⟨rfl, rfl, rfl, rfl⟩
      have hrest : (middle ++ [last]).foldlM (parseLine codec manifest request limits diagnostics)
          { ParseState.start.count with descriptor := some descriptor } = .ok _ :=
        ((foldlM_parseLine_introduced rfl rfl).mpr ⟨middle, last, events, rfl, hevents, hlast,
          by simp only [ParseState.count, ParseState.start]; omega, hall, rfl⟩).1
      rw [hcounted] at hrest
      refine ⟨⟨_, ⟨?_, hfits, .hello hfresh htold⟩, hrest⟩, rfl, rfl⟩
      simp only [ParseState.start]
      omega

/-- The last byte of an output that ends a line. -/
theorem getLast?_eq_newline {stdout : List UInt8} :
    stdout.getLast? = some 10 ↔ ∃ body, stdout = body ++ [10] := by
  constructor
  · intro h
    exact ⟨stdout.dropLast, (List.dropLast_append_getLast? 10 h).symm⟩
  · rintro ⟨body, rfl⟩
    simp

theorem parseOutput_eq_ok {stdout : List UInt8} {exitCode : Option ℤ}
    {execution : PluginExecution Value} :
    parseOutput codec manifest request limits diagnostics stdout exitCode = .ok execution ↔
      ∃ body descriptor events response, stdout = body ++ [10] ∧
        Conversation codec manifest request limits (body.splitOn 10) descriptor events response ∧
        execution = executionOf diagnostics exitCode descriptor events response := by
  rw [parseOutput, ite_protocolError_eq_ok, ite_protocolError_eq_ok]
  simp only [not_not, getLast?_eq_newline, except_bind_eq_ok, finishOutput_eq_ok]
  constructor
  · rintro ⟨-, ⟨body, rfl⟩, st, hfold, descriptor, response, hdescriptor, hresponse, rfl⟩
    rw [List.dropLast_concat] at hfold
    obtain ⟨events, hconversation, rfl⟩ :=
      foldlM_parseLine_start.mp ⟨hfold, hdescriptor, hresponse⟩
    exact ⟨body, descriptor, events, response, rfl, hconversation, rfl⟩
  · rintro ⟨body, descriptor, events, response, rfl, hconversation, rfl⟩
    obtain ⟨hfold, hdescriptor, hresponse⟩ := foldlM_parseLine_start.mpr
      ⟨events, hconversation, rfl⟩
    refine ⟨by simp, ⟨body, rfl⟩, _, ?_, descriptor, response, hdescriptor, hresponse, rfl⟩
    rw [List.dropLast_concat]
    exact hfold

theorem claimOf_valid {wire : WireClaim Value} {claim : SymbolClaim}
    (h : claimOf codec manifest request wire = .ok claim) : claim.validate = .ok () := by
  rw [claimOf] at h
  obtain ⟨evidence, -, h⟩ := except_bind_eq_ok.mp h
  obtain ⟨_, hvalid, h⟩ := except_bind_eq_ok.mp h
  obtain rfl := Except.ok.inj h
  exact hvalid

theorem claims_valid {middle : List (List UInt8)} {events : List PluginEvent}
    (h : List.Forall₂ (SaysEvent codec manifest request) middle events) :
    ∀ claim ∈ events.filterMap PluginEvent.asClaim, claim.validate = .ok () := by
  induction h with
  | nil => simp
  | @cons line event middle events htold _ ih =>
    cases event with
    | log entry => exact ih
    | claim submitted =>
      obtain ⟨-, -, payload, wire, -, -, hof⟩ := htold
      exact List.forall_mem_cons.mpr ⟨claimOf_valid hof, ih⟩

/-- CORRECT (conversation): the output is accepted exactly when its lines are one complete
    conversation within the limits; the result holds its logs and its claims, all of them valid, in
    their order, and an output that is no such conversation gives nothing but an error. -/
theorem output_accepted_iff_conversation (codec : WireCodec Value JsonError)
    (manifest : PluginManifest Version Requirement) (request : ExternalProcessRequest Value)
    (limits : RuntimeLimits) (diagnostics : ProcessDiagnostics) (stdout : List UInt8)
    (exitCode : Option ℤ) :
    (∀ execution, parseOutput codec manifest request limits diagnostics stdout exitCode =
        .ok execution ↔
      ∃ body descriptor events response, stdout = body ++ [10] ∧
        Conversation codec manifest request limits (body.splitOn 10) descriptor events response ∧
        (∀ claim ∈ events.filterMap PluginEvent.asClaim, claim.validate = .ok ()) ∧
        execution = executionOf diagnostics exitCode descriptor events response) ∧
      ((¬ ∃ body descriptor events response, stdout = body ++ [10] ∧
        Conversation codec manifest request limits (body.splitOn 10) descriptor events response) →
        ∃ error, parseOutput codec manifest request limits diagnostics stdout exitCode =
          .error error) := by
  refine ⟨fun execution => ?_, fun hnone => ?_⟩
  · rw [parseOutput_eq_ok]
    constructor
    · rintro ⟨body, descriptor, events, response, hstdout, hconversation, hexecution⟩
      obtain ⟨hello, middle, last, -, -, hevents, -⟩ := hconversation.said
      exact ⟨body, descriptor, events, response, hstdout, hconversation, claims_valid hevents,
        hexecution⟩
    · rintro ⟨body, descriptor, events, response, hstdout, hconversation, -, hexecution⟩
      exact ⟨body, descriptor, events, response, hstdout, hconversation, hexecution⟩
  · cases hparse : parseOutput codec manifest request limits diagnostics stdout exitCode with
    | error error => exact ⟨error, rfl⟩
    | ok execution =>
      obtain ⟨body, descriptor, events, response, hstdout, hconversation, -⟩ :=
        parseOutput_eq_ok.mp hparse
      exact absurd ⟨body, descriptor, events, response, hstdout, hconversation⟩ hnone

end Lines

/-! ### The binary of a claim -/

section Foreign

/-- Versions that are numbers, for the sample. -/
local instance : Semver ℕ ℕ where
  requirementMatches requirement version := requirement = version
  versionText := toString
  requirementText := toString

/-- A binary by the last digit of its identifier. -/
def requestedBinary : BinaryId :=
  ⟨"0000000000000000000000000000000000000000000000000000000000000001", by decide⟩

def foreignBinary : BinaryId :=
  ⟨"0000000000000000000000000000000000000000000000000000000000000002", by decide⟩

def sampleManifest : PluginManifest ℕ ℕ where
  id := ⟨"sample.plugin", by decide⟩
  name := "Sample"
  version := 1
  capabilities := ∅
  permissions := {"claims.submit"}
  dependencies := []

/-- The request to analyze one binary. -/
def sampleRequest : ExternalProcessRequest BinaryId where
  id := "request"
  sessionId := "session"
  method := .analyze
  payload := [("binary", requestedBinary)]
  grantedPermissions := {"claims.submit"}

/-- Lines of one letter: `h` introduces, `c` submits a claim about the other binary, `r` answers. -/
def sampleCodec : WireCodec BinaryId Unit where
  output
    | [104] => .ok (.helloResult "resymbol.plugin-wire" ⟨1, 0⟩
        ⟨"sample.plugin", "Sample", "1", [], ["claims.submit"], ⟨"process", true⟩⟩)
    | [99] => .ok (.event "resymbol.plugin-wire" ⟨1, 0⟩ "plugin-to-host" "claim" foreignBinary)
    | [114] => .ok (.response "resymbol.plugin-wire" ⟨1, 0⟩ "plugin-to-host" "request" true
        (some requestedBinary) none)
    | _ => .error ()
  log _ := .error ()
  claim binary := .ok ⟨.type binary "key", .comment "note", .none,
    [⟨"byte", "seen", none⟩]⟩
  text binary := binary.value

/-- The binaries that the accepted claims are about. -/
def acceptedBinaries : Option (List BinaryId) :=
  match parseOutput sampleCodec sampleManifest sampleRequest ⟨1024, 16⟩ ⟨"", false⟩
      [104, 10, 99, 10, 114, 10] none with
  | .ok execution => some (execution.claims.map fun claim => claim.subject.binary)
  | .error _ => none

/-- A claim about another binary than the requested one is accepted. -/
theorem foreign_claim_accepted :
    sampleRequest.payload.lookup "binary" = some requestedBinary ∧
      acceptedBinaries = some [foreignBinary] ∧ foreignBinary ≠ requestedBinary := by
  decide +kernel

end Foreign

end ReSymbol.PluginRuntime
