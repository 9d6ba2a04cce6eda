import ReSymbol.Core.PluginDiscovery

/-! The output of a plugin process.

    A plugin that runs as a process of its own answers one request on its standard output, one JSON
    message a line. It introduces itself, logs and submits claims, and closes with a response to the
    request. Everything that it says is read only when the process has ended, and a single line out
    of place makes the whole output void.

        hello-result ──▶ (log | claim)* ──▶ response

    What a line decodes to is up to the JSON library and a parameter here (`WireCodec`); the checks
    of the decoded messages are those of the host. -/

namespace ReSymbol.PluginRuntime
open Schemes ReSymbol.Core Debugger

/-! ### Messages -/

structure WireProtocolVersion where
  major : ℕ
  minor : ℕ

structure WireIsolation where
  mode : String
  required : Bool

structure WireDescriptor where
  id : String
  name : String
  version : String
  capabilities : List String
  requestedPermissions : List String
  isolation : WireIsolation

structure WireError (Value : Type) where
  code : String
  message : String
  data : Option Value

structure WireLog where
  level : String
  message : String

structure WireEvidence (Value : Type) where
  kind : String
  description : String
  data : Option Value

structure WireClaim (Value : Type) where
  subject : SymbolSubject
  claim : SymbolAssertion
  confidence : Confidence
  evidence : List (WireEvidence Value)

/-- One line of the output. A field that may be missing is an option. -/
inductive PluginOutput (Value : Type) where
  | helloResult (protocol : String) (version : WireProtocolVersion) (descriptor : WireDescriptor)
  | response (protocol : String) (version : WireProtocolVersion) (direction id : String) (ok : Bool)
      (result : Option Value) (error : Option (WireError Value))
  | event (protocol : String) (version : WireProtocolVersion) (direction method : String)
      (payload : Value)

/-- The JSON library: lines, payloads, and the text of a value. -/
structure WireCodec (Value JsonError : Type) where
  output : List UInt8 → Except JsonError (PluginOutput Value)
  log : Value → Except JsonError WireLog
  claim : Value → Except JsonError (WireClaim Value)
  text : Value → String

/-! ### Requests and results -/

structure RuntimeLimits where
  maxMessageBytes : ℕ
  maxMessages : ℕ

inductive PluginMethod where
  | initializeSession
  | analyze
  | health
  | shutdown
  deriving DecidableEq

def PluginMethod.asStr : PluginMethod → String
  | .initializeSession => "initialize"
  | .analyze => "analyze"
  | .health => "health"
  | .shutdown => "shutdown"

structure ExternalProcessRequest (Value : Type) where
  id : String
  sessionId : String
  method : PluginMethod
  /-- What is asked for; the binary to analyze is among it. -/
  payload : List (String × Value)
  grantedPermissions : Finset String

structure ProcessDiagnostics where
  stderr : String
  stderrWasLossy : Bool

structure PluginDescriptor where
  id : String
  name : String
  version : String
  capabilities : List String
  requestedPermissions : List String

structure PluginLog where
  level : String
  message : String

structure PluginResponse (Value : Type) where
  id : String
  result : Value

structure PluginExecution (Value : Type) where
  descriptor : PluginDescriptor
  response : PluginResponse Value
  claims : List SymbolClaim
  logs : List PluginLog
  diagnostics : ProcessDiagnostics
  exitCode : Option ℤ

inductive PluginRuntimeError (Value JsonError : Type) where
  | protocol (line : ℕ) (message : String) (diagnostics : ProcessDiagnostics)
  | messageLimit (limit : ℕ) (diagnostics : ProcessDiagnostics)
  /-- A line of the standard output is too long. -/
  | streamLimit (limit : ℕ) (diagnostics : ProcessDiagnostics)
  | invalidJson (line : ℕ) (source : JsonError) (diagnostics : ProcessDiagnostics)
  | invalidClaim (line : ℕ) (source : ClaimValidationError) (diagnostics : ProcessDiagnostics)
  | claimEventNotAllowed (method : String) (diagnostics : ProcessDiagnostics)
  | permissionDenied (permission : String) (diagnostics : ProcessDiagnostics)
  | pluginRejected (code message : String) (data : Option Value) (diagnostics : ProcessDiagnostics)

/-! ### Claims -/

section Reading

variable {Value JsonError Version Requirement : Type} [Semver Version Requirement]

/-- One piece of evidence; its data are kept as a text. -/
def decodeEvidence (codec : WireCodec Value JsonError) (item : WireEvidence Value) :
    Except ClaimValidationError Evidence := do
  let kind ← EvidenceKind.new item.kind
  let evidence ← Evidence.new kind item.description
  return match item.data with
  | some data =>
    { evidence with artifacts := evidence.artifacts.insert "wire.data" (codec.text data) }
  | none => evidence

/-- The claim that a decoded payload makes, in the name of the plugin and for the session. -/
def claimOf (codec : WireCodec Value JsonError) (manifest : PluginManifest Version Requirement)
    (request : ExternalProcessRequest Value) (wire : WireClaim Value) :
    Except ClaimValidationError SymbolClaim := do
  let evidence ← wire.evidence.mapM (decodeEvidence codec)
  let claim : SymbolClaim :=
    { subject := wire.subject
      assertion := wire.claim
      confidence := wire.confidence
      evidence
      provenance :=
        { producer := .plugin manifest.id (versionText manifest.version)
          method := request.method.asStr
          runId := some request.sessionId } }
  claim.validate
  return claim

/-! ### Checks of messages -/

def protocolName : String := "resymbol.plugin-wire"

def claimsSubmit : String := "claims.submit"

section Checks

variable (line : ℕ) (diagnostics : ProcessDiagnostics)

def protocolError {α : Type} (message : String) : Except (PluginRuntimeError Value JsonError) α :=
  .error (.protocol line message diagnostics)

def validateProtocol (protocol : String) (version : WireProtocolVersion) :
    Except (PluginRuntimeError Value JsonError) Unit :=
  if protocol ≠ protocolName then
    protocolError line diagnostics ("unexpected protocol `" ++ protocol ++ "`")
  else if version.major ≠ 1 ∨ version.minor ≠ 0 then
    protocolError line diagnostics ("unsupported protocol version " ++ toString version.major ++
      "." ++ toString version.minor ++ "; host supports 1.0")
  else .ok ()

def requirePluginDirection (direction : String) : Except
    (PluginRuntimeError Value JsonError) Unit :=
  if direction = "plugin-to-host" then .ok ()
  else protocolError line diagnostics ("unexpected message direction `" ++ direction ++ "`")

/-- The text of an identifier that `validate_identifier` refuses. -/
def invalidIdentifier (field value : String) : String :=
  "invalid " ++ field ++ " `" ++ value ++ "`: use lowercase dotted identifiers"

/-- The identifiers of a list, each valid and none twice. -/
def validateUniqueIdentifiers (values : List String) (label field : String) :
    Except (PluginRuntimeError Value JsonError) (Finset String) :=
  values.foldlM (fun parsed value =>
    if ¬ PluginId.admits value then
      protocolError line diagnostics ("invalid descriptor " ++ label ++ ": " ++
        invalidIdentifier field value)
    else if value ∈ parsed then
      protocolError line diagnostics ("descriptor contains a duplicate " ++ label)
    else .ok (insert value parsed)) ∅

def validateDescriptor (wire : WireDescriptor) (manifest : PluginManifest Version Requirement) :
    Except (PluginRuntimeError Value JsonError) PluginDescriptor :=
  if ¬ PluginId.admits wire.id then
    protocolError line diagnostics ("invalid descriptor plugin id: " ++
      invalidIdentifier "plugin id" wire.id)
  else if wire.id ≠ manifest.id.asStr then
    protocolError line diagnostics ("descriptor id `" ++ wire.id ++
      "` does not match manifest id `" ++ manifest.id.asStr ++ "`")
  else if trimmedEmpty wire.name ∨ wire.name ≠ manifest.name then
    protocolError line diagnostics "descriptor name does not match the manifest"
  else if wire.version ≠ versionText manifest.version then
    protocolError line diagnostics "descriptor version does not match the manifest"
  else if wire.isolation.mode ≠ "process" ∨ wire.isolation.required = false then
    protocolError line diagnostics "descriptor must require process isolation"
  else do
    let capabilities ← validateUniqueIdentifiers line diagnostics wire.capabilities "capability"
      "plugin capability"
    if capabilities ≠ manifest.capabilities then
      protocolError line diagnostics "descriptor capabilities do not match the manifest"
    else do
      let permissions ← validateUniqueIdentifiers line diagnostics wire.requestedPermissions
        "requested permission" "plugin permission"
      if permissions ≠ manifest.permissions then
        protocolError line diagnostics
          "descriptor requested permissions do not match the manifest"
      else .ok ⟨wire.id, wire.name, wire.version, wire.capabilities, wire.requestedPermissions⟩

def logLevels : List String := ["trace", "debug", "info", "warn", "error"]

def parseLog (codec : WireCodec Value JsonError) (payload : Value) :
    Except (PluginRuntimeError Value JsonError) PluginLog := do
  let log ← (codec.log payload).mapError fun source => .invalidJson line source diagnostics
  if log.level ∉ logLevels then
    protocolError line diagnostics ("invalid log level `" ++ log.level ++ "`")
  else .ok ⟨log.level, log.message⟩

def parseClaim (codec : WireCodec Value JsonError) (payload : Value)
    (manifest : PluginManifest Version Requirement) (request : ExternalProcessRequest Value) :
    Except (PluginRuntimeError Value JsonError) SymbolClaim := do
  let wire ← (codec.claim payload).mapError fun source => .invalidJson line source diagnostics
  (claimOf codec manifest request wire).mapError fun source =>
    .invalidClaim line source diagnostics

def errorCodes : List String :=
  ["invalid-argument", "incompatible-api", "permission-denied", "unavailable", "cancelled",
    "resource-limit", "internal"]

end Checks

/-! ### The conversation -/

/-- What has been said so far. -/
structure ParseState (Value : Type) where
  messageCount : ℕ
  descriptor : Option PluginDescriptor
  response : Option (PluginResponse Value)
  claims : List SymbolClaim
  logs : List PluginLog

def ParseState.start : ParseState Value := ⟨0, none, none, [], []⟩

variable (codec : WireCodec Value JsonError) (manifest : PluginManifest Version Requirement)
  (request : ExternalProcessRequest Value) (limits : RuntimeLimits)
  (diagnostics : ProcessDiagnostics)

/-- One event after its place in the conversation was checked. -/
def parseEvent (st : ParseState Value) (method : String) (payload : Value) :
    Except (PluginRuntimeError Value JsonError) (ParseState Value) :=
  let line := st.messageCount
  if method = "log" then do
    let log ← parseLog line diagnostics codec payload
    return { st with logs := st.logs ++ [log] }
  else if method = "claim" then
    if request.method ≠ .analyze then
      .error (.claimEventNotAllowed request.method.asStr diagnostics)
    else if claimsSubmit ∉ request.grantedPermissions then
      .error (.permissionDenied claimsSubmit diagnostics)
    else do
      let claim ← parseClaim line diagnostics codec payload manifest request
      return { st with claims := st.claims ++ [claim] }
  else protocolError line diagnostics ("unsupported event method `" ++ method ++ "`")

/-- What the response of the plugin comes to. -/
def parseResponse (st : ParseState Value) (id : String) (ok : Bool) (result : Option Value)
    (error : Option (WireError Value)) :
    Except (PluginRuntimeError Value JsonError) (ParseState Value) :=
  let line := st.messageCount
  match ok, result, error with
  | true, some result, none => .ok { st with response := some ⟨id, result⟩ }
  | false, none, some error =>
    if error.code ∉ errorCodes then
      protocolError line diagnostics ("invalid plugin error code `" ++ error.code ++ "`")
    else .error (.pluginRejected error.code error.message error.data diagnostics)
  | _, _, _ => protocolError line diagnostics
      "successful responses require only result; failed responses require only error"

/-- One decoded message, in the line that the message count names. -/
def parseMessage (st : ParseState Value) (output : PluginOutput Value) :
    Except (PluginRuntimeError Value JsonError) (ParseState Value) :=
  let line := st.messageCount
  match output with
  | .helloResult protocol version wire => do
    validateProtocol line diagnostics protocol version
    if st.descriptor.isSome ∨ st.response.isSome ∨ st.claims ≠ [] ∨ st.logs ≠ [] then
      protocolError line diagnostics "hello-result must be the first and only handshake response"
    else do
      let descriptor ← validateDescriptor line diagnostics wire manifest
      return { st with descriptor := some descriptor }
  | .event protocol version direction method payload => do
    validateProtocol line diagnostics protocol version
    requirePluginDirection line diagnostics direction
    if st.descriptor.isNone then
      protocolError line diagnostics "event arrived before hello-result"
    else if st.response.isSome then
      protocolError line diagnostics "event arrived after the request response"
    else parseEvent codec manifest request diagnostics st method payload
  | .response protocol version direction id ok result error => do
    validateProtocol line diagnostics protocol version
    requirePluginDirection line diagnostics direction
    if st.descriptor.isNone then
      protocolError line diagnostics "response arrived before hello-result"
    else if st.response.isSome then
      protocolError line diagnostics "plugin emitted more than one request response"
    else if id ≠ request.id then
      protocolError line diagnostics ("response id `" ++ id ++ "` does not match request id `" ++
        request.id ++ "`")
    else parseResponse diagnostics st id ok result error

/-- A line without its carriage return. -/
def stripCarriageReturn (line : List UInt8) : List UInt8 :=
  if line.getLast? = some 13 then line.dropLast else line

/-- One line of the output. -/
def parseLine (st : ParseState Value) (rawLine : List UInt8) :
    Except (PluginRuntimeError Value JsonError) (ParseState Value) :=
  let st := { st with messageCount := st.messageCount + 1 }
  if st.messageCount > limits.maxMessages then
    .error (.messageLimit limits.maxMessages diagnostics)
  else
    let rawLine := stripCarriageReturn rawLine
    if rawLine = [] then
      protocolError st.messageCount diagnostics "empty NDJSON messages are not allowed"
    else if rawLine.length > limits.maxMessageBytes then
      .error (.streamLimit limits.maxMessageBytes diagnostics)
    else do
      let output ← (codec.output rawLine).mapError fun source =>
        .invalidJson st.messageCount source diagnostics
      parseMessage codec manifest request diagnostics st output

/-- What was said when the output has ended. -/
def finishOutput (exitCode : Option ℤ) (st : ParseState Value) :
    Except (PluginRuntimeError Value JsonError) (PluginExecution Value) :=
  match st.descriptor, st.response with
  | none, _ => protocolError (st.messageCount + 1) diagnostics "plugin did not emit hello-result"
  | some _, none =>
    protocolError (st.messageCount + 1) diagnostics "plugin did not emit a matching response"
  | some descriptor, some response =>
    .ok { descriptor, response, claims := st.claims, logs := st.logs, diagnostics, exitCode }

def parseOutput (stdout : List UInt8) (exitCode : Option ℤ) :
    Except (PluginRuntimeError Value JsonError) (PluginExecution Value) :=
  if stdout = [] then protocolError 1 diagnostics "plugin produced no protocol output"
  else if stdout.getLast? ≠ some 10 then
    protocolError 1 diagnostics "the final NDJSON message is not newline terminated"
  else do
    let st ← (stdout.dropLast.splitOn 10).foldlM
      (parseLine codec manifest request limits diagnostics) .start
    finishOutput diagnostics exitCode st

end Reading

end ReSymbol.PluginRuntime
