import ReSymbol.Analysis.Pe
import ReSymbol.Core.Symbols

/-! Analysis sessions.

    A session is one exact analysis of a binary together with the claims that plugin runs added to
    it. Every claim is checked on its own against the image, names a successful run of the plugin
    that produced it, and is counted on the ledger of that run; a call through a pointer slot needs
    a data reference to the slot, from whichever claim it comes.

        base ──▶ image range ──▶ section policy ──▶ run ──▶ ledger
                                  claims ∪ base claims ──▶ companions -/

namespace ReSymbol.Analysis
open Schemes Schemes.Reducer ReSymbol.Core Debugger

/-! ### The base analysis -/

structure ElfLoadSegment where
  virtualAddress : ℕ
  memorySize : ℕ
  flags : ℕ

def ElfLoadSegment.readable (segment : ElfLoadSegment) : Bool := segment.flags / 4 % 2 ≠ 0

def ElfLoadSegment.executable (segment : ElfLoadSegment) : Bool := segment.flags % 2 ≠ 0

structure MachOSegment where
  vmaddr : UInt64
  vmsize : UInt64
  initprot : UInt32

def MachOSegment.readable (segment : MachOSegment) : Bool := segment.initprot &&& 1 ≠ 0

def MachOSegment.executable (segment : MachOSegment) : Bool := segment.initprot &&& 4 ≠ 0

inductive MachOContainer where
  | thin (segments : List MachOSegment)
  | fat

/-- What a session reads of the model of a format. -/
inductive FormatModel where
  | pe (sizeOfImage : UInt32) (sections : List PeSection)
    (imports delayImports : List PeImportLibrary)
  | elf (imageSize : UInt64) (loadSegments : List ElfLoadSegment)
  | machO (imageSize : UInt64) (container : MachOContainer)

structure BinaryAnalysis where
  identity : BinaryIdentity
  symbolGraph : SymbolGraph
  model : FormatModel

/-- The checks of the three formats on their own models. -/
class FormatValidator where
  checkModel : BinaryAnalysis → Except AnalysisError Unit

/-- The field that a graph is reported under. -/
def FormatModel.graphField : FormatModel → String
  | .pe .. => "symbol graph"
  | .elf .. => "ELF symbol graph"
  | .machO .. => "Mach-O symbol graph"

def FormatModel.graphReason : FormatModel → String
  | .pe .. => "does not semantically match claims derived from the PE metadata"
  | .elf .. => "the graph must be reproducible from the exact identity and stored symbols"
  | .machO .. => "the graph must be reproducible from the exact identity and container"

namespace BinaryAnalysis

/-- Every format rebuilds its graph over the one binary of the identity. -/
def validate [FormatValidator] (analysis : BinaryAnalysis) : Except AnalysisError Unit := do
  FormatValidator.checkModel analysis
  refuseIf (analysis.symbolGraph.binaries.toList ≠ [(analysis.identity.id, analysis.identity)])
    (.invalidField analysis.model.graphField analysis.model.graphReason)

def imageSize (analysis : BinaryAnalysis) : UInt64 :=
  match analysis.model with
  | .pe sizeOfImage _ _ _ => sizeOfImage.toUInt64
  | .elf imageSize _ | .machO imageSize _ => imageSize

def importIatRvas (analysis : BinaryAnalysis) : List UInt64 :=
  match analysis.model with
  | .pe _ _ imports delayImports =>
    ((imports.flatMap (·.entries)) ++ delayImports.flatMap (·.entries)).map (·.iatRva.toUInt64)
  | .elf _ _ | .machO _ _ => []

end BinaryAnalysis

/-! ### What can be wrong with a claim -/

/-- The variants of `SessionValidationError` that carry the index of a claim. -/
inductive ClaimFault where
  | invalidPluginClaim (source : ClaimValidationError)
  | wrongBinary (expected found : BinaryId)
  | addressOutsideImage (field : String) (rva size imageSize : UInt64)
  | unsupportedElfContainerAssertion
  | elfSubjectOutsideLoadSegment
  | elfFunctionNotExecutable
  | elfGlobalNotReadable
  | unsupportedMachOContainerAssertion
  | machOSubjectOutsideSegment
  | machOFunctionNotExecutable
  | machOGlobalNotReadable
  | functionBoundaryRequiresFunction
  | functionEntryRequiresFunction
  | directCallRequiresFunction
  | thunkTargetRequiresFunction
  | stringLiteralRequiresGlobal
  | stringLiteralRequiresSize
  | stringLiteralSizeMismatch (subjectSize encodedSize : UInt64)
  | encodedStringSizeOverflow
  | stringLiteralUnsupportedSection
  | dataReferenceRequiresFunction
  | dataReferenceInstructionSizeUnsupported (instructionSize : UInt8)
  | dataReferenceSiteBeforeFunction (instructionRva functionRva : UInt64)
  | dataReferenceSiteOutsideFunction (instructionRva functionRva functionEndRva : UInt64)
  | dataReferenceSourceNotExecutable
  | dataReferenceTargetNotData
  | functionBoundarySizeMismatch (subjectSize boundarySize : UInt64)
  | directCallSiteBeforeFunction (callSiteRva functionRva : UInt64)
  | directCallSiteOutsideFunction (callSiteRva functionRva functionEndRva : UInt64)
  | thunkSelfTarget (rva : UInt64)
  | unknownImportIatTarget (assertion : String) (iatRva : UInt64)
  | functionPointerSlotIsImportIat (slotRva : UInt64)
  | functionPointerSlotNotReadOnly
  | functionPointerTargetNotExecutable
  | functionPointerThunkSourceNotExecutable
  | functionPointerMissingDataReference (slotRva : UInt64)
  | nonPluginProducer
  | missingRunId
  | unknownRun (runId : String)
  | unsuccessfulRun (runId : String)
  | producerRunMismatch (runId : String)
  deriving DecidableEq

inductive SessionValidationError where
  | invalidBaseAnalysis (source : AnalysisError)
  | invalidPluginVersion
  | invalidRunId
  | invalidPluginFingerprint
  | failedRunAcceptedClaims (runId : String) (count : UInt64)
  | duplicateRunId (runId : String)
  | claim (index : ℕ) (fault : ClaimFault)
  | acceptedClaimCountOverflow
  | acceptedClaimCountMismatch (runId : String) (recorded : UInt64) (actual : ℕ)
  | combinedGraph (source : GraphValidationError)
  deriving DecidableEq

/-! ### Ranges in the image -/

def validateImageRange (field : String) (rva size imageSize : UInt64) : Except ClaimFault Unit :=
  refuseIf (rva ≥ imageSize ∨
      (Debugger.checkedAdd rva.toNat size.toNat).all (· > imageSize.toNat))
    (.addressOutsideImage field rva size imageSize)

/-- The end of the caller. -/
def callerEnd (field : String) (rva size imageSize : UInt64) : Except ClaimFault UInt64 :=
  if rva.toNat + size.toNat < 2 ^ 64 then .ok (rva + size)
  else .error (.addressOutsideImage field rva size imageSize)

def validateImportIatTarget (assertion : String) (target : ControlFlowTarget)
    (importIatRvas : List UInt64) : Except ClaimFault Unit :=
  match target with
  | .importIat iatRva => refuseIf (iatRva ∉ importIatRvas)
      (.unknownImportIatTarget assertion iatRva)
  | .function _ | .functionPointer _ _ => .ok ()

def validateFunctionPointerRangePolicy (field : String) (slotRva imageSize : UInt64)
    (importIatRvas : List UInt64) : Except ClaimFault Unit := do
  validateImageRange field slotRva 8 imageSize
  refuseIf (slotRva ∈ importIatRvas) (.functionPointerSlotIsImportIat slotRva)

/-- `value.encode_utf16().count()`. -/
def utf16Units (value : String) : ℕ :=
  (value.toList.map fun c => if c.toNat < 0x10000 then 1 else 2).sum

def encodedStringSize (encoding : StringEncoding) (value : String) : Except ClaimFault UInt64 :=
  let size := match encoding with
    | .ascii => value.utf8ByteSize + 1
    | .utf16Le => utf16Units value * 2 + 2
  if size < 2 ^ 64 then .ok (.ofNat size) else .error .encodedStringSizeOverflow

def validateSubjectRange (subject : SymbolSubject) (imageSize : UInt64) : Except ClaimFault Unit :=
  match subject with
  | .function _ rva size | .global _ rva size =>
    validateImageRange "subject" rva (size.getD 1) imageSize
  | .type _ _ => .ok ()

/-- What a call and a thunk check of their target. -/
def validateTarget (field assertion slotField : String) (target : ControlFlowTarget)
    (imageSize : UInt64) (importIatRvas : List UInt64) : Except ClaimFault Unit := do
  validateImageRange
    (field ++ if target.isFunction then " function target" else " import-IAT target")
    target.rva 1 imageSize
  validateImportIatTarget assertion target importIatRvas
  match target with
  | .functionPointer slotRva _ =>
    validateFunctionPointerRangePolicy slotField slotRva imageSize importIatRvas
  | .function _ | .importIat _ => .ok ()

def validateDirectCall (rva : UInt64) (size : Option UInt64) (callSiteRva : UInt64)
    (target : ControlFlowTarget) (imageSize : UInt64) (importIatRvas : List UInt64) :
    Except ClaimFault Unit := do
  validateImageRange "direct-call site" callSiteRva 1 imageSize
  refuseIf (callSiteRva < rva) (.directCallSiteBeforeFunction callSiteRva rva)
  match size with
  | some size =>
    let stop ← callerEnd "caller function" rva size imageSize
    refuseIf (callSiteRva ≥ stop) (.directCallSiteOutsideFunction callSiteRva rva stop)
  | none => .ok ()
  validateTarget "direct-call" "direct-call assertion" "direct-call function-pointer slot" target
    imageSize importIatRvas

def validateDataReference (rva : UInt64) (size : Option UInt64) (instructionRva : UInt64)
    (instructionSize : UInt8) (targetRva imageSize : UInt64) : Except ClaimFault Unit := do
  refuseIf (¬(1 ≤ instructionSize ∧ instructionSize ≤ 15))
    (.dataReferenceInstructionSizeUnsupported instructionSize)
  validateImageRange "data-reference instruction" instructionRva instructionSize.toUInt64 imageSize
  validateImageRange "data-reference target" targetRva 1 imageSize
  refuseIf (instructionRva < rva) (.dataReferenceSiteBeforeFunction instructionRva rva)
  match size with
  | some size =>
    let stop ← callerEnd "data-reference caller function" rva size imageSize
    let instructionStop ← callerEnd "data-reference instruction" instructionRva
      instructionSize.toUInt64 imageSize
    refuseIf (instructionStop > stop) (.dataReferenceSiteOutsideFunction instructionRva rva stop)
  | none => .ok ()

/-- All ranges a claim names. -/
def validateClaimRanges (claim : SymbolClaim) (imageSize : UInt64) (importIatRvas : List UInt64) :
    Except ClaimFault Unit := do
  validateSubjectRange claim.subject imageSize
  match claim.assertion, claim.subject with
  | .functionBoundary boundarySize, .function _ rva size =>
    validateImageRange "function boundary" rva boundarySize imageSize
    match size with
    | some size =>
      refuseIf (size ≠ boundarySize) (.functionBoundarySizeMismatch size boundarySize)
    | none => .ok ()
  | .functionBoundary _, _ => .error .functionBoundaryRequiresFunction
  | .functionEntry, .function .. => .ok ()
  | .functionEntry, _ => .error .functionEntryRequiresFunction
  | .directCall callSiteRva target, .function _ rva size =>
    validateDirectCall rva size callSiteRva target imageSize importIatRvas
  | .directCall _ _, _ => .error .directCallRequiresFunction
  | .thunkTarget target, .function _ rva _ =>
    validateTarget "thunk" "thunk-target assertion" "thunk function-pointer slot" target imageSize
      importIatRvas
    refuseIf (target.isFunctionAt rva) (.thunkSelfTarget rva)
  | .thunkTarget _, _ => .error .thunkTargetRequiresFunction
  | .stringLiteral encoding value, .global _ rva (some size) =>
    let encodedSize ← encodedStringSize encoding value
    validateImageRange "string literal" rva encodedSize imageSize
    refuseIf (size ≠ encodedSize) (.stringLiteralSizeMismatch size encodedSize)
  | .stringLiteral _ _, .global _ _ none => .error .stringLiteralRequiresSize
  | .stringLiteral _ _, _ => .error .stringLiteralRequiresGlobal
  | .dataReference instructionRva instructionSize targetRva, .function _ rva size =>
    validateDataReference rva size instructionRva instructionSize targetRva imageSize
  | .dataReference .., _ => .error .dataReferenceRequiresFunction
  | .name _, _ | .functionPrototype _, _ | .typeDefinition _, _ | .classMembership _, _
  | .comment _, _ => .ok ()

/-! ### Sections and segments -/

namespace PeSection

def executable (s : PeSection) : Bool := s.characteristics.testBit 29

def readableInitialized (s : PeSection) : Bool :=
  s.characteristics.testBit 6 && s.characteristics.testBit 30 && !s.executable

def readOnlyInitialized (s : PeSection) : Bool :=
  s.readableInitialized && !s.characteristics.testBit 31

/-- The range is not empty and comes from the file. -/
def hasFileBackedRange (s : PeSection) (rva size : ℕ) : Bool :=
  size ≠ 0 && s.virtualAddress ≤ rva && rva + size ≤ s.virtualAddress + s.fileBackedSize

end PeSection

def modelRangeIsBackedExecutable (sections : List PeSection) (rva size : ℕ) : Bool :=
  sections.any fun s => s.executable && s.hasFileBackedRange rva size

def modelRangeIsBackedReadableInitializedData (sections : List PeSection) (rva size : ℕ) : Bool :=
  sections.any fun s => s.readableInitialized && s.hasFileBackedRange rva size

def modelRangeIsBackedReadOnlyInitializedData (sections : List PeSection) (rva size : ℕ) : Bool :=
  sections.any fun s => s.readOnlyInitialized && s.hasFileBackedRange rva size

/-- `u32::try_from(..).is_ok()`. -/
def fitsU32 (n : UInt64) : Prop := n.toNat < 2 ^ 32

instance (n : UInt64) : Decidable (fitsU32 n) := by
  unfold fitsU32; infer_instance

/-- What a call and a thunk through a pointer slot check. -/
def validatePointerSections (sections : List PeSection) (slotRva rva : UInt64) :
    Except ClaimFault Unit := do
  refuseIf (¬(fitsU32 slotRva ∧ fitsU32 rva)) .functionPointerSlotNotReadOnly
  refuseIf (¬ modelRangeIsBackedReadOnlyInitializedData sections slotRva.toNat 8)
    .functionPointerSlotNotReadOnly
  refuseIf (¬ modelRangeIsBackedExecutable sections rva.toNat 1) .functionPointerTargetNotExecutable

/-- What a claim says must fit the sections it points to. -/
def validatePeSectionPolicy (sections : List PeSection) (claim : SymbolClaim) :
    Except ClaimFault Unit :=
  match claim.assertion with
  | .directCall _ (.functionPointer slotRva rva) => validatePointerSections sections slotRva rva
  | .thunkTarget (.functionPointer slotRva rva) => do
    validatePointerSections sections slotRva rva
    match claim.subject with
    | .function _ sourceRva _ =>
      refuseIf (¬(fitsU32 sourceRva ∧ modelRangeIsBackedExecutable sections sourceRva.toNat 1))
        .functionPointerThunkSourceNotExecutable
    | .global .. | .type .. => .error .thunkTargetRequiresFunction
  | .stringLiteral _ _ =>
    match claim.subject with
    | .global _ rva (some size) =>
      refuseIf (¬(fitsU32 rva ∧ fitsU32 size ∧
          modelRangeIsBackedReadableInitializedData sections rva.toNat size.toNat))
        .stringLiteralUnsupportedSection
    | _ => .ok ()
  | .dataReference instructionRva instructionSize targetRva => do
    refuseIf (¬(fitsU32 instructionRva ∧ fitsU32 targetRva)) .dataReferenceSourceNotExecutable
    refuseIf (¬ modelRangeIsBackedExecutable sections instructionRva.toNat instructionSize.toNat)
      .dataReferenceSourceNotExecutable
    refuseIf (¬ modelRangeIsBackedReadableInitializedData sections targetRva.toNat 1)
      .dataReferenceTargetNotData
  | _ => .ok ()

/-- The range of a subject in a container, and whether it is a function. -/
def mappedRange (claim : SymbolClaim) : Option (ℕ × ℕ × Bool) :=
  match claim.subject with
  | .function _ rva size =>
    let effectiveSize := size.getD (match claim.assertion with
      | .functionBoundary size => size
      | _ => 1)
    some (rva.toNat, effectiveSize.toNat, true)
  | .global _ rva size => some (rva.toNat, (size.getD 1).toNat, false)
  | .type _ _ => none

/-- The assertions that need the instructions of x86-64. -/
def needsInstructions : SymbolAssertion → Bool
  | .directCall .. | .thunkTarget _ | .stringLiteral .. | .dataReference .. => true
  | _ => false

/-- A valid analysis has no segment below its image base. -/
def validateElfSubjectMapping (imageBase : ℕ) (loadSegments : List ElfLoadSegment)
    (claim : SymbolClaim) : Except ClaimFault Unit :=
  match mappedRange claim with
  | none => .ok ()
  | some (rva, size, function) =>
    match loadSegments.find? fun segment => rva + size < 2 ^ 64 ∧
        segment.virtualAddress - imageBase ≤ rva ∧
          rva + size ≤ segment.virtualAddress - imageBase + segment.memorySize with
    | none => .error .elfSubjectOutsideLoadSegment
    | some segment => do
      refuseIf (function ∧ ¬ segment.executable) .elfFunctionNotExecutable
      refuseIf (¬ function ∧ ¬ segment.readable) .elfGlobalNotReadable

def validateMachOSubjectMapping (imageBase : ℕ) (container : MachOContainer) (claim : SymbolClaim) :
    Except ClaimFault Unit :=
  match mappedRange claim, container with
  | none, _ => .ok ()
  | some _, .fat => .error .machOSubjectOutsideSegment
  | some (rva, size, function), .thin segments =>
    match segments.find? fun segment => rva + size < 2 ^ 64 ∧ imageBase ≤ segment.vmaddr.toNat ∧
        segment.vmaddr.toNat - imageBase + segment.vmsize.toNat < 2 ^ 64 ∧
        segment.vmaddr.toNat - imageBase ≤ rva ∧
          rva + size ≤ segment.vmaddr.toNat - imageBase + segment.vmsize.toNat with
    | none => .error .machOSubjectOutsideSegment
    | some segment => do
      refuseIf (function ∧ ¬ segment.executable) .machOFunctionNotExecutable
      refuseIf (¬ function ∧ ¬ segment.readable) .machOGlobalNotReadable

/-- The policy of the claim's file format. -/
def validateClaimSectionPolicy (claim : SymbolClaim) (analysis : BinaryAnalysis) :
    Except ClaimFault Unit :=
  match analysis.model with
  | .pe _ sections _ _ => validatePeSectionPolicy sections claim
  | .elf _ loadSegments => do
    validateElfSubjectMapping analysis.identity.imageBase.toNat loadSegments claim
    refuseIf (needsInstructions claim.assertion) .unsupportedElfContainerAssertion
  | .machO _ container => do
    validateMachOSubjectMapping analysis.identity.imageBase.toNat container claim
    refuseIf (needsInstructions claim.assertion) .unsupportedMachOContainerAssertion

/-! ### Runs -/

inductive PluginRunStatus where
  | succeeded | failed

def PluginRunStatus.isSuccessful : PluginRunStatus → Bool
  | .succeeded => true
  | .failed => false

structure PluginRunRecord where
  pluginId : PluginId
  pluginVersion : String
  runId : String
  artifactSha256 : String
  status : PluginRunStatus
  acceptedClaimCount : UInt64

/-- `Version::parse` and, of what it answers, `to_string`. -/
class VersionSyntax where
  reprint : String → Option String

/-- Not empty, bounded, trimmed and without control characters. -/
def isCanonicalText (value : String) (maxBytes : ℕ) : Bool :=
  !value.isEmpty && value.utf8ByteSize ≤ maxBytes &&
    !(value.toList.head?.any isWhitespace || value.toList.getLast?.any isWhitespace) &&
      !value.toList.any isControl

/-- Sixty-four lower-case hex digits. -/
def isCanonicalSha256 (value : String) : Bool :=
  value.utf8ByteSize = 64 &&
    (utf8 value).all fun byte => (0x30 ≤ byte && byte ≤ 0x39) || (0x61 ≤ byte && byte ≤ 0x66)

/-- Version, run id and artifact are canonical; a failed run has no claims. -/
def PluginRunRecord.validate [VersionSyntax] (run : PluginRunRecord) :
    Except SessionValidationError Unit := do
  refuseIf (¬ isCanonicalText run.pluginVersion 128) .invalidPluginVersion
  refuseIf (VersionSyntax.reprint run.pluginVersion ≠ some run.pluginVersion) .invalidPluginVersion
  refuseIf (¬ isCanonicalText run.runId 128) .invalidRunId
  refuseIf (¬ isCanonicalSha256 run.artifactSha256) .invalidPluginFingerprint
  refuseIf (¬ run.status.isSuccessful ∧ run.acceptedClaimCount ≠ 0)
    (.failedRunAcceptedClaims run.runId run.acceptedClaimCount)

/-! ### Sessions -/

structure AnalysisSession where
  baseAnalysis : BinaryAnalysis
  pluginRuns : List PluginRunRecord
  pluginClaims : List SymbolClaim

def pointerCallCompanionKey (claim : SymbolClaim) : Option (UInt64 × UInt64 × UInt64) :=
  match claim.subject, claim.assertion with
  | .function _ callerRva _, .dataReference instructionRva instructionSize targetRva =>
    if instructionSize = 6 ∨ instructionSize = 7 then some (callerRva, instructionRva, targetRva)
    else none
  | _, _ => none

/-- A call through a pointer needs its data reference. -/
def validatePointerCallCompanion (claim : SymbolClaim)
    (companionKeys : List (UInt64 × UInt64 × UInt64)) : Except ClaimFault Unit :=
  match claim.assertion, claim.subject with
  | .directCall callSiteRva (.functionPointer slotRva _), .function _ callerRva _ =>
    refuseIf ((callerRva, callSiteRva, slotRva) ∉ companionKeys)
      (.functionPointerMissingDataReference slotRva)
  | _, _ => .ok ()

/-- The checks of a claim that read nothing but the base analysis. -/
def validateAgainstBase (base : BinaryAnalysis) (claim : SymbolClaim) : Except ClaimFault Unit := do
  claim.validate.mapError .invalidPluginClaim
  refuseIf (claim.subject.binary ≠ base.identity.id)
    (.wrongBinary base.identity.id claim.subject.binary)
  validateClaimRanges claim base.imageSize base.importIatRvas
  validateClaimSectionPolicy claim base

/-- The run that a claim names. -/
def ownerOf (runsById : List PluginRunRecord) (claim : SymbolClaim) :
    Except ClaimFault PluginRunRecord :=
  match claim.provenance.producer with
  | .plugin producerId producerVersion =>
    match claim.provenance.runId with
    | none => .error .missingRunId
    | some runId =>
      match runsById.find? (·.runId = runId) with
      | none => .error (.unknownRun runId)
      | some run => do
        refuseIf (¬ run.status.isSuccessful) (.unsuccessfulRun runId)
        refuseIf (producerId ≠ run.pluginId ∨ producerVersion ≠ run.pluginVersion)
          (.producerRunMismatch runId)
        return run
  | .core _ _ | .user _ => .error .nonPluginProducer

/-- One round of the loop over the runs: no identifier is used twice. -/
def addRun [VersionSyntax] (runsById : List PluginRunRecord) (run : PluginRunRecord) :
    Except SessionValidationError (List PluginRunRecord) := do
  run.validate
  refuseIf (run.runId ∈ runsById.map (·.runId)) (.duplicateRunId run.runId)
  return runsById ++ [run]

/-- One round of the loop over the claims: the claim is counted for its run. -/
def acceptClaim (base : BinaryAnalysis) (runsById : List PluginRunRecord)
    (acceptedCounts : String → ℕ) (entry : SymbolClaim × ℕ) :
    Except SessionValidationError (String → ℕ) := do
  (validateAgainstBase base entry.1).mapError (.claim entry.2)
  let run ← (ownerOf runsById entry.1).mapError (.claim entry.2)
  refuseIf (acceptedCounts run.runId + 1 ≥ 2 ^ 64) .acceptedClaimCountOverflow
  return Function.update acceptedCounts run.runId (acceptedCounts run.runId + 1)

namespace AnalysisSession

variable [FormatValidator] [VersionSyntax] (session : AnalysisSession)

/-- The data references that calls through pointer slots may rest on. -/
def companionKeys (session : AnalysisSession) : List (UInt64 × UInt64 × UInt64) :=
  (session.baseAnalysis.symbolGraph.claims ++ session.pluginClaims).filterMap
    pointerCallCompanionKey

def validate : Except SessionValidationError Unit := do
  session.baseAnalysis.validate.mapError .invalidBaseAnalysis
  let runsById ← session.pluginRuns.foldlM addRun []
  let acceptedCounts ←
    session.pluginClaims.zipIdx.foldlM (acceptClaim session.baseAnalysis runsById) fun _ => 0
  session.pluginClaims.zipIdx.forM fun entry =>
    (validatePointerCallCompanion entry.1 session.companionKeys).mapError (.claim entry.2)
  session.pluginRuns.forM fun run =>
    refuseIf (run.acceptedClaimCount.toNat ≠ acceptedCounts run.runId)
      (.acceptedClaimCountMismatch run.runId run.acceptedClaimCount (acceptedCounts run.runId))

/-- The base graph followed by the claims in their recorded order. -/
def combinedSymbolGraph : Except SessionValidationError SymbolGraph := do
  session.validate
  session.pluginClaims.foldlM
    (fun graph claim => (graph.submitClaim claim).mapError .combinedGraph)
    session.baseAnalysis.symbolGraph

end AnalysisSession

end ReSymbol.Analysis
