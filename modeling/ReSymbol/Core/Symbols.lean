import ReSymbol.Schemes.Texts
import ReSymbol.Debugger.Identity

/-! The core's symbol graph: evidence-backed claims about exact binaries.

    A claim attaches one assertion to a subject (a function, a global or a type of one binary). It
    carries a confidence, at least one piece of evidence, and the provenance of its producer. The
    graph keeps competing claims side by side; it only checks that each of them is well formed and
    is about a binary it knows.

        SymbolGraph ── binaries : BinaryId ↦ BinaryIdentity
                    └─ claims ── subject · assertion · confidence · evidence* · provenance -/

namespace ReSymbol.Core

open Schemes Debugger

/-! ### Binary64 values -/

/-- A binary64 value by its bit pattern. -/
abbrev F64 := UInt64

namespace F64

/-- The value without its sign bit, as a pattern: larger patterns are larger values. -/
def magnitude (v : F64) : ℕ := v.toNat % 2 ^ 63

def isNegative (v : F64) : Bool := 2 ^ 63 ≤ v.toNat

/-- The place of a value in the order of the values; both zeros have the same place. -/
def place (v : F64) : ℤ := if v.isNegative then -(magnitude v) else magnitude v

def isNaN (v : F64) : Bool := 0x7ff0000000000000 < magnitude v

def isFinite (v : F64) : Bool := magnitude v < 0x7ff0000000000000

/-- `a <= b`. -/
def le (a b : F64) : Bool := !isNaN a && !isNaN b && decide (place a ≤ place b)

/-- `a == b`. -/
def eq (a b : F64) : Bool := !isNaN a && !isNaN b && decide (place a = place b)

def zero : F64 := 0

def one : F64 := 0x3ff0000000000000

@[simp] theorem place_zero : place zero = 0 := by decide

@[simp] theorem place_one : place one = 0x3ff0000000000000 := by decide

@[simp] theorem isNaN_zero : isNaN zero = false := by decide

@[simp] theorem isNaN_one : isNaN one = false := by decide

end F64

/-- Source encoding used to decode one recovered string literal. -/
inductive StringEncoding where
  | ascii | utf16Le
  deriving DecidableEq

inductive ClaimValidationError where
  | invalidConfidence (value : F64)
  | invalidEvidenceKind (value : String)
  | invalidStringLiteral (encoding : StringEncoding)
  | emptyField (field : String)
  | zeroSize
  | zeroInstructionSize
  | addressOverflow
  | missingEvidence
  | invalidEvidenceArtifact
  deriving DecidableEq

/-- The test of `Confidence::new`. -/
def Confidence.admits (value : F64) : Bool :=
  F64.isFinite value && (F64.le F64.zero value && F64.le value F64.one)

/-- A finite confidence value in the inclusive range `0.0..=1.0`. -/
structure Confidence where
  get : F64
  valid : Confidence.admits get = true

namespace Confidence

/-- No confidence at all: `0.0`. -/
def none : Confidence := ⟨0, by decide⟩

/-- The derived equality, which is that of the values: it does not see the sign of zero. -/
def eq (a b : Confidence) : Bool := F64.eq a.get b.get

/-- The bit patterns of a confidence: from `+0.0` to `1.0`, and `-0.0`. -/
theorem get_toNat (c : Confidence) :
    c.get.toNat ≤ 0x3ff0000000000000 ∨ c.get.toNat = 2 ^ 63 := by
  obtain ⟨value, h⟩ := c
  have hlt := value.toNat_lt
  simp only [admits, F64.le, F64.isNaN_zero, F64.isNaN_one, F64.place_zero, F64.place_one,
    Bool.and_eq_true, Bool.not_eq_true', decide_eq_true_eq] at h
  simp only [F64.place, F64.isNegative, F64.magnitude, decide_eq_true_eq] at h
  dsimp only
  split at h <;> omega

@[simp] theorem isNaN_get (c : Confidence) : F64.isNaN c.get = false := by
  have hc := c.get_toNat
  rw [F64.isNaN, decide_eq_false_iff_not, F64.magnitude]
  omega

/-- The place of a confidence is its pattern, but for `-0.0`. -/
theorem place_get (c : Confidence) :
    F64.place c.get = if c.get.toNat = 2 ^ 63 then 0 else (c.get.toNat : ℤ) := by
  have hc := c.get_toNat
  simp only [F64.place, F64.isNegative, F64.magnitude, decide_eq_true_eq]
  split <;> split <;> omega

theorem eq_iff {a b : Confidence} :
    eq a b = true ↔
      a.get = b.get ∨ (F64.eq a.get F64.zero = true ∧ F64.eq b.get F64.zero = true) := by
  have ha := a.get_toNat
  have hb := b.get_toNat
  rw [← UInt64.toNat_inj]
  simp only [eq, F64.eq, isNaN_get, F64.isNaN_zero, F64.place_zero, place_get, Bool.not_false,
    Bool.true_and, decide_eq_true_eq]
  split <;> split <;> omega

end Confidence

/-! ### Binaries and subjects -/

/-- Binary container format, kept extensible for plugin-provided loaders. -/
inductive BinaryFormat where
  | pe | elf | machO | wasm
  | other (name : String)
  deriving DecidableEq

/-- Build identity and address-space metadata used by claims. -/
structure BinaryIdentity where
  id : BinaryId
  size : UInt64
  format : BinaryFormat
  architecture : String
  imageBase : UInt64
  deriving DecidableEq

/-- Canonical object to which a plugin attaches a claim. -/
inductive SymbolSubject where
  | function (binary : BinaryId) (rva : UInt64) (size : Option UInt64)
  | global (binary : BinaryId) (rva : UInt64) (size : Option UInt64)
  | type (binary : BinaryId) (key : String)

namespace SymbolSubject

def binary : SymbolSubject → BinaryId
  | function binary _ _ | global binary _ _ | type binary _ => binary

/-- The range checks shared by functions and globals. -/
def validateRange (rva : UInt64) : Option UInt64 → Except ClaimValidationError Unit
  | none => .ok ()
  | some size =>
    if size = 0 then .error .zeroSize
    else match checkedAdd rva.toNat size.toNat with
      | none => .error .addressOverflow
      | some _ => .ok ()

def validate : SymbolSubject → Except ClaimValidationError Unit
  | function _ rva size | global _ rva size => validateRange rva size
  | type _ key => if trimmedEmpty key then .error (.emptyField "subject.key") else .ok ()

end SymbolSubject

/-! ### Assertions -/

/-- One resolved control-flow destination retained by a symbol claim. -/
inductive ControlFlowTarget where
  | function (rva : UInt64)
  | importIat (iatRva : UInt64)
  | functionPointer (slotRva rva : UInt64)

namespace ControlFlowTarget

/-- The target's canonical image-relative address. -/
def rva : ControlFlowTarget → UInt64
  | function rva | functionPointer _ rva => rva
  | importIat iatRva => iatRva

/-- The target is an internal function rather than an import slot. -/
def isFunction : ControlFlowTarget → Bool
  | function _ | functionPointer _ _ => true
  | importIat _ => false

/-- The target is the internal function at the address. -/
def isFunctionAt (target : ControlFlowTarget) (rva : UInt64) : Bool :=
  match target with
  | function targetRva | functionPointer _ targetRva => targetRva = rva
  | importIat _ => false

def validate : ControlFlowTarget → Except ClaimValidationError Unit
  | function _ | importIat _ | functionPointer _ _ => .ok ()

end ControlFlowTarget

/-- Information proposed for a subject. The core preserves competing claims. -/
inductive SymbolAssertion where
  | name (name : String)
  | functionPrototype (declaration : String)
  | functionBoundary (size : UInt64)
  | functionEntry
  | directCall (callSiteRva : UInt64) (target : ControlFlowTarget)
  | thunkTarget (target : ControlFlowTarget)
  | stringLiteral (encoding : StringEncoding) (value : String)
  | dataReference (instructionRva : UInt64) (instructionSize : UInt8) (targetRva : UInt64)
  | typeDefinition (declaration : String)
  | classMembership (className : String)
  | comment (text : String)

/-- The value is not blank. -/
def requireNonempty (field value : String) : Except ClaimValidationError Unit :=
  if trimmedEmpty value then .error (.emptyField field) else .ok ()

def SymbolAssertion.validate : SymbolAssertion → Except ClaimValidationError Unit
  | .name text => requireNonempty "assertion.name" text
  | .functionPrototype declaration => requireNonempty "assertion.declaration" declaration
  | .typeDefinition declaration => requireNonempty "assertion.declaration" declaration
  | .classMembership className => requireNonempty "assertion.class_name" className
  | .comment text => requireNonempty "assertion.text" text
  | .stringLiteral encoding value =>
    if trimmedEmpty value then .error (.emptyField "assertion.value")
    else
      let valid := match encoding with
        | .ascii => (utf8 value).all fun byte => 0x20 ≤ byte && byte ≤ 0x7e
        | .utf16Le => !value.toList.any isControl
      if !valid then .error (.invalidStringLiteral encoding) else .ok ()
  | .functionBoundary size => if size = 0 then .error .zeroSize else .ok ()
  | .functionEntry => .ok ()
  | .directCall _ target | .thunkTarget target => target.validate
  | .dataReference _ instructionSize _ =>
    if instructionSize = 0 then .error .zeroInstructionSize else .ok ()

/-! ### Evidence and provenance -/

/-- The test of `EvidenceKind::new`. -/
def EvidenceKind.admits (value : String) : Bool :=
  (2 ≤ value.utf8ByteSize && value.utf8ByteSize ≤ 128) &&
    value.toList.all fun c => c.isLower || c.isDigit || c ∈ ['.', '-', '_']

/-- Extensible evidence classification. -/
structure EvidenceKind where
  asStr : String
  valid : EvidenceKind.admits asStr = true

@[ext] theorem EvidenceKind.ext {a b : EvidenceKind} (h : a.asStr = b.asStr) : a = b := by
  cases a; cases b; simpa using h

def EvidenceKind.new (value : String) : Except ClaimValidationError EvidenceKind :=
  if h : EvidenceKind.admits value = true then .ok ⟨value, h⟩
  else .error (.invalidEvidenceKind value)

/-- One auditable reason supporting a claim. -/
structure Evidence where
  kind : EvidenceKind
  summary : String
  confidence : Option Confidence
  /-- Stable key/value references such as `source_rva`, `signature`, or `uri`. -/
  artifacts : Std.ExtTreeMap String String

def Evidence.validate (evidence : Evidence) : Except ClaimValidationError Unit :=
  if trimmedEmpty evidence.summary then .error (.emptyField "evidence.summary")
  else if evidence.artifacts.toList.any fun (key, value) => trimmedEmpty key || trimmedEmpty value
    then .error .invalidEvidenceArtifact
  else .ok ()

def Evidence.new (kind : EvidenceKind) (summary : String) :
    Except ClaimValidationError Evidence := do
  let evidence : Evidence := { kind, summary, confidence := none, artifacts := ∅ }
  evidence.validate
  return evidence

/-- The derived equality: fields are equal, confidences up to the sign of zero. -/
structure Evidence.Same (a b : Evidence) : Prop where
  kind : a.kind = b.kind
  summary : a.summary = b.summary
  confidence : Option.Rel (fun c d => Confidence.eq c d = true) a.confidence b.confidence
  artifacts : a.artifacts = b.artifacts

/-- One segment of a dotted identifier. -/
def PluginId.segment (chars : List Char) : Bool :=
  !chars.isEmpty && !(chars.head? ∈ [some '-', some '_']) &&
    !(chars.getLast? ∈ [some '-', some '_']) &&
    chars.all fun c => c.isLower || c.isDigit || c ∈ ['-', '_']

/-- The test of `validate_identifier`. -/
def PluginId.admits (value : String) : Bool :=
  (3 ≤ value.utf8ByteSize && value.utf8ByteSize ≤ 128) &&
    (value.toList.splitOn '.').all PluginId.segment

/-- The stable identifier of a plugin. -/
structure PluginId where
  asStr : String
  valid : PluginId.admits asStr = true
  deriving DecidableEq

@[ext] theorem PluginId.ext {a b : PluginId} (h : a.asStr = b.asStr) : a = b := by
  cases a; cases b; simpa using h

/-- Entity that produced a claim. -/
inductive ClaimProducer where
  | core (component version : String)
  | plugin (id : PluginId) (version : String)
  | user (reviewer : Option String)

/-- Reproducibility details owned by the claim producer. -/
structure ClaimProvenance where
  producer : ClaimProducer
  method : String
  runId : Option String

def ClaimProducer.validate : ClaimProducer → Except ClaimValidationError Unit
  | core component version => do
    requireNonempty "provenance.producer.component" component
    requireNonempty "provenance.producer.version" version
  | plugin _ version => requireNonempty "provenance.producer.version" version
  | user _ => .ok ()

def ClaimProvenance.validate (provenance : ClaimProvenance) : Except ClaimValidationError Unit := do
  requireNonempty "provenance.method" provenance.method
  provenance.producer.validate
  if provenance.runId.any trimmedEmpty then .error (.emptyField "provenance.run_id") else .ok ()

/-! ### Claims and graphs -/

/-- Evidence-backed proposal about one subject. -/
structure SymbolClaim where
  subject : SymbolSubject
  assertion : SymbolAssertion
  confidence : Confidence
  evidence : List Evidence
  provenance : ClaimProvenance

def SymbolClaim.validate (claim : SymbolClaim) : Except ClaimValidationError Unit := do
  claim.subject.validate
  claim.assertion.validate
  claim.provenance.validate
  if claim.evidence.isEmpty then .error .missingEvidence
  claim.evidence.forM Evidence.validate

inductive GraphValidationError where
  | invalidClaim (error : ClaimValidationError)
  | unknownBinary (binary : BinaryId)
  deriving DecidableEq

/-- Canonical collection of exact binary identities and uncollapsed claims. -/
structure SymbolGraph where
  binaries : Std.ExtTreeMap BinaryId BinaryIdentity
  claims : List SymbolClaim

def SymbolGraph.submitClaim (graph : SymbolGraph) (claim : SymbolClaim) :
    Except GraphValidationError SymbolGraph := do
  claim.validate.mapError .invalidClaim
  if !graph.binaries.contains claim.subject.binary then
    .error (.unknownBinary claim.subject.binary)
  return { graph with claims := graph.claims ++ [claim] }

end ReSymbol.Core
