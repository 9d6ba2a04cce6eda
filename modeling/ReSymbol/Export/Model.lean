import ReSymbol.Core.Symbols

/-! The neutral export model.

    A projection is the reduction of one binary's claim graph that format writers consume. Every
    value in it carries its attribution, a confidence and the provenance of the claim it came from;
    where claims compete, the attribution decides.

        rank of an attribution:  user > core > plugin,  then higher confidence,  then provenance -/

namespace ReSymbol.Export

open Schemes ReSymbol.Core Debugger

def maxWarnings : ℕ := 100000

/-! ### Addresses -/

/-- `u64::checked_add`. -/
def checkedAddU64 (a b : UInt64) : Option UInt64 :=
  (Debugger.checkedAdd a.toNat b.toNat).map UInt64.ofNat

@[simp] theorem checkedAddU64_eq_some {a b c : UInt64} :
    checkedAddU64 a b = some c ↔ a.toNat + b.toNat = c.toNat := by
  simp only [checkedAddU64, Option.map_eq_some_iff, Debugger.checkedAdd_eq_some]
  constructor
  · rintro ⟨_, ⟨rfl, hlt⟩, rfl⟩
    rw [UInt64.toNat_ofNat', Nat.mod_eq_of_lt hlt]
  · intro h
    exact ⟨_, ⟨h, c.toNat_lt⟩, UInt64.ofNat_toNat⟩

def validRange (rva : UInt64) (size : Option UInt64) (imageSize : UInt64) : Bool :=
  let span := size.getD 1
  span ≠ 0 && decide (rva < imageSize) && (checkedAddU64 rva span).any (· ≤ imageSize)

theorem validRange_some {rva size imageSize : UInt64}
    (h : validRange rva (some size) imageSize = true) :
    0 < size.toNat ∧ rva.toNat + size.toNat ≤ imageSize.toNat := by
  simp only [validRange, Option.getD_some, Bool.and_eq_true, decide_eq_true_eq] at h
  obtain ⟨⟨hsize, -⟩, hend⟩ := h
  cases hadd : checkedAddU64 rva size with
  | none => simp [hadd] at hend
  | some stop =>
    simp only [hadd, Option.any_some, decide_eq_true_eq, UInt64.le_iff_toNat_le] at hend
    rw [checkedAddU64_eq_some] at hadd
    refine ⟨Nat.pos_of_ne_zero fun h => hsize (UInt64.toNat_inj.mp h), by omega⟩

/-! ### Attributions and their rank -/

/-- Stable producer identity detached from the source claim representation. -/
inductive ExportProducer where
  | core (component version : String)
  | plugin (id version : String)
  | user (reviewer : Option String)
  deriving DecidableEq

namespace ExportProducer

/-- The place of the variant in the derived order. -/
def variant : ExportProducer → ℕ
  | core _ _ => 0
  | plugin _ _ => 1
  | user _ => 2

/-- The texts of the variant in the derived order; no reviewer comes before every reviewer. -/
def texts : ExportProducer → List String
  | core component version => [component, version]
  | plugin id version => [id, version]
  | user reviewer => reviewer.toList

instance : Ord ExportProducer := ⟨compareLex (compareOn variant) (compareOn texts)⟩

instance : Std.TransOrd ExportProducer :=
  inferInstanceAs (Std.TransCmp (compareLex (compareOn variant) (compareOn texts)))

end ExportProducer

/-- Bounded reproducibility details retained for an exported value. -/
structure ExportProvenance where
  producer : ExportProducer
  method : String
  runId : Option String
  deriving DecidableEq

/-- The derived order: by producer, then method, then run. -/
def ExportProvenance.cmp : ExportProvenance → ExportProvenance → Ordering :=
  compareLex (compareOn ExportProvenance.producer)
    (compareLex (compareOn ExportProvenance.method) (compareOn fun p => p.runId.toList))

instance : Ord ExportProvenance := ⟨ExportProvenance.cmp⟩

instance : Std.TransOrd ExportProvenance :=
  inferInstanceAs (Std.TransCmp (compareLex _ (compareLex _ _)))

/-- Confidence and source attached to a selected or competing value. -/
structure ExportAttribution where
  confidence : F64
  provenance : ExportProvenance
  deriving DecidableEq

/-- `f64::total_cmp` compares these. -/
def totalPlace (v : F64) : ℤ :=
  if v.isNegative then -(F64.magnitude v) - 1 else F64.magnitude v

def producerAuthority (provenance : ExportProvenance) : ℕ :=
  match provenance.producer with
  | .user _ => 3
  | .core _ _ => 2
  | .plugin _ _ => 1

def attributionOrder (left right : ExportAttribution) : Ordering :=
  ((compare (producerAuthority right.provenance) (producerAuthority left.provenance)).then
    (compare (totalPlace right.confidence) (totalPlace left.confidence))).then
    (compare left.provenance right.provenance)

instance : Std.TransCmp attributionOrder :=
  inferInstanceAs (Std.TransCmp (compareLex (compareLex
    (fun a b => compareOn (fun x : ExportAttribution => producerAuthority x.provenance) b a)
    (fun a b => compareOn (fun x : ExportAttribution => totalPlace x.confidence) b a))
    (compareOn ExportAttribution.provenance)))

/-- One bounded, attributed text candidate. -/
structure AttributedText where
  text : String
  attribution : ExportAttribution

/-! ### What a projection holds -/

/-- Selected source name and the unique name reserved for format writers. -/
structure ExportName where
  source : AttributedText
  outputName : String

/-- A function projected at one relative virtual address. -/
structure ExportFunction where
  rva : UInt64
  entryAttribution : Option ExportAttribution
  size : Option UInt64
  sizeAttribution : Option ExportAttribution
  selectedName : Option ExportName
  alternateNames : List AttributedText
  prototypes : List AttributedText
  classMemberships : List AttributedText

/-- Address target retained for a direct call or thunk relationship. -/
inductive ExportControlFlowTarget where
  | function (rva : UInt64)
  | importIat (iatRva : UInt64)
  | functionPointer (slotRva rva : UInt64)

/-- One attributed direct-call relationship in the binary image. -/
structure ExportDirectCall where
  callerRva : UInt64
  callSiteRva : UInt64
  target : ExportControlFlowTarget
  attribution : ExportAttribution

/-- One attributed function thunk and its selected target. -/
structure ExportThunk where
  rva : UInt64
  target : ExportControlFlowTarget
  attribution : ExportAttribution

/-- Source encoding retained for one recovered string literal. -/
inductive ExportStringEncoding where
  | ascii | utf16Le
  deriving DecidableEq

def ExportStringEncoding.variant : ExportStringEncoding → ℕ
  | ascii => 0
  | utf16Le => 1

instance : Ord ExportStringEncoding := ⟨compareOn ExportStringEncoding.variant⟩

instance : Std.TransOrd ExportStringEncoding :=
  inferInstanceAs (Std.TransCmp (compareOn ExportStringEncoding.variant))

/-- One bounded, attributed string literal in the binary image. -/
structure ExportRecoveredString where
  rva : UInt64
  /-- Encoded byte size including the terminating NUL code unit. -/
  byteSize : UInt64
  encoding : ExportStringEncoding
  value : String
  attribution : ExportAttribution
  deriving DecidableEq

/-- Canonical reference used by warnings and collision diagnostics. -/
inductive ExportSubject where
  | function (rva : UInt64)
  | global (rva : UInt64)
  | type (key : String)
  deriving DecidableEq

namespace ExportSubject

def variant : ExportSubject → ℕ
  | function _ => 0
  | global _ => 1
  | type _ => 2

def address : ExportSubject → List UInt64
  | function rva | global rva => [rva]
  | type _ => []

def typeKey : ExportSubject → List String
  | function _ | global _ => []
  | type key => [key]

/-- The derived order: by kind, then by address or key. -/
def cmp : ExportSubject → ExportSubject → Ordering :=
  compareLex (compareOn variant) (compareLex (compareOn address) (compareOn typeKey))

instance : Ord ExportSubject := ⟨cmp⟩

instance : Std.TransOrd ExportSubject :=
  inferInstanceAs (Std.TransCmp (compareLex _ (compareLex _ _)))

instance : Std.LawfulEqOrd ExportSubject where
  eq_of_compare {a b} h := by
    change cmp a b = .eq at h
    simp only [cmp, compareLex, Ordering.then_eq_eq, compareOn] at h
    obtain ⟨hv, ha, ht⟩ := h
    have hv := Std.LawfulEqOrd.eq_of_compare hv
    have ha := Std.LawfulEqOrd.eq_of_compare ha
    have ht := Std.LawfulEqOrd.eq_of_compare ht
    cases a <;> cases b <;> simp_all [variant, address, typeKey]

end ExportSubject

/-- Machine-readable reason that source claims were reduced or omitted. -/
inductive ProjectionWarningCode where
  | addressOutsideImage
  | overlappingFunctionRange
  deriving DecidableEq

inductive ExportError where
  | limitExceeded (resource : String) (limit : ℕ)

end ReSymbol.Export
