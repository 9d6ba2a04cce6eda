import ReSymbol.Core.Symbols

/-! The identity under which a review decision is stored.

    A decision belongs to one exact name claim. The claim is fingerprinted by hashing a
    length-prefixed encoding of everything it says, its evidence in sorted order; the decision
    itself is filed under a textual key of the subject.

        claim   ── magic · version · subject · name · confidence · provenance · sorted evidence
        subject ── 1:2|64:‹sha›|8:function|64:‹binary›|4:4096|4:none|…

    Both must be injective: a missing tag or length would let one claim inherit the decision that
    was made about another. -/

namespace ReSymbol.App.Review

open Schemes ReSymbol.Core Debugger

inductive ReviewValidationError where
  | invalidReviewSubject (error : ClaimValidationError)
  | notNameClaim
  | claimFingerprintEncodingOverflow

/-! ### The encoders -/

def reviewClaimFingerprintVersion : UInt32 := 2

def encodeU32 (encoded : List UInt8) (value : UInt32) : List UInt8 :=
  encoded ++ leBytes 4 value.toNat

def encodeU64 (encoded : List UInt8) (value : UInt64) : List UInt8 :=
  encoded ++ leBytes 8 value.toNat

def encodeLength (encoded : List UInt8) (length : ℕ) :
    Except ReviewValidationError (List UInt8) :=
  if length < 2 ^ 64 then .ok (encodeU64 encoded (.ofNat length))
  else .error .claimFingerprintEncodingOverflow

def encodeBytes (encoded value : List UInt8) : Except ReviewValidationError (List UInt8) := do
  let encoded ← encodeLength encoded value.length
  .ok (encoded ++ value)

def encodeString (encoded : List UInt8) (value : String) :
    Except ReviewValidationError (List UInt8) :=
  encodeBytes encoded (utf8 value)

def encodeOptionalU64 (encoded : List UInt8) : Option UInt64 → List UInt8
  | some value => encodeU64 (encoded ++ [1]) value
  | none => encoded ++ [0]

def encodeOptionalString (encoded : List UInt8) :
    Option String → Except ReviewValidationError (List UInt8)
  | some value => encodeString (encoded ++ [1]) value
  | none => .ok (encoded ++ [0])

/-- The value with the sign of zero dropped. -/
def canonicalConfidence (confidence : Confidence) : F64 :=
  if F64.eq confidence.get F64.zero then F64.zero else confidence.get

def encodeConfidence (encoded : List UInt8) (confidence : Confidence) : List UInt8 :=
  encodeU64 encoded (canonicalConfidence confidence)

def encodeSubject (encoded : List UInt8) :
    SymbolSubject → Except ReviewValidationError (List UInt8)
  | .function binary rva size => do
    let encoded ← encodeString (encoded ++ [1]) binary.value
    .ok (encodeOptionalU64 (encodeU64 encoded rva) size)
  | .global binary rva size => do
    let encoded ← encodeString (encoded ++ [2]) binary.value
    .ok (encodeOptionalU64 (encodeU64 encoded rva) size)
  | .type binary key => do
    let encoded ← encodeString (encoded ++ [3]) binary.value
    encodeString encoded key

def encodeProducer (encoded : List UInt8) :
    ClaimProducer → Except ReviewValidationError (List UInt8)
  | .core component version => do
    let encoded ← encodeString (encoded ++ [1]) component
    encodeString encoded version
  | .plugin id version => do
    let encoded ← encodeString (encoded ++ [2]) id.asStr
    encodeString encoded version
  | .user reviewer => encodeOptionalString (encoded ++ [3]) reviewer

def encodeProvenance (encoded : List UInt8) (provenance : ClaimProvenance) :
    Except ReviewValidationError (List UInt8) := do
  let encoded ← encodeProducer encoded provenance.producer
  let encoded ← encodeString encoded provenance.method
  encodeOptionalString encoded provenance.runId

def encodeOptionalConfidence (encoded : List UInt8) : Option Confidence → List UInt8
  | some confidence => encodeConfidence (encoded ++ [1]) confidence
  | none => encoded ++ [0]

def encodeArtifact (encoded : List UInt8) (entry : String × String) :
    Except ReviewValidationError (List UInt8) := do
  let encoded ← encodeString encoded entry.1
  encodeString encoded entry.2

/-- One item of evidence, on its own. -/
def encodeEvidence (evidence : Evidence) : Except ReviewValidationError (List UInt8) := do
  let encoded ← encodeString [] evidence.kind.asStr
  let encoded ← encodeString encoded evidence.summary
  let encoded := encodeOptionalConfidence encoded evidence.confidence
  let encoded ← encodeLength encoded evidence.artifacts.size
  evidence.artifacts.toList.foldlM encodeArtifact encoded

/-- `b"ReSymbol.review.claim\0"`. -/
def claimMagic : List UInt8 := utf8 "ReSymbol.review.claim" ++ [0]

/-- What the fingerprint of a name claim is taken of. -/
def semanticNameClaimEncoding (claim : SymbolClaim) :
    Except ReviewValidationError (List UInt8) := do
  claim.validate.mapError .invalidReviewSubject
  match claim.assertion with
  | .name name => do
    let encoded := encodeU32 claimMagic reviewClaimFingerprintVersion
    let encoded ← encodeSubject encoded claim.subject
    let encoded ← encodeString encoded name
    let encoded := encodeConfidence encoded claim.confidence
    let encoded ← encodeProvenance encoded claim.provenance
    let evidence ← claim.evidence.mapM encodeEvidence
    let evidence := sorted evidence
    let encoded ← encodeLength encoded evidence.length
    evidence.foldlM encodeBytes encoded
  | _ => .error .notNameClaim

/-! ### What the encoders write -/

def stringForm (value : String) : List UInt8 := lengthPrefixed 8 (utf8 value)

def stringFits (value : String) : Prop := (utf8 value).length < 2 ^ 64

/-- A tag, and behind the tag of a present value its form. -/
def optionForm {α : Type} (form : α → List UInt8) : Option α → List UInt8
  | some value => 1 :: form value
  | none => [0]

def optionFits {α : Type} (fits : α → Prop) (value : Option α) : Prop := ∀ x ∈ value, fits x

def u64Form (value : UInt64) : List UInt8 := leBytes 8 value.toNat

def subjectForm : SymbolSubject → List UInt8
  | .function binary rva size =>
    1 :: (stringForm binary.value ++ (u64Form rva ++ optionForm u64Form size))
  | .global binary rva size =>
    2 :: (stringForm binary.value ++ (u64Form rva ++ optionForm u64Form size))
  | .type binary key => 3 :: (stringForm binary.value ++ stringForm key)

def subjectFits : SymbolSubject → Prop
  | .function binary _ _ | .global binary _ _ => stringFits binary.value
  | .type binary key => stringFits binary.value ∧ stringFits key

def producerForm : ClaimProducer → List UInt8
  | .core component version => 1 :: (stringForm component ++ stringForm version)
  | .plugin id version => 2 :: (stringForm id.asStr ++ stringForm version)
  | .user reviewer => 3 :: optionForm stringForm reviewer

def producerFits : ClaimProducer → Prop
  | .core component version => stringFits component ∧ stringFits version
  | .plugin id version => stringFits id.asStr ∧ stringFits version
  | .user reviewer => optionFits stringFits reviewer

def provenanceForm (provenance : ClaimProvenance) : List UInt8 :=
  producerForm provenance.producer ++
    (stringForm provenance.method ++ optionForm stringForm provenance.runId)

def provenanceFits (provenance : ClaimProvenance) : Prop :=
  producerFits provenance.producer ∧ stringFits provenance.method ∧
    optionFits stringFits provenance.runId

def confidenceForm (confidence : Confidence) : List UInt8 :=
  u64Form (canonicalConfidence confidence)

def artifactForm (entry : String × String) : List UInt8 := stringForm entry.1 ++ stringForm entry.2

def artifactFits (entry : String × String) : Prop := stringFits entry.1 ∧ stringFits entry.2

def artifactsForm (entries : List (String × String)) : List UInt8 :=
  leBytes 8 entries.length ++ entries.flatMap artifactForm

def evidenceForm (evidence : Evidence) : List UInt8 :=
  stringForm evidence.kind.asStr ++ (stringForm evidence.summary ++
    (optionForm confidenceForm evidence.confidence ++ artifactsForm evidence.artifacts.toList))

def evidenceFits (evidence : Evidence) : Prop :=
  stringFits evidence.kind.asStr ∧ stringFits evidence.summary ∧
    evidence.artifacts.toList.length < 2 ^ 64 ∧
      ∀ entry ∈ evidence.artifacts.toList, artifactFits entry

/-- The pieces of evidence, each behind its length, in the order of their encodings. -/
def evidenceListForm (evidence : List Evidence) : List UInt8 :=
  leBytes 8 evidence.length ++ (sorted (evidence.map evidenceForm)).flatMap (lengthPrefixed 8)

def evidenceListFits (evidence : List Evidence) : Prop :=
  evidence.length < 2 ^ 64 ∧
    ∀ item ∈ evidence, evidenceFits item ∧ (evidenceForm item).length < 2 ^ 64

/-- The encoding, as one expression. -/
def claimForm (claim : SymbolClaim) (name : String) : List UInt8 :=
  claimMagic ++ leBytes 4 reviewClaimFingerprintVersion.toNat ++ (subjectForm claim.subject ++
    (stringForm name ++ (confidenceForm claim.confidence ++ (provenanceForm claim.provenance ++
      evidenceListForm claim.evidence))))

/-- Every length that is written fits in 64 bits, as it does for values that a machine can hold. -/
def claimFits (claim : SymbolClaim) (name : String) : Prop :=
  subjectFits claim.subject ∧ stringFits name ∧ provenanceFits claim.provenance ∧
    evidenceListFits claim.evidence

/-! ### The encoders write these forms -/

theorem encodeLength_eq_ok {encoded out : List UInt8} {length : ℕ} :
    encodeLength encoded length = .ok out ↔
      length < 2 ^ 64 ∧ out = encoded ++ leBytes 8 length := by
  unfold encodeLength
  split
  case isTrue h =>
    rw [encodeU64, UInt64.toNat_ofNat', Nat.mod_eq_of_lt h]
    simp only [Except.ok.injEq, h, true_and, eq_comm]
  case isFalse h => simp only [reduceCtorEq, h, false_and]

theorem writes_bytes : Writes encodeBytes (fun value => value.length < 2 ^ 64)
    (lengthPrefixed 8) := by
  intro written value out
  simp only [encodeBytes, except_bind_eq_ok, encodeLength_eq_ok, Except.ok.injEq, lengthPrefixed]
  constructor
  · rintro ⟨_, ⟨hfits, rfl⟩, rfl⟩
    exact ⟨hfits, by rw [List.append_assoc]⟩
  · rintro ⟨hfits, rfl⟩
    exact ⟨_, ⟨hfits, rfl⟩, by rw [List.append_assoc]⟩

theorem writes_string : Writes encodeString stringFits stringForm :=
  fun written value out => writes_bytes written (utf8 value) out

theorem encodeOptionalU64_eq (encoded : List UInt8) (value : Option UInt64) :
    encodeOptionalU64 encoded value = encoded ++ optionForm u64Form value := by
  cases value with
  | none => rfl
  | some value => rw [encodeOptionalU64, encodeU64, optionForm, u64Form]; simp

theorem encodeOptionalConfidence_eq (encoded : List UInt8) (value : Option Confidence) :
    encodeOptionalConfidence encoded value = encoded ++ optionForm confidenceForm value := by
  cases value with
  | none => rfl
  | some value =>
    rw [encodeOptionalConfidence, encodeConfidence, encodeU64, optionForm, confidenceForm, u64Form]
    simp

theorem writes_optionalString :
    Writes encodeOptionalString (optionFits stringFits) (optionForm stringForm) := by
  intro written value out
  cases value with
  | none => simp [encodeOptionalString, optionFits, optionForm, eq_comm]
  | some value =>
    rw [encodeOptionalString, writes_string, optionForm]
    simp [optionFits]

theorem writes_subject : Writes encodeSubject subjectFits subjectForm := by
  intro written subject out
  cases subject with
  | function binary rva size | global binary rva size =>
    simp only [encodeSubject, except_bind_eq_ok, writes_string _ _ _, encodeOptionalU64_eq,
      Except.ok.injEq, subjectFits, subjectForm, encodeU64]
    constructor
    · rintro ⟨_, ⟨hfits, rfl⟩, rfl⟩
      exact ⟨hfits, by simp [u64Form]⟩
    · rintro ⟨hfits, rfl⟩
      exact ⟨_, ⟨hfits, rfl⟩, by simp [u64Form]⟩
  | type binary key =>
    simp only [encodeSubject, except_bind_eq_ok, writes_string _ _ _, subjectFits, subjectForm]
    constructor
    · rintro ⟨_, ⟨hbinary, rfl⟩, hkey, rfl⟩
      exact ⟨⟨hbinary, hkey⟩, by simp⟩
    · rintro ⟨⟨hbinary, hkey⟩, rfl⟩
      exact ⟨_, ⟨hbinary, rfl⟩, hkey, by simp⟩

theorem writes_producer : Writes encodeProducer producerFits producerForm := by
  intro written producer out
  cases producer with
  | core first version | plugin first version =>
    simp only [encodeProducer, except_bind_eq_ok, writes_string _ _ _, producerFits, producerForm]
    constructor
    · rintro ⟨_, ⟨hfirst, rfl⟩, hversion, rfl⟩
      exact ⟨⟨hfirst, hversion⟩, by simp⟩
    · rintro ⟨⟨hfirst, hversion⟩, rfl⟩
      exact ⟨_, ⟨hfirst, rfl⟩, hversion, by simp⟩
  | user reviewer =>
    rw [encodeProducer, writes_optionalString, producerFits, producerForm]
    simp

theorem writes_provenance : Writes encodeProvenance provenanceFits provenanceForm := by
  intro written provenance out
  simp only [encodeProvenance, except_bind_eq_ok, writes_producer _ _ _, writes_string _ _ _,
    writes_optionalString _ _ _, provenanceFits, provenanceForm]
  constructor
  · rintro ⟨_, ⟨hproducer, rfl⟩, _, ⟨hmethod, rfl⟩, hrun, rfl⟩
    exact ⟨⟨hproducer, hmethod, hrun⟩, by simp⟩
  · rintro ⟨⟨hproducer, hmethod, hrun⟩, rfl⟩
    exact ⟨_, ⟨hproducer, rfl⟩, _, ⟨hmethod, rfl⟩, hrun, by simp⟩

theorem writes_artifact : Writes encodeArtifact artifactFits artifactForm := by
  intro written entry out
  simp only [encodeArtifact, except_bind_eq_ok, writes_string _ _ _, artifactFits, artifactForm]
  constructor
  · rintro ⟨_, ⟨hkey, rfl⟩, hvalue, rfl⟩
    exact ⟨⟨hkey, hvalue⟩, by simp⟩
  · rintro ⟨⟨hkey, hvalue⟩, rfl⟩
    exact ⟨_, ⟨hkey, rfl⟩, hvalue, by simp⟩

theorem encodeEvidence_eq_ok (evidence : Evidence) (out : List UInt8) :
    encodeEvidence evidence = .ok out ↔ evidenceFits evidence ∧ out = evidenceForm evidence := by
  simp only [encodeEvidence, except_bind_eq_ok, writes_string _ _ _, encodeLength_eq_ok,
    encodeOptionalConfidence_eq, writes_artifact.foldlM _ _ _, evidenceFits, evidenceForm,
    artifactsForm, Std.ExtTreeMap.length_toList]
  constructor
  · rintro ⟨_, ⟨hkind, rfl⟩, _, ⟨hsummary, rfl⟩, _, ⟨hsize, rfl⟩, hentries, rfl⟩
    exact ⟨⟨hkind, hsummary, hsize, hentries⟩, by simp⟩
  · rintro ⟨⟨hkind, hsummary, hsize, hentries⟩, rfl⟩
    exact ⟨_, ⟨hkind, rfl⟩, _, ⟨hsummary, rfl⟩, _, ⟨hsize, rfl⟩, hentries, by simp⟩

/-- The encoding of a name claim succeeds exactly on valid claims that fit, with this form. -/
theorem semanticNameClaimEncoding_eq_ok {claim : SymbolClaim} {name : String}
    (hname : claim.assertion = .name name) {out : List UInt8} :
    semanticNameClaimEncoding claim = .ok out ↔
      claim.validate = .ok () ∧ claimFits claim name ∧ out = claimForm claim name := by
  simp only [semanticNameClaimEncoding, hname, except_bind_eq_ok, mapError_eq_ok,
    writes_subject _ _ _, writes_string _ _ _, writes_provenance _ _ _, encodeLength_eq_ok,
    mapM_eq_ok encodeEvidence_eq_ok, writes_bytes.foldlM _ _ _, claimFits, claimForm]
  have hlength : (sorted (claim.evidence.map evidenceForm)).length = claim.evidence.length := by
    rw [(sorted_perm _).length_eq, List.length_map]
  have hitems : (∀ item ∈ sorted (claim.evidence.map evidenceForm), item.length < 2 ^ 64) ↔
      ∀ item ∈ claim.evidence, (evidenceForm item).length < 2 ^ 64 := by
    simp only [(sorted_perm _).mem_iff, List.forall_mem_map]
  constructor
  · rintro ⟨_, hvalid, _, ⟨hsubject, rfl⟩, _, ⟨htext, rfl⟩, _, ⟨hprov, rfl⟩, _, ⟨hev, rfl⟩,
      _, ⟨hcount, rfl⟩, hfit, rfl⟩
    rw [hlength] at hcount
    refine ⟨hvalid, ⟨hsubject, htext, hprov, hcount, fun item h => ⟨hev item h, ?_⟩⟩, ?_⟩
    · exact hitems.mp hfit item h
    · simp [encodeU32, encodeConfidence, encodeU64, confidenceForm, u64Form, evidenceListForm,
        hlength]
  · rintro ⟨hvalid, ⟨hsubject, htext, hprov, hcount, hev⟩, rfl⟩
    refine ⟨(), hvalid, _, ⟨hsubject, rfl⟩, _, ⟨htext, rfl⟩, _, ⟨hprov, rfl⟩, _,
      ⟨fun item h => (hev item h).1, rfl⟩, _, ⟨by rwa [hlength], rfl⟩, ?_, ?_⟩
    · exact hitems.mpr fun item h => (hev item h).2
    · simp [encodeU32, encodeConfidence, encodeU64, confidenceForm, u64Form, evidenceListForm,
        hlength]

/-! ### The forms are self-delimiting -/

theorem length_delimits : Delimits (· < 2 ^ 64) (leBytes 8) Eq := by
  simpa using Delimits.leBytes 8

theorem bytes_delimits : Delimits (fun value => value.length < 2 ^ 64) (lengthPrefixed 8) Eq := by
  simpa using Delimits.lengthPrefixed 8

theorem string_delimits : Delimits stringFits stringForm Eq :=
  (bytes_delimits.comap utf8).congr fun _ _ _ _ => utf8_inj

theorem u64_delimits : Delimits (fun _ => True) u64Form Eq := by
  intro a b _ _ r r'
  rw [← UInt64.toNat_inj]
  exact length_delimits a.toNat_lt b.toNat_lt r r'

theorem option_delimits {α : Type} {fits : α → Prop} {form : α → List UInt8} {R : α → α → Prop}
    (h : Delimits fits form R) :
    Delimits (optionFits fits) (optionForm form) (Option.Rel R) := by
  intro a b ha hb r r'
  cases a with
  | none =>
    cases b with
    | none => simp [optionForm]
    | some b => simp [optionForm]
  | some a =>
    cases b with
    | none => simp [optionForm]
    | some b => simp [optionForm, h (ha a rfl) (hb b rfl)]

theorem optionEq_delimits {α : Type} {fits : α → Prop} {form : α → List UInt8}
    (h : Delimits fits form Eq) : Delimits (optionFits fits) (optionForm form) Eq := by
  refine (option_delimits h).congr fun a b _ _ => ?_
  cases a <;> cases b <;> simp

theorem optionalU64_delimits (a b : Option UInt64) (r r' : List UInt8) :
    optionForm u64Form a ++ r = optionForm u64Form b ++ r' ↔ a = b ∧ r = r' :=
  optionEq_delimits u64_delimits (fun _ _ => trivial) (fun _ _ => trivial) r r'

theorem subject_delimits : Delimits subjectFits subjectForm Eq := by
  intro a b ha hb r r'
  cases a with
  | function binary rva size =>
    cases b with
    | function binary' rva' size' =>
      simp only [subjectForm, List.cons_append, List.append_assoc, string_delimits ha hb,
        u64_delimits trivial trivial, optionalU64_delimits, LowerHex.ext_iff, List.cons.injEq,
        true_and, SymbolSubject.function.injEq, and_assoc]
    | global => simp [subjectForm]
    | type => simp [subjectForm]
  | global binary rva size =>
    cases b with
    | function => simp [subjectForm]
    | global binary' rva' size' =>
      simp only [subjectForm, List.cons_append, List.append_assoc, string_delimits ha hb,
        u64_delimits trivial trivial, optionalU64_delimits, LowerHex.ext_iff, List.cons.injEq,
        true_and, SymbolSubject.global.injEq, and_assoc]
    | type => simp [subjectForm]
  | type binary key =>
    cases b with
    | function => simp [subjectForm]
    | global => simp [subjectForm]
    | type binary' key' =>
      simp only [subjectForm, List.cons_append, List.append_assoc, string_delimits ha.1 hb.1,
        string_delimits ha.2 hb.2, LowerHex.ext_iff, List.cons.injEq, true_and,
        SymbolSubject.type.injEq, and_assoc]

theorem producer_delimits : Delimits producerFits producerForm Eq := by
  intro a b ha hb r r'
  cases a with
  | core component version =>
    cases b with
    | core component' version' =>
      simp only [producerForm, List.cons_append, List.append_assoc, string_delimits ha.1 hb.1,
        string_delimits ha.2 hb.2, List.cons.injEq, true_and, ClaimProducer.core.injEq, and_assoc]
    | plugin => simp [producerForm]
    | user => simp [producerForm]
  | plugin id version =>
    cases b with
    | core => simp [producerForm]
    | plugin id' version' =>
      simp only [producerForm, List.cons_append, List.append_assoc, string_delimits ha.1 hb.1,
        string_delimits ha.2 hb.2, PluginId.ext_iff, List.cons.injEq, true_and,
        ClaimProducer.plugin.injEq, and_assoc]
    | user => simp [producerForm]
  | user reviewer =>
    cases b with
    | core => simp [producerForm]
    | plugin => simp [producerForm]
    | user reviewer' =>
      simp only [producerForm, List.cons_append, optionEq_delimits string_delimits ha hb,
        List.cons.injEq, true_and, ClaimProducer.user.injEq]

theorem provenance_delimits : Delimits provenanceFits provenanceForm Eq := by
  rintro ⟨producer, method, runId⟩ ⟨producer', method', runId'⟩ ⟨hp, hm, hr⟩ ⟨hp', hm', hr'⟩ r r'
  simp only [provenanceForm, List.append_assoc, producer_delimits hp hp', string_delimits hm hm',
    optionEq_delimits string_delimits hr hr', ClaimProvenance.mk.injEq, and_assoc]

theorem canonicalConfidence_eq_iff {a b : Confidence} :
    canonicalConfidence a = canonicalConfidence b ↔ Confidence.eq a b = true := by
  have hzero : F64.eq F64.zero F64.zero = true := by decide
  rw [Confidence.eq_iff, canonicalConfidence, canonicalConfidence]
  by_cases ha : F64.eq a.get F64.zero = true
  · by_cases hb : F64.eq b.get F64.zero = true
    · simp [ha, hb]
    · rw [if_pos ha, if_neg hb]
      constructor
      · intro h
        exact absurd (h ▸ hzero) hb
      · rintro (h | ⟨_, h⟩)
        · exact absurd (h ▸ ha) hb
        · exact absurd h hb
  · by_cases hb : F64.eq b.get F64.zero = true
    · rw [if_neg ha, if_pos hb]
      constructor
      · intro h
        exact absurd (h.symm ▸ hzero) ha
      · rintro (h | ⟨h, _⟩)
        · exact absurd (h ▸ hb) ha
        · exact absurd h ha
    · simp [ha, hb]

theorem confidence_delimits :
    Delimits (fun _ => True) confidenceForm (fun a b => Confidence.eq a b = true) :=
  (u64_delimits.comap canonicalConfidence).congr fun _ _ _ _ => canonicalConfidence_eq_iff

theorem artifacts_delimits :
    Delimits (fun entries => entries.length < 2 ^ 64 ∧ ∀ entry ∈ entries, artifactFits entry)
      artifactsForm Eq := by
  have hentry : Delimits artifactFits artifactForm Eq := by
    refine ((string_delimits.comap Prod.fst).append (string_delimits.comap Prod.snd)).congr ?_
    exact fun a b _ _ => Prod.ext_iff.symm
  refine (length_delimits.list hentry).congr fun xs ys _ _ => ?_
  rw [List.forall₂_eq_eq_eq]

theorem evidence_delimits : Delimits evidenceFits evidenceForm Evidence.Same := by
  rintro a b ⟨hk, hs, ha⟩ ⟨hk', hs', ha'⟩ r r'
  simp only [evidenceForm, List.append_assoc, string_delimits hk hk', string_delimits hs hs',
    option_delimits confidence_delimits (fun _ _ => trivial) (fun _ _ => trivial),
    artifacts_delimits ha ha', Std.ExtTreeMap.toList_inj]
  constructor
  · rintro ⟨hkind, hsummary, hconfidence, hartifacts, rfl⟩
    exact ⟨⟨EvidenceKind.ext hkind, hsummary, hconfidence, hartifacts⟩, rfl⟩
  · rintro ⟨⟨hkind, hsummary, hconfidence, hartifacts⟩, rfl⟩
    exact ⟨congrArg _ hkind, hsummary, hconfidence, hartifacts, rfl⟩

/-- Two lists of evidence have the same form exactly when they agree as multisets. -/
theorem evidenceListForm_eq_iff {xs ys : List Evidence} (hxs : evidenceListFits xs)
    (hys : evidenceListFits ys) :
    evidenceListForm xs = evidenceListForm ys ↔
      Multiset.Rel Evidence.Same (xs : Multiset Evidence) (ys : Multiset Evidence) := by
  have hdomain : ∀ zs, evidenceListFits zs →
      (sorted (zs.map evidenceForm)).length < 2 ^ 64 ∧
        ∀ item ∈ sorted (zs.map evidenceForm), item.length < 2 ^ 64 := by
    rintro zs ⟨hlength, hitems⟩
    refine ⟨by rwa [(sorted_perm _).length_eq, List.length_map], fun item hitem => ?_⟩
    obtain ⟨e, he, rfl⟩ := List.mem_map.mp ((sorted_perm _).mem_iff.mp hitem)
    exact (hitems e he).2
  have hform : ∀ zs, evidenceListForm zs = leBytes 8 (sorted (zs.map evidenceForm)).length ++
      (sorted (zs.map evidenceForm)).flatMap (lengthPrefixed 8) := by
    intro zs
    rw [evidenceListForm, (sorted_perm _).length_eq, List.length_map]
  rw [hform, hform, (length_delimits.list bytes_delimits).whole (hdomain xs hxs) (hdomain ys hys),
    List.forall₂_eq_eq_eq, sorted_eq_iff_perm, perm_map_iff_rel]
  have hitem : ∀ a ∈ xs, ∀ b ∈ ys, (evidenceForm a = evidenceForm b ↔ a.Same b) :=
    fun a ha b hb => evidence_delimits.whole (hxs.2 a ha).1 (hys.2 b hb).1
  exact ⟨fun h => h.mono fun a ha b hb => (hitem a ha b hb).mp,
    fun h => h.mono fun a ha b hb => (hitem a ha b hb).mpr⟩

/-- The two claims say the same: evidence compares as a multiset. -/
structure Agree (x y : SymbolClaim) : Prop where
  subject : x.subject = y.subject
  assertion : x.assertion = y.assertion
  confidence : Confidence.eq x.confidence y.confidence = true
  provenance : x.provenance = y.provenance
  evidence : Multiset.Rel Evidence.Same (x.evidence : Multiset Evidence) y.evidence

theorem claimForm_eq_iff {x y : SymbolClaim} {name name' : String}
    (hx : x.assertion = .name name) (hy : y.assertion = .name name')
    (hfx : claimFits x name) (hfy : claimFits y name') :
    claimForm x name = claimForm y name' ↔ Agree x y := by
  obtain ⟨hs, hn, hp, he⟩ := hfx
  obtain ⟨hs', hn', hp', he'⟩ := hfy
  simp only [claimForm, List.append_cancel_left_eq, subject_delimits hs hs',
    string_delimits hn hn', confidence_delimits trivial trivial, provenance_delimits hp hp',
    evidenceListForm_eq_iff he he']
  constructor
  · rintro ⟨hsubject, hname, hconfidence, hprovenance, hevidence⟩
    exact ⟨hsubject, by rw [hx, hy, hname], hconfidence, hprovenance, hevidence⟩
  · rintro ⟨hsubject, hassertion, hconfidence, hprovenance, hevidence⟩
    rw [hx, hy] at hassertion
    exact ⟨hsubject, SymbolAssertion.name.inj hassertion, hconfidence, hprovenance, hevidence⟩

/-! ### The key of a review subject -/

/-- A stable logical key for one exact name claim. -/
structure ReviewSubject where
  fingerprintVersion : UInt32
  claimSha256 : BinaryId
  symbol : SymbolSubject
  name : String
  producer : ClaimProducer
  method : String
  runId : Option String

def pushKeyPart (key value : String) : String :=
  key ++ Nat.repr value.utf8ByteSize ++ ":" ++ value ++ "|"

def pushOptionalStr (key : String) : Option String → String
  | some value => pushKeyPart (pushKeyPart key "some") value
  | none => pushKeyPart key "none"

def pushOptionalU64 (key : String) : Option UInt64 → String
  | some value => pushKeyPart (pushKeyPart key "some") (Nat.repr value.toNat)
  | none => pushKeyPart key "none"

def pushSymbol (key : String) : SymbolSubject → String
  | .function binary rva size =>
    let key := pushKeyPart key "function"
    let key := pushKeyPart key binary.value
    let key := pushKeyPart key (Nat.repr rva.toNat)
    pushOptionalU64 key size
  | .global binary rva size =>
    let key := pushKeyPart key "global"
    let key := pushKeyPart key binary.value
    let key := pushKeyPart key (Nat.repr rva.toNat)
    pushOptionalU64 key size
  | .type binary typeKey =>
    let key := pushKeyPart key "type"
    let key := pushKeyPart key binary.value
    pushKeyPart key typeKey

def pushProducer (key : String) : ClaimProducer → String
  | .core component version =>
    let key := pushKeyPart key "core"
    let key := pushKeyPart key component
    pushKeyPart key version
  | .plugin id version =>
    let key := pushKeyPart key "plugin"
    let key := pushKeyPart key id.asStr
    pushKeyPart key version
  | .user reviewer =>
    let key := pushKeyPart key "user"
    pushOptionalStr key reviewer

/-- The key under which a review of the subject is kept. -/
def ReviewSubject.canonicalKey (subject : ReviewSubject) : Except ReviewValidationError String :=
  let key := pushKeyPart "" (Nat.repr subject.fingerprintVersion.toNat)
  let key := pushKeyPart key subject.claimSha256.value
  let key := pushSymbol key subject.symbol
  let key := pushKeyPart key subject.name
  let key := pushProducer key subject.producer
  let key := pushKeyPart key subject.method
  .ok (pushOptionalStr key subject.runId)

/-- What one pushed part adds to the key. -/
def keyPart (value : String) : List Char :=
  ((Nat.repr (String.utf8Len value.toList)).toList ++ [':'] ++ value.toList) ++ ['|']

def optionParts {α : Type} (part : α → String) : Option α → List String
  | some value => ["some", part value]
  | none => ["none"]

def u64Part (value : UInt64) : String := Nat.repr value.toNat

def symbolParts : SymbolSubject → List String
  | .function binary rva size =>
    "function" :: binary.value :: u64Part rva :: optionParts u64Part size
  | .global binary rva size => "global" :: binary.value :: u64Part rva :: optionParts u64Part size
  | .type binary typeKey => ["type", binary.value, typeKey]

def producerParts : ClaimProducer → List String
  | .core component version => ["core", component, version]
  | .plugin id version => ["plugin", id.asStr, version]
  | .user reviewer => "user" :: optionParts id reviewer

/-- The parts of the key of a subject, in order. -/
def keyParts (subject : ReviewSubject) : List String :=
  Nat.repr subject.fingerprintVersion.toNat :: subject.claimSha256.value ::
    (symbolParts subject.symbol ++ subject.name :: (producerParts subject.producer ++
      subject.method :: optionParts id subject.runId))

theorem toList_pushKeyPart (key value : String) :
    (pushKeyPart key value).toList = key.toList ++ keyPart value := by
  have hsize : value.utf8ByteSize = String.utf8Len value.toList := by
    rw [← String.utf8ByteSize_ofList, String.ofList_toList]
  simp only [pushKeyPart, keyPart, hsize, String.toList_append, List.append_assoc]
  rfl

theorem toList_foldl_pushKeyPart (parts : List String) (key : String) :
    (parts.foldl pushKeyPart key).toList = key.toList ++ parts.flatMap keyPart := by
  induction parts generalizing key with
  | nil => simp
  | cons part parts ih =>
    rw [List.foldl_cons, ih, toList_pushKeyPart, List.flatMap_cons, List.append_assoc]

theorem pushOptionalStr_eq (key : String) (value : Option String) :
    pushOptionalStr key value = (optionParts id value).foldl pushKeyPart key := by
  cases value <;> rfl

theorem pushOptionalU64_eq (key : String) (value : Option UInt64) :
    pushOptionalU64 key value = (optionParts u64Part value).foldl pushKeyPart key := by
  cases value <;> rfl

theorem pushSymbol_eq (key : String) (symbol : SymbolSubject) :
    pushSymbol key symbol = (symbolParts symbol).foldl pushKeyPart key := by
  cases symbol with
  | function binary rva size | global binary rva size =>
    simp only [pushSymbol, symbolParts, pushOptionalU64_eq, List.foldl_cons, u64Part]
  | type => simp only [pushSymbol, symbolParts, List.foldl_cons, List.foldl_nil]

theorem pushProducer_eq (key : String) (producer : ClaimProducer) :
    pushProducer key producer = (producerParts producer).foldl pushKeyPart key := by
  cases producer with
  | core | plugin => simp only [pushProducer, producerParts, List.foldl_cons, List.foldl_nil]
  | user reviewer => simp only [pushProducer, producerParts, pushOptionalStr_eq, List.foldl_cons]

theorem canonicalKey_eq (subject : ReviewSubject) :
    subject.canonicalKey = .ok ((keyParts subject).foldl pushKeyPart "") := by
  simp only [ReviewSubject.canonicalKey, keyParts, pushSymbol_eq, pushProducer_eq,
    pushOptionalStr_eq, List.foldl_cons, List.foldl_append]

theorem measures_utf8Len : Measures String.utf8Len where
  append := String.utf8Len_append
  eq_nil _ := String.utf8Len_eq_zero.mp

/-- A part can be read off the front of a key whatever its text holds. -/
theorem keyPart_delimits : Delimits (fun _ => True) keyPart Eq := by
  have hdigits : ∀ n : ℕ, ':' ∉ (Nat.repr n).toList := by
    intro n hmem
    rw [Nat.toList_repr] at hmem
    exact absurd (Nat.isDigit_of_mem_toDigits (by decide) (by decide) hmem) (by decide)
  have hnum : Delimits (fun _ => True) (fun n => (Nat.repr n).toList ++ [':']) Eq := by
    refine (Delimits.terminated fun n _ => hdigits n).congr fun n m _ _ => ?_
    rw [String.toList_inj, Nat.repr_inj]
  have htext := (hnum.counted measures_utf8Len).comap String.toList
  have hbar : Delimits (fun _ : String => True) (fun _ => ['|']) (fun _ _ => True) := by
    intro a b _ _ r r'
    simp
  intro a b _ _ r r'
  refine ((htext.append hbar) ⟨trivial, trivial⟩ ⟨trivial, trivial⟩ r r').trans ?_
  simp [String.toList_inj]

theorem optionParts_delimits {α : Type} {part : α → String} (h : Function.Injective part)
    (a b : Option α) (r r' : List String) :
    optionParts part a ++ r = optionParts part b ++ r' ↔ a = b ∧ r = r' := by
  cases a <;> cases b <;> simp [optionParts, h.eq_iff]

theorem u64Part_injective : Function.Injective u64Part :=
  fun _ _ h => UInt64.toNat_inj.mp (Nat.repr_inj.mp h)

theorem symbolParts_delimits (a b : SymbolSubject) (r r' : List String) :
    symbolParts a ++ r = symbolParts b ++ r' ↔ a = b ∧ r = r' := by
  cases a <;> cases b <;>
    simp [symbolParts, optionParts_delimits u64Part_injective, u64Part_injective.eq_iff,
      LowerHex.ext_iff, and_assoc]

theorem producerParts_delimits (a b : ClaimProducer) (r r' : List String) :
    producerParts a ++ r = producerParts b ++ r' ↔ a = b ∧ r = r' := by
  cases a <;> cases b <;>
    simp [producerParts, optionParts_delimits Function.injective_id, PluginId.ext_iff, and_assoc]

theorem keyParts_injective : Function.Injective keyParts := by
  rintro ⟨version, sha, symbol, name, producer, method, runId⟩
    ⟨version', sha', symbol', name', producer', method', runId'⟩ h
  simp only [keyParts, List.cons.injEq, symbolParts_delimits, producerParts_delimits,
    Nat.repr_inj] at h
  obtain ⟨hversion, hsha, rfl, rfl, rfl, rfl, hrun⟩ := h
  obtain ⟨rfl, -⟩ := (optionParts_delimits Function.injective_id runId runId' [] []).mp (by simpa)
  rw [UInt32.toNat_inj] at hversion
  rw [hversion, LowerHex.ext hsha]

/-- Two subjects have the same key exactly when they are the same. -/
theorem canonicalKey_eq_iff (x y : ReviewSubject) : x.canonicalKey = y.canonicalKey ↔ x = y := by
  rw [canonicalKey_eq, canonicalKey_eq, Except.ok.injEq, ← String.toList_inj,
    toList_foldl_pushKeyPart, toList_foldl_pushKeyPart, List.append_cancel_left_eq,
    keyPart_delimits.flatMap_inj (by simp [keyPart]) (fun _ _ => trivial) (fun _ _ => trivial),
    keyParts_injective.eq_iff]

/-! ### Both identities are injective -/

/-- Only name claims are encoded. -/
theorem name_of_encoding {claim : SymbolClaim} {encoded : List UInt8}
    (h : semanticNameClaimEncoding claim = .ok encoded) : ∃ name, claim.assertion = .name name := by
  obtain ⟨-, -, h⟩ := except_bind_eq_ok.mp h
  cases hassertion : claim.assertion with
  | name name => exact ⟨name, rfl⟩
  | _ => simp [hassertion] at h

/-- CORRECT (review identities): a valid name claim is encoded as long as its lengths fit in 64
    bits; encodings agree exactly when the claims agree on subject, name, confidence, provenance and
    the multiset of evidence; and every subject has a key that no other subject has. -/
theorem review_identities_injective :
    (∀ (x : SymbolClaim) (name : String), x.validate = .ok () → x.assertion = .name name →
      ((∃ encoded, semanticNameClaimEncoding x = .ok encoded) ↔ claimFits x name)) ∧
    (∀ (x y : SymbolClaim) (ex ey : List UInt8), semanticNameClaimEncoding x = .ok ex →
      semanticNameClaimEncoding y = .ok ey → (ex = ey ↔ Agree x y)) ∧
    ∀ x y : ReviewSubject, ∃ kx ky, x.canonicalKey = .ok kx ∧ y.canonicalKey = .ok ky ∧
      (kx = ky ↔ x = y) := by
  refine ⟨fun x name hvalid hname => ?_, fun x y ex ey hx hy => ?_, fun x y => ?_⟩
  · simp only [semanticNameClaimEncoding_eq_ok hname, hvalid, true_and, exists_and_left,
      exists_eq, and_true]
  · obtain ⟨name, hname⟩ := name_of_encoding hx
    obtain ⟨name', hname'⟩ := name_of_encoding hy
    obtain ⟨-, hfits, rfl⟩ := (semanticNameClaimEncoding_eq_ok hname).mp hx
    obtain ⟨-, hfits', rfl⟩ := (semanticNameClaimEncoding_eq_ok hname').mp hy
    exact claimForm_eq_iff hname hname' hfits hfits'
  · refine ⟨_, _, canonicalKey_eq x, canonicalKey_eq y, ?_⟩
    rw [← canonicalKey_eq_iff x y, canonicalKey_eq, canonicalKey_eq, Except.ok.injEq]

/-- A piece of evidence with a summary and nothing else. -/
def sampleEvidence (summary : String) : Evidence where
  kind := ⟨"metadata", by decide⟩
  summary := summary
  confidence := none
  artifacts := ∅

/-- A claim that names a function, with the given confidence and evidence. -/
def sampleClaim (confidence : Confidence) (evidence : List Evidence) : SymbolClaim where
  subject := .function sampleProcess.binaryId 4096 (some 16)
  assertion := .name "main|4:some"
  confidence := confidence
  evidence := evidence
  provenance := ⟨.user none, "review", some "run"⟩

/-- One claim, written with either zero and with its evidence in either order. -/
def plainClaim : SymbolClaim :=
  sampleClaim .none [sampleEvidence "a", sampleEvidence "b"]

def rewrittenClaim : SymbolClaim :=
  sampleClaim ⟨0x8000000000000000, by decide⟩ [sampleEvidence "b", sampleEvidence "a"]

theorem sampleClaim_fits (confidence : Confidence) {evidence : List Evidence}
    (hsub : evidence ⊆ [sampleEvidence "a", sampleEvidence "b"])
    (hlength : evidence.length < 2 ^ 64) :
    claimFits (sampleClaim confidence evidence) "main|4:some" := by
  have hfits : ∀ text ∈ ["main|4:some", "review", "run", sampleProcess.binaryId.value],
      stringFits text := by
    unfold stringFits
    decide +kernel
  have hitems : ∀ item ∈ [sampleEvidence "a", sampleEvidence "b"],
      evidenceFits item ∧ (evidenceForm item).length < 2 ^ 64 := by
    unfold evidenceFits artifactFits stringFits
    decide +kernel
  refine ⟨hfits _ (by simp), hfits _ (by simp), ⟨?_, hfits _ (by simp [sampleClaim]), ?_⟩,
    hlength, fun item hitem => hitems item (hsub hitem)⟩
  · exact fun _ h => absurd h (by simp)
  · rintro text ⟨⟩
    exact hfits _ (by simp)

theorem review_identities_injective_sampleClaims :
    ∃ ex ey, semanticNameClaimEncoding plainClaim = .ok ex ∧
      semanticNameClaimEncoding rewrittenClaim = .ok ey ∧ ex = ey := by
  obtain ⟨hencodes, hagree, -⟩ := review_identities_injective
  obtain ⟨ex, hex⟩ := (hencodes plainClaim _ (by decide +kernel) rfl).mpr
    (sampleClaim_fits _ (by simp) (by decide))
  obtain ⟨ey, hey⟩ := (hencodes rewrittenClaim _ (by decide +kernel) rfl).mpr
    (sampleClaim_fits _ (by simp) (by decide))
  refine ⟨ex, ey, hex, hey, (hagree _ _ ex ey hex hey).mpr ⟨rfl, rfl, by decide, rfl, ?_⟩⟩
  have hsame : ∀ item ∈ (plainClaim.evidence : Multiset Evidence), item.Same item := by
    simp only [plainClaim, sampleClaim, Multiset.mem_coe, List.forall_mem_cons]
    exact ⟨⟨rfl, rfl, .none, rfl⟩, ⟨rfl, rfl, .none, rfl⟩, by simp⟩
  have hswap : (plainClaim.evidence : Multiset Evidence) = rewrittenClaim.evidence :=
    Multiset.coe_eq_coe.mpr (.swap _ _ _)
  exact hswap ▸ Multiset.rel_refl_of_refl_on hsame

end ReSymbol.App.Review
