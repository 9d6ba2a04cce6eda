import ReSymbol.Debugger.SandboxPolicy
import ReSymbol.Schemes.PrefixCodes

/-! The canonical byte string binds the whole policy.

    The digest of a policy hashes its fields one behind the other: texts behind their length,
    numbers in a fixed width, enumerations as one byte, the guarantees behind their count, the
    provider and the VM identity behind a tag. Each of these forms marks its own end, so that the
    byte string can be cut in one way only.

        text ▏ version ▏ binary ▏ session ▏ nonce ▏ provider ▏ boundary ▏ … ▏ rollback ▏ vm

    The session of the approval is not written. It is the session of the policy in every policy that
    passes its checks, and only such a policy has a digest. -/

namespace ReSymbol.Debugger
open Schemes

namespace CanonicalPolicyDigest

/-! ### Fields -/

theorem littleEndian_eq_leBytes (width value : ℕ) : littleEndian width value =
    leBytes width value := by
  induction width generalizing value with
  | zero => rfl
  | succ width ih =>
    rw [littleEndian, List.range_succ_eq_map, List.map_cons, List.map_map, leBytes, ← ih,
      littleEndian]
    congr 1
    · rw [pow_zero, Nat.div_one]
    · refine List.map_congr_left fun i _ => ?_
      rw [Function.comp_apply, Nat.succ_eq_add_one, pow_succ', Nat.div_div_eq_div_mul]

theorem littleEndian_delimits (width : ℕ) :
    Delimits (· < 256 ^ width) (littleEndian width) Eq := by
  intro a b ha hb r r'
  rw [littleEndian_eq_leBytes, littleEndian_eq_leBytes]
  exact Delimits.leBytes width ha hb r r'

theorem toList_loop_eq (bytes : ByteArray) (i : ℕ) (front : List UInt8) :
    ByteArray.toList.loop bytes i front = front.reverse ++ bytes.data.toList.drop i := by
  fun_induction ByteArray.toList.loop bytes i front with
  | case1 i front h ih =>
    have hi : i < bytes.data.toList.length := by simpa using h
    rw [ih, List.reverse_cons, List.append_assoc, List.drop_eq_getElem_cons hi,
      List.singleton_append]
    congr 2
    simp [ByteArray.get!, getElem!_pos, h]
  | case2 i front h =>
    rw [List.drop_eq_nil_of_le, List.append_nil]
    simpa using h

theorem toUTF8_toList (value : String) : value.toUTF8.toList = value.toByteArray.data.toList := by
  rw [String.toUTF8_eq_toByteArray, ByteArray.toList, toList_loop_eq, List.reverse_nil,
    List.nil_append, List.drop_zero]

theorem toUTF8_toList_inj {a b : String} : a.toUTF8.toList = b.toUTF8.toList ↔ a = b := by
  rw [toUTF8_toList, toUTF8_toList, Array.toList_inj, ← String.toByteArray_inj]
  exact ⟨fun h => ByteArray.ext h, fun h => by rw [h]⟩

theorem length_toUTF8_toList (value : String) : value.toUTF8.toList.length =
    value.utf8ByteSize := by
  rw [toUTF8_toList, Array.length_toList, ByteArray.size_data, String.size_toByteArray]

theorem text_delimits : Delimits (fun value => value.utf8ByteSize < 2 ^ 32) text Eq := by
  intro a b ha hb r r'
  rw [text, text, ← length_toUTF8_toList, ← length_toUTF8_toList]
  rw [← length_toUTF8_toList] at ha hb
  rw [(littleEndian_delimits 4).counted measures_length ha hb, toUTF8_toList_inj]

theorem identifier_delimits {field : String} {maximum : ℕ} (hmaximum : maximum < 2 ^ 32) :
    Delimits (fun _ => True) (fun identifier : BoundedIdentifier field maximum =>
      text identifier.value) Eq := by
  have hsize : ∀ identifier : BoundedIdentifier field maximum,
      identifier.value.utf8ByteSize < 2 ^ 32 := by
    intro identifier
    have hvalid := identifier.valid
    rw [validateIdentifier] at hvalid
    split_ifs at hvalid with hempty hlong
    omega
  intro a b _ _ r r'
  rw [text_delimits (hsize a) (hsize b)]
  cases a
  cases b
  simp

theorem utf8Len_le (cs : List Char) : String.utf8Len cs ≤ 4 * cs.length := by
  induction cs with
  | nil => exact le_rfl
  | cons c cs ih =>
    have hc := c.utf8Size_le_four
    rw [String.utf8Len_cons, List.length_cons]
    omega

theorem lowerHex_delimits {kind : HexKind} :
    Delimits (fun _ => True) (fun hex : LowerHex kind => text hex.value) Eq := by
  have hsize : ∀ hex : LowerHex kind, hex.value.utf8ByteSize < 2 ^ 32 := by
    intro hex
    have hle := utf8Len_le hex.value.toList
    have hlength := hex.valid.1
    rw [← String.utf8ByteSize_ofList, String.ofList_toList, String.length_toList, hlength] at hle
    omega
  intro a b _ _ r r'
  rw [text_delimits (hsize a) (hsize b), LowerHex.ext_iff]

theorem session_delimits :
    Delimits (fun _ => True) (fun session : SessionId => littleEndian 8 session.val) Eq := by
  intro a b _ _ r r'
  have hlt : ∀ session : SessionId, session.val < 256 ^ 8 := fun session =>
    lt_of_lt_of_eq session.lt (by decide)
  rw [littleEndian_delimits 8 (hlt a) (hlt b), NonzeroId.ext_iff]

theorem u64_delimits :
    Delimits (fun _ => True) (fun value : UInt64 => littleEndian 8 value.toNat) Eq := by
  intro a b _ _ r r'
  rw [littleEndian_delimits 8 a.toNat_lt b.toNat_lt, UInt64.toNat_inj]

theorem u32_delimits :
    Delimits (fun _ => True) (fun value : UInt32 => littleEndian 4 value.toNat) Eq := by
  intro a b _ _ r r'
  rw [littleEndian_delimits 4 a.toNat_lt b.toNat_lt, UInt32.toNat_inj]

theorem u16_delimits :
    Delimits (fun _ => True) (fun value : UInt16 => littleEndian 2 value.toNat) Eq := by
  intro a b _ _ r r'
  rw [littleEndian_delimits 2 a.toNat_lt b.toNat_lt, UInt16.toNat_inj]

theorem constant_delimits {α : Type} (bytes : List UInt8) :
    Delimits (fun _ => True) (fun _ : α => bytes) (fun _ _ => True) := by
  intro a b _ _ r r'
  simp

theorem byte_delimits {α : Type} {enc : α → List UInt8} (hlength : ∀ a, (enc a).length = 1)
    (hinj : ∀ a b, enc a = enc b → a = b) : Delimits (fun _ => True) enc Eq :=
  (Delimits.fixed fun a _ => hlength a).congr fun a b _ _ =>
    ⟨hinj a b, fun h => by rw [h]⟩

theorem boolean_delimits : Delimits (fun _ => True) boolean Eq :=
  byte_delimits (fun _ => rfl) (by decide)

theorem boundary_delimits : Delimits (fun _ => True) boundary Eq :=
  byte_delimits (fun a => by cases a <;> rfl)
    (fun a b => by cases a <;> cases b <;> decide)

theorem network_delimits : Delimits (fun _ => True) network Eq :=
  byte_delimits (fun a => by cases a <;> rfl)
    (fun a b => by cases a <;> cases b <;> decide)

theorem mitigations_delimits : Delimits (fun _ => True) mitigations Eq :=
  byte_delimits (fun a => by cases a <;> rfl)
    (fun a b => by cases a <;> cases b <;> decide)

theorem children_delimits : Delimits (fun _ => True) children Eq :=
  byte_delimits (fun a => by cases a <;> rfl)
    (fun a b => by cases a <;> cases b <;> decide)

theorem dynamicCode_delimits : Delimits (fun _ => True) dynamicCode Eq :=
  byte_delimits (fun a => by cases a <;> rfl)
    (fun a b => by cases a <;> cases b <;> decide)

theorem win32k_delimits : Delimits (fun _ => True) win32k Eq :=
  byte_delimits (fun a => by cases a <;> rfl)
    (fun a b => by cases a <;> cases b <;> decide)

theorem guarantee_injective : ∀ a b, guarantee a = guarantee b → a = b := by
  intro a b
  cases a <;> cases b <;> decide

theorem length_guaranteeList (values : Finset SandboxGuarantee) :
    (guaranteeList values).length = values.card := by
  have hnodup : (guaranteeList values).Nodup := List.Nodup.filter _ (by decide)
  rw [← List.toFinset_card_of_nodup hnodup]
  congr 1
  ext g
  rw [List.mem_toFinset, mem_guaranteeList]

theorem guaranteeList_inj {values values' : Finset SandboxGuarantee} :
    guaranteeList values = guaranteeList values' ↔ values = values' := by
  constructor
  · intro h
    ext g
    rw [← mem_guaranteeList, h, mem_guaranteeList]
  · rintro rfl
    rfl

/-- A set of guarantees behind its count. -/
theorem guarantees_delimits : Delimits (fun _ => True) guarantees Eq := by
  intro a b _ _ r r'
  have hlength : ∀ values : Finset SandboxGuarantee, (guaranteeList values).length < 256 ^ 4 := by
    intro values
    have hle : (guaranteeList values).length ≤ 12 := List.length_filter_le _ SandboxGuarantee.all
    omega
  have hbyte : Delimits (fun _ => True) (fun g => [guarantee g]) Eq :=
    byte_delimits (fun _ => rfl) fun a b h => guarantee_injective a b (List.singleton_inj.mp h)
  have hitems := (littleEndian_delimits 4).list hbyte
    (a := guaranteeList a) (b := guaranteeList b) ⟨hlength a, fun _ _ => trivial⟩
    ⟨hlength b, fun _ _ => trivial⟩ r r'
  rw [List.forall₂_eq_eq_eq, guaranteeList_inj] at hitems
  rw [guarantees, guarantees, ← length_guaranteeList, ← length_guaranteeList,
    List.map_eq_flatMap, List.map_eq_flatMap, hitems]

/-! ### Parts behind a tag -/

/-- What stands behind the tag of a registered provider. -/
def descriptor (d : SandboxProviderDescriptor) : List UInt8 :=
  text d.id.value ++ boundary d.boundary ++ guarantees d.guarantees ++ text d.buildIdentity.value

theorem descriptor_delimits : Delimits (fun _ => True) descriptor Eq := by
  have hfields :=
    ((((identifier_delimits (by decide)).comap SandboxProviderDescriptor.id).and
      (boundary_delimits.comap SandboxProviderDescriptor.boundary)).and
      (guarantees_delimits.comap SandboxProviderDescriptor.guarantees)).and
      ((identifier_delimits (by decide)).comap SandboxProviderDescriptor.buildIdentity)
  refine hfields.congr ?_
  intro a b _ _
  cases a
  cases b
  simp [and_assoc]

/-- The tag tells the providers apart; a registered one is told by its descriptor. -/
theorem provider_delimits : Delimits (fun _ => True) provider Eq := by
  have hregistered : ∀ d, provider (.registered d) = 4 :: descriptor d := by
    intro d
    simp [provider, descriptor]
  intro a b _ _ r r'
  cases a with
  | registered d =>
    cases b with
    | registered d' => simpa [hregistered] using descriptor_delimits trivial trivial r r'
    | _ => simp [provider]
  | _ => cases b <;> simp [provider]

/-- What stands behind the tag of a VM identity. -/
def vmFields (identity : VmIsolationIdentity) : List UInt8 :=
  text identity.sealedImageId.value ++ text identity.sealedImageDigest.value ++
    text identity.differencingDiskId.value ++ text identity.channelNonce.value ++
    littleEndian 2 identity.channelProtocolVersion.toNat ++ text identity.guestAgentBuild.value

theorem vmFields_delimits : Delimits (fun _ => True) vmFields Eq := by
  have hfields :=
    ((((((identifier_delimits (by decide)).comap VmIsolationIdentity.sealedImageId).and
      (lowerHex_delimits.comap VmIsolationIdentity.sealedImageDigest)).and
      ((identifier_delimits (by decide)).comap VmIsolationIdentity.differencingDiskId)).and
      (lowerHex_delimits.comap VmIsolationIdentity.channelNonce)).and
      (u16_delimits.comap VmIsolationIdentity.channelProtocolVersion)).and
      ((identifier_delimits (by decide)).comap VmIsolationIdentity.guestAgentBuild)
  refine hfields.congr ?_
  intro a b _ _
  cases a
  cases b
  simp [and_assoc]

theorem vmIdentity_delimits : Delimits (fun _ => True) vmIdentity Eq := by
  have hsome : ∀ identity, vmIdentity (some identity) = 1 :: vmFields identity := by
    intro identity
    simp [vmIdentity, vmFields, boolean]
  have hnone : vmIdentity none = [0] := rfl
  intro a b _ _ r r'
  cases a with
  | some identity =>
    cases b with
    | some identity' => simpa [hsome] using vmFields_delimits trivial trivial r r'
    | none => simp [hsome, hnone]
  | none => cases b <;> simp [hsome, hnone]

/-! ### The whole policy -/

/-- Agreement in every field that is written. -/
def SameFields (a b : SandboxPolicy × BinaryId) : Prop :=
  a.2 = b.2 ∧ a.1.sessionId = b.1.sessionId ∧
    a.1.policyApproval.nonce = b.1.policyApproval.nonce ∧ a.1.provider = b.1.provider ∧
    a.1.requiredBoundary = b.1.requiredBoundary ∧
    a.1.requiredGuarantees = b.1.requiredGuarantees ∧ a.1.network = b.1.network ∧
    a.1.resources = b.1.resources ∧ a.1.processMitigations = b.1.processMitigations ∧
    a.1.childProcesses = b.1.childProcesses ∧ a.1.dynamicCode = b.1.dynamicCode ∧
    a.1.win32k = b.1.win32k ∧ a.1.rollbackOnClose = b.1.rollbackOnClose ∧
    a.1.vmIdentity = b.1.vmIdentity

theorem canonical_delimits : Delimits (fun _ => True)
    (fun x : SandboxPolicy × BinaryId => canonical x.1 x.2) SameFields := by
  have hheader := (((constant_delimits (α := SandboxPolicy × BinaryId)
      (text "resymbol-sandbox-policy")).and (constant_delimits (littleEndian 2 1))).and
      (lowerHex_delimits.comap fun x => x.2)).and
      (session_delimits.comap fun x => x.1.sessionId)
  have hasked := ((((hheader.and
      ((identifier_delimits (by decide)).comap fun x => x.1.policyApproval.nonce)).and
      (provider_delimits.comap fun x => x.1.provider)).and
      (boundary_delimits.comap fun x => x.1.requiredBoundary)).and
      (guarantees_delimits.comap fun x => x.1.requiredGuarantees)).and
      (network_delimits.comap fun x => x.1.network)
  have hlimits := ((((hasked.and
      (u64_delimits.comap fun x => x.1.resources.memoryBytes)).and
      (u64_delimits.comap fun x => x.1.resources.diskBytes)).and
      (u32_delimits.comap fun x => x.1.resources.activeProcessLimit)).and
      (u16_delimits.comap fun x => x.1.resources.cpuRateBasisPoints)).and
      (u64_delimits.comap fun x => x.1.resources.wallClockMillis)
  have hprofiles := ((((hlimits.and
      (mitigations_delimits.comap fun x => x.1.processMitigations)).and
      (children_delimits.comap fun x => x.1.childProcesses)).and
      (dynamicCode_delimits.comap fun x => x.1.dynamicCode)).and
      (win32k_delimits.comap fun x => x.1.win32k)).and
      (boolean_delimits.comap fun x => x.1.rollbackOnClose)
  have hall := hprofiles.and (vmIdentity_delimits.comap fun x => x.1.vmIdentity)
  refine hall.congr ?_
  rintro ⟨a, binary⟩ ⟨b, binary'⟩ _ _
  have hresources : a.resources = b.resources ↔
      a.resources.memoryBytes = b.resources.memoryBytes ∧
        a.resources.diskBytes = b.resources.diskBytes ∧
        a.resources.activeProcessLimit = b.resources.activeProcessLimit ∧
        a.resources.cpuRateBasisPoints = b.resources.cpuRateBasisPoints ∧
        a.resources.wallClockMillis = b.resources.wallClockMillis := by
    cases a.resources
    cases b.resources
    simp
  rw [SameFields]
  simp only [hresources, true_and, and_assoc]

end CanonicalPolicyDigest

attribute [ext] SandboxPolicyApprovalId SandboxPolicy

/-- A policy that passes its checks was approved for its own session. -/
theorem SandboxPolicy.approval_of_validate {p : SandboxPolicy} (h : p.validate = .ok ()) :
    p.policyApproval.sessionId = p.sessionId := by
  rw [SandboxPolicy.validate] at h
  obtain ⟨_, -, h⟩ := except_bind_eq_ok.mp h
  by_contra hne
  by_cases hrollback : (!p.rollbackOnClose) = true
  · rw [if_pos hrollback] at h
    cases h
  · rw [if_neg hrollback, if_pos hne] at h
    cases h

theorem SandboxPolicy.validate_of_digest [Sha256] {p : SandboxPolicy} {binaryId : BinaryId}
    {digest : PolicyDigest} (h : p.digest binaryId = .ok digest) : p.validate = .ok () := by
  rw [SandboxPolicy.digest] at h
  obtain ⟨_, hvalid, -⟩ := except_bind_eq_ok.mp h
  exact hvalid

/-- The digest of a policy that passes its checks is the hash of its canonical string. -/
theorem SandboxPolicy.digest_eq [Sha256] {p : SandboxPolicy} (h : p.validate = .ok ())
    (binaryId : BinaryId) :
    p.digest binaryId =
      .ok (CanonicalPolicyDigest.finish (CanonicalPolicyDigest.canonical p binaryId)) := by
  unfold SandboxPolicy.digest
  rw [h]
  rfl

/-- A hash that tells one string from all others. -/
abbrev separating (bytes : List UInt8) : Sha256 :=
  ⟨fun input => if input = bytes then Vector.replicate 32 0 else Vector.replicate 32 1⟩

theorem finish_separating {bytes other : List UInt8} (h : other ≠ bytes) :
    @CanonicalPolicyDigest.finish (separating bytes) other ≠
      @CanonicalPolicyDigest.finish (separating bytes) bytes := by
  intro heq
  have hdigits := String.ofList_injective (congrArg (·.value) heq)
  have hother : @Sha256.finalize (separating bytes) other = Vector.replicate 32 1 := if_neg h
  have hbytes : @Sha256.finalize (separating bytes) bytes = Vector.replicate 32 0 := if_pos rfl
  rw [hother, hbytes] at hdigits
  exact absurd hdigits (by decide)

theorem CanonicalPolicyDigest.canonical_inj {p p' : SandboxPolicy} {binaryId binaryId' : BinaryId}
    (h : p.validate = .ok ()) (h' : p'.validate = .ok ()) :
    canonical p binaryId = canonical p' binaryId' ↔ binaryId = binaryId' ∧ p = p' := by
  have happroval := SandboxPolicy.approval_of_validate h
  have happroval' := SandboxPolicy.approval_of_validate h'
  have hfields := CanonicalPolicyDigest.canonical_delimits.whole (a := (p, binaryId))
    (b := (p', binaryId')) trivial trivial
  rw [hfields]
  constructor
  · rintro ⟨hbinary, hsession, hnonce, hrest⟩
    have happroved : p.policyApproval = p'.policyApproval :=
      SandboxPolicyApprovalId.ext (happroval.trans (hsession.trans happroval'.symm)) hnonce
    obtain ⟨h₁, h₂, h₃, h₄, h₅, h₆, h₇, h₈, h₉, h₁₀, h₁₁⟩ := hrest
    exact ⟨hbinary, SandboxPolicy.ext hsession happroved h₁ h₂ h₃ h₄ h₅ h₆ h₇ h₈ h₉ h₁₀ h₁₁⟩
  · rintro ⟨rfl, rfl⟩
    simp [CanonicalPolicyDigest.SameFields]

/-- CORRECT (binding): a digest is the hash of the canonical string, two policies with digests have
    the same canonical string exactly when they are the same policy for the same binary, and only
    such policies have the same digest whatever the hash is. -/
theorem canonical_policy_injective [Sha256] {p p' : SandboxPolicy} {binaryId binaryId' : BinaryId}
    {digest digest' : PolicyDigest} (h : p.digest binaryId = .ok digest)
    (h' : p'.digest binaryId' = .ok digest') :
    digest = CanonicalPolicyDigest.finish (CanonicalPolicyDigest.canonical p binaryId) ∧
      digest' = CanonicalPolicyDigest.finish (CanonicalPolicyDigest.canonical p' binaryId') ∧
      (CanonicalPolicyDigest.canonical p binaryId = CanonicalPolicyDigest.canonical p' binaryId' ↔
        binaryId = binaryId' ∧ p = p') ∧
      ((∀ hash : Sha256, @SandboxPolicy.digest hash p binaryId =
          @SandboxPolicy.digest hash p' binaryId') ↔ binaryId = binaryId' ∧ p = p') := by
  have hvalid := SandboxPolicy.validate_of_digest h
  have hvalid' := SandboxPolicy.validate_of_digest h'
  have hinj : CanonicalPolicyDigest.canonical p binaryId =
      CanonicalPolicyDigest.canonical p' binaryId' ↔ binaryId = binaryId' ∧ p = p' :=
    CanonicalPolicyDigest.canonical_inj hvalid hvalid'
  refine ⟨?_, ?_, hinj, fun hall => ?_, ?_⟩
  · exact Except.ok.inj (h.symm.trans (SandboxPolicy.digest_eq hvalid binaryId))
  · exact Except.ok.inj (h'.symm.trans (SandboxPolicy.digest_eq hvalid' binaryId'))
  · rw [← hinj]
    by_contra hne
    have hsame := hall (separating (CanonicalPolicyDigest.canonical p' binaryId'))
    rw [@SandboxPolicy.digest_eq (separating _) p hvalid binaryId,
      @SandboxPolicy.digest_eq (separating _) p' hvalid' binaryId'] at hsame
    exact finish_separating hne (Except.ok.inj hsame)
  · rintro ⟨rfl, rfl⟩ hash
    rfl

/-- A policy for a disposable machine. -/
def machinePolicy (memoryBytes : UInt64) : SandboxPolicy where
  sessionId := 7
  policyApproval := ⟨7, ⟨"machine-approval", by decide⟩⟩
  provider := .hyperV
  requiredBoundary := .hypervisor
  requiredGuarantees := {.disposableFileSystem, .disposableRegistry, .hypervisorBoundary,
    .rollbackOnClose, .networkDisabled, .resourceLimits, .childProcessControl, .processMitigations,
    .jobAssignmentAtCreation}
  network := .disabled
  resources := ⟨memoryBytes, 64 * 1024 * 1024, 4, 5000, 60000⟩
  processMitigations := .strictV1
  childProcesses := .deny
  dynamicCode := .prohibit
  win32k := .disable
  rollbackOnClose := true
  vmIdentity := some {
    sealedImageId := ⟨"image", by decide⟩
    sealedImageDigest :=
      ⟨"00000000000000000000000000000000000000000000000000000000000000e1", by decide⟩
    differencingDiskId := ⟨"disk", by decide⟩
    channelNonce := ⟨"00000000000000000000000000000000000000000000000000000000000000e2", by decide⟩
    channelProtocolVersion := 1
    guestAgentBuild := ⟨"agent", by decide⟩ }

/-- The binary that the policy is for. -/
def machineBinary : BinaryId :=
  ⟨"00000000000000000000000000000000000000000000000000000000000000ff", by decide⟩

/-- A hash for the policies at hand. -/
abbrev machineHash : Sha256 := ⟨fun _ => Vector.replicate 32 0⟩

/-- One byte of memory more is another canonical string, and another digest under some hash. -/
theorem canonical_policy_injective_memory :
    CanonicalPolicyDigest.canonical (machinePolicy 67108864) machineBinary ≠
        CanonicalPolicyDigest.canonical (machinePolicy 67108865) machineBinary ∧
      ∃ hash : Sha256, @SandboxPolicy.digest hash (machinePolicy 67108864) machineBinary ≠
        @SandboxPolicy.digest hash (machinePolicy 67108865) machineBinary := by
  have hvalid : (machinePolicy 67108864).validate = .ok () := by decide +kernel
  have hvalid' : (machinePolicy 67108865).validate = .ok () := by decide +kernel
  obtain ⟨-, -, hcanonical, hdigest⟩ := @canonical_policy_injective machineHash _ _ machineBinary
    machineBinary _ _ (@SandboxPolicy.digest_eq machineHash _ hvalid _)
    (@SandboxPolicy.digest_eq machineHash _ hvalid' _)
  have hne : ¬ (machineBinary = machineBinary ∧
      machinePolicy 67108864 = machinePolicy 67108865) := by
    rintro ⟨-, heq⟩
    have hmemory := congrArg (·.resources.memoryBytes) heq
    exact absurd hmemory (by decide)
  exact ⟨fun heq => hne (hcanonical.mp heq), not_forall.mp fun hall => hne (hdigest.mp hall)⟩

end ReSymbol.Debugger
