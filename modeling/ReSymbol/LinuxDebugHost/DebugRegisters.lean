import ReSymbol.LinuxDebugHost.Session

/-! The fields of `DR7`.

    The control register packs four slots into one word. A slot owns its enable bit and a nibble;
    programming or releasing a slot rewrites the bits it owns and no others, so what was written for
    the other slots stays readable.

        bit   0 2 4 6          enable bits of slots 0 1 2 3
        bits  16–19 … 28–31    condition and length of slots 0 … 3 -/

namespace ReSymbol.LinuxDebugHost

def bit (w : UInt64) (j : ℕ) : Bool := w.toBitVec.getLsbD j

/-- The bits of `DR7` that a slot owns. -/
def OwnsBit (slot : Fin hardwareSlots) (j : ℕ) : Prop :=
  j = 2 * slot.val ∨ 16 + 4 * slot.val ≤ j ∧ j < 20 + 4 * slot.val

instance (slot : Fin hardwareSlots) (j : ℕ) : Decidable (OwnsBit slot j) := by
  unfold OwnsBit; infer_instance

/-- The slot is enabled. -/
def Enabled (dr7 : UInt64) (slot : Fin hardwareSlots) : Prop := bit dr7 (2 * slot.val) = true

/-- The condition field of the processor, high bit first: instruction fetches `00`, writes `01`,
    reads or writes `11`. -/
def conditionField : HardwareKind → Bool × Bool
  | .execute => (false, false)
  | .write => (false, true)
  | .readWrite => (true, true)

/-- The length field of the processor, high bit first: one byte `00`, two `01`, four `11`, eight
    `10`. -/
def lengthFields : List (UInt64 × Bool × Bool) :=
  [(1, false, false), (2, false, true), (4, true, true), (8, true, false)]

/-- The nibble of the slot says this condition and length. -/
structure Encodes (dr7 : UInt64) (slot : Fin hardwareSlots) (kind : HardwareKind) (len : UInt64) :
    Prop where
  condition : (bit dr7 (16 + 4 * slot.val + 1), bit dr7 (16 + 4 * slot.val + 0)) =
    conditionField kind
  length : (len, bit dr7 (16 + 4 * slot.val + 3), bit dr7 (16 + 4 * slot.val + 2)) ∈ lengthFields

/-! ### Bits of words -/

theorem bit_of_ge (w : UInt64) {j : ℕ} (h : 64 ≤ j) : bit w j = false := BitVec.getLsbD_of_ge _ _ h

theorem bit_zero (j : ℕ) : bit 0 j = false := by
  simp [bit]

theorem bit_and (v w : UInt64) (j : ℕ) : bit (v &&& w) j = (bit v j && bit w j) := by
  simp [bit]

theorem bit_or (v w : UInt64) (j : ℕ) : bit (v ||| w) j = (bit v j || bit w j) := by
  simp [bit]

theorem bit_not (w : UInt64) {j : ℕ} (hj : j < 64) : bit (~~~w) j = !bit w j := by
  simp [bit, hj]

theorem bit_shiftLeft (w : UInt64) {n j : ℕ} (hn : n < 64) (hj : j < 64) :
    bit (w <<< UInt64.ofNat n) j = (decide (n ≤ j) && bit w (j - n)) := by
  have hmod : n % 64 = n := Nat.mod_eq_of_lt hn
  have hlt : j - n < 64 := by omega
  simp only [bit, UInt64.toBitVec_shiftLeft, UInt64.toBitVec_ofNat', BitVec.shiftLeft_eq',
    BitVec.toNat_umod, BitVec.toNat_ofNat, BitVec.getLsbD_shiftLeft, hj, decide_true, Bool.true_and]
  by_cases h : n ≤ j <;> simp [h, hmod, Nat.not_lt.mpr, Nat.lt_of_not_le]

theorem bit_one (j : ℕ) : bit 1 j = decide (j = 0) := by
  simp [bit]

theorem bit_nibble (j : ℕ) : bit 0b1111 j = decide (j < 4) := by
  have h : (0b1111 : ℕ) = 2 ^ 4 - 1 := rfl
  change (BitVec.ofNat 64 15).getLsbD j = _
  rw [BitVec.getLsbD_ofNat, h, Nat.testBit_two_pow_sub_one]
  by_cases hj : j < 4 <;> simp [hj]
  omega

/-- Testing one bit with a mask. -/
theorem and_shift_eq_zero (w : UInt64) {i : ℕ} (hi : i < 64) :
    w &&& 1 <<< UInt64.ofNat i = 0 ↔ bit w i = false := by
  have hbit : ∀ j < 64, bit (w &&& 1 <<< UInt64.ofNat i) j = (bit w j && decide (j = i)) := by
    intro j hj
    rw [bit_and, bit_shiftLeft _ hi hj, bit_one, ← Bool.decide_and]
    congr 1
    exact decide_eq_decide.mpr (by omega)
  constructor
  · intro h
    have hzero := hbit i hi
    rw [h, bit_zero] at hzero
    simpa using hzero.symm
  · intro h
    refine UInt64.eq_of_toBitVec_eq (BitVec.eq_of_getLsbD_eq fun j hj => ?_)
    refine (hbit j hj).trans (.trans ?_ (bit_zero j).symm)
    rcases eq_or_ne j i with rfl | hne
    · rw [h, Bool.false_and]
    · rw [decide_eq_false hne, Bool.and_false]

/-! ### Programming and releasing a slot -/

theorem ownsBit_inj {i i' : Fin hardwareSlots} {j : ℕ} (h : OwnsBit i j) (h' : OwnsBit i' j) :
    i = i' := by
  have hi : i.val < 4 := i.isLt
  have hi' : i'.val < 4 := i'.isLt
  refine Fin.ext ?_
  rcases h with h | h <;> rcases h' with h' | h' <;> omega

theorem ownsBit_lt {i : Fin hardwareSlots} {j : ℕ} (h : OwnsBit i j) : j < 64 := by
  have hi : i.val < 4 := i.isLt
  rcases h with h | h <;> omega

/-- A released slot owns no set bit, and every other bit stays. -/
theorem bit_clearDr7Slot (dr7 : UInt64) (i : Fin hardwareSlots) (j : ℕ) :
    bit (clearDr7Slot dr7 i) j = (bit dr7 j && !decide (OwnsBit i j)) := by
  have hi : i.val < 4 := i.isLt
  rcases Nat.lt_or_ge j 64 with hj | hj
  · rw [clearDr7Slot, bit_and, bit_and, bit_not _ hj, bit_not _ hj, bit_shiftLeft _ (by omega) hj,
      bit_shiftLeft _ (by omega) hj, bit_one, bit_nibble, Bool.and_assoc]
    rw [← Bool.not_or, ← Bool.decide_and, ← Bool.decide_and, ← Bool.decide_or]
    have howns : 2 * i.val ≤ j ∧ j - 2 * i.val = 0 ∨
        16 + 4 * i.val ≤ j ∧ j - (16 + 4 * i.val) < 4 ↔ OwnsBit i j := by
      unfold OwnsBit; omega
    rw [decide_eq_decide.mpr howns]
  · rw [bit_of_ge _ hj, bit_of_ge _ hj, Bool.false_and]

theorem encodeLength_cases {kind : HardwareKind} {len lengthBits : UInt64}
    (h : encodeLength kind len = .ok lengthBits) :
    len = 1 ∧ lengthBits = 0 ∨ len = 2 ∧ lengthBits = 1 ∨ len = 4 ∧ lengthBits = 3 ∨
      len = 8 ∧ lengthBits = 2 := by
  cases kind <;> simp only [encodeLength] at h
  case execute =>
    split at h <;> cases h
    exact .inl ⟨‹_›, rfl⟩
  all_goals
    split_ifs at h with h₁ h₂ h₄ h₈ <;> cases h
    · exact .inl ⟨h₁, rfl⟩
    · exact .inr (.inl ⟨h₂, rfl⟩)
    · exact .inr (.inr (.inl ⟨h₄, rfl⟩))
    · exact .inr (.inr (.inr ⟨h₈, rfl⟩))

/-- The nibble fits into four bits. -/
theorem bit_encodeNibble_of_ge {kind : HardwareKind} {len lengthBits : UInt64}
    (h : encodeLength kind len = .ok lengthBits) {k : ℕ} (hk : 4 ≤ k) :
    bit (encodeNibble kind lengthBits) k = false := by
  have hle : encodeNibble kind lengthBits &&& 0b1111 = encodeNibble kind lengthBits := by
    rcases encodeLength_cases h with ⟨-, rfl⟩ | ⟨-, rfl⟩ | ⟨-, rfl⟩ | ⟨-, rfl⟩ <;>
      cases kind <;> rfl
  rw [← hle, bit_and, bit_nibble, decide_eq_false (by omega), Bool.and_false]

/-- A programmed slot is enabled and holds its nibble, and every other bit stays. -/
theorem bit_armed {kind : HardwareKind} {len lengthBits : UInt64}
    (h : encodeLength kind len = .ok lengthBits) (dr7 : UInt64) (i : Fin hardwareSlots) (j : ℕ) :
    bit (clearDr7Slot dr7 i ||| 1 <<< UInt64.ofNat (2 * i.val) |||
      encodeNibble kind lengthBits <<< UInt64.ofNat (16 + 4 * i.val)) j =
      if OwnsBit i j then
        decide (j = 2 * i.val) || bit (encodeNibble kind lengthBits) (j - (16 + 4 * i.val))
      else bit dr7 j := by
  have hi : i.val < 4 := i.isLt
  rcases Nat.lt_or_ge j 64 with hj | hj
  · rw [bit_or, bit_or, bit_clearDr7Slot, bit_shiftLeft _ (by omega) hj,
      bit_shiftLeft _ (by omega) hj, bit_one]
    by_cases hown : OwnsBit i j
    · rw [if_pos hown, decide_eq_true hown, Bool.not_true, Bool.and_false, Bool.false_or]
      rcases hown with hown | hown
      · simp [hown]
      · simp [hown.1, show j ≠ 2 * i.val by omega, show j - 2 * i.val ≠ 0 by omega]
    · rw [if_neg hown, decide_eq_false hown, Bool.not_false, Bool.and_true]
      have hne : ¬ (2 * i.val ≤ j ∧ j - 2 * i.val = 0) := fun hj => hown (.inl (by omega))
      have hnibble : (decide (16 + 4 * i.val ≤ j) &&
          bit (encodeNibble kind lengthBits) (j - (16 + 4 * i.val))) = false := by
        by_cases hle : 16 + 4 * i.val ≤ j
        · rw [bit_encodeNibble_of_ge h, Bool.and_false]
          by_contra hlt
          exact hown (.inr ⟨hle, by omega⟩)
        · rw [decide_eq_false hle, Bool.false_and]
      rw [hnibble, Bool.or_false, ← Bool.decide_and, decide_eq_false hne, Bool.or_false]
  · have hown : ¬ OwnsBit i j := fun hown => by have := ownsBit_lt hown; omega
    rw [bit_of_ge _ hj, if_neg hown, bit_of_ge _ hj]

/-- What the session programs is the encoding of the processor. -/
theorem encodes_of_nibble {dr7 : UInt64} {i : Fin hardwareSlots} {kind : HardwareKind}
    {len lengthBits : UInt64} (hlen : encodeLength kind len = .ok lengthBits)
    (hbits : ∀ k < 4, bit dr7 (16 + 4 * i.val + k) = bit (encodeNibble kind lengthBits) k) :
    Encodes dr7 i kind len := by
  have h₀ := hbits 0 (by omega)
  have h₁ := hbits 1 (by omega)
  have h₂ := hbits 2 (by omega)
  have h₃ := hbits 3 (by omega)
  constructor
  · rw [h₀, h₁]
    rcases encodeLength_cases hlen with ⟨-, rfl⟩ | ⟨-, rfl⟩ | ⟨-, rfl⟩ | ⟨-, rfl⟩ <;>
      cases kind <;> decide
  · rw [h₂, h₃]
    rcases encodeLength_cases hlen with ⟨rfl, rfl⟩ | ⟨rfl, rfl⟩ | ⟨rfl, rfl⟩ | ⟨rfl, rfl⟩ <;>
      cases kind <;> decide

/-- The nibble tells the condition. -/
theorem kind_of_encodes {dr7 : UInt64} {i : Fin hardwareSlots} {kind kind' : HardwareKind}
    {len : UInt64} (h : Encodes dr7 i kind len) (h' : Encodes dr7 i kind' len) : kind = kind' := by
  have hsame := h.condition.symm.trans h'.condition
  revert hsame
  cases kind <;> cases kind' <;> decide

end ReSymbol.LinuxDebugHost
