import ReSymbol.Schemes.Extents
import ReSymbol.Schemes.Patches

/-! Bytes moved in aligned words.

    A memory is only read and written one aligned word at a time. A span of bytes covers a part of
    its first and of its last word; a part of a word is written by putting it into what the word
    holds.

        words    │........│........│........│
        span         ▓▓▓▓▓ ▓▓▓▓▓▓▓▓ ▓▓▓ -/

namespace Schemes

/-! ### Spans in pieces -/

section Spans

variable {β : Type} (m : Memory β)

theorem getElem?_readSpan {address size i : ℕ} (h : i < size) :
    (readSpan m address size)[i]? = some (m (address + i)) := by
  simp [readSpan, h]

theorem readSpan_add (address n size : ℕ) :
    readSpan m address (n + size) = readSpan m address n ++ readSpan m (address + n) size := by
  rw [readSpan, readSpan, readSpan, List.range_add, List.map_append, List.map_map]
  congr 1
  exact List.map_congr_left fun i _ => congrArg m (Nat.add_assoc address n i).symm

/-- A part of a span is a span. -/
theorem window_readSpan {address size offset len : ℕ} (h : offset + len ≤ size) :
    window (readSpan m address size) offset len = readSpan m (address + offset) len := by
  refine window_eq (readSpan_length m _ _) fun i hi => ?_
  rw [getElem?_readSpan m (by omega), getElem?_readSpan m hi, Nat.add_assoc]

theorem writeSpan_apply (address a : ℕ) (cells : List β) :
    writeSpan m address cells a =
      if address ≤ a then (cells[a - address]?).getD (m a) else m a := by
  rw [writeSpan, List.getD_eq_getElem?_getD]

/-- Putting a part into what a span holds writes that part only. -/
theorem writeSpan_overwrite {address size offset : ℕ} {cells : List β}
    (h : offset + cells.length ≤ size) :
    writeSpan m address (overwrite (readSpan m address size) offset cells) =
      writeSpan m (address + offset) cells := by
  have hfits : offset + cells.length ≤ (readSpan m address size).length := by
    rwa [readSpan_length]
  funext a
  rw [writeSpan_apply, writeSpan_apply]
  rcases Nat.lt_or_ge a address with ha | ha
  · rw [if_neg (by omega), if_neg (by omega)]
  obtain ⟨i, rfl⟩ := Nat.exists_eq_add_of_le ha
  rw [if_pos ha, Nat.add_sub_cancel_left]
  rcases Nat.lt_or_ge i offset with hlow | hlow
  · rw [getElem?_overwrite_outside hfits (.inl hlow), getElem?_readSpan m (by omega),
      if_neg (by omega), Option.getD_some]
  obtain ⟨j, rfl⟩ := Nat.exists_eq_add_of_le hlow
  rw [if_pos (by omega), ← Nat.add_assoc, Nat.add_sub_cancel_left]
  rcases Nat.lt_or_ge j cells.length with hj | hj
  · rw [getElem?_overwrite_inside hfits hj]
  · rw [getElem?_overwrite_outside hfits (.inr (by omega)), List.getElem?_eq_none hj,
      Option.getD_none]
    rcases Nat.lt_or_ge (offset + j) size with hin | hout
    · rw [getElem?_readSpan m hin, Option.getD_some, Nat.add_assoc]
    · rw [List.getElem?_eq_none (by rwa [readSpan_length]), Option.getD_none]

theorem writeSpan_append (address : ℕ) (cells cells' : List β) :
    writeSpan (writeSpan m address cells) (address + cells.length) cells' =
      writeSpan m address (cells ++ cells') := by
  funext a
  rw [writeSpan_apply, writeSpan_apply, writeSpan_apply]
  rcases Nat.lt_or_ge a address with ha | ha
  · rw [if_neg (by omega), if_neg (by omega), if_neg (by omega)]
  obtain ⟨i, rfl⟩ := Nat.exists_eq_add_of_le ha
  rw [if_pos ha, if_pos ha, Nat.add_sub_cancel_left]
  rcases Nat.lt_or_ge i cells.length with hi | hi
  · rw [if_neg (by omega), List.getElem?_append_left hi]
  · rw [if_pos (by omega), List.getElem?_append_right hi, List.getElem?_eq_none hi,
      Nat.add_sub_add_left, Option.getD_none]

end Spans

/-! ### Words -/

/-- The bytes of a word, the lowest first. -/
def wordBytes (word : UInt64) : List UInt8 := leBytes 8 word.toNat

def wordOfBytes (bytes : List UInt8) : UInt64 := UInt64.ofNat (ofLeBytes bytes)

theorem wordBytes_wordOfBytes {bytes : List UInt8} (h : bytes.length = 8) :
    wordBytes (wordOfBytes bytes) = bytes := by
  have hlt := ofLeBytes_lt bytes
  rw [h] at hlt
  rw [wordBytes, wordOfBytes, UInt64.toNat_ofNat_of_lt' hlt, ← h, leBytes_ofLeBytes]

/-- The bits under a mask, and the others. -/
theorem and_not_add_and {w : ℕ} (x mask : BitVec w) : (x &&& ~~~mask) + (x &&& mask) = x := by
  rw [BitVec.add_eq_or_of_and_eq_zero]
  · ext i hi
    rw [BitVec.getElem_or, BitVec.getElem_and, BitVec.getElem_and, BitVec.getElem_not]
    cases x[i] <;> cases mask[i] <;> rfl
  · ext i hi
    simp only [BitVec.getElem_and, BitVec.getElem_not, BitVec.getElem_zero]
    cases x[i] <;> cases mask[i] <;> rfl

/-- The address of the word that holds a byte. -/
def alignDown (address : UInt64) : UInt64 := address &&& ~~~7

theorem toNat_alignDown (address : UInt64) :
    (alignDown address).toNat = address.toNat - address.toNat % 8 := by
  have hmask : alignDown address = address - (address &&& 7) := by
    apply eq_sub_of_add_eq
    rw [← UInt64.toBitVec_inj, alignDown]
    exact and_not_add_and address.toBitVec 7
  have hlow : (address &&& 7).toNat = address.toNat % 8 := by
    rw [UInt64.toNat_and]
    exact Nat.and_two_pow_sub_one_eq_mod address.toNat 3
  rw [hmask, UInt64.toNat_sub_of_le, hlow]
  rw [UInt64.le_iff_toNat_le, hlow]
  exact Nat.mod_le _ _

end Schemes
