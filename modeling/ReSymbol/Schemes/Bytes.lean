import Mathlib.Data.List.TakeDrop
import Mathlib.Tactic

/-! Byte strings made of fields.

    Numbers of a fixed width stand in little-endian order. A window of a byte string is the part of
    it at an offset; the fields of a record are read back through the windows that they fill.

        ┌────────┬───────┬──────────┐
        │ before │ field │  after   │     window (before ++ field ++ after) |before| |field| = field
        └────────┴───────┴──────────┘ -/

namespace Schemes

/-! ### Numbers -/

/-- The low bytes of a number, the lowest first. -/
def leBytes : ℕ → ℕ → List UInt8
  | 0, _ => []
  | width + 1, n => UInt8.ofNat n :: leBytes width (n / 256)

/-- The number whose bytes these are. -/
def ofLeBytes : List UInt8 → ℕ
  | [] => 0
  | byte :: rest => byte.toNat + 256 * ofLeBytes rest

@[simp] theorem length_leBytes (width n : ℕ) : (leBytes width n).length = width := by
  induction width generalizing n with
  | zero => rfl
  | succ width ih => simp [leBytes, ih]

theorem ofLeBytes_leBytes {width n : ℕ} (h : n < 256 ^ width) : ofLeBytes
    (leBytes width n) = n := by
  induction width generalizing n with
  | zero =>
    obtain rfl : n = 0 := by simpa using h
    rfl
  | succ width ih =>
    have hrest : n / 256 < 256 ^ width :=
      Nat.div_lt_of_lt_mul (by rwa [← pow_succ'])
    rw [leBytes, ofLeBytes, ih hrest, UInt8.toNat_ofNat']
    omega

theorem leBytes_ofLeBytes (bytes : List UInt8) : leBytes bytes.length
    (ofLeBytes bytes) = bytes := by
  induction bytes with
  | nil => rfl
  | cons byte rest ih =>
    have hbyte := byte.toNat_lt
    have hlow : UInt8.ofNat (byte.toNat + 256 * ofLeBytes rest) = byte := by
      apply UInt8.toNat_inj.mp
      rw [UInt8.toNat_ofNat']
      omega
    have hrest : (byte.toNat + 256 * ofLeBytes rest) / 256 = ofLeBytes rest := by omega
    rw [ofLeBytes, List.length_cons, leBytes, hlow, hrest, ih]

theorem ofLeBytes_lt (bytes : List UInt8) : ofLeBytes bytes < 256 ^ bytes.length := by
  induction bytes with
  | nil => simp [ofLeBytes]
  | cons byte rest ih =>
    have hbyte := byte.toNat_lt
    rw [ofLeBytes, List.length_cons, pow_succ]
    omega

/-! ### Windows -/

variable {α : Type}

/-- The part of a list at an offset. -/
def window (xs : List α) (offset len : ℕ) : List α := (xs.drop offset).take len

theorem length_window {xs : List α} {offset len : ℕ} (h : offset + len ≤ xs.length) :
    (window xs offset len).length = len := by
  simp [window]
  omega

/-- A range of a list, unless its end is no 64-bit number or lies behind the list. -/
def readRange {ε : Type} (overflow truncated : ε) (xs : List α) (offset size : ℕ) :
    Except ε (List α) :=
  if offset + size < 2 ^ 64 then
    if offset + size ≤ xs.length then .ok (window xs offset size) else .error truncated
  else .error overflow

theorem readRange_eq_ok {ε : Type} {overflow truncated : ε} {xs ys : List α} {offset size : ℕ} :
    readRange overflow truncated xs offset size = .ok ys ↔
      offset + size < 2 ^ 64 ∧ offset + size ≤ xs.length ∧ window xs offset size = ys := by
  rw [readRange]
  split_ifs with hfits hinside
  · simp only [Except.ok.injEq, hfits, hinside, true_and]
  · simp only [hinside, false_and, and_false]
  · simp only [hfits, false_and]

/-- The windows of a list, one after the other. -/
theorem window_append_drop (xs : List α) (offset len : ℕ) :
    window xs offset len ++ xs.drop (offset + len) = xs.drop offset := by
  rw [window, ← List.drop_drop, List.take_append_drop]

/-- `format!("{:#x}")`. -/
def alternateHex (n : ℕ) : String := "0x" ++ String.ofList (Nat.toDigits 16 n)

end Schemes
