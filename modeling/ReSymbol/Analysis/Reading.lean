import ReSymbol.Schemes.Bytes
import ReSymbol.Schemes.Reducer

/-! Reading a binary.

    The readers of all formats report through one error type. Every access to the file is checked: a
    range that does not lie in the file is an error that names what was to be read there. -/

namespace ReSymbol.Analysis
open Schemes

/-! ### Errors -/

inductive AnalysisError where
  | truncated (context : String) (offset needed available : ℕ)
  | invalidDosSignature (found : String)
  | invalidPeSignature (offset : ℕ)
  | peHeaderOffsetLimit (offset limit : ℕ)
  | unsupportedMachine (machine expected : ℕ)
  | unsupportedOptionalHeader (magic expected : ℕ)
  | optionalHeaderTooSmall (actual minimum : ℕ)
  | unmappedRva (context : String) (rva size : ℕ)
  | overlappingSections (first second : ℕ) (space : String)
  | invalidField (field reason : String)
  | limitExceeded (kind : String) (count limit : ℕ)
  | arithmeticOverflow (what : String)
  deriving DecidableEq

def invalid {α : Type} (field reason : String) : Except AnalysisError α :=
  .error (.invalidField field reason)

/-- `checked_add` of 64-bit numbers. -/
def checkedAdd (what : String) (a b : ℕ) : Except AnalysisError ℕ :=
  bounded 64 (a + b) (.arithmeticOverflow what)

theorem checkedAdd_eq_ok {what : String} {a b c : ℕ} :
    checkedAdd what a b = .ok c ↔ a + b < 2 ^ 64 ∧ a + b = c := bounded_eq_ok

def enforceCount (kind : String) (count limit : ℕ) : Except AnalysisError Unit :=
  if count > limit then .error (.limitExceeded kind count limit) else .ok ()

theorem enforceCount_eq_ok {kind : String} {count limit : ℕ} {u : Unit} :
    enforceCount kind count limit = .ok u ↔ count ≤ limit := by
  rw [enforceCount, ite_error_eq_ok, not_lt, and_iff_left rfl]

/-- `is_power_of_two` of a nonzero number below `2 ^ 64`. -/
def isPowerOfTwo (n : ℕ) : Bool := (List.range 64).any fun k => n = 2 ^ k

/-! ### Slices of the file -/

def ensureSlice (bytes : List UInt8) (offset size : ℕ) (context : String) :
    Except AnalysisError (List UInt8) :=
  readRange (.arithmeticOverflow "file byte range")
    (.truncated context offset size (bytes.length - offset)) bytes offset size

/-- The little-endian reader of PE files. -/
structure Reader where
  data : List UInt8

namespace Reader

variable (reader : Reader)

def len : ℕ := reader.data.length

def bytes (offset size : ℕ) (context : String) : Except AnalysisError (List UInt8) :=
  ensureSlice reader.data offset size context

def uint (width offset : ℕ) (context : String) : Except AnalysisError ℕ := do
  let value ← reader.bytes offset width context
  .ok (ofLeBytes value)

def u16 (offset : ℕ) (context : String) : Except AnalysisError ℕ := reader.uint 2 offset context

def u32 (offset : ℕ) (context : String) : Except AnalysisError ℕ := reader.uint 4 offset context

def u64 (offset : ℕ) (context : String) : Except AnalysisError ℕ := reader.uint 8 offset context

end Reader

theorem Reader.bytes_eq_ok {reader : Reader} {offset size : ℕ} {context : String}
    {value : List UInt8} : reader.bytes offset size context = .ok value ↔
      offset + size < 2 ^ 64 ∧ offset + size ≤ reader.data.length ∧
        window reader.data offset size = value :=
  readRange_eq_ok

/-- A number is read where its bytes are, and is as wide as they are. -/
theorem Reader.uint_eq_ok {reader : Reader} {width offset n : ℕ} {context : String} :
    reader.uint width offset context = .ok n ↔
      offset + width < 2 ^ 64 ∧ offset + width ≤ reader.data.length ∧
        ofLeBytes (window reader.data offset width) = n := by
  simp only [Reader.uint, except_bind_eq_ok, Reader.bytes_eq_ok, Except.ok.injEq]
  constructor
  · rintro ⟨_, ⟨hfits, hinside, rfl⟩, rfl⟩
    exact ⟨hfits, hinside, rfl⟩
  · rintro ⟨hfits, hinside, rfl⟩
    exact ⟨_, ⟨hfits, hinside, rfl⟩, rfl⟩

theorem Reader.uint_lt {reader : Reader} {width offset n : ℕ} {context : String}
    (h : reader.uint width offset context = .ok n) : n < 256 ^ width := by
  obtain ⟨-, hinside, rfl⟩ := Reader.uint_eq_ok.mp h
  have hlt := ofLeBytes_lt (window reader.data offset width)
  rwa [length_window hinside] at hlt

end ReSymbol.Analysis
