import ReSymbol.Debugger.Identity

/-! The live target binding: one process instance and the runtime mapping of its main module.

    A static RVA and an actual address are translated into each other only through a binding, and
    only for a nonempty span that lies wholly inside the image.

        base ──────────── address ─── address + size ──── base + SizeOfImage
          └──── rva ────────┘                                             -/

namespace ReSymbol.Debugger
open Schemes

inductive LiveTargetBindingError where
  | mainModuleIdentityMismatch
  | zeroImageBase
  | emptyImage
  | imageAddressOverflow (base : ℕ) (sizeOfImage : UInt32)
  | emptySpan
  | rvaOutOfImage (rva : ℕ) (sizeOfImage : UInt32)
  | rvaSpanOverflow (rva size : ℕ)
  | spanOutOfImage (rva size : ℕ) (sizeOfImage : UInt32)
  | addressBeforeImage (address base : ℕ)
  | addressOutOfImage (address base : ℕ) (sizeOfImage : UInt32)
  | addressSpanOverflow (address size : ℕ)
  | addressSpanOutOfImage (address size imageEnd : ℕ)
  deriving DecidableEq

/-- `format!("{:#x}")`. -/
def hex (n : ℕ) : String := "0x" ++ String.ofList (Nat.toDigits 16 n)

def LiveTargetBindingError.display : LiveTargetBindingError → String
  | mainModuleIdentityMismatch =>
    "main-module binary identity differs from the live process identity"
  | zeroImageBase => "live image base must be nonzero"
  | emptyImage => "live SizeOfImage must be nonzero"
  | imageAddressOverflow base sizeOfImage =>
    "live image base " ++ hex base ++ " plus SizeOfImage " ++ hex sizeOfImage.toNat ++ " overflows"
  | emptySpan => "RVA span must be nonempty"
  | rvaOutOfImage rva sizeOfImage =>
    "RVA " ++ hex rva ++ " is outside SizeOfImage " ++ hex sizeOfImage.toNat
  | rvaSpanOverflow rva size => "RVA " ++ hex rva ++ " plus span size " ++ hex size ++ " overflows"
  | spanOutOfImage rva size sizeOfImage =>
    "RVA " ++ hex rva ++ " plus span size " ++ hex size ++ " exceeds SizeOfImage " ++
      hex sizeOfImage.toNat
  | addressBeforeImage address base =>
    "actual address " ++ hex address ++ " precedes live image base " ++ hex base
  | addressOutOfImage address base sizeOfImage =>
    "actual address " ++ hex address ++ " is outside live image " ++ hex base ++
      " + SizeOfImage " ++ hex sizeOfImage.toNat
  | addressSpanOverflow address size =>
    "actual address " ++ hex address ++ " plus span size " ++ hex size ++ " overflows"
  | addressSpanOutOfImage address size imageEnd =>
    "actual address " ++ hex address ++ " plus span size " ++ hex size ++
      " exceeds live image end " ++ hex imageEnd

/-- A validated binding: the fields below the data are what `LiveTargetBinding::new` checks. -/
structure LiveTargetBinding where
  process : ProcessIdentity
  mainModuleBinaryId : BinaryId
  actualImageBase : MemoryAddress
  sizeOfImage : UInt32
  identity : process.binaryId = mainModuleBinaryId
  base_ne_zero : actualImageBase.val ≠ 0
  size_ne_zero : sizeOfImage ≠ 0
  fits : actualImageBase.val + sizeOfImage.toNat < 2 ^ 64
  deriving DecidableEq

namespace LiveTargetBinding

variable (binding : LiveTargetBinding)

/-- Exclusive end of the image range; the binding's own bound makes the source's `expect` safe. -/
def imageEnd : ℕ := binding.actualImageBase.val + binding.sizeOfImage.toNat

def addressForRvaSpan (rva size : ℕ) : Except LiveTargetBindingError MemoryAddress :=
  if size = 0 then .error .emptySpan
  else if rva ≥ binding.sizeOfImage.toNat then .error (.rvaOutOfImage rva binding.sizeOfImage)
  else match checkedAdd rva size with
    | none => .error (.rvaSpanOverflow rva size)
    | some spanEnd =>
      if spanEnd > binding.sizeOfImage.toNat then
        .error (.spanOutOfImage rva size binding.sizeOfImage)
      else if h : binding.actualImageBase.val + rva < 2 ^ 64 then
        .ok ⟨binding.actualImageBase.val + rva, h⟩
      else .error (.imageAddressOverflow binding.actualImageBase.val binding.sizeOfImage)

def rvaForAddressSpan (address : MemoryAddress) (size : ℕ) : Except LiveTargetBindingError ℕ :=
  let base := binding.actualImageBase.val
  if size = 0 then .error .emptySpan
  else if address.val < base then .error (.addressBeforeImage address.val base)
  else if address.val - base ≥ binding.sizeOfImage.toNat then
    .error (.addressOutOfImage address.val base binding.sizeOfImage)
  else match checkedAdd address.val size with
    | none => .error (.addressSpanOverflow address.val size)
    | some spanEnd =>
      if spanEnd > binding.imageEnd then
        .error (.addressSpanOutOfImage address.val size binding.imageEnd)
      else .ok (address.val - base)

/-- A span of addresses that lies wholly inside the bound image. -/
structure InImage (address : MemoryAddress) (size : ℕ) : Prop where
  nonempty : 0 < size
  above : binding.actualImageBase.val ≤ address.val
  below : address.val + size ≤ binding.imageEnd

variable {binding}

/-- The inverse translation succeeds exactly on the spans inside the image. -/
theorem rvaForAddressSpan_eq_ok {address : MemoryAddress} {size rva : ℕ} :
    binding.rvaForAddressSpan address size = .ok rva ↔
      binding.InImage address size ∧ rva = address.val - binding.actualImageBase.val := by
  have hfits := binding.fits
  unfold rvaForAddressSpan
  simp only [ite_error_eq_ok, not_lt, ge_iff_le, not_le]
  constructor
  · rintro ⟨hsize, habove, hin, h⟩
    rcases hadd : checkedAdd address.val size with _ | spanEnd
    · simp [hadd] at h
    · rw [checkedAdd_eq_some] at hadd
      simp only [checkedAdd_eq_some.mpr hadd, ite_error_eq_ok, Except.ok.injEq] at h
      exact ⟨⟨by omega, habove, by omega⟩, h.2.symm⟩
  · rintro ⟨⟨hsize, habove, hbelow⟩, rfl⟩
    have hend : binding.imageEnd = binding.actualImageBase.val + binding.sizeOfImage.toNat := rfl
    have hadd : checkedAdd address.val size = some (address.val + size) := by
      rw [checkedAdd_eq_some]; exact ⟨rfl, by omega⟩
    refine ⟨by omega, habove, by omega, ?_⟩
    simp only [hadd, ite_error_eq_ok]
    exact ⟨by omega, trivial⟩

/-- A translated span is nonempty, lies in the image and is shorter than the address space. -/
theorem rvaForAddressSpan_inside {address : MemoryAddress} {size rva : ℕ}
    (h : binding.rvaForAddressSpan address size = .ok rva) :
    0 < size ∧ rva + size ≤ binding.sizeOfImage.toNat ∧ size < u64Max := by
  obtain ⟨⟨hsize, habove, hbelow⟩, rfl⟩ := rvaForAddressSpan_eq_ok.mp h
  have hfits := binding.fits
  have hbase := binding.base_ne_zero
  have hend : binding.imageEnd = binding.actualImageBase.val + binding.sizeOfImage.toNat := rfl
  refine ⟨by omega, by omega, ?_⟩
  unfold u64Max
  omega

/-- The address of a relative span is its offset from the image base. -/
theorem addressForRvaSpan_val {address : MemoryAddress} {size rva : ℕ}
    (h : binding.addressForRvaSpan rva size = .ok address) :
    address.val = binding.actualImageBase.val + rva := by
  unfold addressForRvaSpan at h
  grind

end LiveTargetBinding

/-- The main module of the sample process, mapped at `0x1000` with 256 bytes. -/
def sampleBinding : LiveTargetBinding where
  process := sampleProcess
  mainModuleBinaryId := sampleProcess.binaryId
  actualImageBase := 0x1000
  sizeOfImage := 0x100
  identity := rfl
  base_ne_zero := by decide
  size_ne_zero := by decide
  fits := by decide

example : sampleBinding.rvaForAddressSpan 0x1010 4 = .ok 0x10 := by decide

end ReSymbol.Debugger
