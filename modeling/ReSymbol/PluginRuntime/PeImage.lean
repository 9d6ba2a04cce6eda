import ReSymbol.Analysis.Pe

/-! The images that plugin hosts read.

    A plugin host does not take the map of an image on trust: it parses the exact bytes of the file
    once more. Two hosts do so, the native helper and the WASM host, with the same checks in the
    same order and with texts of their own. Reads go through the headers or through the file-backed
    part of the section that contains the address.

        analysis ──▶ headers, sections ─┐
        native   ──▶ parse the bytes  ──┼─▶ the same map?
        WASM     ──▶ parse the bytes  ──┘ -/

namespace ReSymbol.PluginRuntime
open Schemes Analysis

/-! ### The map of an image -/

structure PeImageSection where
  virtualAddress : ℕ
  virtualSize : ℕ
  rawDataOffset : ℕ
  rawDataSize : ℕ
  deriving DecidableEq

namespace PeImageSection

def loadedSize (s : PeImageSection) : ℕ := loadedSizeOf s.virtualSize s.rawDataSize

def fileBackedSize (s : PeImageSection) : ℕ := fileBackedSizeOf s.virtualSize s.rawDataSize

end PeImageSection

structure ParsedPeImage where
  imageBase : ℕ
  sizeOfHeaders : ℕ
  sizeOfImage : ℕ
  sections : List PeImageSection
  deriving DecidableEq

/-- The texts of a host for the reasons to refuse a file. -/
structure PeImageTexts where
  rangeOverflows : String → String
  truncates : String → String
  overflows : String → String
  dosSignature : String
  lfanew : String
  peSignature : String
  machine : String
  sectionCount : String
  optionalSize : String
  optionalMagic : String
  alignment : String
  sizes : String
  directoryCount : String
  directoryTable : String
  sectionTable : String
  virtualOverflow : ℕ → String
  virtualRange : ℕ → String
  fileOverflow : ℕ → String
  fileRange : ℕ → String
  virtualOverlap : ℕ → ℕ → String
  fileOverlap : ℕ → ℕ → String
  sectionOverflow : String

/-! ### Parsing -/

section Parsing

variable (texts : PeImageTexts) (bytes : List UInt8)

def readBytes (offset size : ℕ) (label : String) : Except String (List UInt8) :=
  readRange (texts.rangeOverflows label) (texts.truncates label) bytes offset size

def readUint (width offset : ℕ) (label : String) : Except String ℕ := do
  let value ← readBytes texts bytes offset width label
  .ok (ofLeBytes value)

def checkedAdd64 (a b : ℕ) (label : String) : Except String ℕ :=
  bounded 64 (a + b) (texts.overflows label)

def checkedMul64 (a b : ℕ) (label : String) : Except String ℕ :=
  bounded 64 (a * b) (texts.overflows label)

/-- `checked_add` of 32-bit numbers. -/
def checkedAdd32 (a b : ℕ) (text : String) : Except String ℕ :=
  bounded 32 (a + b) text

/-- The DOS header, up to the signature that it leads to. -/
def hostDosHeader : Except String ℕ := do
  let dosSignature ← readBytes texts bytes 0 2 "DOS signature"
  refuseIf (dosSignature ≠ [0x4d, 0x5a]) texts.dosSignature
  let _ ← readBytes texts bytes 0 dosHeaderSize "DOS header"
  let peOffset ← readUint texts bytes 4 0x3c "DOS e_lfanew"
  refuseIf (¬ (dosHeaderSize ≤ peOffset ∧ peOffset ≤ maxPeHeaderOffset)) texts.lfanew
  let peSignature ← readBytes texts bytes peOffset peSignatureSize "PE signature"
  refuseIf (peSignature ≠ [0x50, 0x45, 0, 0]) texts.peSignature
  .ok peOffset

/-- The number of sections and the size of the optional header. -/
def hostCoffHeader (coffOffset : ℕ) : Except String (ℕ × ℕ) := do
  let _ ← readBytes texts bytes coffOffset coffHeaderSize "COFF header"
  let machine ← readUint texts bytes 2 coffOffset "COFF machine"
  refuseIf (machine ≠ machineAmd64) texts.machine
  let sectionCount ← readUint texts bytes 2 (coffOffset + 2) "COFF section count"
  refuseIf (sectionCount > maxSections) texts.sectionCount
  let optionalSize ← readUint texts bytes 2 (coffOffset + 16) "COFF optional-header size"
  refuseIf (optionalSize < optionalHeaderMinSize) texts.optionalSize
  .ok (sectionCount, optionalSize)

/-- The image base and the sizes of the headers and of the image. -/
def hostOptionalHeader (optionalOffset optionalSize : ℕ) : Except String (ℕ × ℕ × ℕ) := do
  let _ ← readBytes texts bytes optionalOffset optionalSize "PE32+ optional header"
  let magic ← readUint texts bytes 2 optionalOffset "optional-header magic"
  refuseIf (magic ≠ optionalMagicPe32Plus) texts.optionalMagic
  let imageBase ← readUint texts bytes 8 (optionalOffset + 24) "PE image base"
  let sectionAlignment ← readUint texts bytes 4 (optionalOffset + 32) "section alignment"
  let fileAlignment ← readUint texts bytes 4 (optionalOffset + 36) "file alignment"
  refuseIf (sectionAlignment = 0 ∨ fileAlignment = 0) texts.alignment
  let sizeOfImage ← readUint texts bytes 4 (optionalOffset + 56) "size of image"
  let sizeOfHeaders ← readUint texts bytes 4 (optionalOffset + 60) "size of headers"
  refuseIf (sizeOfHeaders = 0 ∨ sizeOfImage = 0 ∨ sizeOfHeaders > sizeOfImage) texts.sizes
  let _ ← readBytes texts bytes 0 sizeOfHeaders "declared PE headers"
  let directoryCount ← readUint texts bytes 4 (optionalOffset + 108) "data-directory count"
  refuseIf (directoryCount > maxDataDirectories) texts.directoryCount
  let tableSize ←
    checkedMul64 texts directoryCount dataDirectorySize "data-directory table size"
  let requiredOptionalSize ←
    checkedAdd64 texts optionalHeaderMinSize tableSize "required optional-header size"
  refuseIf (optionalSize < requiredOptionalSize) texts.directoryTable
  .ok (imageBase, sizeOfHeaders, sizeOfImage)

def validateParsedSection (sizeOfHeaders sizeOfImage index : ℕ) (s : PeImageSection) :
    Except String Unit := do
  let virtualEnd ← checkedAdd32 s.virtualAddress s.loadedSize (texts.virtualOverflow index)
  refuseIf (virtualEnd > sizeOfImage ∨ (s.loadedSize ≠ 0 ∧ s.virtualAddress < sizeOfHeaders))
    (texts.virtualRange index)
  let rawEnd ← checkedAdd32 s.rawDataOffset s.rawDataSize (texts.fileOverflow index)
  refuseIf (rawEnd > bytes.length ∨ (s.rawDataSize ≠ 0 ∧ s.rawDataOffset < sizeOfHeaders))
    (texts.fileRange index)

def hostSection (sizeOfHeaders sizeOfImage sectionsOffset index : ℕ) :
    Except String PeImageSection := do
  let position ← checkedMul64 texts index sectionHeaderSize "section-header position"
  let offset ← checkedAdd64 texts sectionsOffset position "section-header offset"
  let virtualSize ← readUint texts bytes 4 (offset + 8) "section virtual size"
  let virtualAddress ← readUint texts bytes 4 (offset + 12) "section virtual address"
  let rawDataSize ← readUint texts bytes 4 (offset + 16) "section raw-data size"
  let rawDataOffset ← readUint texts bytes 4 (offset + 20) "section raw-data offset"
  let s : PeImageSection := { virtualAddress, virtualSize, rawDataOffset, rawDataSize }
  validateParsedSection texts bytes sizeOfHeaders sizeOfImage index s
  .ok s

/-- Two ranges of 32-bit numbers share a point. An empty range shares none. -/
def hostRangesOverlap (leftStart leftSize rightStart rightSize : ℕ) : Except String Bool :=
  if leftSize = 0 ∨ rightSize = 0 then .ok false
  else do
    let leftEnd ← checkedAdd32 leftStart leftSize texts.sectionOverflow
    let rightEnd ← checkedAdd32 rightStart rightSize texts.sectionOverflow
    .ok (leftStart < rightEnd ∧ rightStart < leftEnd)

def hostCheckOverlap : PeImageSection × ℕ → PeImageSection × ℕ → Except String Unit
  | (left, first), (right, second) => do
    let virtual ← hostRangesOverlap texts left.virtualAddress left.loadedSize
      right.virtualAddress right.loadedSize
    refuseIf (virtual = true) (texts.virtualOverlap first second)
    let file ← hostRangesOverlap texts left.rawDataOffset left.rawDataSize
      right.rawDataOffset right.rawDataSize
    refuseIf (file = true) (texts.fileOverlap first second)

def hostSections (sizeOfHeaders sizeOfImage sectionsOffset count : ℕ) :
    Except String (List PeImageSection) := do
  let tableSize ← checkedMul64 texts count sectionHeaderSize "section-table size"
  let tableEnd ← checkedAdd64 texts sectionsOffset tableSize "section-table end"
  refuseIf (tableEnd > sizeOfHeaders) texts.sectionTable
  let _ ← readBytes texts bytes sectionsOffset tableSize "PE section table"
  let sections ← (List.range count).mapM
    (hostSection texts bytes sizeOfHeaders sizeOfImage sectionsOffset)
  pairsM (hostCheckOverlap texts) sections.zipIdx
  .ok sections

/-- The parser of both hosts. -/
def parseHostImage : Except String ParsedPeImage := do
  let peOffset ← hostDosHeader texts bytes
  let coffOffset ← checkedAdd64 texts peOffset peSignatureSize "COFF header offset"
  let (sectionCount, optionalSize) ← hostCoffHeader texts bytes coffOffset
  let optionalOffset ← checkedAdd64 texts coffOffset coffHeaderSize "optional-header offset"
  let (imageBase, sizeOfHeaders, sizeOfImage) ←
    hostOptionalHeader texts bytes optionalOffset optionalSize
  let sectionsOffset ← checkedAdd64 texts optionalOffset optionalSize "section-table offset"
  let sections ← hostSections texts bytes sizeOfHeaders sizeOfImage sectionsOffset sectionCount
  .ok { imageBase, sizeOfHeaders, sizeOfImage, sections }

end Parsing

/-! ### Reading -/

/-- The verified bytes of an image with its map. -/
structure HostImage where
  bytes : List UInt8
  sizeOfHeaders : ℕ
  sizeOfImage : ℕ
  sections : List PeImageSection

inductive ImageReadError where
  | outsideImage
  | limit

/-- The section whose loaded range contains an address. -/
def HostImage.sectionAt (image : HostImage) (rva : ℕ) : Option PeImageSection :=
  image.sections.find? fun s => s.virtualAddress ≤ rva && rva < s.virtualAddress + s.loadedSize

/-- One call reads at most 1 MiB, in both hosts. -/
def maxReadBinaryCallBytes : ℕ := 1024 * 1024

namespace NativeHost

def texts : PeImageTexts where
  rangeOverflows label := label ++ " range overflows"
  truncates label := "source truncates " ++ label
  overflows label := label ++ " overflows"
  dosSignature := "source does not have an MZ signature"
  lfanew := "DOS e_lfanew is outside the supported range"
  peSignature := "source does not have a PE signature"
  machine := "PE machine is not AMD64"
  sectionCount := "PE exceeds the 96-section native-host limit"
  optionalSize := "PE32+ optional header is too small"
  optionalMagic := "source does not use the PE32+ optional header"
  alignment := "PE section/file alignment must be nonzero"
  sizes := "PE header and image sizes are inconsistent"
  directoryCount := "PE exceeds the 16-data-directory native-host limit"
  directoryTable := "PE optional header truncates its data-directory table"
  sectionTable := "PE section table extends beyond the declared headers"
  virtualOverflow index := "PE section " ++ toString index ++ " virtual range overflows"
  virtualRange index := "PE section " ++ toString index ++ " has an invalid virtual range"
  fileOverflow index := "PE section " ++ toString index ++ " file range overflows"
  fileRange index := "PE section " ++ toString index ++ " has an invalid file range"
  virtualOverlap first second := "PE sections " ++ toString first ++ " and " ++
    toString second ++ " overlap in virtual memory"
  fileOverlap first second := "PE sections " ++ toString first ++ " and " ++
    toString second ++ " overlap in the source file"
  sectionOverflow := "PE section range overflows"

def parsePeImage (bytes : List UInt8) : Except String ParsedPeImage := parseHostImage texts bytes

/-- The number of bytes that are written to the front of the destination, and the destination. -/
def copyAvailable (source : List UInt8) (start available : ℕ) (destination : List UInt8) :
    Except ImageReadError (ℕ × List UInt8) :=
  if source.length < start then .error .outsideImage
  else
    let count := min (min available (source.length - start)) destination.length
    .ok (count, window source start count ++ destination.drop count)

/-- What the host shows a plugin at an address. -/
def readRva (image : HostImage) (rva : ℕ) (destination : List UInt8) :
    Except ImageReadError (ℕ × List UInt8) :=
  if destination.length > maxReadBinaryCallBytes then .error .limit
  else if rva ≥ 2 ^ 32 then .error .outsideImage
  else if rva ≥ image.sizeOfImage then .error .outsideImage
  else if destination.isEmpty then .ok (0, destination)
  else if rva < image.sizeOfHeaders then
    copyAvailable image.bytes rva (image.sizeOfHeaders - rva) destination
  else match image.sectionAt rva with
    | none => .ok (0, destination)
    | some s =>
      let delta := rva - s.virtualAddress
      if delta ≥ s.fileBackedSize then .ok (0, destination)
      else
        copyAvailable image.bytes (s.rawDataOffset + delta) (s.fileBackedSize - delta) destination

end NativeHost

namespace Wasm

/-- The WASM host words the texts about its source and its limits in its own way. -/
def texts : PeImageTexts :=
  { NativeHost.texts with
    rangeOverflows := fun field => "PE " ++ field ++ " overflows"
    truncates := fun field => "PE truncates " ++ field
    overflows := fun field => "PE " ++ field ++ " overflows"
    dosSignature := "analysis bytes do not have an MZ signature"
    peSignature := "analysis bytes do not have a PE signature"
    sectionCount := "PE exceeds the 96-section limit"
    optionalMagic := "analysis bytes do not use the PE32+ optional header"
    directoryCount := "PE exceeds the 16-data-directory limit" }

def parsePeImage (bytes : List UInt8) : Except String ParsedPeImage := parseHostImage texts bytes

/-- Unlike the native helper, a start behind the file gives no bytes instead of an error. -/
def copyAvailable (bytes : List UInt8) (start available requested : ℕ) : List UInt8 :=
  window bytes start (min (min available requested) (bytes.length - start))

/-- What the host shows a plugin at an address. -/
def readRva (image : HostImage) (rva length : ℕ) : Except ImageReadError (List UInt8) :=
  if length > maxReadBinaryCallBytes then .error .limit
  else if rva ≥ 2 ^ 32 then .error .outsideImage
  else if rva ≥ image.sizeOfImage then .error .outsideImage
  else if length = 0 then .ok []
  else if rva < image.sizeOfHeaders then
    .ok (copyAvailable image.bytes rva (image.sizeOfHeaders - rva) length)
  else match image.sectionAt rva with
    | none => .ok []
    | some s =>
      let delta := rva - s.virtualAddress
      if delta ≥ s.fileBackedSize then .ok []
      else
        .ok (copyAvailable image.bytes (s.rawDataOffset + delta) (s.fileBackedSize - delta) length)

end Wasm

end ReSymbol.PluginRuntime
