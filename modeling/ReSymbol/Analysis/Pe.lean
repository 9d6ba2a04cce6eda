import ReSymbol.Analysis.Reading

/-! The headers of a PE file.

    A PE32+ file of the x64 machine starts with a DOS header, which gives the place of the PE
    headers. The sections that the section table lists are loaded at their addresses behind the
    headers, each from its raw range of the file. What is loaded beyond the raw range is zero fill.

        │ DOS │ … │ PE │ COFF │ optional │ sections │ … ▒▒▒▒▒▒▒ … ░░░░░ │  file
        0         ╰────── size of headers ──────────╯    ╲        ╲
        ──────────────────────────────────────────────────[▒▒▒▒▒▒▒)──[░░░░░ zero )──▶ RVA

    No two sections share an address or a byte of the file. -/

namespace ReSymbol.Analysis
open Schemes

/-! ### Sections -/

structure PeSection where
  /-- A printable form of the name. -/
  name : String
  /-- The eight bytes of the section header. -/
  rawName : List UInt8
  virtualAddress : ℕ
  virtualSize : ℕ
  rawDataOffset : ℕ
  rawDataSize : ℕ
  characteristics : ℕ
  deriving DecidableEq

/-- One import by name or by ordinal. -/
inductive ImportTarget where
  | name (hint : UInt16) (name : String)
  | ordinal (ordinal : UInt16)

structure PeImport where
  iatRva : UInt32
  target : ImportTarget

structure PeImportLibrary where
  name : String
  entries : List PeImport

/-- `SizeOfRawData` counts only when `VirtualSize` is zero. -/
def loadedSizeOf (virtualSize rawDataSize : ℕ) : ℕ :=
  if virtualSize = 0 then rawDataSize else virtualSize

/-- The loaded front part that comes from the file. -/
def fileBackedSizeOf (virtualSize rawDataSize : ℕ) : ℕ :=
  let loadedSize := loadedSizeOf virtualSize rawDataSize
  if rawDataSize < loadedSize then rawDataSize else loadedSize

def PeSection.loadedSize (s : PeSection) : ℕ := loadedSizeOf s.virtualSize s.rawDataSize

def PeSection.fileBackedSize (s : PeSection) : ℕ := fileBackedSizeOf s.virtualSize s.rawDataSize

/-- `push_hex_byte`. -/
def hexByte (byte : UInt8) : List Char := [Nat.digitChar (byte.toNat / 16), Nat.digitChar
    (byte.toNat % 16)]

def formatHex (bytes : List UInt8) : String :=
  String.ofList (List.intercalate [' '] (bytes.map hexByte))

/-- A byte of a section name: graphic characters and blanks stand for themselves. -/
def displayNameByte (byte : UInt8) : List Char :=
  if 0x20 ≤ byte.toNat ∧ byte.toNat ≤ 0x7e then [Char.ofNat byte.toNat]
  else '\\' :: 'x' :: hexByte byte

def displaySectionName (rawName : List UInt8) : String :=
  String.ofList ((rawName.takeWhile fun byte => byte ≠ 0).flatMap displayNameByte)

/-! ### Limits -/

def dosHeaderSize : ℕ := 64

def peSignatureSize : ℕ := 4

def coffHeaderSize : ℕ := 20

def optionalHeaderMinSize : ℕ := 112

def sectionHeaderSize : ℕ := 40

def dataDirectorySize : ℕ := 8

def x64PageSize : ℕ := 0x1000

def minStandardFileAlignment : ℕ := 0x200

def maxFileAlignment : ℕ := 0x10000

def machineAmd64 : ℕ := 0x8664

def optionalMagicPe32Plus : ℕ := 0x020b

def maxPeHeaderOffset : ℕ := 16 * 1024 * 1024

def maxSections : ℕ := 96

def maxDataDirectories : ℕ := 16

/-- `checked_mul` of 64-bit numbers. -/
def checkedMul (what : String) (a b : ℕ) : Except AnalysisError ℕ :=
  bounded 64 (a * b) (.arithmeticOverflow what)

/-- `checked_add` of 32-bit numbers. -/
def checkedU32Add (what : String) (a b : ℕ) : Except AnalysisError ℕ :=
  bounded 32 (a + b) (.arithmeticOverflow what)

/-! ### The parts of the headers -/

structure CoffHeader where
  machine : ℕ
  numberOfSections : ℕ
  timestamp : ℕ
  symbolTableOffset : ℕ
  numberOfSymbols : ℕ
  optionalHeaderSize : ℕ
  characteristics : ℕ

structure DataDirectory where
  rva : ℕ
  size : ℕ

structure PeDataDirectories where
  exports : Option DataDirectory
  imports : Option DataDirectory
  exceptions : Option DataDirectory
  loadConfig : Option DataDirectory
  tls : Option DataDirectory
  delayImports : Option DataDirectory

/-- What is kept of the optional header. -/
structure PeOptionalHeader where
  entryPointRva : ℕ
  imageBase : ℕ
  sizeOfImage : ℕ
  sizeOfHeaders : ℕ
  sectionAlignment : ℕ
  fileAlignment : ℕ
  subsystem : ℕ
  dllCharacteristics : ℕ
  directories : PeDataDirectories
  debugDirectory : Option DataDirectory

structure ParsedHeaders extends PeOptionalHeader where
  peHeaderOffset : ℕ
  coff : CoffHeader
  sections : List PeSection

section Parts

variable (reader : Reader)

/-- The DOS header, up to the signature that it leads to. -/
def parseDosHeader : Except AnalysisError ℕ := do
  let found := formatHex (reader.data.take 2)
  refuseIf (reader.len < 2) (.invalidDosSignature found)
  let dosSignature ← reader.bytes 0 2 "DOS signature"
  refuseIf (dosSignature ≠ [0x4d, 0x5a]) (.invalidDosSignature found)
  let _ ← reader.bytes 0 dosHeaderSize "DOS header"
  let peOffset ← reader.u32 0x3c "DOS e_lfanew"
  refuseIf (peOffset > maxPeHeaderOffset) (.peHeaderOffsetLimit peOffset maxPeHeaderOffset)
  refuseIf (peOffset < dosHeaderSize)
    (.invalidField "DOS e_lfanew" "PE header overlaps the DOS header")
  let peSignature ← reader.bytes peOffset peSignatureSize "PE signature"
  refuseIf (peSignature ≠ [0x50, 0x45, 0, 0]) (.invalidPeSignature peOffset)
  .ok peOffset

/-- The COFF header of an x64 image. -/
def parseCoffHeader (coffOffset : ℕ) : Except AnalysisError CoffHeader := do
  let _ ← reader.bytes coffOffset coffHeaderSize "COFF header"
  let machine ← reader.u16 coffOffset "COFF machine"
  refuseIf (machine ≠ machineAmd64) (.unsupportedMachine machine machineAmd64)
  let numberOfSections ← reader.u16 (coffOffset + 2) "COFF section count"
  enforceCount "section" numberOfSections maxSections
  let timestamp ← reader.u32 (coffOffset + 4) "COFF timestamp"
  let symbolTableOffset ← reader.u32 (coffOffset + 8) "COFF symbol-table offset"
  let numberOfSymbols ← reader.u32 (coffOffset + 12) "COFF symbol count"
  let optionalHeaderSize ← reader.u16 (coffOffset + 16) "COFF optional-header size"
  let characteristics ← reader.u16 (coffOffset + 18) "COFF characteristics"
  refuseIf (optionalHeaderSize < optionalHeaderMinSize)
    (.optionalHeaderTooSmall optionalHeaderSize optionalHeaderMinSize)
  .ok { machine, numberOfSections, timestamp, symbolTableOffset, numberOfSymbols,
        optionalHeaderSize, characteristics }

def validateImageAlignment (sectionAlignment fileAlignment sizeOfImage sizeOfHeaders : ℕ) :
    Except AnalysisError Unit := do
  refuseIf (¬ isPowerOfTwo sectionAlignment)
    (.invalidField "section alignment" "must be a non-zero power of two")
  refuseIf (¬ isPowerOfTwo fileAlignment)
    (.invalidField "file alignment" "must be a non-zero power of two")
  refuseIf (sectionAlignment < fileAlignment)
    (.invalidField "section alignment" "must be greater than or equal to file alignment")
  refuseIf (¬ (minStandardFileAlignment ≤ fileAlignment ∧ fileAlignment ≤ maxFileAlignment))
    (.invalidField "file alignment" "must be between 0x200 and 0x10000")
  refuseIf (sectionAlignment < x64PageSize ∧ fileAlignment ≠ sectionAlignment)
    (.invalidField "file alignment" "must equal section alignment for sub-page images")
  refuseIf (sizeOfImage % sectionAlignment ≠ 0)
    (.invalidField "size of image" "must be aligned to section alignment")
  refuseIf (sizeOfHeaders % fileAlignment ≠ 0)
    (.invalidField "size of headers" "must be aligned to file alignment")

def readDirectory (optionalOffset count index : ℕ) (field : String) :
    Except AnalysisError (Option DataDirectory) :=
  if index ≥ count then .ok none
  else do
    let tableOffset ←
      checkedAdd "data-directory table offset" optionalOffset optionalHeaderMinSize
    let position ← checkedMul "data-directory position" index dataDirectorySize
    let offset ← checkedAdd "data-directory offset" tableOffset position
    let rva ← reader.u32 offset field
    let size ← reader.u32 (offset + 4) field
    if rva = 0 ∧ size = 0 then .ok none
    else if rva = 0 ∨ size = 0 then
      invalid field "RVA and size must either both be zero or both be non-zero"
    else .ok (some { rva, size })

/-- The optional header of a PE32+ image. -/
def parseOptionalHeader (optionalOffset optionalSize : ℕ) :
    Except AnalysisError PeOptionalHeader := do
  let _ ← reader.bytes optionalOffset optionalSize "PE32+ optional header"
  let optionalMagic ← reader.u16 optionalOffset "optional-header magic"
  refuseIf (optionalMagic ≠ optionalMagicPe32Plus)
    (.unsupportedOptionalHeader optionalMagic optionalMagicPe32Plus)
  let entryPointRva ← reader.u32 (optionalOffset + 16) "entry-point RVA"
  let imageBase ← reader.u64 (optionalOffset + 24) "image base"
  let sectionAlignment ← reader.u32 (optionalOffset + 32) "section alignment"
  let fileAlignment ← reader.u32 (optionalOffset + 36) "file alignment"
  let sizeOfImage ← reader.u32 (optionalOffset + 56) "size of image"
  let sizeOfHeaders ← reader.u32 (optionalOffset + 60) "size of headers"
  let subsystem ← reader.u16 (optionalOffset + 68) "subsystem"
  let dllCharacteristics ← reader.u16 (optionalOffset + 70) "DLL characteristics"
  refuseIf (sizeOfImage = 0) (.invalidField "size of image" "must be non-zero")
  refuseIf (sizeOfHeaders = 0) (.invalidField "size of headers" "must be non-zero")
  refuseIf (sizeOfHeaders > sizeOfImage)
    (.invalidField "size of headers" "must not exceed the declared image size")
  validateImageAlignment sectionAlignment fileAlignment sizeOfImage sizeOfHeaders
  refuseIf (entryPointRva ≥ sizeOfImage ∧ entryPointRva ≠ 0)
    (.invalidField "entry-point RVA" "lies outside the declared image")
  let _ ← reader.bytes 0 sizeOfHeaders "declared PE headers"
  let directoryCount ← reader.u32 (optionalOffset + 108) "data-directory count"
  enforceCount "data-directory" directoryCount maxDataDirectories
  let directoriesSize ← checkedMul "data-directory table size" directoryCount dataDirectorySize
  let requiredOptionalSize ←
    checkedAdd "required optional-header size" optionalHeaderMinSize directoriesSize
  refuseIf (optionalSize < requiredOptionalSize)
    (.optionalHeaderTooSmall optionalSize requiredOptionalSize)
  let exports ← readDirectory reader optionalOffset directoryCount 0 "export directory"
  let imports ← readDirectory reader optionalOffset directoryCount 1 "import directory"
  let exceptions ← readDirectory reader optionalOffset directoryCount 3 "exception directory"
  let loadConfig ← readDirectory reader optionalOffset directoryCount 10 "load-config directory"
  let tls ← readDirectory reader optionalOffset directoryCount 9 "TLS directory"
  let delayImports ←
    readDirectory reader optionalOffset directoryCount 13 "delay-import directory"
  let debugDirectory ← readDirectory reader optionalOffset directoryCount 6 "debug directory"
  .ok { entryPointRva, imageBase, sizeOfImage, sizeOfHeaders, sectionAlignment, fileAlignment,
        subsystem, dllCharacteristics, debugDirectory,
        directories := { exports, imports, exceptions, loadConfig, tls, delayImports } }

end Parts

/-! ### The section table -/

def validateSectionAlignment (index : ℕ) (s : PeSection) (sectionAlignment fileAlignment : ℕ) :
    Except AnalysisError Unit := do
  refuseIf (s.loadedSize ≠ 0 ∧ s.virtualAddress % sectionAlignment ≠ 0)
    (.invalidField "section virtual alignment" ("section " ++ toString index ++
      " VirtualAddress " ++ alternateHex s.virtualAddress ++
      " is not aligned to SectionAlignment " ++ alternateHex sectionAlignment))
  refuseIf (s.rawDataSize ≠ 0 ∧ s.rawDataSize % fileAlignment ≠ 0)
    (.invalidField "section raw-data alignment" ("section " ++ toString index ++
      " SizeOfRawData " ++ alternateHex s.rawDataSize ++
      " is not aligned to FileAlignment " ++ alternateHex fileAlignment))
  refuseIf (s.rawDataOffset ≠ 0 ∧ s.rawDataOffset % fileAlignment ≠ 0)
    (.invalidField "section raw-data alignment" ("section " ++ toString index ++
      " PointerToRawData " ++ alternateHex s.rawDataOffset ++
      " is not aligned to FileAlignment " ++ alternateHex fileAlignment))
  refuseIf (sectionAlignment < x64PageSize ∧ s.rawDataSize ≠ 0 ∧
      s.rawDataOffset ≠ s.virtualAddress)
    (.invalidField "sub-page section layout" ("section " ++ toString index ++
      " PointerToRawData " ++ alternateHex s.rawDataOffset ++
      " must equal VirtualAddress " ++ alternateHex s.virtualAddress))

/-- The range in memory lies behind the headers and inside the image. -/
def checkVirtualRange (index : ℕ) (s : PeSection) (sizeOfHeaders sizeOfImage : ℕ) :
    Except AnalysisError Unit := do
  let virtualEnd ← checkedU32Add "section virtual-address range" s.virtualAddress s.loadedSize
  refuseIf (virtualEnd > sizeOfImage) (.invalidField "section virtual range"
    ("section " ++ toString index ++ " extends outside the declared image"))
  refuseIf (s.loadedSize ≠ 0 ∧ s.virtualAddress < sizeOfHeaders)
    (.invalidField "section virtual range"
      ("section " ++ toString index ++ " overlaps the PE headers"))

/-- The range in the file, if there is one, lies behind the headers and inside the file. -/
def checkRawRange (reader : Reader) (index : ℕ) (s : PeSection) (sizeOfHeaders : ℕ) :
    Except AnalysisError Unit :=
  if s.rawDataSize ≠ 0 then do
    let _ ← reader.bytes s.rawDataOffset s.rawDataSize "section raw data"
    refuseIf (s.rawDataOffset < sizeOfHeaders) (.invalidField "section raw range"
      ("section " ++ toString index ++ " overlaps the PE headers"))
  else .ok ()

def parseSection (reader : Reader) (header : PeOptionalHeader) (sectionsOffset index : ℕ) :
    Except AnalysisError PeSection := do
  let position ← checkedMul "section-header position" index sectionHeaderSize
  let offset ← checkedAdd "section-header offset" sectionsOffset position
  let rawName ← reader.bytes offset 8 "section name"
  let virtualSize ← reader.u32 (offset + 8) "section virtual size"
  let virtualAddress ← reader.u32 (offset + 12) "section virtual address"
  let rawDataSize ← reader.u32 (offset + 16) "section raw-data size"
  let rawDataOffset ← reader.u32 (offset + 20) "section raw-data offset"
  let characteristics ← reader.u32 (offset + 36) "section characteristics"
  let s : PeSection := { name := displaySectionName rawName, rawName, virtualAddress,
                         virtualSize, rawDataOffset, rawDataSize, characteristics }
  validateSectionAlignment index s header.sectionAlignment header.fileAlignment
  checkVirtualRange index s header.sizeOfHeaders header.sizeOfImage
  checkRawRange reader index s header.sizeOfHeaders
  .ok s

/-- The addresses do not fall. -/
def checkAddressOrder : List (PeSection × ℕ) → Except AnalysisError Unit
  | (a, first) :: (b, second) :: rest => do
    refuseIf (a.virtualAddress > b.virtualAddress) (.invalidField "section table order"
      ("section " ++ toString second ++ " RVA " ++ alternateHex b.virtualAddress ++
        " follows section " ++ toString first ++ " RVA " ++ alternateHex a.virtualAddress))
    checkAddressOrder ((b, second) :: rest)
  | _ => .ok ()

/-- The raw ranges come in the order of the table. `previous` is the last one before. -/
def checkRawOrder (previous : Option (ℕ × ℕ)) :
    PeSection × ℕ → Except AnalysisError (Option (ℕ × ℕ))
  | (s, index) =>
    if s.rawDataSize = 0 then .ok previous
    else match previous with
      | some (previousIndex, previousOffset) => do
        refuseIf (s.rawDataOffset < previousOffset) (.invalidField "section raw-data order"
          ("section " ++ toString index ++ " raw-data offset " ++ alternateHex s.rawDataOffset ++
            " precedes section " ++ toString previousIndex ++ " raw-data offset " ++
            alternateHex previousOffset))
        .ok (some (index, s.rawDataOffset))
      | none => .ok (some (index, s.rawDataOffset))

/-- Sections grow in memory and in the file. -/
def validateSectionOrder (sections : List PeSection) : Except AnalysisError Unit := do
  checkAddressOrder sections.zipIdx
  let _ ← sections.zipIdx.foldlM checkRawOrder none
  .ok ()

/-- Two ranges share a point. An empty range shares none. -/
def rangesOverlap (leftStart leftSize rightStart rightSize : ℕ) : Except AnalysisError Bool :=
  if leftSize = 0 ∨ rightSize = 0 then .ok false
  else do
    let leftEnd ← checkedAdd "section range" leftStart leftSize
    let rightEnd ← checkedAdd "section range" rightStart rightSize
    .ok (leftStart < rightEnd ∧ rightStart < leftEnd)

def checkOverlap : PeSection × ℕ → PeSection × ℕ → Except AnalysisError Unit
  | (left, first), (right, second) => do
    let virtual ← rangesOverlap left.virtualAddress left.loadedSize
      right.virtualAddress right.loadedSize
    refuseIf (virtual = true) (.overlappingSections first second "virtual")
    let file ← rangesOverlap left.rawDataOffset left.rawDataSize
      right.rawDataOffset right.rawDataSize
    refuseIf (file = true) (.overlappingSections first second "file")

/-- No two sections meet in memory or in the file. -/
def validateSectionOverlaps (sections : List PeSection) : Except AnalysisError Unit :=
  pairsM checkOverlap sections.zipIdx

/-- The section table, row by row. -/
def parseSections (reader : Reader) (header : PeOptionalHeader) (sectionsOffset count : ℕ) :
    Except AnalysisError (List PeSection) := do
  let tableSize ← checkedMul "section-table size" count sectionHeaderSize
  let tableEnd ← checkedAdd "section-table end" sectionsOffset tableSize
  refuseIf (tableEnd > header.sizeOfHeaders)
    (.invalidField "section table" "extends beyond the declared PE headers")
  let _ ← reader.bytes sectionsOffset tableSize "section table"
  let sections ← (List.range count).mapM (parseSection reader header sectionsOffset)
  validateSectionOrder sections
  validateSectionOverlaps sections
  .ok sections

/-- All headers, in the order of the source. -/
def parseHeaders (reader : Reader) : Except AnalysisError ParsedHeaders := do
  let peOffset ← parseDosHeader reader
  let coffOffset ← checkedAdd "COFF header offset" peOffset peSignatureSize
  let coff ← parseCoffHeader reader coffOffset
  let optionalOffset ← checkedAdd "optional-header offset" coffOffset coffHeaderSize
  let header ← parseOptionalHeader reader optionalOffset coff.optionalHeaderSize
  let sectionsOffset ← checkedAdd "section-table offset" optionalOffset coff.optionalHeaderSize
  let sections ← parseSections reader header sectionsOffset coff.numberOfSections
  .ok { header with peHeaderOffset := peOffset, coff, sections }

/-! ### Addresses -/

/-- The parts of the file that are mapped at addresses. -/
structure RvaMap where
  bytes : List UInt8
  sizeOfHeaders : ℕ
  sections : List PeSection

namespace RvaMap

variable (map : RvaMap)

/-- The offset of a range of addresses in the first section whose file-backed part holds it. -/
def sectionOffset (rva size stop : ℕ) (context : String) :
    List PeSection → Except AnalysisError ℕ
  | [] => .error (.unmappedRva context rva size)
  | s :: rest => do
    let backedEnd ← checkedAdd "section-backed RVA range" s.virtualAddress s.fileBackedSize
    if s.virtualAddress ≤ rva ∧ stop ≤ backedEnd then
      let offset ← checkedAdd "RVA file offset" s.rawDataOffset (rva - s.virtualAddress)
      let _ ← ensureSlice map.bytes offset size context
      .ok offset
    else sectionOffset rva size stop context rest

def offset (rva size : ℕ) (context : String) : Except AnalysisError ℕ := do
  let stop ← checkedAdd "RVA range" rva size
  if rva < map.sizeOfHeaders ∧ stop ≤ map.sizeOfHeaders then
    let _ ← ensureSlice map.bytes rva size context
    .ok rva
  else map.sectionOffset rva size stop context map.sections

/-- `RvaMap::bytes`. -/
def bytesAt (rva size : ℕ) (context : String) : Except AnalysisError (List UInt8) := do
  let offset ← map.offset rva size context
  ensureSlice map.bytes offset size context

end RvaMap

/-! ### What the checks leave -/

/-- The ranges of a section lie behind the headers, inside the image and inside the file. -/
structure PeSection.Placed (length sizeOfHeaders sizeOfImage : ℕ) (s : PeSection) : Prop where
  inImage : s.virtualAddress + s.loadedSize ≤ sizeOfImage
  behindHeaders : s.loadedSize ≠ 0 → sizeOfHeaders ≤ s.virtualAddress
  inFile : s.rawDataSize ≠ 0 → s.rawDataOffset + s.rawDataSize ≤ length
  behindFileHeaders : s.rawDataSize ≠ 0 → sizeOfHeaders ≤ s.rawDataOffset

/-- Ranges with no common point. -/
def RangesApart (leftStart leftSize rightStart rightSize : ℕ) : Prop :=
  leftSize = 0 ∨ rightSize = 0 ∨ leftStart + leftSize ≤ rightStart ∨
    rightStart + rightSize ≤ leftStart

/-- Sections with no common address and no common byte of the file. -/
def PeSection.Apart (a b : PeSection) : Prop :=
  RangesApart a.virtualAddress a.loadedSize b.virtualAddress b.loadedSize ∧
    RangesApart a.rawDataOffset a.rawDataSize b.rawDataOffset b.rawDataSize

theorem PeSection.Apart.symm {a b : PeSection} (h : a.Apart b) : b.Apart a := by
  simp only [PeSection.Apart, RangesApart] at h ⊢
  omega

instance : Std.Symm PeSection.Apart := ⟨fun _ _ => PeSection.Apart.symm⟩

/-- The layout of an image that the headers describe. -/
structure Layout (length : ℕ) (headers : ParsedHeaders) : Prop where
  headersInFile : headers.sizeOfHeaders ≤ length
  headersInImage : headers.sizeOfHeaders ≤ headers.sizeOfImage
  imageSize : headers.sizeOfImage < 2 ^ 32
  placed : ∀ s ∈ headers.sections, s.Placed length headers.sizeOfHeaders headers.sizeOfImage
  apart : headers.sections.Pairwise PeSection.Apart

theorem PeSection.fileBackedSize_le_loadedSize (s : PeSection) :
    s.fileBackedSize ≤ s.loadedSize := by
  rw [fileBackedSize, fileBackedSizeOf, loadedSize]
  split_ifs <;> omega

theorem PeSection.fileBackedSize_le_rawDataSize (s : PeSection) :
    s.fileBackedSize ≤ s.rawDataSize := by
  rw [fileBackedSize, fileBackedSizeOf]
  split_ifs <;> omega

theorem checkedMul_eq_ok {what : String} {a b c : ℕ} :
    checkedMul what a b = .ok c ↔ a * b < 2 ^ 64 ∧ a * b = c := bounded_eq_ok

theorem checkedU32Add_eq_ok {what : String} {a b c : ℕ} :
    checkedU32Add what a b = .ok c ↔ a + b < 2 ^ 32 ∧ a + b = c := bounded_eq_ok

theorem rangesApart_of_rangesOverlap {leftStart leftSize rightStart rightSize : ℕ}
    (h : rangesOverlap leftStart leftSize rightStart rightSize = .ok false) :
    RangesApart leftStart leftSize rightStart rightSize := by
  rw [rangesOverlap] at h
  split_ifs at h with hempty
  · rcases hempty with hleft | hright
    · exact .inl hleft
    · exact .inr (.inl hright)
  · simp only [except_bind_eq_ok, checkedAdd_eq_ok, Except.ok.injEq, decide_eq_false_iff_not] at h
    obtain ⟨_, ⟨-, rfl⟩, _, ⟨-, rfl⟩, hapart⟩ := h
    rw [RangesApart]
    omega

theorem apart_of_checkOverlap {a b : PeSection × ℕ} {u : Unit} (h : checkOverlap a b = .ok u) :
    a.1.Apart b.1 := by
  simp only [checkOverlap, except_bind_eq_ok, refuseIf_eq_ok, Bool.not_eq_true] at h
  obtain ⟨_, hvirtual, _, rfl, _, hfile, rfl⟩ := h
  exact ⟨rangesApart_of_rangesOverlap hvirtual, rangesApart_of_rangesOverlap hfile⟩

theorem apart_of_validateSectionOverlaps {sections : List PeSection} {u : Unit}
    (h : validateSectionOverlaps sections = .ok u) : sections.Pairwise PeSection.Apart := by
  have hpairs := (pairsM_eq_ok.mp h).imp (fun {a b} hab => apart_of_checkOverlap hab)
  have hmap := List.pairwise_map.mpr hpairs
  rwa [List.zipIdx_map_fst] at hmap

theorem placed_of_parseSection {reader : Reader} {header : PeOptionalHeader}
    {sectionsOffset index : ℕ} {s : PeSection}
    (h : parseSection reader header sectionsOffset index = .ok s) :
    s.Placed reader.data.length header.sizeOfHeaders header.sizeOfImage := by
  simp only [parseSection, except_bind_eq_ok] at h
  obtain ⟨position, -, offset, -, rawName, -, virtualSize, -, virtualAddress, -, rawDataSize, -,
    rawDataOffset, -, characteristics, -, _, -, _, hvirtual, _, hraw, hs⟩ := h
  obtain rfl := Except.ok.inj hs
  simp only [checkVirtualRange, except_bind_eq_ok, checkedU32Add_eq_ok, refuseIf_eq_ok]
    at hvirtual
  obtain ⟨_, ⟨-, rfl⟩, _, himage, hheaders⟩ := hvirtual
  rw [checkRawRange] at hraw
  refine ⟨not_lt.mp himage, fun hne => ?_, fun hne => ?_, fun hne => ?_⟩
  · exact not_lt.mp fun hlt => hheaders ⟨hne, hlt⟩
  · rw [if_pos hne] at hraw
    simp only [except_bind_eq_ok, Reader.bytes_eq_ok] at hraw
    obtain ⟨_, ⟨-, hinside, -⟩, -⟩ := hraw
    exact hinside
  · rw [if_pos hne] at hraw
    simp only [except_bind_eq_ok, refuseIf_eq_ok] at hraw
    obtain ⟨_, -, hbehind⟩ := hraw
    exact not_lt.mp hbehind

/-- Accepted headers describe a layout. -/
theorem layout_of_parseHeaders {reader : Reader} {headers : ParsedHeaders}
    (h : parseHeaders reader = .ok headers) : Layout reader.data.length headers := by
  simp only [parseHeaders, except_bind_eq_ok] at h
  obtain ⟨peOffset, -, coffOffset, -, coff, -, optionalOffset, -, header, hheader,
    sectionsOffset, -, sections, hsections, hok⟩ := h
  obtain rfl := Except.ok.inj hok
  simp only [parseSections, except_bind_eq_ok] at hsections
  obtain ⟨_, -, _, -, _, -, _, -, rows, hrows, _, -, _, hoverlaps, hok'⟩ := hsections
  obtain rfl := Except.ok.inj hok'
  simp only [parseOptionalHeader, except_bind_eq_ok, refuseIf_eq_ok] at hheader
  obtain ⟨_, -, _, -, _, -, _, -, _, -, _, -, _, -, sizeOfImage, himage, sizeOfHeaders, -, _, -,
    _, -, _, -, _, -, _, hwithin, _, -, _, -, _, hfile, _, -, _, -, _, -, _, -, _, -, _, -, _, -,
    _, -, _, -, _, -, _, -, _, -, hok''⟩ := hheader
  obtain rfl := Except.ok.inj hok''
  refine ⟨?_, not_lt.mp hwithin, Reader.uint_lt himage, fun s hs => ?_,
    apart_of_validateSectionOverlaps hoverlaps⟩
  · obtain ⟨-, hinside, -⟩ := Reader.bytes_eq_ok.mp hfile
    simpa using hinside
  · obtain ⟨index, -, hparse⟩ := exists_of_mem_mapM hrows hs
    exact placed_of_parseSection hparse

/-- At most one section contains an address. -/
theorem Layout.section_unique {length rva : ℕ} {headers : ParsedHeaders}
    (h : Layout length headers) {a b : PeSection} (ha : a ∈ headers.sections)
    (hb : b ∈ headers.sections)
    (hina : a.virtualAddress ≤ rva ∧ rva < a.virtualAddress + a.loadedSize)
    (hinb : b.virtualAddress ≤ rva ∧ rva < b.virtualAddress + b.loadedSize) : a = b := by
  by_contra hne
  have hapart := (h.apart.forall ha hb hne).1
  rw [RangesApart] at hapart
  omega

/-! ### A small file -/

/-- A file of one section of 512 bytes at the address 512, with a body behind the headers. -/
def smallFile (rawDataSize rawDataOffset characteristics : ℕ) (body : List UInt8) : List UInt8 :=
  let zeros n : List UInt8 := List.replicate n 0
  let dos := [0x4d, 0x5a] ++ zeros 58 ++ leBytes 4 64
  let coff := leBytes 2 machineAmd64 ++ leBytes 2 1 ++ zeros 12 ++ leBytes 2 112 ++ leBytes 2 0x22
  let optional := leBytes 2 optionalMagicPe32Plus ++ zeros 22 ++ leBytes 8 0x140000000 ++
    leBytes 4 512 ++ leBytes 4 512 ++ zeros 16 ++ leBytes 4 1024 ++ leBytes 4 512 ++ zeros 48
  let row := [0x2e, 0x64, 0x61, 0x74, 0x61, 0, 0, 0] ++ leBytes 4 512 ++ leBytes 4 512 ++
    leBytes 4 rawDataSize ++ leBytes 4 rawDataOffset ++ zeros 12 ++ leBytes 4 characteristics
  dos ++ [0x50, 0x45, 0, 0] ++ coff ++ optional ++ row ++ zeros 272 ++ body

theorem smallFile_accepted : ∃ headers, parseHeaders
    ⟨smallFile 512 512 0x40000040 (List.replicate 512 0x41)⟩ = .ok headers := by
  have hok : (parseHeaders ⟨smallFile 512 512 0x40000040 (List.replicate 512 0x41)⟩).isOk =
    true := by
    decide +kernel
  cases h : parseHeaders ⟨smallFile 512 512 0x40000040 (List.replicate 512 0x41)⟩ with
  | ok headers => exact ⟨headers, rfl⟩
  | error e =>
    rw [h] at hok
    cases hok

end ReSymbol.Analysis
