import ReSymbol.Schemes.Reducer
import ReSymbol.Schemes.Loops
import ReSymbol.Schemes.Images
import ReSymbol.Schemes.Sorting
import ReSymbol.GdbRemote.Exchange

/-! Core dumps as memory images.

    A core file lists its loadable segments in program headers. The first `file_size` bytes of a
    segment stand in the file; the rest of it is zero fill and counts as unmapped. A read collects
    the bytes of a range chunk by chunk, each from the first region whose file-backed part holds the
    cursor.

        file     │ header │ program headers │ notes │▒▒▒▒▒▒▒▒▒│░░░░░│
                                                     ╲        ╲    ╲
        memory   ─────────────────────────[▒▒▒▒▒▒▒▒▒▒ zero )──[░░░░░)──▶
                                              cursor ─▶ chunk end

    A region carries the check that its bytes are in the file, and a core keeps its regions in the
    order of their addresses; both come out of the parser and make every read exact. -/

namespace ReSymbol.GdbRemote
open Schemes

/-! ### Errors -/

inductive CoreDumpError where
  | truncated (context : String) (offset needed available : ℕ)
  | badMagic
  | unsupportedClass (byte : UInt8)
  | unsupportedEncoding (byte : UInt8)
  | unsupportedVersion (version : ℕ) (context : String)
  | notCore (elfType : ℕ)
  | invalidField (field reason : String)
  | limitExceeded (kind : String) (count limit : ℕ)
  | arithmeticOverflow (what : String)
  | unmappedMemory (addr len : ℕ)
  deriving DecidableEq

/-- `checked_add` of 64-bit numbers. -/
def checkedAdd (what : String) (a b : ℕ) : Except CoreDumpError ℕ :=
  bounded 64 (a + b) (.arithmeticOverflow what)

/-- `checked_sub` of 64-bit numbers. -/
def checkedSub (what : String) (a b : ℕ) : Except CoreDumpError ℕ :=
  if b ≤ a then .ok (a - b) else .error (.arithmeticOverflow what)

/-! ### The reader -/

inductive CoreClass where
  | elf32
  | elf64
  deriving DecidableEq

namespace CoreClass

def fromIdent (value : UInt8) : Option CoreClass :=
  if value = 1 then some elf32 else if value = 2 then some elf64 else none

def is64 : CoreClass → Bool
  | elf32 => false
  | elf64 => true

def headerSize : CoreClass → ℕ
  | elf32 => 52
  | elf64 => 64

def programHeaderSize : CoreClass → ℕ
  | elf32 => 32
  | elf64 => 56

end CoreClass

inductive CoreEndian where
  | little
  | big
  deriving DecidableEq

namespace CoreEndian

def fromIdent (value : UInt8) : Option CoreEndian :=
  if value = 1 then some little else if value = 2 then some big else none

/-- `from_le_bytes` or `from_be_bytes`. -/
def number : CoreEndian → Bytes → ℕ
  | little, bytes => ofLeBytes bytes
  | big, bytes => ofLeBytes bytes.reverse

end CoreEndian

structure CoreReader where
  bytes : Bytes
  coreClass : CoreClass
  endian : CoreEndian

namespace CoreReader

variable (reader : CoreReader)

def require (offset needed : ℕ) (context : String) : Except CoreDumpError Unit := do
  let stop ← checkedAdd "read range" offset needed
  if stop > reader.bytes.length then
    .error (.truncated context offset needed (reader.bytes.length - offset))
  else .ok ()

def bytesAt (offset size : ℕ) (context : String) : Except CoreDumpError Bytes := do
  reader.require offset size context
  .ok (window reader.bytes offset size)

def uint (width offset : ℕ) (context : String) : Except CoreDumpError ℕ := do
  let bytes ← reader.bytesAt offset width context
  .ok (reader.endian.number bytes)

def u16 (offset : ℕ) (context : String) : Except CoreDumpError ℕ := reader.uint 2 offset context

def u32 (offset : ℕ) (context : String) : Except CoreDumpError ℕ := reader.uint 4 offset context

def u64 (offset : ℕ) (context : String) : Except CoreDumpError ℕ := reader.uint 8 offset context

end CoreReader

structure ProgramHeader where
  segmentType : ℕ
  flags : ℕ
  fileOffset : ℕ
  virtualAddress : ℕ
  fileSize : ℕ
  memorySize : ℕ

def CoreReader.programHeader (reader : CoreReader) (entryOffset : ℕ) :
    Except CoreDumpError ProgramHeader :=
  if reader.coreClass.is64 then do
    let segmentType ← reader.u32 entryOffset "PT segment type"
    let flags ← reader.u32 (entryOffset + 4) "PT segment flags"
    let fileOffset ← reader.u64 (entryOffset + 8) "PT segment file offset"
    let virtualAddress ← reader.u64 (entryOffset + 16) "PT segment virtual address"
    let fileSize ← reader.u64 (entryOffset + 32) "PT segment file size"
    let memorySize ← reader.u64 (entryOffset + 40) "PT segment memory size"
    .ok { segmentType, flags, fileOffset, virtualAddress, fileSize, memorySize }
  else do
    let segmentType ← reader.u32 entryOffset "PT segment type"
    let fileOffset ← reader.u32 (entryOffset + 4) "PT segment file offset"
    let virtualAddress ← reader.u32 (entryOffset + 8) "PT segment virtual address"
    let fileSize ← reader.u32 (entryOffset + 16) "PT segment file size"
    let memorySize ← reader.u32 (entryOffset + 20) "PT segment memory size"
    let flags ← reader.u32 (entryOffset + 24) "PT segment flags"
    .ok { segmentType, flags, fileOffset, virtualAddress, fileSize, memorySize }

/-! ### Checks -/

def elfVersionCurrent : ℕ := 1

def elfTypeCore : ℕ := 4

def emX8664 : ℕ := 62

def ptLoad : ℕ := 1

def ptNote : ℕ := 4

def ntPrstatus : ℕ := 1

def prstatusPrCursigOffset : ℕ := 12

def prstatusPrRegOffset : ℕ := 112

def userRegsBytes : ℕ := 27 * 8

def gdbSigsegv : ℕ := 11

def maxProgramHeaders : ℕ := 65536

def maxNotes : ℕ := 65536

def maxNoteNameBytes : ℕ := 4096

def maxNoteDescBytes : ℕ := 64 * 1024 * 1024

/-- A range of bytes lies in a file of this size, and its end is a 64-bit number unless it is
    empty. -/
structure InFile (offset size fileSize : ℕ) : Prop where
  inside : offset + size ≤ fileSize
  stop_lt : size ≠ 0 → offset + size < 2 ^ 64

/-- The check hands on what it has established. -/
def validateFileRange (offset size fileSize : ℕ) (field : String) :
    Except CoreDumpError (PLift (InFile offset size fileSize)) :=
  if hoffset : offset > fileSize then
    .error (.invalidField field
      ("offset " ++ alternateHex offset ++ " exceeds file size " ++ alternateHex fileSize))
  else if hsize : size = 0 then .ok ⟨by omega, fun h => absurd hsize h⟩
  else if hlt : offset + size < 2 ^ 64 then
    if hend : offset + size > fileSize then
      .error (.invalidField field ("range " ++ alternateHex offset ++ ".." ++
        alternateHex (offset + size) ++ " exceeds file size " ++ alternateHex fileSize))
    else .ok ⟨by omega, fun _ => hlt⟩
  else .error (.arithmeticOverflow "file range")

def enforceCount (kind : String) (count limit : ℕ) : Except CoreDumpError Unit :=
  if count > limit then .error (.limitExceeded kind count limit) else .ok ()

/-- The offset of an entry of the table: its index and size are 16-bit numbers. -/
def tableEntryOffset (offset index entrySize : ℕ) : Except CoreDumpError ℕ :=
  checkedAdd "program-header entry offset" offset (index * entrySize)

def align4U64 (value : ℕ) : Except CoreDumpError ℕ := do
  let bumped ← checkedAdd "note alignment" value 3
  .ok (bumped / 4 * 4)

/-! ### Notes -/

/-- The notes walked so far over all segments, and the first register note among them. -/
structure NoteScan where
  notesWalked : ℕ
  prstatusDescriptor : Option Bytes
  deriving DecidableEq

/-- The first register note is kept. -/
def capturePrstatus (reader : CoreReader) (noteType segmentStart descStartRel descsz : ℕ)
    (descriptor : Option Bytes) : Except CoreDumpError (Option Bytes) :=
  if noteType = ntPrstatus ∧ descriptor = none then do
    let descAbs ← checkedAdd "note descriptor absolute offset" segmentStart descStartRel
    let found ← reader.bytesAt descAbs descsz "NT_PRSTATUS descriptor"
    .ok (some found)
  else .ok descriptor

/-- One note at the cursor, or the end of the walk. -/
def walkNote (reader : CoreReader) (segmentStart segmentLen : ℕ) :
    ℕ × NoteScan → Except CoreDumpError (Round (ℕ × NoteScan) NoteScan)
  | (cursor, scan) =>
    if cursor + 12 ≤ segmentLen then do
      let notesWalked := scan.notesWalked + 1
      if notesWalked > maxNotes then .error (.limitExceeded "note" notesWalked maxNotes) else
      let headerOffset ← checkedAdd "note header offset" segmentStart cursor
      let namesz ← reader.u32 headerOffset "note name size"
      let descsz ← reader.u32 (headerOffset + 4) "note descriptor size"
      let noteType ← reader.u32 (headerOffset + 8) "note type"
      enforceCount "note name" namesz maxNoteNameBytes
      enforceCount "note descriptor" descsz maxNoteDescBytes
      let namePadded ← align4U64 namesz
      let descPadded ← align4U64 descsz
      let afterHeader ← checkedAdd "note descriptor offset" cursor 12
      let descStartRel ← checkedAdd "note descriptor offset" afterHeader namePadded
      let nextRel ← checkedAdd "note advance" descStartRel descPadded
      -- a trailing partial note ends the walk of this segment
      if nextRel > segmentLen then .ok (.done { scan with notesWalked }) else
      let prstatusDescriptor ← capturePrstatus reader noteType segmentStart descStartRel descsz
        scan.prstatusDescriptor
      .ok (.again (nextRel, { notesWalked, prstatusDescriptor }))
    else .ok (.done scan)

/-- Every note advances by its header at least, which bounds the rounds. -/
def walkNotes (reader : CoreReader) (segmentOffset segmentSize : ℕ) (scan : NoteScan) :
    Running CoreDumpError NoteScan := do
  let _ ← validateFileRange segmentOffset segmentSize reader.bytes.length "PT_NOTE segment"
  loop (walkNote reader segmentOffset segmentSize) (segmentSize + 1) (0, scan)

/-! ### Registers -/

structure Amd64CoreRegisters where
  (r15 r14 r13 r12 rbp rbx r11 r10 r9 r8 rax rcx rdx rsi rdi origRax rip cs eflags rsp ss fsBase
    gsBase ds es fs gs : ℕ)

/-- The registers in a status note. -/
def parsePrstatusRegisters (descriptor : Bytes) (endian : CoreEndian) :
    Except CoreDumpError Amd64CoreRegisters :=
  if descriptor.length < prstatusPrRegOffset + userRegsBytes then
    .error (.truncated "NT_PRSTATUS pr_reg" prstatusPrRegOffset userRegsBytes
      (descriptor.length - prstatusPrRegOffset))
  else
    let regs index := endian.number (window descriptor (prstatusPrRegOffset + index * 8) 8)
    -- the order of `user_regs_struct`
    .ok {
      r15 := regs 0, r14 := regs 1, r13 := regs 2, r12 := regs 3, rbp := regs 4, rbx := regs 5,
      r11 := regs 6, r10 := regs 7, r9 := regs 8, r8 := regs 9, rax := regs 10, rcx := regs 11,
      rdx := regs 12, rsi := regs 13, rdi := regs 14, origRax := regs 15, rip := regs 16,
      cs := regs 17, eflags := regs 18, rsp := regs 19, ss := regs 20, fsBase := regs 21,
      gsBase := regs 22, ds := regs 23, es := regs 24, fs := regs 25, gs := regs 26 }

/-- The signal is a signed 16-bit number: what is not positive counts as none. -/
def parsePrstatusSignal (descriptor : Bytes) (endian : CoreEndian) : ℕ :=
  if descriptor.length < prstatusPrCursigOffset + 2 then gdbSigsegv
  else
    let raw := endian.number (window descriptor prstatusPrCursigOffset 2)
    if raw = 0 ∨ 2 ^ 15 ≤ raw then gdbSigsegv else raw % 256

/-! ### Regions -/

/-- A loadable segment of a core file of `fileLen` bytes. -/
structure CoreRegion (fileLen : ℕ) where
  vaddr : ℕ
  fileOffset : ℕ
  fileSize : ℕ
  memSize : ℕ
  flags : ℕ
  inFile : InFile fileOffset fileSize fileLen
  deriving DecidableEq

/-- The order of `regions.sort_by_key(|region| region.vaddr)`. -/
def CoreRegion.vaddrOrder {fileLen : ℕ} (a b : CoreRegion fileLen) : Ordering :=
  compare a.vaddr b.vaddr

/-- A parsed core. Its regions are in the order of their addresses. -/
structure CoreDump where
  coreClass : CoreClass
  endian : CoreEndian
  machine : ℕ
  bytes : Bytes
  regions : List (CoreRegion bytes.length)
  sorted : regions.Pairwise fun a b => a.vaddr ≤ b.vaddr
  registers : Option Amd64CoreRegisters
  signal : ℕ

/-- What the walk over the program headers has found. -/
structure HeaderScan (fileLen : ℕ) where
  regions : List (CoreRegion fileLen)
  notes : NoteScan
  deriving DecidableEq

/-- A loadable segment becomes a region unless it is empty. -/
def loadRegion (fileLen index : ℕ) (header : ProgramHeader) :
    Except CoreDumpError (Option (CoreRegion fileLen)) := do
  let range ← validateFileRange header.fileOffset header.fileSize fileLen "PT_LOAD segment"
  if header.fileSize > header.memorySize then
    .error (.invalidField "PT_LOAD sizes" ("program header " ++ toString index ++
      " has file size " ++ alternateHex header.fileSize ++ " larger than memory size " ++
      alternateHex header.memorySize))
  else if header.memorySize = 0 then .ok none
  else .ok (some {
    vaddr := header.virtualAddress, fileOffset := header.fileOffset, fileSize := header.fileSize,
    memSize := header.memorySize, flags := header.flags, inFile := range.down })

/-- What one program header adds. -/
def scanSegment (reader : CoreReader) (scan : HeaderScan reader.bytes.length) (index : ℕ)
    (header : ProgramHeader) : Running CoreDumpError (HeaderScan reader.bytes.length) :=
  if header.segmentType = ptLoad then do
    let region ← loadRegion reader.bytes.length index header
    pure { scan with regions := scan.regions ++ region.toList }
  else if header.segmentType = ptNote then do
    let notes ← walkNotes reader header.fileOffset header.fileSize scan.notes
    pure { scan with notes }
  else pure scan

/-- One program header: a region, notes or nothing. -/
def scanProgramHeader (reader : CoreReader) (tableOffset entrySize : ℕ)
    (scan : HeaderScan reader.bytes.length) (index : ℕ) :
    Running CoreDumpError (HeaderScan reader.bytes.length) := do
  let entryOffset ← tableEntryOffset tableOffset index entrySize
  let header ← reader.programHeader entryOffset
  scanSegment reader scan index header

/-! ### Parsing -/

/-- What the ELF header says. -/
structure CoreHeader where
  machine : ℕ
  programHeaderOffset : ℕ
  programHeaderEntrySize : ℕ
  programHeaderCount : ℕ
  deriving DecidableEq

/-- The first sixteen bytes. -/
def parseIdentity (bytes : Bytes) : Except CoreDumpError (CoreClass × CoreEndian) := do
  if bytes.length < 16 then .error (.truncated "ELF identity" 0 16 bytes.length) else
  if bytes.take 4 ≠ [0x7f, 0x45, 0x4c, 0x46] then .error .badMagic else
  let coreClass ← (CoreClass.fromIdent (bytes.getD 4 0)).elim
    (.error (.unsupportedClass (bytes.getD 4 0))) .ok
  let endian ← (CoreEndian.fromIdent (bytes.getD 5 0)).elim
    (.error (.unsupportedEncoding (bytes.getD 5 0))) .ok
  if (bytes.getD 6 0).toNat ≠ elfVersionCurrent then
    .error (.unsupportedVersion (bytes.getD 6 0).toNat "identity")
  else .ok (coreClass, endian)

/-- The place of the program-header table, and the place of the fields that give its shape. -/
def CoreReader.tablePlace (reader : CoreReader) : Except CoreDumpError (ℕ × ℕ) :=
  if reader.coreClass.is64 then do
    let offset ← reader.u64 32 "ELF program-header offset"
    .ok (offset, 54)
  else do
    let offset ← reader.u32 28 "ELF program-header offset"
    .ok (offset, 42)

/-- The rest of the ELF header. -/
def parseHeader (reader : CoreReader) : Except CoreDumpError CoreHeader := do
  reader.require 0 reader.coreClass.headerSize "ELF header"
  let elfType ← reader.u16 16 "ELF type"
  if elfType ≠ elfTypeCore then .error (.notCore elfType) else
  let machine ← reader.u16 18 "ELF machine"
  let elfVersion ← reader.u32 20 "ELF version"
  if elfVersion ≠ elfVersionCurrent then .error (.unsupportedVersion elfVersion "header") else
  let (programHeaderOffset, phentsizeOffset) ← reader.tablePlace
  let programHeaderEntrySize ← reader.u16 phentsizeOffset "ELF program-header entry size"
  let programHeaderCount ← reader.u16 (phentsizeOffset + 2) "ELF program-header count"
  if programHeaderEntrySize ≠ reader.coreClass.programHeaderSize then
    .error (.invalidField "ELF program-header entry size"
      ("expected " ++ toString reader.coreClass.programHeaderSize ++
        " bytes for this class, found " ++ toString programHeaderEntrySize))
  else if programHeaderCount = 0 then
    .error (.invalidField "ELF program-header count"
      "a core dump must contain at least one program header")
  else
    enforceCount "program header" programHeaderCount maxProgramHeaders
    .ok { machine, programHeaderOffset, programHeaderEntrySize, programHeaderCount }

/-- Registers are recovered from the first register note of an x86-64 core. -/
def recoverRegisters (machine : ℕ) (endian : CoreEndian) :
    Option Bytes → Except CoreDumpError (Option Amd64CoreRegisters × ℕ)
  | some descriptor =>
    if machine = emX8664 then do
      let registers ← parsePrstatusRegisters descriptor endian
      .ok (some registers, parsePrstatusSignal descriptor endian)
    else .ok (none, gdbSigsegv)
  | none => .ok (none, gdbSigsegv)

theorem sorted_regions {fileLen : ℕ} (regions : List (CoreRegion fileLen)) :
    (sortBy CoreRegion.vaddrOrder regions).Pairwise fun a b => a.vaddr ≤ b.vaddr := by
  have horder : Std.TransCmp (@CoreRegion.vaddrOrder fileLen) :=
    inferInstanceAs (Std.TransCmp fun a b : CoreRegion fileLen => compare a.vaddr b.vaddr)
  exact (pairwise_sortBy regions).imp fun h => Nat.isLE_compare.mp h

/-- A whole core file. -/
def CoreDump.parse (bytes : Bytes) : Running CoreDumpError CoreDump := do
  let (coreClass, endian) ← parseIdentity bytes
  let reader : CoreReader := { bytes, coreClass, endian }
  let header ← parseHeader reader
  let scan ← (List.range header.programHeaderCount).foldlM
    (scanProgramHeader reader header.programHeaderOffset header.programHeaderEntrySize)
    { regions := [], notes := { notesWalked := 0, prstatusDescriptor := none } }
  let (registers, signal) ←
    recoverRegisters header.machine endian scan.notes.prstatusDescriptor
  pure {
    coreClass, endian, machine := header.machine, bytes
    regions := sortBy CoreRegion.vaddrOrder scan.regions, sorted := sorted_regions scan.regions
    registers, signal }

end ReSymbol.GdbRemote
