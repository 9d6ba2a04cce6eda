import ReSymbol.GdbRemote.CoreDump

/-! Reads of a core dump are exact.

    The memory of a core is the image in which the first region that holds an address decides. A
    read is compared with that image byte by byte.

        readMemory addr len  ──────▶  the chunks of a walk over the regions
              ║ exact
        gather fileByte addr len  ──▶  one lookup per address  -/

namespace ReSymbol.GdbRemote
open Schemes Running

/-! ### Reading -/

/-- Whether an address lands in the file-backed extent of a region. -/
def regionFileContains {fileLen : ℕ} (addr : ℕ) (region : CoreRegion fileLen) : Bool :=
  if region.vaddr + region.fileSize < 2 ^ 64 then
    decide (region.vaddr ≤ addr) && decide (addr < region.vaddr + region.fileSize)
  else false

/-- `slice::get` of a range. -/
def sliceGet (bytes : Bytes) (start stop : ℕ) : Option Bytes :=
  if start ≤ stop ∧ stop ≤ bytes.length then some (window bytes start (stop - start)) else none

namespace CoreDump

variable (core : CoreDump)

/-- One chunk, from the cursor to the end of its region or of the range. -/
def readChunk (addr len stop : ℕ) :
    ℕ × Bytes → Except CoreDumpError (Round (ℕ × Bytes) Bytes)
  | (cursor, out) =>
    if cursor < stop then do
      let region ← (core.regions.find? (regionFileContains cursor)).elim
        (.error (.unmappedMemory addr len)) .ok
      let fileBackedEnd ← checkedAdd "PT_LOAD file extent" region.vaddr region.fileSize
      let chunkEnd := min stop fileBackedEnd
      let offsetInRegion ← checkedSub "region offset" cursor region.vaddr
      let filePosition ← checkedAdd "region file position" region.fileOffset offsetInRegion
      let chunkLen ← checkedSub "region chunk length" chunkEnd cursor
      let sliceEnd ← checkedAdd "region slice end" filePosition chunkLen
      let slice ← (sliceGet core.bytes filePosition sliceEnd).elim
        (.error (.unmappedMemory addr len)) .ok
      .ok (.again (chunkEnd, out ++ slice))
    else .ok (.done out)

/-- Every chunk has at least one byte, which bounds the rounds. -/
def readMemory (addr : UInt64) (len : ℕ) : Running CoreDumpError Bytes :=
  if len = 0 then pure [] else do
    let stop ← checkedAdd "memory read range" addr.toNat len
    loop (core.readChunk addr.toNat len stop) (len + 1) (addr.toNat, [])

end CoreDump

/-! ### The image of a core -/

namespace CoreRegion

variable {fileLen : ℕ} (region : CoreRegion fileLen)

/-- The end of the file-backed part. A part that reaches the end of the address space counts as
    empty. -/
def fileEnd : ℕ :=
  if region.vaddr + region.fileSize < 2 ^ 64 then region.vaddr + region.fileSize else region.vaddr

/-- The address is that of a byte of the segment that stands in the file. -/
def FileBacked (p : ℕ) : Prop := region.vaddr ≤ p ∧ p < region.vaddr + region.fileSize

/-- The end of the file-backed part is an address. -/
def Ends : Prop := region.vaddr + region.fileSize < 2 ^ 64

end CoreRegion

theorem regionFileContains_iff {fileLen : ℕ} (p : ℕ) (region : CoreRegion fileLen) :
    regionFileContains p region = true ↔ region.vaddr ≤ p ∧ p < region.fileEnd := by
  by_cases hends : region.vaddr + region.fileSize < 2 ^ 64
  · simp only [regionFileContains, CoreRegion.fileEnd, if_pos hends, Bool.and_eq_true,
      decide_eq_true_eq]
  · simp only [regionFileContains, CoreRegion.fileEnd, if_neg hends, Bool.false_eq_true, false_iff]
    omega

theorem regionFileContains_iff_fileBacked {fileLen : ℕ} (p : ℕ) (region : CoreRegion fileLen) :
    regionFileContains p region = true ↔ region.FileBacked p ∧ region.Ends := by
  rw [regionFileContains_iff, CoreRegion.fileEnd, CoreRegion.FileBacked, CoreRegion.Ends]
  split <;> omega

namespace CoreDump

variable (core : CoreDump)

/-- Where in the file a region keeps an address. -/
def filePlace {fileLen : ℕ} (region : CoreRegion fileLen) (p : ℕ) : ℕ :=
  region.fileOffset + (p - region.vaddr)

/-- The byte at an address, through the first region that holds it. -/
def fileByte (p : ℕ) : Option UInt8 := do
  let region ← core.regions.find? (regionFileContains p)
  core.bytes[filePlace region p]?

variable {core}

theorem filePlace_lt {p : ℕ} {region : CoreRegion core.bytes.length}
    (h : regionFileContains p region = true) : filePlace region p < core.bytes.length := by
  obtain ⟨hback, -⟩ := (regionFileContains_iff_fileBacked p region).mp h
  have hinside := region.inFile.inside
  unfold CoreRegion.FileBacked at hback
  unfold filePlace
  omega

/-- An address has a byte exactly when some region holds it. -/
theorem fileByte_isSome_iff {p : ℕ} :
    (∃ byte, core.fileByte p = some byte) ↔
      ∃ region ∈ core.regions, region.FileBacked p ∧ region.Ends := by
  simp only [fileByte, Option.bind_eq_bind, Option.bind_eq_some_iff]
  constructor
  · rintro ⟨byte, region, hfind, -⟩
    exact ⟨region, List.mem_of_find?_eq_some hfind,
      (regionFileContains_iff_fileBacked p region).mp (List.find?_some hfind)⟩
  · rintro ⟨region, hmem, hback⟩
    cases hfind : core.regions.find? (regionFileContains p) with
    | none =>
      have := List.find?_eq_none.mp hfind region hmem
      exact absurd ((regionFileContains_iff_fileBacked p region).mpr hback) this
    | some first =>
      have hlt := filePlace_lt (List.find?_some hfind)
      exact ⟨core.bytes[filePlace first p], first, rfl, List.getElem?_eq_getElem hlt⟩

/-- Up to the end of the region at the cursor, the image is a window of the file. -/
theorem gather_chunk {cursor chunkEnd : ℕ} {region : CoreRegion core.bytes.length}
    (hfind : core.regions.find? (regionFileContains cursor) = some region)
    (hle : cursor ≤ chunkEnd) (hend : chunkEnd ≤ region.fileEnd) :
    gather core.fileByte cursor (chunkEnd - cursor) =
      some (window core.bytes (filePlace region cursor) (chunkEnd - cursor)) := by
  obtain ⟨hstart, hstop⟩ := (regionFileContains_iff cursor region).mp (List.find?_some hfind)
  have hinside : filePlace region cursor + (chunkEnd - cursor) ≤ core.bytes.length := by
    have hin := region.inFile.inside
    have hfile : region.fileEnd ≤ region.vaddr + region.fileSize := by
      unfold CoreRegion.fileEnd
      split <;> omega
    unfold filePlace
    omega
  refine gather_eq_window hinside fun i hi => ?_
  have hstays : core.regions.find? (regionFileContains (cursor + i)) = some region :=
    find_extent_stays regionFileContains_iff core.sorted hfind (by omega) (by omega)
  have hplace : filePlace region (cursor + i) = filePlace region cursor + i := by
    unfold filePlace
    omega
  rw [fileByte, hstays, ← hplace]
  rfl

/-! ### One chunk -/

theorem readChunk_of_none {addr len stop cursor : ℕ} {out : Bytes} (hlt : cursor < stop)
    (hfind : core.regions.find? (regionFileContains cursor) = none) :
    core.readChunk addr len stop (cursor, out) = .error (.unmappedMemory addr len) := by
  simp [readChunk, hlt, hfind]
  rfl

theorem readChunk_of_some {addr len stop cursor : ℕ} {out : Bytes} (hlt : cursor < stop)
    {region : CoreRegion core.bytes.length}
    (hfind : core.regions.find? (regionFileContains cursor) = some region) :
    core.readChunk addr len stop (cursor, out) =
      .ok (.again (min stop region.fileEnd, out ++ window core.bytes (filePlace region cursor)
        (min stop region.fileEnd - cursor))) := by
  obtain ⟨⟨hstart, hstop⟩, hends⟩ :=
    (regionFileContains_iff_fileBacked cursor region).mp (List.find?_some hfind)
  rw [CoreRegion.Ends] at hends
  have hfileEnd : region.fileEnd = region.vaddr + region.fileSize := if_pos hends
  have hin := region.inFile.inside
  have hbound := region.inFile.stop_lt (by omega)
  have hplace : region.fileOffset + (cursor - region.vaddr) < 2 ^ 64 := by omega
  have hlen : cursor ≤ min stop (region.vaddr + region.fileSize) := by omega
  have hslice : region.fileOffset + (cursor - region.vaddr) +
      (min stop (region.vaddr + region.fileSize) - cursor) < 2 ^ 64 := by omega
  have hfile : region.fileOffset + (cursor - region.vaddr) +
      (min stop (region.vaddr + region.fileSize) - cursor) ≤ core.bytes.length := by omega
  simp only [readChunk, if_pos hlt, hfind, Option.elim_some, checkedAdd, checkedSub, bounded,
    if_pos hends,
    if_pos hstart, if_pos hplace, if_pos hlen, if_pos hslice, except_ok_bind, sliceGet, hfile,
    Nat.le_add_right, and_self, if_true, Nat.add_sub_cancel_left, hfileEnd, filePlace]

/-! ### A whole read -/

/-- The chunks up to the cursor are the image up to the cursor. -/
theorem readChunks (core : CoreDump) {addr len stop : ℕ} (hstop : stop = addr + len) :
    ∃ outcome, loop (core.readChunk addr len stop) (len + 1) (addr, []) = ended outcome ∧
      ∀ out, outcome = .ok out ↔ gather core.fileByte addr len = some out := by
  let inv : ℕ × Bytes → Prop := fun s =>
    addr ≤ s.1 ∧ s.1 ≤ stop ∧ gather core.fileByte addr (s.1 - addr) = some s.2
  let post : Except CoreDumpError Bytes → Prop := fun outcome =>
    ∀ out, outcome = .ok out ↔ gather core.fileByte addr len = some out
  have hround : ∀ s, inv s →
      RoundMeets inv (fun s => stop - s.1) post s (core.readChunk addr len stop s) := by
    rintro ⟨cursor, out⟩ ⟨hle, hcursor, hout⟩
    by_cases hlt : cursor < stop
    · cases hfind : core.regions.find? (regionFileContains cursor) with
      | none =>
        rw [readChunk_of_none hlt hfind]
        intro out'
        constructor
        · intro h
          cases h
        · intro h
          -- the address at the cursor has no byte
          obtain ⟨hlength, hvalues⟩ := gather_eq_some_iff.mp h
          have hnone : core.fileByte (addr + (cursor - addr)) = none := by
            rw [show addr + (cursor - addr) = cursor by omega, fileByte, hfind]
            rfl
          rw [hvalues (cursor - addr) (by omega), List.getElem?_eq_none_iff] at hnone
          omega
      | some region =>
        obtain ⟨hstart, hend⟩ :=
          (regionFileContains_iff cursor region).mp (List.find?_some hfind)
        rw [readChunk_of_some hlt hfind]
        refine ⟨⟨by simp only; omega, by simp only; omega, ?_⟩, by simp only; omega⟩
        rw [show min stop region.fileEnd - addr =
          (cursor - addr) + (min stop region.fileEnd - cursor) by omega]
        refine gather_add_eq_some_iff.mpr ⟨out, _, hout, ?_, rfl⟩
        rw [show addr + (cursor - addr) = cursor by omega]
        exact gather_chunk hfind (by omega) (by omega)
    · rw [readChunk, if_neg hlt]
      intro out'
      obtain rfl : cursor = stop := by omega
      have hlen : cursor - addr = len := by omega
      rw [← hlen, hout, Except.ok.injEq, Option.some.injEq]
  exact loop_meets hround ⟨le_refl addr, by omega, by simp [gather]⟩ (by simp only; omega)

/-- A read is the image over its range, where the range has an end. -/
theorem readMemory_spec (core : CoreDump) (addr : UInt64) (len : ℕ) :
    ∃ outcome, core.readMemory addr len = ended outcome ∧
      ∀ out, outcome = .ok out ↔
        addr.toNat + len < 2 ^ 64 ∧ gather core.fileByte addr.toNat len = some out := by
  by_cases hlen : len = 0
  · subst hlen
    refine ⟨.ok [], rfl, fun out => ?_⟩
    have haddr : addr.toNat + 0 < 2 ^ 64 := addr.toNat_lt
    simp only [gather, Except.ok.injEq, Option.some.injEq, haddr, true_and]
  · by_cases hlt : addr.toNat + len < 2 ^ 64
    · obtain ⟨outcome, hloop, hout⟩ := readChunks core (Eq.refl (addr.toNat + len))
      refine ⟨outcome, ?_, fun out => by rw [hout]; simp only [hlt, true_and]⟩
      rw [← hloop, readMemory, if_neg hlen, checkedAdd, bounded_of_lt hlt]
      rfl
    · refine ⟨.error (.arithmeticOverflow "memory read range"), ?_, fun out => ?_⟩
      · rw [readMemory, if_neg hlen, checkedAdd, bounded, if_neg hlt]
        rfl
      · simp only [hlt, false_and, reduceCtorEq]

theorem readMemory_eq_ok {addr : UInt64} {len : ℕ} {out : Bytes} :
    core.readMemory addr len = ended (.ok out) ↔
      addr.toNat + len < 2 ^ 64 ∧ gather core.fileByte addr.toNat len = some out := by
  obtain ⟨outcome, hread, hout⟩ := core.readMemory_spec addr len
  rw [hread, ended_inj, hout]

end CoreDump

/-! ### Parsing ends -/

theorem checkedAdd_eq_ok {what : String} {a b c : ℕ} :
    checkedAdd what a b = .ok c ↔ a + b < 2 ^ 64 ∧ c = a + b := by
  rw [checkedAdd, bounded_eq_ok, eq_comm (a := c)]

/-- A note that was taken moves the cursor past its header, and not past the segment. -/
theorem walkNote_again {reader : CoreReader} {segmentStart segmentLen cursor next : ℕ}
    {scan scan' : NoteScan}
    (h : walkNote reader segmentStart segmentLen (cursor, scan) = .ok (.again (next, scan'))) :
    cursor + 12 ≤ next ∧ next ≤ segmentLen := by
  rw [walkNote] at h
  by_cases hroom : cursor + 12 ≤ segmentLen
  · rw [if_pos hroom] at h
    simp only [except_bind_eq_ok, ite_error_eq_ok, checkedAdd_eq_ok] at h
    obtain ⟨-, _, -, _, -, _, -, _, -, _, -, _, -, namePadded, -, descPadded, -, _, ⟨-, rfl⟩, _,
      ⟨-, rfl⟩, _, ⟨-, rfl⟩, h⟩ := h
    by_cases hpast : cursor + 12 + namePadded + descPadded > segmentLen
    · rw [if_pos hpast] at h
      cases h
    · rw [if_neg hpast] at h
      obtain ⟨_, -, h⟩ := except_bind_eq_ok.mp h
      cases h
      omega
  · rw [if_neg hroom] at h
    cases h

theorem walkNotes_halts (reader : CoreReader) (segmentOffset segmentSize : ℕ) (scan : NoteScan) :
    Halts (walkNotes reader segmentOffset segmentSize scan) := by
  refine (Halts.ended _).bind fun _ _ => ?_
  have hround : ∀ s, True → RoundMeets (fun _ => True) (fun s => segmentSize - s.1) (fun _ => True)
      s (walkNote reader segmentOffset segmentSize s) := by
    rintro ⟨cursor, scan⟩ -
    cases hnote : walkNote reader segmentOffset segmentSize (cursor, scan) with
    | error e => trivial
    | ok result =>
      cases result with
      | done answer => trivial
      | again s' =>
        have := walkNote_again hnote
        exact ⟨trivial, by simp only; omega⟩
  obtain ⟨outcome, hloop, -⟩ := loop_meets hround (s := (0, scan)) trivial (Nat.lt_succ_self _)
  exact ⟨outcome, hloop⟩

theorem scanSegment_halts (reader : CoreReader) (scan : HeaderScan reader.bytes.length) (index : ℕ)
    (header : ProgramHeader) : Halts (scanSegment reader scan index header) := by
  rw [scanSegment]
  split
  · exact (Halts.ended _).bind fun _ _ => Halts.ended _
  · split
    · exact (walkNotes_halts reader _ _ _).bind fun _ _ => Halts.ended _
    · exact Halts.ended _

namespace CoreDump

theorem parse_halts (bytes : Bytes) : Halts (parse bytes) := by
  refine (Halts.ended _).bind fun identity _ => ?_
  refine (Halts.ended _).bind fun header _ => ?_
  refine Halts.bind (Halts.foldlM ?_ _ _) fun scan _ => ?_
  · intro scan index
    refine (Halts.ended _).bind fun entryOffset _ => ?_
    exact (Halts.ended _).bind fun header _ => scanSegment_halts _ scan index header
  · exact (Halts.ended _).bind fun recovered _ => Halts.ended _

theorem parse_bytes {bytes : Bytes} {core : CoreDump} (h : parse bytes = ended (.ok core)) :
    core.bytes = bytes := by
  obtain ⟨identity, -, h⟩ := bind_eq_ok.mp h
  obtain ⟨header, -, h⟩ := bind_eq_ok.mp h
  obtain ⟨scan, -, h⟩ := bind_eq_ok.mp h
  obtain ⟨recovered, -, h⟩ := bind_eq_ok.mp h
  cases h
  rfl

/-! ### Reads of an accepted file -/

/-- The region is the first one whose file-backed part holds the address. -/
def FirstAt (core : CoreDump) (p : ℕ) (region : CoreRegion core.bytes.length) : Prop :=
  ∃ front back, core.regions = front ++ region :: back ∧ region.FileBacked p ∧ region.Ends ∧
    ∀ earlier ∈ front, ¬ (earlier.FileBacked p ∧ earlier.Ends)

theorem firstAt_iff {core : CoreDump} {p : ℕ} {region : CoreRegion core.bytes.length} :
    core.FirstAt p region ↔ core.regions.find? (regionFileContains p) = some region := by
  rw [List.find?_eq_some_iff_append, regionFileContains_iff_fileBacked]
  constructor
  · rintro ⟨front, back, hsplit, hback, hends, hfront⟩
    refine ⟨⟨hback, hends⟩, front, back, hsplit, fun earlier hmem => ?_⟩
    rw [Bool.not_eq_true', ← Bool.not_eq_true, regionFileContains_iff_fileBacked]
    exact hfront earlier hmem
  · rintro ⟨⟨hback, hends⟩, front, back, hsplit, hfront⟩
    refine ⟨front, back, hsplit, hback, hends, fun earlier hmem => ?_⟩
    rw [← regionFileContains_iff_fileBacked, Bool.not_eq_true, ← Bool.not_eq_true']
    exact hfront earlier hmem

/-- What the reads of a core answer. -/
structure ReadsExactly (core : CoreDump) (addr : UInt64) (len : ℕ) : Prop where
  /-- A read comes to an end. -/
  halts : Halts (core.readMemory addr len)
  /-- It succeeds when its range has an end and some region holds every byte of it. -/
  succeeds_iff : (∃ out, core.readMemory addr len = ended (.ok out)) ↔
    addr.toNat + len < 2 ^ 64 ∧
      ∀ i < len, ∃ region ∈ core.regions, region.FileBacked (addr.toNat + i) ∧ region.Ends
  /-- Each byte is the file's byte through the first region that holds its address. -/
  bytes_eq : ∀ out, core.readMemory addr len = ended (.ok out) → out.length = len ∧
    ∀ i < len, ∃ region, core.FirstAt (addr.toNat + i) region ∧
      filePlace region (addr.toNat + i) < core.bytes.length ∧
      out[i]? = core.bytes[filePlace region (addr.toNat + i)]?
  /-- A read is two reads, one behind the other. -/
  splits : ∀ a b, a + b = len → ∀ out, core.readMemory addr len = ended (.ok out) ↔
    ∃ front back, core.readMemory addr a = ended (.ok front) ∧
      core.readMemory (addr + UInt64.ofNat a) b = ended (.ok back) ∧ out = front ++ back

theorem readsExactly (core : CoreDump) (addr : UInt64) (len : ℕ) : core.ReadsExactly addr len where
  halts := by
    obtain ⟨outcome, hread, -⟩ := core.readMemory_spec addr len
    exact ⟨outcome, hread⟩
  succeeds_iff := by
    simp only [readMemory_eq_ok, exists_and_left, gather_isSome_iff, fileByte_isSome_iff]
  bytes_eq := by
    intro out hread
    obtain ⟨-, hgather⟩ := readMemory_eq_ok.mp hread
    obtain ⟨hlength, hvalues⟩ := gather_eq_some_iff.mp hgather
    refine ⟨hlength, fun i hi => ?_⟩
    have hbyte := hvalues i hi
    rw [List.getElem?_eq_getElem (by omega), fileByte, Option.bind_eq_bind,
      Option.bind_eq_some_iff] at hbyte
    obtain ⟨region, hfind, hbyte⟩ := hbyte
    refine ⟨region, firstAt_iff.mpr hfind, filePlace_lt (List.find?_some hfind), ?_⟩
    rw [hbyte, List.getElem?_eq_getElem (by omega)]
  splits := by
    rintro a b rfl out
    simp only [readMemory_eq_ok, gather_add_eq_some_iff]
    have haddr := addr.toNat_lt
    constructor
    · rintro ⟨hlt, front, back, hfront, hback, rfl⟩
      have hnext : (addr + UInt64.ofNat a).toNat = addr.toNat + a := by
        rw [UInt64.toNat_add, UInt64.toNat_ofNat']
        omega
      exact ⟨front, back, ⟨by omega, hfront⟩, ⟨by omega, by rwa [hnext]⟩, rfl⟩
    · rintro ⟨front, back, ⟨hltFront, hfront⟩, ⟨hlt, hback⟩, rfl⟩
      have hnext : (addr + UInt64.ofNat a).toNat = addr.toNat + a := by
        rw [UInt64.toNat_add, UInt64.toNat_ofNat']
        omega
      rw [hnext] at hlt hback
      exact ⟨by omega, front, back, hfront, hback, rfl⟩

/-- CORRECT (core dumps): parsing ends for every input, and the reads of every accepted file are
    exact. -/
theorem core_memory_reads_exact (bytes : Bytes) :
    Halts (parse bytes) ∧ ∀ core, parse bytes = ended (.ok core) →
      core.bytes = bytes ∧ ∀ addr len, core.ReadsExactly addr len :=
  ⟨parse_halts bytes, fun core hparse => ⟨parse_bytes hparse, core.readsExactly⟩⟩

/-! ### A region at the end of the address space -/

/-- The file-backed parts of the regions, as start and size. -/
def extents (core : CoreDump) : List (ℕ × ℕ) :=
  core.regions.map fun region => (region.vaddr, region.fileSize)

/-- A file with one program header and no register note is accepted. -/
theorem parse_of_one_header {bytes : Bytes} {coreClass : CoreClass} {endian : CoreEndian}
    {header : CoreHeader} {regions : List (CoreRegion bytes.length)} {notesWalked : ℕ}
    (hidentity : parseIdentity bytes = .ok (coreClass, endian))
    (hheader : parseHeader ⟨bytes, coreClass, endian⟩ = .ok header)
    (hcount : header.programHeaderCount = 1)
    (hscan : scanProgramHeader ⟨bytes, coreClass, endian⟩ header.programHeaderOffset
      header.programHeaderEntrySize ⟨[], ⟨0, none⟩⟩ 0 =
        ended (.ok ⟨regions, ⟨notesWalked, none⟩⟩)) :
    ∃ core, parse bytes = ended (.ok core) ∧
      core.extents.Perm (regions.map fun region => (region.vaddr, region.fileSize)) := by
  have hscans : (List.range header.programHeaderCount).foldlM
      (scanProgramHeader ⟨bytes, coreClass, endian⟩ header.programHeaderOffset
        header.programHeaderEntrySize) ⟨[], ⟨0, none⟩⟩ =
      ended (.ok ⟨regions, ⟨notesWalked, none⟩⟩) := by
    rw [hcount]
    exact bind_eq_ok.mpr ⟨_, hscan, rfl⟩
  refine ⟨_, bind_eq_ok.mpr ⟨_, congrArg ended hidentity, bind_eq_ok.mpr
    ⟨_, congrArg ended hheader, bind_eq_ok.mpr ⟨_, hscans, rfl⟩⟩⟩, ?_⟩
  exact (sortBy_perm regions).map _

/-- The fields of an x86-64 core with one loadable segment of four bytes. -/
def segmentFields (vaddr : ℕ) : List Bytes := [
  [0x7f, 0x45, 0x4c, 0x46, 2, 1, 1], List.replicate 9 0,
  leBytes 2 elfTypeCore, leBytes 2 emX8664, leBytes 4 elfVersionCurrent, leBytes 8 0,
  leBytes 8 64, leBytes 8 0, leBytes 4 0, leBytes 2 64, leBytes 2 56, leBytes 2 1, leBytes 6 0,
  leBytes 4 ptLoad, leBytes 4 4, leBytes 8 120, leBytes 8 vaddr, leBytes 8 0, leBytes 8 4,
  leBytes 8 4, leBytes 8 0,
  [0xde, 0xad, 0xbe, 0xef]]

def segmentCore (vaddr : ℕ) : Bytes := (segmentFields vaddr).flatten

theorem length_segmentCore (vaddr : ℕ) : (segmentCore vaddr).length = 124 := by
  simp [segmentCore, segmentFields]

/-- The region of such a core. -/
def segmentRegion (vaddr : ℕ) : CoreRegion (segmentCore vaddr).length where
  vaddr := vaddr
  fileOffset := 120
  fileSize := 4
  memSize := 4
  flags := 4
  inFile := ⟨by rw [length_segmentCore], fun _ => by omega⟩

/-- The walk over its program headers finds the region and nothing else. -/
def FindsSegment (vaddr : ℕ) : Prop :=
  parseIdentity (segmentCore vaddr) = .ok (.elf64, .little) ∧
  parseHeader ⟨segmentCore vaddr, .elf64, .little⟩ = .ok ⟨emX8664, 64, 56, 1⟩ ∧
  scanProgramHeader ⟨segmentCore vaddr, .elf64, .little⟩ 64 56 ⟨[], ⟨0, none⟩⟩ 0 =
    ended (.ok ⟨[segmentRegion vaddr], ⟨0, none⟩⟩)

instance (vaddr : ℕ) : Decidable (FindsSegment vaddr) :=
  inferInstanceAs (Decidable (_ ∧ _ ∧ _))

theorem parse_segmentCore {vaddr : ℕ} (h : FindsSegment vaddr) :
    ∃ core, parse (segmentCore vaddr) = ended (.ok core) ∧ core.extents = [(vaddr, 4)] := by
  obtain ⟨core, hparse, hextents⟩ := parse_of_one_header h.1 h.2.1 rfl h.2.2
  exact ⟨core, hparse, List.perm_singleton.mp hextents⟩

theorem core_memory_reads_exact_segment :
    ∃ core, parse (segmentCore 0x400000) = ended (.ok core) ∧
      ∃ out, core.readMemory 0x400001 3 = ended (.ok out) := by
  obtain ⟨core, hparse, hregions⟩ := parse_segmentCore
    (show FindsSegment 0x400000 by decide +kernel)
  obtain ⟨-, hreads⟩ := (core_memory_reads_exact (segmentCore 0x400000)).2 core hparse
  refine ⟨core, hparse, (hreads 0x400001 3).succeeds_iff.mpr ⟨by decide, fun i hi => ?_⟩⟩
  obtain ⟨region, hmem, hextent⟩ := List.mem_map.mp
    (hregions ▸ List.mem_singleton_self (0x400000, 4))
  obtain ⟨hvaddr, hsize⟩ := Prod.mk.inj hextent
  have haddr : (0x400001 : UInt64).toNat = 0x400001 := rfl
  refine ⟨region, hmem, ?_, ?_⟩
  · rw [CoreRegion.FileBacked, hvaddr, hsize, haddr]
    omega
  · rw [CoreRegion.Ends, hvaddr, hsize]
    omega

/-- The last addresses stand in the file and their range has an end, and still no read of them
    succeeds: the end of their region is not a 64-bit number. -/
theorem core_memory_read_fails_at_top :
    ∃ core, parse (segmentCore 0xfffffffffffffffc) = ended (.ok core) ∧
      ((0xfffffffffffffffc : UInt64).toNat + 3 < 2 ^ 64 ∧
        ∀ i < 3, ∃ region ∈ core.regions,
          region.FileBacked ((0xfffffffffffffffc : UInt64).toNat + i)) ∧
      ∀ out, core.readMemory 0xfffffffffffffffc 3 ≠ ended (.ok out) := by
  obtain ⟨core, hparse, hregions⟩ :=
    parse_segmentCore (show FindsSegment 0xfffffffffffffffc by decide +kernel)
  have haddr : (0xfffffffffffffffc : UInt64).toNat = 0xfffffffffffffffc := rfl
  refine ⟨core, hparse, ⟨by rw [haddr]; omega, fun i hi => ?_⟩, fun out hread => ?_⟩
  · obtain ⟨region, hmem, hextent⟩ :=
      List.mem_map.mp (hregions ▸ List.mem_singleton_self (0xfffffffffffffffc, 4))
    obtain ⟨hvaddr, hsize⟩ := Prod.mk.inj hextent
    refine ⟨region, hmem, ?_⟩
    rw [CoreRegion.FileBacked, hvaddr, hsize, haddr]
    omega
  · obtain ⟨-, hcovered⟩ := (core.readsExactly 0xfffffffffffffffc 3).succeeds_iff.mp ⟨out, hread⟩
    obtain ⟨region, hmem, -, hends⟩ := hcovered 0 (by omega)
    have hextent : (region.vaddr, region.fileSize) ∈ core.extents :=
      List.mem_map.mpr ⟨region, hmem, rfl⟩
    rw [hregions] at hextent
    obtain ⟨hvaddr, hsize⟩ := Prod.mk.inj (List.mem_singleton.mp hextent)
    rw [CoreRegion.Ends, hvaddr, hsize] at hends
    omega

end CoreDump

end ReSymbol.GdbRemote
