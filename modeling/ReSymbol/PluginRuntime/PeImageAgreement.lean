import ReSymbol.PluginRuntime.PeImage

/-! What the hosts see of an analysed image.

    The hosts make the checks of the analysis again, all but one in the same way: the analysis looks
    at the raw range of a section only when the section has raw data, the hosts look at it always.

        raw size 0, raw offset behind the file:   analysis ✓   hosts ✗

    Where no section is of this kind, both hosts accept what the analysis accepts, with the same
    map, and read the bytes that the analysis maps. -/

namespace ReSymbol.PluginRuntime
open Schemes Analysis

/-! ### The same reads -/

section Transfer

variable {texts : PeImageTexts} {bytes : List UInt8}

theorem readBytes_of_bytes {offset size : ℕ} {context label : String} {value : List UInt8}
    (h : Reader.bytes ⟨bytes⟩ offset size context = .ok value) :
    readBytes texts bytes offset size label = .ok value :=
  readRange_eq_ok.mpr (Reader.bytes_eq_ok.mp h)

theorem readUint_of_uint {width offset n : ℕ} {context label : String}
    (h : Reader.uint ⟨bytes⟩ width offset context = .ok n) :
    readUint texts bytes width offset label = .ok n := by
  simp only [Reader.uint, except_bind_eq_ok] at h
  obtain ⟨value, hvalue, hn⟩ := h
  obtain rfl := Except.ok.inj hn
  simp only [readUint, except_bind_eq_ok]
  exact ⟨value, readBytes_of_bytes hvalue, rfl⟩

theorem checkedAdd64_of_checkedAdd {a b c : ℕ} {what label : String}
    (h : checkedAdd what a b = .ok c) : checkedAdd64 texts a b label = .ok c := by
  obtain ⟨hfits, rfl⟩ := checkedAdd_eq_ok.mp h
  exact bounded_of_lt hfits

theorem checkedMul64_of_checkedMul {a b c : ℕ} {what label : String}
    (h : checkedMul what a b = .ok c) : checkedMul64 texts a b label = .ok c := by
  obtain ⟨hfits, rfl⟩ := checkedMul_eq_ok.mp h
  exact bounded_of_lt hfits

theorem checkedAdd32_eq_ok {a b c : ℕ} {text : String} :
    checkedAdd32 a b text = .ok c ↔ a + b < 2 ^ 32 ∧ a + b = c := bounded_eq_ok

/-! ### The headers -/

theorem hostDosHeader_of_parseDosHeader {peOffset : ℕ}
    (h : parseDosHeader ⟨bytes⟩ = .ok peOffset) : hostDosHeader texts bytes = .ok peOffset := by
  simp only [parseDosHeader, except_bind_eq_ok, refuseIf_eq_ok] at h
  obtain ⟨_, -, dosSignature, hdos, _, hmz, header, hheader, offset, hoffset, _, hmax, _, hmin,
    peSignature, hpe, _, hsignature, hok⟩ := h
  obtain rfl := Except.ok.inj hok
  simp only [hostDosHeader, except_bind_eq_ok, refuseIf_eq_ok]
  exact ⟨_, readBytes_of_bytes hdos, (), hmz, _, readBytes_of_bytes hheader, _,
    readUint_of_uint hoffset, (), by omega, _, readBytes_of_bytes hpe, (), hsignature, rfl⟩

theorem hostCoffHeader_of_parseCoffHeader {coffOffset : ℕ} {coff : CoffHeader}
    (h : parseCoffHeader ⟨bytes⟩ coffOffset = .ok coff) :
    hostCoffHeader texts bytes coffOffset = .ok
      (coff.numberOfSections, coff.optionalHeaderSize) := by
  simp only [parseCoffHeader, except_bind_eq_ok, refuseIf_eq_ok, enforceCount_eq_ok] at h
  obtain ⟨_, hheader, _, hmachine, _, hamd64, _, hcount, _, hlimit, _, -, _, -, _, -, _, hoptional,
    _, -, _, hmin, hok⟩ := h
  obtain rfl := Except.ok.inj hok
  simp only [hostCoffHeader, except_bind_eq_ok, refuseIf_eq_ok]
  exact ⟨_, readBytes_of_bytes hheader, _, readUint_of_uint hmachine, (), hamd64, _,
    readUint_of_uint hcount, (), not_lt.mpr hlimit, _, readUint_of_uint hoptional, (), hmin, rfl⟩

theorem isPowerOfTwo_ne_zero {n : ℕ} (h : isPowerOfTwo n = true) : n ≠ 0 := by
  simp only [isPowerOfTwo, List.any_eq_true, decide_eq_true_eq] at h
  obtain ⟨k, -, rfl⟩ := h
  exact (Nat.two_pow_pos k).ne'

theorem hostOptionalHeader_of_parseOptionalHeader {optionalOffset optionalSize : ℕ}
    {header : PeOptionalHeader}
    (h : parseOptionalHeader ⟨bytes⟩ optionalOffset optionalSize = .ok header) :
    hostOptionalHeader texts bytes optionalOffset optionalSize =
      .ok (header.imageBase, header.sizeOfHeaders, header.sizeOfImage) := by
  simp only [parseOptionalHeader, except_bind_eq_ok, refuseIf_eq_ok, enforceCount_eq_ok] at h
  obtain ⟨_, hheader, _, hmagic, _, hplus, _, -, _, hbase, _, hsectionAlignment, _, hfileAlignment,
    _, himage, _, hheaders, _, -, _, -, _, himageSize, _, hheadersSize, _, hwithin, _, halignment,
    _, -, _, hdeclared, _, hcount, _, hlimit, _, htable, _, hrequired, _, hsize, _, -, _, -, _, -,
    _, -, _, -, _, -, _, -, hok⟩ := h
  obtain rfl := Except.ok.inj hok
  simp only [validateImageAlignment, except_bind_eq_ok, refuseIf_eq_ok, not_not] at halignment
  obtain ⟨_, hsectionPower, _, hfilePower, -⟩ := halignment
  have hsectionNonzero := isPowerOfTwo_ne_zero hsectionPower
  have hfileNonzero := isPowerOfTwo_ne_zero hfilePower
  simp only [hostOptionalHeader, except_bind_eq_ok, refuseIf_eq_ok]
  exact ⟨_, readBytes_of_bytes hheader, _, readUint_of_uint hmagic, (), hplus, _,
    readUint_of_uint hbase, _, readUint_of_uint hsectionAlignment, _,
    readUint_of_uint hfileAlignment, (), by omega, _, readUint_of_uint himage, _,
    readUint_of_uint hheaders, (), by omega, _, readBytes_of_bytes hdeclared, _,
    readUint_of_uint hcount, (), not_lt.mpr hlimit, _, checkedMul64_of_checkedMul htable, _,
    checkedAdd64_of_checkedAdd hrequired, (), hsize, rfl⟩

/-! ### The sections -/

/-- What a host keeps of a section. -/
def hostSectionOf (s : PeSection) : PeImageSection where
  virtualAddress := s.virtualAddress
  virtualSize := s.virtualSize
  rawDataOffset := s.rawDataOffset
  rawDataSize := s.rawDataSize

/-- An empty raw range does not start behind the file. -/
def EmptyRangeInFile (length : ℕ) (s : PeSection) : Prop :=
  s.rawDataSize = 0 → s.rawDataOffset ≤ length

theorem validateParsedSection_eq_ok {sizeOfHeaders sizeOfImage index : ℕ} {s : PeSection}
    {u : Unit} (hplaced : s.Placed bytes.length sizeOfHeaders sizeOfImage)
    (himage : sizeOfImage < 2 ^ 32) (hoffset : s.rawDataOffset < 2 ^ 32)
    (hbytes : bytes.length ≤ 2 ^ 30) :
    validateParsedSection texts bytes sizeOfHeaders sizeOfImage index (hostSectionOf s) = .ok u ↔
      EmptyRangeInFile bytes.length s := by
  have hinImage := hplaced.inImage
  have hloaded : (hostSectionOf s).loadedSize = s.loadedSize := rfl
  simp only [validateParsedSection, except_bind_eq_ok, refuseIf_eq_ok, checkedAdd32_eq_ok]
  rw [hloaded]
  dsimp only [hostSectionOf]
  constructor
  · rintro ⟨_, -, _, -, _, ⟨-, rfl⟩, hfile⟩ hempty
    omega
  · intro hrange
    refine ⟨_, ⟨by omega, rfl⟩, (), ?_, _, ⟨?_, rfl⟩, ?_⟩
    · rintro (houtside | ⟨hne, hlt⟩)
      · omega
      · have hbehind := hplaced.behindHeaders hne
        omega
    · by_cases hempty : s.rawDataSize = 0
      · omega
      · have hinFile := hplaced.inFile hempty
        omega
    · by_cases hempty : s.rawDataSize = 0
      · have hinFile := hrange hempty
        omega
      · have hinFile := hplaced.inFile hempty
        have hbehind := hplaced.behindFileHeaders hempty
        omega

theorem hostSection_eq_ok {header : PeOptionalHeader} {sectionsOffset index : ℕ} {s : PeSection}
    {x : PeImageSection} (h : parseSection ⟨bytes⟩ header sectionsOffset index = .ok s)
    (himage : header.sizeOfImage < 2 ^ 32) (hbytes : bytes.length ≤ 2 ^ 30) :
    hostSection texts bytes header.sizeOfHeaders header.sizeOfImage sectionsOffset index = .ok x ↔
      hostSectionOf s = x ∧ EmptyRangeInFile bytes.length s := by
  have hplaced : s.Placed bytes.length header.sizeOfHeaders header.sizeOfImage :=
    placed_of_parseSection h
  simp only [parseSection, except_bind_eq_ok] at h
  obtain ⟨position, hposition, offset, hoffset, rawName, -, virtualSize, hvirtualSize,
    virtualAddress, hvirtualAddress, rawDataSize, hrawDataSize, rawDataOffset, hrawDataOffset,
    characteristics, -, _, -, _, -, _, -, hs⟩ := h
  obtain rfl := Except.ok.inj hs
  have hcheck := fun u => @validateParsedSection_eq_ok texts bytes _ _ index _ u hplaced himage
    (Reader.uint_lt hrawDataOffset) hbytes
  rw [hostSection, checkedMul64_of_checkedMul hposition, except_ok_bind,
    checkedAdd64_of_checkedAdd hoffset, except_ok_bind, readUint_of_uint hvirtualSize,
    except_ok_bind, readUint_of_uint hvirtualAddress, except_ok_bind,
    readUint_of_uint hrawDataSize, except_ok_bind, readUint_of_uint hrawDataOffset, except_ok_bind]
  simp only [except_bind_eq_ok, Except.ok.injEq]
  constructor
  · rintro ⟨u, hvalid, rfl⟩
    exact ⟨rfl, (hcheck u).mp hvalid⟩
  · rintro ⟨rfl, hrange⟩
    exact ⟨(), (hcheck ()).mpr hrange, rfl⟩

theorem forall₂_hostSection {header : PeOptionalHeader} {sectionsOffset : ℕ} {indices : List ℕ}
    {sections : List PeSection} {xs : List PeImageSection}
    (h : List.Forall₂ (fun i s => parseSection ⟨bytes⟩ header sectionsOffset i = .ok s)
      indices sections)
    (himage : header.sizeOfImage < 2 ^ 32) (hbytes : bytes.length ≤ 2 ^ 30) :
    List.Forall₂ (fun i x => hostSection texts bytes header.sizeOfHeaders header.sizeOfImage
      sectionsOffset i = .ok x) indices xs ↔
      sections.map hostSectionOf = xs ∧ ∀ s ∈ sections, EmptyRangeInFile bytes.length s := by
  induction h generalizing xs with
  | nil =>
    cases xs <;> simp
  | @cons i s indices sections hs hrest ih =>
    cases xs with
    | nil => simp
    | cons x xs =>
      rw [List.forall₂_cons, ih, hostSection_eq_ok hs himage hbytes, List.map_cons,
        List.cons.injEq, List.forall_mem_cons]
      tauto

theorem hostRangesOverlap_of_apart {leftStart leftSize rightStart rightSize : ℕ}
    (hapart : RangesApart leftStart leftSize rightStart rightSize)
    (hleft : leftSize ≠ 0 → leftStart + leftSize < 2 ^ 32)
    (hright : rightSize ≠ 0 → rightStart + rightSize < 2 ^ 32) :
    hostRangesOverlap texts leftStart leftSize rightStart rightSize = .ok false := by
  rw [hostRangesOverlap]
  split_ifs with hempty
  · rfl
  · rw [not_or] at hempty
    simp only [except_bind_eq_ok, checkedAdd32_eq_ok, Except.ok.injEq, decide_eq_false_iff_not]
    refine ⟨_, ⟨hleft hempty.1, rfl⟩, _, ⟨hright hempty.2, rfl⟩, ?_⟩
    rw [RangesApart] at hapart
    omega

theorem hostCheckOverlap_of_apart {sizeOfHeaders sizeOfImage i j : ℕ} {a b : PeSection}
    (hapart : a.Apart b) (ha : a.Placed bytes.length sizeOfHeaders sizeOfImage)
    (hb : b.Placed bytes.length sizeOfHeaders sizeOfImage) (himage : sizeOfImage < 2 ^ 32)
    (hbytes : bytes.length ≤ 2 ^ 30) :
    hostCheckOverlap texts (hostSectionOf a, i) (hostSectionOf b, j) = .ok () := by
  have hvirtual : hostRangesOverlap texts a.virtualAddress a.loadedSize b.virtualAddress
      b.loadedSize = .ok false := hostRangesOverlap_of_apart hapart.1
    (fun _ => lt_of_le_of_lt ha.inImage himage) (fun _ => lt_of_le_of_lt hb.inImage himage)
  have hfile : hostRangesOverlap texts a.rawDataOffset a.rawDataSize b.rawDataOffset
      b.rawDataSize = .ok false := hostRangesOverlap_of_apart hapart.2
    (fun hne => by have := ha.inFile hne; omega) (fun hne => by have := hb.inFile hne; omega)
  simp only [hostCheckOverlap, except_bind_eq_ok, refuseIf_eq_ok]
  exact ⟨false, hvirtual, (), by simp, false, hfile, by simp⟩

theorem hostSections_eq_ok {header : PeOptionalHeader} {sectionsOffset count : ℕ}
    {sections : List PeSection} {xs : List PeImageSection}
    (h : parseSections ⟨bytes⟩ header sectionsOffset count = .ok sections)
    (himage : header.sizeOfImage < 2 ^ 32) (hbytes : bytes.length ≤ 2 ^ 30) :
    hostSections texts bytes header.sizeOfHeaders header.sizeOfImage sectionsOffset count = .ok xs ↔
      sections.map hostSectionOf = xs ∧ ∀ s ∈ sections, EmptyRangeInFile bytes.length s := by
  simp only [parseSections, except_bind_eq_ok, refuseIf_eq_ok] at h
  obtain ⟨_, hsize, _, hend, _, hwithin, _, htable, rows, hrows, _, -, _, hoverlaps, hok⟩ := h
  obtain rfl := Except.ok.inj hok
  have hplaced : ∀ s ∈ rows, s.Placed bytes.length header.sizeOfHeaders header.sizeOfImage := by
    intro s hs
    obtain ⟨index, -, hparse⟩ := exists_of_mem_mapM hrows hs
    exact placed_of_parseSection hparse
  have hpairs : pairsM (hostCheckOverlap texts) (rows.map hostSectionOf).zipIdx = .ok () := by
    refine pairsM_eq_ok.mpr ?_
    rw [List.zipIdx_map, List.pairwise_map]
    have hapart := apart_of_validateSectionOverlaps hoverlaps
    rw [← List.zipIdx_map_fst 0 rows, List.pairwise_map] at hapart
    refine hapart.imp_of_mem fun {a b} ha hb hab => ?_
    exact hostCheckOverlap_of_apart hab (hplaced _ (List.fst_mem_of_mem_zipIdx ha))
      (hplaced _ (List.fst_mem_of_mem_zipIdx hb)) himage hbytes
  have hmap := fun xs => @forall₂_hostSection texts bytes _ _ _ _ xs (mapM_eq_ok_iff.mp hrows)
    himage hbytes
  simp only [hostSections, except_bind_eq_ok, refuseIf_eq_ok, mapM_eq_ok_iff, hmap]
  constructor
  · rintro ⟨_, -, _, -, _, -, _, -, _, ⟨rfl, hranges⟩, _, -, hok⟩
    exact ⟨Except.ok.inj hok, hranges⟩
  · rintro ⟨rfl, hranges⟩
    exact ⟨_, checkedMul64_of_checkedMul hsize, _, checkedAdd64_of_checkedAdd hend, (), hwithin, _,
      readBytes_of_bytes htable, _, ⟨rfl, hranges⟩, (), hpairs, rfl⟩

/-! ### The whole parser -/

/-- The map that the headers describe. -/
def imageOf (headers : ParsedHeaders) : ParsedPeImage where
  imageBase := headers.imageBase
  sizeOfHeaders := headers.sizeOfHeaders
  sizeOfImage := headers.sizeOfImage
  sections := headers.sections.map hostSectionOf

/-- A host accepts an analysed file when no empty raw range starts behind the file, and then sees
    the same map. -/
theorem parseHostImage_eq_ok {headers : ParsedHeaders} {image : ParsedPeImage}
    (h : parseHeaders ⟨bytes⟩ = .ok headers) (hbytes : bytes.length ≤ 2 ^ 30) :
    parseHostImage texts bytes = .ok image ↔
      imageOf headers = image ∧ ∀ s ∈ headers.sections, EmptyRangeInFile bytes.length s := by
  have himage := (layout_of_parseHeaders h).imageSize
  simp only [parseHeaders, except_bind_eq_ok] at h
  obtain ⟨peOffset, hdos, coffOffset, hcoffOffset, coff, hcoff, optionalOffset, hoptionalOffset,
    header, hheader, sectionsOffset, hsectionsOffset, sections, hsections, hok⟩ := h
  obtain rfl := Except.ok.inj hok
  have hlist := fun xs => @hostSections_eq_ok texts bytes _ _ _ _ xs hsections himage hbytes
  rw [parseHostImage, hostDosHeader_of_parseDosHeader hdos, except_ok_bind,
    checkedAdd64_of_checkedAdd hcoffOffset, except_ok_bind,
    hostCoffHeader_of_parseCoffHeader hcoff, except_ok_bind]
  dsimp only
  rw [checkedAdd64_of_checkedAdd hoptionalOffset, except_ok_bind,
    hostOptionalHeader_of_parseOptionalHeader hheader, except_ok_bind]
  dsimp only
  rw [checkedAdd64_of_checkedAdd hsectionsOffset, except_ok_bind]
  simp only [except_bind_eq_ok, hlist, Except.ok.injEq]
  constructor
  · rintro ⟨_, ⟨rfl, hranges⟩, rfl⟩
    exact ⟨rfl, hranges⟩
  · rintro ⟨rfl, hranges⟩
    exact ⟨_, ⟨rfl, hranges⟩, rfl⟩

end Transfer

/-! ### Reading -/

/-- Where the bytes at an address start in the file, and how many of them follow each other. -/
def extentAt (headers : ParsedHeaders) (rva : ℕ) : Option (ℕ × ℕ) :=
  if rva < headers.sizeOfHeaders then some (rva, headers.sizeOfHeaders - rva)
  else match headers.sections.find? fun s =>
      s.virtualAddress ≤ rva && rva < s.virtualAddress + s.loadedSize with
    | none => none
    | some s =>
      if rva - s.virtualAddress ≥ s.fileBackedSize then none
      else some (s.rawDataOffset + (rva - s.virtualAddress),
        s.fileBackedSize - (rva - s.virtualAddress))

/-- The same in the terms of a host. -/
def HostImage.extent (image : HostImage) (rva : ℕ) : Option (ℕ × ℕ) :=
  if rva < image.sizeOfHeaders then some (rva, image.sizeOfHeaders - rva)
  else match image.sectionAt rva with
    | none => none
    | some s =>
      if rva - s.virtualAddress ≥ s.fileBackedSize then none
      else some (s.rawDataOffset + (rva - s.virtualAddress),
        s.fileBackedSize - (rva - s.virtualAddress))

/-- At most so many of the bytes at an address. -/
def runAt (bytes : List UInt8) (headers : ParsedHeaders) (rva length : ℕ) : List UInt8 :=
  match extentAt headers rva with
  | none => []
  | some (start, available) => window bytes start (min available length)

/-- The image of a host that accepted the file. -/
def hostImage (bytes : List UInt8) (image : ParsedPeImage) : HostImage where
  bytes
  sizeOfHeaders := image.sizeOfHeaders
  sizeOfImage := image.sizeOfImage
  sections := image.sections

/-- The map of the analysis. -/
def rvaMap (bytes : List UInt8) (headers : ParsedHeaders) : RvaMap where
  bytes
  sizeOfHeaders := headers.sizeOfHeaders
  sections := headers.sections

section Reading

variable {bytes : List UInt8} {headers : ParsedHeaders} {rva : ℕ}

theorem extentAt_inside (hlayout : Layout bytes.length headers) {start available : ℕ}
    (h : extentAt headers rva = some (start, available)) :
    0 < available ∧ start + available ≤ bytes.length := by
  rw [extentAt] at h
  split_ifs at h with hheaders
  · obtain ⟨rfl, rfl⟩ := Prod.mk.inj (Option.some.inj h)
    have hfile := hlayout.headersInFile
    omega
  · cases hfind : headers.sections.find? fun s =>
        s.virtualAddress ≤ rva && rva < s.virtualAddress + s.loadedSize with
    | none =>
      rw [hfind] at h
      cases h
    | some s =>
      rw [hfind] at h
      dsimp only at h
      split_ifs at h with hbacked
      obtain ⟨rfl, rfl⟩ := Prod.mk.inj (Option.some.inj h)
      have hraw := s.fileBackedSize_le_rawDataSize
      have hfile := (hlayout.placed s (List.mem_of_find?_eq_some hfind)).inFile (by omega)
      omega

theorem extent_hostImage :
    (hostImage bytes (imageOf headers)).extent rva = extentAt headers rva := by
  have hfind : (hostImage bytes (imageOf headers)).sectionAt rva =
      (headers.sections.find? fun s =>
        s.virtualAddress ≤ rva && rva < s.virtualAddress + s.loadedSize).map hostSectionOf := by
    rw [HostImage.sectionAt, hostImage, imageOf]
    exact List.find?_map
  rw [HostImage.extent, hfind, extentAt]
  cases headers.sections.find? fun s =>
    s.virtualAddress ≤ rva && rva < s.virtualAddress + s.loadedSize <;> rfl

theorem window_min {start available n : ℕ} (h : start + available ≤ bytes.length) :
    (window bytes start (min available n)).length = min available n :=
  length_window (by omega)

theorem wasm_copyAvailable {start available n : ℕ} (h : start + available ≤ bytes.length) :
    Wasm.copyAvailable bytes start available n = window bytes start (min available n) := by
  rw [Wasm.copyAvailable, min_eq_left (by omega)]

theorem native_copyAvailable {start available : ℕ} {destination : List UInt8}
    (h : start + available ≤ bytes.length) :
    NativeHost.copyAvailable bytes start available destination =
      .ok (min available destination.length,
        window bytes start (min available destination.length) ++
          destination.drop (min available destination.length)) := by
  rw [NativeHost.copyAvailable, if_neg (by omega)]
  dsimp only
  rw [min_eq_left (show available ≤ bytes.length - start by omega)]

/-- What the WASM host reads is decided by the extent at the address. -/
theorem wasm_readRva_of_extent {image : HostImage} {n : ℕ} (hn : n ≤ maxReadBinaryCallBytes)
    (hfits : rva < 2 ^ 32) (hrva : rva < image.sizeOfImage) :
    Wasm.readRva image rva n = .ok (match image.extent rva with
      | none => []
      | some (start, available) => Wasm.copyAvailable image.bytes start available n) := by
  rw [Wasm.readRva, if_neg (by omega), if_neg (by omega), if_neg (by omega), HostImage.extent]
  by_cases hempty : n = 0
  · subst hempty
    rw [if_pos rfl]
    split <;> simp [Wasm.copyAvailable, window]
  rw [if_neg hempty]
  by_cases hheaders : rva < image.sizeOfHeaders
  · rw [if_pos hheaders, if_pos hheaders]
  · rw [if_neg hheaders, if_neg hheaders]
    cases image.sectionAt rva with
    | none => rfl
    | some s => by_cases hbacked : rva - s.virtualAddress ≥ s.fileBackedSize <;> simp [hbacked]

/-- What the native helper reads is decided by the extent at the address. -/
theorem native_readRva_of_extent {image : HostImage} {destination : List UInt8}
    (hlength : destination.length ≤ maxReadBinaryCallBytes) (hfits : rva < 2 ^ 32)
    (hrva : rva < image.sizeOfImage) (hnonempty : destination ≠ []) :
    NativeHost.readRva image rva destination = match image.extent rva with
      | none => .ok (0, destination)
      | some (start, available) =>
        NativeHost.copyAvailable image.bytes start available destination := by
  rw [NativeHost.readRva, if_neg (by omega), if_neg (by omega), if_neg (by omega),
    if_neg (by simpa using hnonempty), HostImage.extent]
  by_cases hheaders : rva < image.sizeOfHeaders
  · rw [if_pos hheaders, if_pos hheaders]
  · rw [if_neg hheaders, if_neg hheaders]
    cases image.sectionAt rva with
    | none => rfl
    | some s => by_cases hbacked : rva - s.virtualAddress ≥ s.fileBackedSize <;> simp [hbacked]

theorem wasm_readRva (hlayout : Layout bytes.length headers) {n : ℕ}
    (hn : n ≤ maxReadBinaryCallBytes) (hrva : rva < headers.sizeOfImage) :
    Wasm.readRva (hostImage bytes (imageOf headers)) rva n = .ok (runAt bytes headers rva n) := by
  rw [wasm_readRva_of_extent hn (hrva.trans hlayout.imageSize) hrva, extent_hostImage, runAt]
  cases hextent : extentAt headers rva with
  | none => rfl
  | some extent => exact congrArg _ (wasm_copyAvailable (extentAt_inside hlayout hextent).2)

/-- The native helper writes the run at the address to the front of the destination. -/
theorem native_readRva (hlayout : Layout bytes.length headers) {destination : List UInt8}
    (hlength : destination.length ≤ maxReadBinaryCallBytes) (hrva : rva < headers.sizeOfImage) :
    NativeHost.readRva (hostImage bytes (imageOf headers)) rva destination =
      .ok ((runAt bytes headers rva destination.length).length,
        runAt bytes headers rva destination.length ++
          destination.drop (runAt bytes headers rva destination.length).length) := by
  have hfits := hrva.trans hlayout.imageSize
  by_cases hnonempty : destination = []
  · subst hnonempty
    have hrun : runAt bytes headers rva 0 = [] := by
      rw [runAt]
      split <;> simp [window]
    have hsize : ¬ rva ≥ (hostImage bytes (imageOf headers)).sizeOfImage := not_le.mpr hrva
    rw [NativeHost.readRva, if_neg (by simp), if_neg (by omega), if_neg hsize,
      if_pos List.isEmpty_nil]
    simp [hrun]
  · rw [native_readRva_of_extent hlength hfits hrva hnonempty, extent_hostImage, runAt]
    cases hextent : extentAt headers rva with
    | none => simp
    | some extent =>
      have hinside := (extentAt_inside hlayout hextent).2
      dsimp only
      rw [window_min hinside]
      exact native_copyAvailable hinside

theorem read_fails_iff (hlayout : Layout bytes.length headers) {destination : List UInt8}
    (hlength : destination.length ≤ maxReadBinaryCallBytes) :
    ((∃ e, NativeHost.readRva (hostImage bytes (imageOf headers)) rva destination = .error e) ↔
        ¬ rva < headers.sizeOfImage) ∧
      ((∃ e, Wasm.readRva (hostImage bytes (imageOf headers)) rva destination.length = .error e) ↔
        ¬ rva < headers.sizeOfImage) := by
  by_cases hrva : rva < headers.sizeOfImage
  · rw [native_readRva hlayout hlength hrva, wasm_readRva hlayout hlength hrva]
    simp [hrva]
  · have hsize : rva ≥ (hostImage bytes (imageOf headers)).sizeOfImage := not_lt.mp hrva
    have hcall : ¬ destination.length > maxReadBinaryCallBytes := not_lt.mpr hlength
    refine ⟨iff_of_true ⟨.outsideImage, ?_⟩ hrva, iff_of_true ⟨.outsideImage, ?_⟩ hrva⟩
    · rw [NativeHost.readRva, if_neg hcall, if_pos hsize, ite_self]
    · rw [Wasm.readRva, if_neg hcall, if_pos hsize, ite_self]

/-! ### The map of the analysis -/

/-- The section that is found is the one whose file-backed part holds the range. -/
theorem extentAt_of_backed (hlayout : Layout bytes.length headers) {s : PeSection}
    (hs : s ∈ headers.sections) (hstart : s.virtualAddress ≤ rva)
    (hbacked : rva < s.virtualAddress + s.fileBackedSize) :
    extentAt headers rva = some (s.rawDataOffset + (rva - s.virtualAddress),
      s.fileBackedSize - (rva - s.virtualAddress)) := by
  have hloaded := s.fileBackedSize_le_loadedSize
  have hbehind := (hlayout.placed s hs).behindHeaders (by omega)
  have hfind : headers.sections.find? (fun s =>
      s.virtualAddress ≤ rva && rva < s.virtualAddress + s.loadedSize) = some s := by
    cases hfind : headers.sections.find? (fun s =>
        s.virtualAddress ≤ rva && rva < s.virtualAddress + s.loadedSize) with
    | none =>
      have hnone := List.find?_eq_none.mp hfind s hs
      simp only [Bool.and_eq_true, decide_eq_true_eq] at hnone
      omega
    | some s' =>
      have hcontains := List.find?_some hfind
      simp only [Bool.and_eq_true, decide_eq_true_eq] at hcontains
      rw [hlayout.section_unique (List.mem_of_find?_eq_some hfind) hs hcontains ⟨hstart, by omega⟩]
  rw [extentAt, if_neg (by omega), hfind]
  exact if_neg (by omega)

theorem sectionOffset_eq_ok (hlayout : Layout bytes.length headers)
    (hbytes : bytes.length ≤ 2 ^ 30) {n offset : ℕ} {context : String} (hn : 0 < n)
    {sections : List PeSection} (hsections : ∀ s ∈ sections, s ∈ headers.sections) :
    (rvaMap bytes headers).sectionOffset rva n (rva + n) context sections = .ok offset ↔
      ∃ s ∈ sections, s.virtualAddress ≤ rva ∧ rva + n ≤ s.virtualAddress + s.fileBackedSize ∧
        s.rawDataOffset + (rva - s.virtualAddress) = offset := by
  have himage := hlayout.imageSize
  induction sections with
  | nil => simp [RvaMap.sectionOffset]
  | cons s rest ih =>
    have hs := hsections s List.mem_cons_self
    have hinImage := (hlayout.placed s hs).inImage
    have hloaded := s.fileBackedSize_le_loadedSize
    have hraw := s.fileBackedSize_le_rawDataSize
    have hend : checkedAdd "section-backed RVA range" s.virtualAddress s.fileBackedSize =
        .ok (s.virtualAddress + s.fileBackedSize) := checkedAdd_eq_ok.mpr ⟨by omega, rfl⟩
    rw [RvaMap.sectionOffset, hend, except_ok_bind]
    by_cases hhere : s.virtualAddress ≤ rva ∧ rva + n ≤ s.virtualAddress + s.fileBackedSize
    · have hfile := (hlayout.placed s hs).inFile (by omega)
      rw [if_pos hhere]
      simp only [except_bind_eq_ok, checkedAdd_eq_ok, ensureSlice, readRange_eq_ok]
      constructor
      · rintro ⟨_, ⟨-, rfl⟩, _, -, hok⟩
        exact ⟨s, List.mem_cons_self, hhere.1, hhere.2, Except.ok.inj hok⟩
      · rintro ⟨s', hs', hstart, hstop, rfl⟩
        have hsame : s' = s := by
          have hloaded' := s'.fileBackedSize_le_loadedSize
          exact hlayout.section_unique (hsections s' hs') hs ⟨hstart, by omega⟩
            ⟨hhere.1, by omega⟩
        subst hsame
        exact ⟨_, ⟨by omega, rfl⟩, _, ⟨by omega, by simp only [rvaMap]; omega, rfl⟩, rfl⟩
    · have hrest := ih fun s' hs' => hsections s' (List.mem_cons_of_mem _ hs')
      rw [if_neg hhere]
      refine hrest.trans ⟨?_, ?_⟩
      · rintro ⟨s', hs', hrange⟩
        exact ⟨s', List.mem_cons_of_mem _ hs', hrange⟩
      · rintro ⟨s', hs', hstart, hstop, hoffset⟩
        rcases List.mem_cons.mp hs' with rfl | hs'
        · exact absurd ⟨hstart, hstop⟩ hhere
        · exact ⟨s', hs', hstart, hstop, hoffset⟩

/-- Behind the headers, an extent is the rest of the file-backed part of a section. -/
theorem exists_of_extentAt {offset available : ℕ} (hheaders : ¬ rva < headers.sizeOfHeaders)
    (h : extentAt headers rva = some (offset, available)) :
    ∃ s ∈ headers.sections, s.virtualAddress ≤ rva ∧
      rva + available = s.virtualAddress + s.fileBackedSize ∧
      s.rawDataOffset + (rva - s.virtualAddress) = offset := by
  rw [extentAt, if_neg hheaders] at h
  cases hfind : headers.sections.find? fun s =>
      s.virtualAddress ≤ rva && rva < s.virtualAddress + s.loadedSize with
  | none =>
    rw [hfind] at h
    cases h
  | some s =>
    rw [hfind] at h
    dsimp only at h
    split_ifs at h with hbacked
    obtain ⟨rfl, rfl⟩ := Prod.mk.inj (Option.some.inj h)
    have hcontains := List.find?_some hfind
    simp only [Bool.and_eq_true, decide_eq_true_eq] at hcontains
    exact ⟨s, List.mem_of_find?_eq_some hfind, hcontains.1, by omega, rfl⟩

/-- The analysis maps a range of addresses when the bytes at its start reach that far. -/
theorem offset_eq_ok (hlayout : Layout bytes.length headers) (hbytes : bytes.length ≤ 2 ^ 30)
    (hrva : rva < 2 ^ 32) {n offset : ℕ} {context : String} (hn : 0 < n) :
    (rvaMap bytes headers).offset rva n context = .ok offset ↔
      ∃ available, extentAt headers rva = some (offset, available) ∧ n ≤ available := by
  have hinFile := hlayout.headersInFile
  have hsections := @sectionOffset_eq_ok bytes headers rva hlayout hbytes n offset context hn
    headers.sections fun _ hs => hs
  have hmap : (rvaMap bytes headers).sizeOfHeaders = headers.sizeOfHeaders := rfl
  by_cases hfits : rva + n < 2 ^ 64
  · rw [RvaMap.offset, checkedAdd_eq_ok.mpr ⟨hfits, rfl⟩, except_ok_bind, hmap]
    by_cases hheaders : rva < headers.sizeOfHeaders
    · have hextent : extentAt headers rva = some (rva, headers.sizeOfHeaders - rva) := by
        rw [extentAt, if_pos hheaders]
      rw [hextent]
      by_cases hwithin : rva + n ≤ headers.sizeOfHeaders
      · rw [if_pos ⟨hheaders, hwithin⟩]
        simp only [except_bind_eq_ok, ensureSlice, readRange_eq_ok, rvaMap, Except.ok.injEq,
          Option.some.injEq, Prod.mk.injEq]
        constructor
        · rintro ⟨_, -, rfl⟩
          exact ⟨_, ⟨rfl, rfl⟩, by omega⟩
        · rintro ⟨_, ⟨rfl, rfl⟩, -⟩
          exact ⟨_, ⟨hfits, by omega, rfl⟩, rfl⟩
      · rw [if_neg fun h => hwithin h.2]
        refine iff_of_false (fun hok => ?_) ?_
        · obtain ⟨s, hs, hstart, hstop, -⟩ := hsections.mp hok
          have hloaded := s.fileBackedSize_le_loadedSize
          have hbehind := (hlayout.placed s hs).behindHeaders (by omega)
          omega
        · rintro ⟨available, hsome, hreach⟩
          obtain ⟨-, rfl⟩ := Prod.mk.inj (Option.some.inj hsome)
          omega
    · rw [if_neg fun h => hheaders h.1]
      refine hsections.trans ⟨?_, ?_⟩
      · rintro ⟨s, hs, hstart, hstop, rfl⟩
        exact ⟨_, extentAt_of_backed hlayout hs hstart (by omega), by omega⟩
      · rintro ⟨available, hextent, hreach⟩
        obtain ⟨s, hs, hstart, hstop, hoffset⟩ := exists_of_extentAt hheaders hextent
        exact ⟨s, hs, hstart, by omega, hoffset⟩
  · refine iff_of_false (fun hok => ?_) ?_
    · simp only [RvaMap.offset, except_bind_eq_ok, checkedAdd_eq_ok] at hok
      obtain ⟨_, ⟨hfits', -⟩, -⟩ := hok
      exact hfits hfits'
    · rintro ⟨available, hextent, hreach⟩
      have hinside := (extentAt_inside hlayout hextent).2
      omega

/-- The longest run of bytes, up to a length, that the analysis maps from an address. -/
structure LongestRun (map : RvaMap) (rva length : ℕ) (run : List UInt8) : Prop where
  bounded : run.length ≤ length
  mapped : ∀ context, run ≠ [] → map.bytesAt rva run.length context = .ok run
  longest : ∀ n context, run.length < n → n ≤ length →
    ∀ longer, map.bytesAt rva n context ≠ .ok longer

theorem longestRun_runAt (hlayout : Layout bytes.length headers) (hbytes : bytes.length ≤ 2 ^ 30)
    (hrva : rva < 2 ^ 32) (length : ℕ) :
    LongestRun (rvaMap bytes headers) rva length (runAt bytes headers rva length) := by
  have hoffset := fun n offset context hn =>
    @offset_eq_ok bytes headers rva hlayout hbytes hrva n offset context hn
  rw [runAt]
  cases hextent : extentAt headers rva with
  | none =>
    refine ⟨Nat.zero_le _, fun _ hne => absurd rfl hne, fun n context hlt _ longer hok => ?_⟩
    simp only [RvaMap.bytesAt, except_bind_eq_ok] at hok
    obtain ⟨offset, hok, -⟩ := hok
    obtain ⟨available, hsome, -⟩ := (hoffset n offset context hlt).mp hok
    rw [hextent] at hsome
    cases hsome
  | some extent =>
    obtain ⟨start, available⟩ := extent
    obtain ⟨hpositive, hinside⟩ := extentAt_inside hlayout hextent
    dsimp only
    refine ⟨?_, fun context hne => ?_, fun n context hlt hn longer hok => ?_⟩
    · rw [window_min hinside]
      exact min_le_right _ _
    · have hlength : 0 < min available length := by
        rw [← window_min (n := length) hinside]
        exact List.length_pos_of_ne_nil hne
      rw [window_min hinside, RvaMap.bytesAt,
        (hoffset _ start context hlength).mpr ⟨available, hextent, min_le_left _ _⟩, except_ok_bind]
      exact readRange_eq_ok.mpr ⟨by omega, by simp only [rvaMap]; omega, rfl⟩
    · rw [window_min hinside] at hlt
      simp only [RvaMap.bytesAt, except_bind_eq_ok] at hok
      obtain ⟨offset, hok, -⟩ := hok
      obtain ⟨available', hsome, hreach⟩ := (hoffset n offset context (by omega)).mp hok
      rw [hextent] at hsome
      obtain ⟨-, rfl⟩ := Prod.mk.inj (Option.some.inj hsome)
      omega

end Reading

/-! ### What the hosts see -/

/-- Both hosts accept the file with the map of the analysis, and read from it what the analysis
    maps. -/
structure HostsSee (bytes : List UInt8) (headers : ParsedHeaders) : Prop where
  native : NativeHost.parsePeImage bytes = .ok (imageOf headers)
  wasm : Wasm.parsePeImage bytes = .ok (imageOf headers)
  fails : ∀ rva destination, destination.length ≤ maxReadBinaryCallBytes →
    ((∃ e, NativeHost.readRva (hostImage bytes (imageOf headers)) rva destination = .error e) ↔
        ¬ rva < headers.sizeOfImage) ∧
      ((∃ e, Wasm.readRva (hostImage bytes (imageOf headers)) rva destination.length = .error e) ↔
        ¬ rva < headers.sizeOfImage)
  reads : ∀ rva destination, destination.length ≤ maxReadBinaryCallBytes →
    rva < headers.sizeOfImage → ∃ run, LongestRun
      (rvaMap bytes headers) rva destination.length run ∧
      NativeHost.readRva (hostImage bytes (imageOf headers)) rva destination =
        .ok (run.length, run ++ destination.drop run.length) ∧
      Wasm.readRva (hostImage bytes (imageOf headers)) rva destination.length = .ok run

/-- CORRECT (hosts): both hosts see an analysed file as the analysis does, exactly when no section
    without raw data has its raw offset behind the file. -/
theorem hosts_see_analysed_image_iff {bytes : List UInt8} {headers : ParsedHeaders}
    (h : parseHeaders ⟨bytes⟩ = .ok headers) (hbytes : bytes.length ≤ 2 ^ 30) :
    HostsSee bytes headers ↔
      ∀ s ∈ headers.sections, s.rawDataSize = 0 → s.rawDataOffset ≤ bytes.length := by
  have hlayout : Layout bytes.length headers := layout_of_parseHeaders h
  constructor
  · intro hsee
    exact ((parseHostImage_eq_ok h hbytes).mp hsee.native).2
  · intro hranges
    refine ⟨(parseHostImage_eq_ok h hbytes).mpr ⟨rfl, hranges⟩,
      (parseHostImage_eq_ok h hbytes).mpr ⟨rfl, hranges⟩,
      fun rva destination hlength => read_fails_iff hlayout hlength,
      fun rva destination hlength hrva => ?_⟩
    exact ⟨_, longestRun_runAt hlayout hbytes (hrva.trans hlayout.imageSize) _,
      native_readRva hlayout hlength hrva, wasm_readRva hlayout hlength hrva⟩

/-- Both hosts see the small file. -/
theorem hosts_see_smallFile : ∃ headers, parseHeaders
      ⟨smallFile 512 512 0x40000040 (List.replicate 512 0x41)⟩ = .ok headers ∧
    HostsSee (smallFile 512 512 0x40000040 (List.replicate 512 0x41)) headers := by
  obtain ⟨headers, h⟩ := smallFile_accepted
  have hraw : (parseHeaders ⟨smallFile 512 512 0x40000040 (List.replicate 512 0x41)⟩).toOption.all
      (fun headers => headers.sections.all fun s => s.rawDataSize ≠ 0) = true := by
    decide +kernel
  rw [h] at hraw
  refine ⟨headers, h, (hosts_see_analysed_image_iff h
    (by decide +kernel)).mpr fun s hs hempty => ?_⟩
  exact absurd hempty (by simpa using List.all_eq_true.mp hraw s hs)

/-- A section without raw data whose raw offset lies behind the file: the analysis accepts the file,
    both hosts refuse it. -/
theorem hosts_refuse_empty_range :
    (parseHeaders ⟨smallFile 0 1024 0xc0000080 []⟩).isOk = true ∧
      NativeHost.parsePeImage (smallFile 0 1024 0xc0000080 []) =
        .error "PE section 0 has an invalid file range" ∧
      Wasm.parsePeImage (smallFile 0 1024 0xc0000080 []) =
        .error "PE section 0 has an invalid file range" := by
  decide +kernel

end ReSymbol.PluginRuntime
