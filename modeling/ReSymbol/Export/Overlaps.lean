import ReSymbol.Schemes.Ranges
import ReSymbol.Export.Warnings

/-! Overlapping ranges.

    A projection keeps ranges that do not overlap. Functions whose range meets a stronger one keep
    their entry and names and lose the size; recovered strings that meet a stronger one are left
    out. In both cases the candidates are taken by rank, and each is compared with its two
    neighbours in an ordered map of the ranges kept so far.

    Addresses are 64-bit numbers and all sizes lie inside the image, so no range wraps around. -/

namespace ReSymbol.Export

open Schemes ReSymbol.Core Debugger

/-! ### The map of kept ranges -/

section Kept

variable {β C : Type}

/-- Kept ranges by their start, with their end and what they belong to. -/
abbrev KeptRanges (β : Type) := Std.ExtTreeMap UInt64 (UInt64 × β)

def entryStart (entry : UInt64 × (UInt64 × β)) : ℕ := entry.1.toNat

def entryStop (entry : UInt64 × (UInt64 × β)) : ℕ := entry.2.1.toNat

/-- `kept.range(..=rva).next_back()` ends behind the range or `kept.range(rva..).next()` starts
    before its end. -/
def overlapsNeighbour (kept : KeptRanges β) (rva stop : UInt64) : Bool :=
  (below entryStart kept.toList rva.toNat).any (fun entry => rva.toNat < entryStop entry) ||
    (above entryStart kept.toList rva.toNat).any (fun entry => entryStart entry < stop.toNat)

variable {rva stop : C → UInt64} {payload : C → β}

/-- The map holds these candidates, none of which is empty and no two of which overlap. -/
structure Holds (rva stop : C → UInt64) (payload : C → β) (kept : List C) (map : KeptRanges β) :
    Prop where
  entry : ∀ k v, map[k]? = some v ↔ ∃ c ∈ kept, rva c = k ∧ (stop c, payload c) = v
  nonempty : ∀ c ∈ kept, (rva c).toNat < (stop c).toNat
  apart : kept.Pairwise fun a b => ¬ Overlap (fun c => (rva c).toNat) (fun c => (stop c).toNat) a b

theorem holds_empty : Holds rva stop payload [] (∅ : KeptRanges β) where
  entry := by simp
  nonempty := by simp
  apart := .nil

theorem Holds.not_overlap {kept : List C} {map : KeptRanges β}
    (h : Holds rva stop payload kept map) {a b : C} (ha : a ∈ kept) (hb : b ∈ kept)
    (hne : a ≠ b) : ¬ Overlap (fun c => (rva c).toNat) (fun c => (stop c).toNat) a b := by
  have : Std.Symm fun a b : C =>
      ¬ Overlap (fun c => (rva c).toNat) (fun c => (stop c).toNat) a b :=
    ⟨fun _ _ hxy hyx => hxy hyx.symm⟩
  exact h.apart.forall ha hb hne

theorem Holds.separated {kept : List C} {map : KeptRanges β}
    (h : Holds rva stop payload kept map) : Separated entryStart entryStop map.toList := by
  have hmem : ∀ entry ∈ map.toList, ∃ c ∈ kept, entry = (rva c, stop c, payload c) := by
    rintro ⟨k, v⟩ hentry
    obtain ⟨c, hc, rfl, rfl⟩ := (h.entry k v).mp
      (Std.ExtTreeMap.mem_toList_iff_getElem?_eq_some.mp hentry)
    exact ⟨c, hc, rfl⟩
  refine ⟨fun entry hentry => ?_, ?_⟩
  · obtain ⟨c, hc, rfl⟩ := hmem entry hentry
    exact h.nonempty c hc
  · refine Std.ExtTreeMap.ordered_keys_toList.imp_of_mem fun {a b} ha hb hlt => ?_
    obtain ⟨c, hc, rfl⟩ := hmem a ha
    obtain ⟨d, hd, rfl⟩ := hmem b hb
    have hlt : (rva c).toNat < (rva d).toNat := UInt64.lt_iff_toNat_lt.mp (Std.compare_eq_lt.mp hlt)
    have hne : c ≠ d := fun heq => by simp [heq] at hlt
    have hover := h.not_overlap hc hd hne
    have := h.nonempty d hd
    simp only [Overlap, not_and, not_lt] at hover
    exact hover (by omega)

/-- The neighbour test finds every overlap. -/
theorem Holds.overlapsNeighbour_iff {kept : List C} {map : KeptRanges β}
    (h : Holds rva stop payload kept map) {c : C} (hc : (rva c).toNat < (stop c).toNat) :
    overlapsNeighbour map (rva c) (stop c) = true ↔
      ∃ d ∈ kept, Overlap (fun c => (rva c).toNat) (fun c => (stop c).toNat) d c := by
  rw [overlapsNeighbour, h.separated.neighbours hc]
  constructor
  · rintro ⟨⟨k, v⟩, hentry, hstart, hstop⟩
    obtain ⟨d, hd, rfl, rfl⟩ := (h.entry k v).mp
      (Std.ExtTreeMap.mem_toList_iff_getElem?_eq_some.mp hentry)
    exact ⟨d, hd, hstart, hstop⟩
  · rintro ⟨d, hd, hstart, hstop⟩
    refine ⟨(rva d, stop d, payload d), ?_, hstart, hstop⟩
    exact Std.ExtTreeMap.mem_toList_iff_getElem?_eq_some.mpr ((h.entry _ _).mpr ⟨d, hd, rfl, rfl⟩)

theorem Holds.insert {kept : List C} {map : KeptRanges β} (h : Holds rva stop payload kept map)
    {c : C} (hc : (rva c).toNat < (stop c).toNat)
    (hnone : ¬ ∃ d ∈ kept, Overlap (fun c => (rva c).toNat) (fun c => (stop c).toNat) d c) :
    Holds rva stop payload (kept ++ [c]) (map.insert (rva c) (stop c, payload c)) := by
  refine ⟨fun k v => ?_, ?_, ?_⟩
  · rw [Std.ExtTreeMap.getElem?_insert]
    by_cases hk : rva c = k
    · subst hk
      simp only [Std.ReflCmp.compare_self, if_true, Option.some.injEq, List.mem_append,
        List.mem_singleton]
      constructor
      · rintro rfl
        exact ⟨c, .inr rfl, rfl, rfl⟩
      · rintro ⟨d, hd | rfl, hrva, hv⟩
        · -- a kept candidate at the same address would overlap
          have hpos := h.nonempty d hd
          refine absurd ⟨d, hd, ?_⟩ hnone
          simp only [Overlap, hrva] at hpos ⊢
          omega
        · exact hv
    · rw [if_neg (by simpa using hk), h.entry]
      constructor
      · rintro ⟨d, hd, hrest⟩
        exact ⟨d, List.mem_append_left _ hd, hrest⟩
      · rintro ⟨d, hd, hrva, hv⟩
        rcases List.mem_append.mp hd with hd | hd
        · exact ⟨d, hd, hrva, hv⟩
        · rw [List.mem_singleton.mp hd] at hrva
          exact absurd hrva hk
  · intro d hd
    rcases List.mem_append.mp hd with hd | hd
    · exact h.nonempty d hd
    · rwa [List.mem_singleton.mp hd]
  · refine List.pairwise_append.mpr ⟨h.apart, by simp, fun a ha b hb => ?_⟩
    obtain rfl := List.mem_singleton.mp hb
    exact fun hover => hnone ⟨a, ha, hover⟩

end Kept

/-! ### Function sizes -/

/-- A sized function in the sweep. -/
structure SizeCandidate where
  index : ℕ
  rva : UInt64
  size : UInt64
  attribution : ExportAttribution
  deriving DecidableEq

def sizeCandidate (value : ExportFunction) (index : ℕ) : Option SizeCandidate :=
  match value.size, value.sizeAttribution with
  | some size, some attribution => some ⟨index, value.rva, size, attribution⟩
  | _, _ => none

def sizeCandidates (functions : List ExportFunction) : List SizeCandidate :=
  functions.zipIdx.filterMap fun (value, index) => sizeCandidate value index

/-- Attribution, then address, then size. -/
def sizeOrder (left right : SizeCandidate) : Ordering :=
  ((attributionOrder left.attribution right.attribution).then
    (compare left.rva right.rva)).then (compare left.size right.size)

instance : Std.TransCmp sizeOrder :=
  inferInstanceAs (Std.TransCmp (compareLex
    (compareLex (fun a b : SizeCandidate => attributionOrder a.attribution b.attribution)
      (compareOn SizeCandidate.rva)) (compareOn SizeCandidate.size)))

def ExportFunction.dropSize (value : ExportFunction) : ExportFunction :=
  { value with size := none, sizeAttribution := none }

structure SizeSweep where
  functions : List ExportFunction
  accepted : KeptRanges ℕ
  warnings : WarningAccumulator

/-- Keeps a size that meets nothing kept, drops it otherwise. -/
def sweepSize (sweep : SizeSweep) (candidate : SizeCandidate) :
    Except (Fault ExportError) SizeSweep := do
  let stop ← expectSome (checkedAddU64 candidate.rva candidate.size)
    "validated function range cannot overflow"
  if overlapsNeighbour sweep.accepted candidate.rva stop then
    let warnings ← (sweep.warnings.add .overlappingFunctionRange
      (some (.function candidate.rva))).mapError .error
    .ok { sweep with
      functions := sweep.functions.modify candidate.index ExportFunction.dropSize
      warnings }
  else
    .ok { sweep with accepted := sweep.accepted.insert candidate.rva (stop, candidate.index) }

/-- Takes the sizes away that overlap. -/
def removeOverlappingFunctionSizes (functions : List ExportFunction)
    (warnings : WarningAccumulator) :
    Except (Fault ExportError) (List ExportFunction × WarningAccumulator) := do
  let sweep ← (sortBy sizeOrder (sizeCandidates functions)).foldlM sweepSize
    ⟨functions, ∅, warnings⟩
  .ok (sweep.functions, sweep.warnings)

namespace SizeCandidate

def stop (c : SizeCandidate) : UInt64 := c.rva + c.size

/-- The ranges of two candidates share an address. -/
abbrev Meets (a b : SizeCandidate) : Prop :=
  Overlap (fun c : SizeCandidate => c.rva.toNat) (fun c => c.stop.toNat) a b

/-- The range is not empty and does not wrap around. -/
def Fits (c : SizeCandidate) : Prop := 0 < c.size.toNat ∧ c.rva.toNat + c.size.toNat < 2 ^ 64

theorem Fits.checkedAdd {c : SizeCandidate} (h : c.Fits) :
    checkedAddU64 c.rva c.size = some c.stop := by
  rw [checkedAddU64_eq_some, stop, UInt64.toNat_add, Nat.mod_eq_of_lt h.2]

theorem Fits.lt {c : SizeCandidate} (h : c.Fits) : c.rva.toNat < c.stop.toNat := by
  have hstop := checkedAddU64_eq_some.mp h.checkedAdd
  have hpos := h.1
  omega

end SizeCandidate

/-- Functions without the sizes of these candidates. -/
def dropSizes (functions : List ExportFunction) (candidates : List SizeCandidate) :
    List ExportFunction :=
  candidates.foldl (fun functions c => functions.modify c.index ExportFunction.dropSize) functions

/-- One candidate: it is turned away with a warning, or it joins the kept ranges. -/
theorem sweepSize_eq {sweep : SizeSweep} {kept : List SizeCandidate} {c : SizeCandidate}
    (hkept : Holds SizeCandidate.rva SizeCandidate.stop SizeCandidate.index kept sweep.accepted)
    (hc : c.Fits) :
    sweepSize sweep c =
      if ∃ d ∈ kept, d.Meets c then
        ((sweep.warnings.add .overlappingFunctionRange
          (some (.function c.rva))).mapError .error).map fun warnings =>
            { sweep with
              functions := sweep.functions.modify c.index ExportFunction.dropSize
              warnings }
      else .ok { sweep with accepted := sweep.accepted.insert c.rva (c.stop, c.index) } := by
  simp only [sweepSize, hc.checkedAdd, expectSome, except_ok_bind,
    ← hkept.overlapsNeighbour_iff hc.lt]
  split
  · rfl
  · rfl

/-- The sweep turns away what greedy selection rejects, and warns about each. -/
theorem foldlM_sweepSize {candidates : List SizeCandidate} (hfits : ∀ c ∈ candidates, c.Fits)
    {kept : List SizeCandidate} {accepted : KeptRanges ℕ} (functions : List ExportFunction)
    (warnings : WarningAccumulator)
    (hkept : Holds SizeCandidate.rva SizeCandidate.stop SizeCandidate.index kept accepted) :
    ∃ accepted', candidates.foldlM sweepSize ⟨functions, accepted, warnings⟩ =
      ((warnings.addEach .overlappingFunctionRange
        ((rejected SizeCandidate.Meets kept candidates).map fun c => .function c.rva)).mapError
          Fault.error).map fun warnings =>
        ⟨dropSizes functions (rejected SizeCandidate.Meets kept candidates), accepted',
          warnings⟩ := by
  induction candidates generalizing kept functions accepted warnings with
  | nil => exact ⟨accepted, rfl⟩
  | cons c rest ih =>
    obtain ⟨hc, hrest⟩ := List.forall_mem_cons.mp hfits
    rw [List.foldlM_cons, sweepSize_eq hkept hc, rejected]
    by_cases hmeets : ∃ d ∈ kept, d.Meets c
    · simp only [if_pos hmeets, List.map_cons, WarningAccumulator.addEach, List.foldlM_cons]
      cases hadd : warnings.add .overlappingFunctionRange (some (.function c.rva)) with
      | error e => exact ⟨accepted, rfl⟩
      | ok next => exact ih hrest _ next hkept
    · simp only [if_neg hmeets]
      exact ih hrest functions warnings (hkept.insert hc.lt hmeets)

/-! ### What the sweep leaves -/

theorem sizeCandidate_index {f : ExportFunction} {i : ℕ} {c : SizeCandidate}
    (h : sizeCandidate f i = some c) : c.index = i := by
  unfold sizeCandidate at h
  split at h
  · obtain rfl := Option.some.inj h
    rfl
  · cases h

theorem mem_sizeCandidates {functions : List ExportFunction} {c : SizeCandidate} :
    c ∈ sizeCandidates functions ↔
      ∃ f, functions[c.index]? = some f ∧ sizeCandidate f c.index = some c := by
  simp only [sizeCandidates, List.mem_filterMap, Prod.exists, List.mem_zipIdx_iff_getElem?]
  constructor
  · rintro ⟨f, i, hf, h⟩
    obtain rfl := sizeCandidate_index h
    exact ⟨f, hf, h⟩
  · rintro ⟨f, hf, h⟩
    exact ⟨f, c.index, hf, h⟩

theorem pairwise_sizeCandidates (functions : List ExportFunction) :
    (sizeCandidates functions).Pairwise fun a b => a.index < b.index := by
  rw [sizeCandidates, List.pairwise_filterMap]
  refine List.pairwise_iff_getElem.mpr fun i j hi hj hij a ha b hb => ?_
  simp only [List.getElem_zipIdx, Nat.zero_add] at ha hb
  rw [sizeCandidate_index ha, sizeCandidate_index hb]
  exact hij

theorem sizeCandidates_ext {functions : List ExportFunction} {c d : SizeCandidate}
    (hc : c ∈ sizeCandidates functions) (hd : d ∈ sizeCandidates functions)
    (h : c.index = d.index) : c = d := by
  obtain ⟨f, hf, hfc⟩ := mem_sizeCandidates.mp hc
  obtain ⟨g, hg, hgd⟩ := mem_sizeCandidates.mp hd
  rw [h] at hf hfc
  obtain rfl := Option.some.inj (hf.symm.trans hg)
  exact Option.some.inj (hfc.symm.trans hgd)

theorem before_sizeCandidates_iff {functions : List ExportFunction} {c d : SizeCandidate}
    (hc : c ∈ sizeCandidates functions) (hd : d ∈ sizeCandidates functions) (hne : c ≠ d) :
    Before (sizeCandidates functions) c d ↔ c.index < d.index := by
  have hlt : ∀ {a b : SizeCandidate}, Before (sizeCandidates functions) a b → a.index < b.index :=
    fun h => by simpa using (pairwise_sizeCandidates functions).sublist h
  refine ⟨hlt, fun h => (before_total hc hd hne).resolve_right fun hdc => ?_⟩
  have := hlt hdc
  omega

theorem getElem?_dropSizes (functions : List ExportFunction) (candidates : List SizeCandidate)
    (i : ℕ) :
    (dropSizes functions candidates)[i]? = functions[i]?.map fun f =>
      if ∃ c ∈ candidates, c.index = i then f.dropSize else f := by
  induction candidates generalizing functions with
  | nil => simp [dropSizes]
  | cons c rest ih =>
    rw [dropSizes, List.foldl_cons, ← dropSizes, ih, List.getElem?_modify]
    cases functions[i]? with
    | none => rfl
    | some f =>
      by_cases hc : c.index = i
      · subst hc
        by_cases hrest : ∃ d ∈ rest, d.index = c.index
        · simp [hrest, ExportFunction.dropSize]
        · simp [hrest]
      · simp [hc]

/-- What is left of the sized functions is what was not turned away. -/
theorem mem_sizeCandidates_dropSizes {functions : List ExportFunction}
    {candidates : List SizeCandidate} (hsub : ∀ c ∈ candidates, c ∈ sizeCandidates functions)
    {c : SizeCandidate} :
    c ∈ sizeCandidates (dropSizes functions candidates) ↔
      c ∈ sizeCandidates functions ∧ c ∉ candidates := by
  rw [mem_sizeCandidates, getElem?_dropSizes]
  constructor
  · rintro ⟨g, hg, hgc⟩
    obtain ⟨f, hf, rfl⟩ := Option.map_eq_some_iff.mp hg
    by_cases hdrop : ∃ d ∈ candidates, d.index = c.index
    · rw [if_pos hdrop] at hgc
      simp [sizeCandidate, ExportFunction.dropSize] at hgc
    · rw [if_neg hdrop] at hgc
      exact ⟨mem_sizeCandidates.mpr ⟨f, hf, hgc⟩, fun h => hdrop ⟨c, h, rfl⟩⟩
  · rintro ⟨hc, hnot⟩
    obtain ⟨f, hf, hfc⟩ := mem_sizeCandidates.mp hc
    refine ⟨f, ?_, hfc⟩
    rw [hf, Option.map_some, if_neg]
    rintro ⟨d, hd, hindex⟩
    exact hnot (sizeCandidates_ext (hsub d hd) hc hindex ▸ hd)

/-- `d` comes before `c`: by rank, and by position where the rank ties. -/
def Precedes (d c : SizeCandidate) : Prop :=
  sizeOrder d c = .lt ∨ (sizeOrder d c = .eq ∧ d.index < c.index)

/-- The sizes of `out` are the greedy selection from those of `functions`; nothing else changes. -/
structure GreedySizes (functions out : List ExportFunction) : Prop where
  entries : ∀ i f, functions[i]? = some f →
    out[i]? = some f ∨ ((sizeCandidate f i).isSome = true ∧ out[i]? = some f.dropSize)
  length : out.length = functions.length
  retained : ∀ c ∈ sizeCandidates out, c ∈ sizeCandidates functions
  disjoint : ∀ c ∈ sizeCandidates out, ∀ d ∈ sizeCandidates out, c ≠ d → ¬ c.Meets d
  greedy : ∀ c ∈ sizeCandidates functions,
    (c ∈ sizeCandidates out ↔ ∀ d ∈ sizeCandidates out, Precedes d c → ¬ d.Meets c)

theorem length_dropSizes (functions : List ExportFunction) (candidates : List SizeCandidate) :
    (dropSizes functions candidates).length = functions.length := by
  induction candidates generalizing functions with
  | nil => rfl
  | cons c rest ih => rw [dropSizes, List.foldl_cons, ← dropSizes, ih, List.length_modify]

theorem nodup_sizeCandidates (functions : List ExportFunction) :
    (sizeCandidates functions).Nodup :=
  (pairwise_sizeCandidates functions).imp fun h heq => by simp [heq] at h

/-- The sized functions that greedy selection rejects, in rank order. -/
def overlapping (functions : List ExportFunction) : List SizeCandidate :=
  rejected SizeCandidate.Meets [] (sortBy sizeOrder (sizeCandidates functions))

theorem mem_overlapping {functions : List ExportFunction} {c : SizeCandidate} :
    c ∈ overlapping functions ↔ c ∈ sizeCandidates functions ∧
      c ∉ greedy SizeCandidate.Meets [] (sortBy sizeOrder (sizeCandidates functions)) := by
  rw [overlapping, mem_rejected_iff _ (by simpa using nodup_sortBy (nodup_sizeCandidates _)),
    mem_sortBy]

theorem greedySizes_dropSizes (functions : List ExportFunction) :
    GreedySizes functions (dropSizes functions (overlapping functions)) := by
  have hcandidates := nodup_sizeCandidates functions
  have hnodup : (sortBy sizeOrder (sizeCandidates functions)).Nodup := nodup_sortBy hcandidates
  have hkept : ∀ c, c ∈ sizeCandidates (dropSizes functions (overlapping functions)) ↔
      c ∈ greedy SizeCandidate.Meets [] (sortBy sizeOrder (sizeCandidates functions)) := by
    intro c
    rw [mem_sizeCandidates_dropSizes fun c hc => (mem_overlapping.mp hc).1, mem_overlapping]
    constructor
    · rintro ⟨hc, hnot⟩
      by_contra hgreedy
      exact hnot ⟨hc, hgreedy⟩
    · intro hc
      exact ⟨mem_sortBy.mp ((greedy_sublist _ _).subset hc), fun h => h.2 hc⟩
  have hretained : ∀ c ∈ sizeCandidates (dropSizes functions (overlapping functions)),
      c ∈ sizeCandidates functions :=
    fun c hc => mem_sortBy.mp ((greedy_sublist _ _).subset ((hkept c).mp hc))
  refine ⟨fun i f hf => ?_, length_dropSizes _ _, hretained, fun c hc d hd hne => ?_,
    fun c hc => ?_⟩
  · rw [getElem?_dropSizes, hf, Option.map_some]
    by_cases hdrop : ∃ c ∈ overlapping functions, c.index = i
    · obtain ⟨c, hc, rfl⟩ := hdrop
      obtain ⟨g, hg, hgc⟩ := mem_sizeCandidates.mp (mem_overlapping.mp hc).1
      obtain rfl := Option.some.inj (hg.symm.trans hf)
      exact .inr ⟨by rw [hgc]; rfl, by rw [if_pos ⟨c, hc, rfl⟩]⟩
    · exact .inl (by rw [if_neg hdrop])
  · have hpair : (greedy SizeCandidate.Meets []
        (sortBy sizeOrder (sizeCandidates functions))).Pairwise fun a b => ¬ a.Meets b :=
      greedy_pairwise .nil _
    have : Std.Symm fun a b : SizeCandidate => ¬ a.Meets b := ⟨fun _ _ hxy hyx => hxy hyx.symm⟩
    exact hpair.forall ((hkept c).mp hc) ((hkept d).mp hd) hne
  · rw [hkept, mem_greedy_iff hnodup (mem_sortBy.mpr hc)]
    refine forall_congr' fun d => ?_
    rw [hkept]
    refine imp_congr_right fun hd => ?_
    have hdmem : d ∈ sizeCandidates functions := mem_sortBy.mp ((greedy_sublist _ _).subset hd)
    by_cases hne : d = c
    · subst hne
      have hself : ¬ Before (sortBy sizeOrder (sizeCandidates functions)) d d :=
        fun h => not_before_of_before hnodup h h
      have hprec : ¬ Precedes d d := by
        simp [Precedes, Std.ReflCmp.compare_self]
      simp [hself, hprec]
    · rw [before_sortBy_iff hcandidates hdmem hc hne, before_sizeCandidates_iff hdmem hc hne]
      rfl

/-- The whole sweep: greedy selection, and one warning for each size that is dropped. -/
theorem removeOverlappingFunctionSizes_eq {functions : List ExportFunction}
    (hfits : ∀ c ∈ sizeCandidates functions, c.Fits) (warnings : WarningAccumulator) :
    removeOverlappingFunctionSizes functions warnings =
      ((warnings.addEach .overlappingFunctionRange
        ((overlapping functions).map fun c => .function c.rva)).mapError Fault.error).map
        fun warnings => (dropSizes functions (overlapping functions), warnings) := by
  obtain ⟨accepted, h⟩ := foldlM_sweepSize (fun c hc => hfits c (mem_sortBy.mp hc)) functions
    warnings holds_empty
  rw [removeOverlappingFunctionSizes, h, ← overlapping]
  cases warnings.addEach .overlappingFunctionRange
    ((overlapping functions).map fun c => .function c.rva) <;> rfl

/-! ### Recovered strings -/

/-- Attribution, then address, size, encoding and value. -/
def stringOrder (left right : ExportRecoveredString) : Ordering :=
  ((((attributionOrder left.attribution right.attribution).then
    (compare left.rva right.rva)).then (compare left.byteSize right.byteSize)).then
    (compare left.encoding right.encoding)).then (compare left.value right.value)

instance : Std.TransCmp stringOrder :=
  inferInstanceAs (Std.TransCmp (compareLex (compareLex (compareLex (compareLex
    (fun a b : ExportRecoveredString => attributionOrder a.attribution b.attribution)
    (compareOn ExportRecoveredString.rva)) (compareOn ExportRecoveredString.byteSize))
    (compareOn ExportRecoveredString.encoding)) (compareOn ExportRecoveredString.value)))

def retainString (retained : KeptRanges ExportRecoveredString)
    (candidate : ExportRecoveredString) : KeptRanges ExportRecoveredString :=
  match checkedAddU64 candidate.rva candidate.byteSize with
  | none => retained
  | some stop =>
    if overlapsNeighbour retained candidate.rva stop then retained
    else retained.insert candidate.rva (stop, candidate)

/-- The strings that are kept, in order. -/
def selectNonOverlappingStrings (candidates : List ExportRecoveredString) :
    List ExportRecoveredString :=
  let retained := (sortBy stringOrder candidates).foldl retainString ∅
  retained.toList.map fun entry => entry.2.2

/-- `u64::checked_sub`. -/
def checkedSub (a b : ℕ) : Option ℕ := if b ≤ a then some (a - b) else none

/-- The size of a string without its terminator. -/
def contentSize (string : ExportRecoveredString) : Option ℕ :=
  match string.encoding with
  | .ascii => checkedSub string.byteSize.toNat 1
  | .utf16Le => checkedSub string.byteSize.toNat 2

/-- The kept string whose text holds an address. -/
def referencedStringRva (strings : List ExportRecoveredString) (targetRva : UInt64) :
    Option UInt64 := do
  let index ← checkedSub (partitionPoint (fun string => decide (string.rva ≤ targetRva)) strings) 1
  let string ← strings[index]?
  let content ← contentSize string
  let offset ← checkedSub targetRva.toNat string.rva.toNat
  if content ≤ offset ∨ (string.encoding = .utf16Le ∧ offset % 2 ≠ 0) then none
  else some string.rva

namespace ExportRecoveredString

def stop (string : ExportRecoveredString) : UInt64 := string.rva + string.byteSize

/-- The ranges of two strings share an address. -/
abbrev Meets (a b : ExportRecoveredString) : Prop :=
  Overlap (fun string : ExportRecoveredString => string.rva.toNat)
    (fun string => string.stop.toNat) a b

/-- Bytes of the terminator. -/
def terminator (string : ExportRecoveredString) : ℕ :=
  match string.encoding with
  | .ascii => 1
  | .utf16Le => 2

/-- The target is one of the content bytes of the string, and where units have two bytes it is the
    first of one. -/
def HasContentAt (string : ExportRecoveredString) (targetRva : UInt64) : Prop :=
  string.rva.toNat ≤ targetRva.toNat ∧
    targetRva.toNat + string.terminator < string.rva.toNat + string.byteSize.toNat ∧
    (string.encoding = .utf16Le → (targetRva.toNat - string.rva.toNat) % 2 = 0)

theorem stop_toNat {string : ExportRecoveredString} {imageSize : UInt64}
    (h : validRange string.rva (some string.byteSize) imageSize = true) :
    string.rva.toNat < string.stop.toNat ∧
      checkedAddU64 string.rva string.byteSize = some string.stop := by
  have hrange := validRange_some h
  have hlt : string.rva.toNat + string.byteSize.toNat < 2 ^ 64 := by
    have := imageSize.toNat_lt
    omega
  have hadd : checkedAddU64 string.rva string.byteSize = some string.stop := by
    rw [checkedAddU64_eq_some, stop, UInt64.toNat_add, Nat.mod_eq_of_lt hlt]
  have hstop := checkedAddU64_eq_some.mp hadd
  exact ⟨by omega, hadd⟩

end ExportRecoveredString

/-- The retained strings are the greedy selection. -/
theorem foldl_retainString {imageSize : UInt64} {candidates : List ExportRecoveredString}
    (himage : ∀ s ∈ candidates, validRange s.rva (some s.byteSize) imageSize = true)
    {kept : List ExportRecoveredString} {retained : KeptRanges ExportRecoveredString}
    (hkept : Holds ExportRecoveredString.rva ExportRecoveredString.stop id kept retained) :
    Holds ExportRecoveredString.rva ExportRecoveredString.stop id
      (greedy ExportRecoveredString.Meets kept candidates)
      (candidates.foldl retainString retained) := by
  induction candidates generalizing kept retained with
  | nil => exact hkept
  | cons string rest ih =>
    obtain ⟨hstring, hrest⟩ := List.forall_mem_cons.mp himage
    obtain ⟨hlt, hadd⟩ := ExportRecoveredString.stop_toNat hstring
    rw [List.foldl_cons, greedy_cons]
    apply ih hrest
    by_cases hmeets : ∃ d ∈ kept, d.Meets string
    · rw [if_pos hmeets, retainString, hadd]
      simp only [(hkept.overlapsNeighbour_iff hlt).mpr hmeets, if_true]
      exact hkept
    · rw [if_neg hmeets, retainString, hadd]
      have hnone : overlapsNeighbour retained string.rva string.stop = false := by
        rw [← Bool.not_eq_true, hkept.overlapsNeighbour_iff hlt]
        exact hmeets
      simp only [hnone, Bool.false_eq_true, if_false]
      exact hkept.insert hlt hmeets

/-- `out` is the greedy selection of the candidates, in the order of the addresses. -/
structure GreedyStrings (candidates out : List ExportRecoveredString) : Prop where
  retained : ∀ s ∈ out, s ∈ candidates
  separated : Separated (fun string : ExportRecoveredString => string.rva.toNat)
    (fun string => string.stop.toNat) out
  greedy : ∀ s ∈ candidates,
    (s ∈ out ↔ ∀ t ∈ out, stringOrder t s = .lt → ¬ t.Meets s)

theorem greedyStrings_select {imageSize : UInt64} {candidates : List ExportRecoveredString}
    (himage : ∀ s ∈ candidates, validRange s.rva (some s.byteSize) imageSize = true)
    (hdistinct : candidates.Pairwise fun a b => a.rva ≠ b.rva) :
    GreedyStrings candidates (selectNonOverlappingStrings candidates) := by
  have hnodup : candidates.Nodup := hdistinct.imp fun h heq => h (by rw [heq])
  have hsorted : (sortBy stringOrder candidates).Nodup := nodup_sortBy hnodup
  have hrange : ∀ s ∈ sortBy stringOrder candidates,
      validRange s.rva (some s.byteSize) imageSize = true :=
    fun s hs => himage s (mem_sortBy.mp hs)
  have hempty : Holds ExportRecoveredString.rva ExportRecoveredString.stop id []
      (∅ : KeptRanges ExportRecoveredString) := holds_empty
  have hholds := foldl_retainString hrange hempty
  have hentry : ∀ entry ∈ ((sortBy stringOrder candidates).foldl retainString ∅).toList,
      entry = (entry.2.2.rva, entry.2.2.stop, entry.2.2) := by
    rintro ⟨k, v⟩ h
    obtain ⟨s, -, rfl, rfl⟩ := (hholds.entry k v).mp
      (Std.ExtTreeMap.mem_toList_iff_getElem?_eq_some.mp h)
    rfl
  have hmem : ∀ s, s ∈ selectNonOverlappingStrings candidates ↔
      s ∈ greedy ExportRecoveredString.Meets [] (sortBy stringOrder candidates) := by
    intro s
    simp only [selectNonOverlappingStrings, List.mem_map, Prod.exists]
    constructor
    · rintro ⟨k, stop, string, h, rfl⟩
      obtain ⟨t, ht, -, hpair⟩ := (hholds.entry _ _).mp
        (Std.ExtTreeMap.mem_toList_iff_getElem?_eq_some.mp h)
      rw [← (Prod.mk.inj hpair).2]
      exact ht
    · intro h
      exact ⟨s.rva, s.stop, s, Std.ExtTreeMap.mem_toList_iff_getElem?_eq_some.mpr
        ((hholds.entry _ _).mpr ⟨s, h, rfl, rfl⟩), rfl⟩
  have hretained : ∀ s ∈ selectNonOverlappingStrings candidates, s ∈ candidates :=
    fun s hs => mem_sortBy.mp ((greedy_sublist _ _).subset ((hmem s).mp hs))
  refine ⟨hretained, ⟨fun s hs => hholds.nonempty s ((hmem s).mp hs), ?_⟩, fun s hs => ?_⟩
  · refine List.pairwise_map.mpr (hholds.separated.2.imp_of_mem fun {a b} ha hb h => ?_)
    rw [hentry a ha, hentry b hb] at h
    exact h
  · rw [hmem, mem_greedy_iff hsorted (mem_sortBy.mpr hs)]
    refine forall_congr' fun t => ?_
    rw [hmem]
    refine imp_congr_right fun ht => ?_
    have htmem : t ∈ candidates := mem_sortBy.mp ((greedy_sublist _ _).subset ht)
    by_cases hne : t = s
    · subst hne
      have hself : ¬ Before (sortBy stringOrder candidates) t t :=
        fun h => not_before_of_before hsorted h h
      simp [hself, Std.ReflCmp.compare_self]
    · have hrva : t.rva ≠ s.rva := by
        have : Std.Symm fun a b : ExportRecoveredString => a.rva ≠ b.rva := ⟨fun _ _ h => h.symm⟩
        exact hdistinct.forall htmem hs hne
      -- different addresses leave no tie
      have hties : stringOrder t s ≠ .eq := by
        simp only [stringOrder, Ordering.then_eq_eq, ne_eq, not_and]
        intro h
        exact absurd (Std.LawfulEqOrd.eq_of_compare h.1.1.2) hrva
      rw [before_sortBy_iff hnodup htmem hs hne]
      simp [hties]

/-- Whether the string at a position has the target in its content. -/
theorem referencedStringRva_eq_some {strings : List ExportRecoveredString}
    {targetRva rva : UInt64} :
    referencedStringRva strings targetRva = some rva ↔
      ∃ i string, partitionPoint (fun string => decide (string.rva ≤ targetRva)) strings = i + 1 ∧
        strings[i]? = some string ∧ string.rva = rva ∧ string.HasContentAt targetRva := by
  have hsub : ∀ {a b c : ℕ}, checkedSub a b = some c ↔ b ≤ a ∧ a - b = c := by
    intro a b c
    unfold checkedSub
    split <;> simp_all
  have hcontentSize : ∀ {string : ExportRecoveredString} {c : ℕ}, contentSize string = some c ↔
      string.terminator ≤ string.byteSize.toNat ∧
        string.byteSize.toNat - string.terminator = c := by
    intro string c
    unfold contentSize ExportRecoveredString.terminator
    cases string.encoding <;> exact hsub
  simp only [referencedStringRva, Option.bind_eq_bind, Option.bind_eq_some_iff, hsub, hcontentSize]
  constructor
  · rintro ⟨i, ⟨hpos, hi⟩, string, hget, content, ⟨hsize, rfl⟩, offset, ⟨hle, rfl⟩, h⟩
    split at h
    case isTrue => cases h
    case isFalse hnot =>
      obtain rfl := Option.some.inj h
      refine ⟨i, string, by omega, hget, rfl, hle, by omega, fun henc => ?_⟩
      by_contra hodd
      exact hnot (.inr ⟨henc, hodd⟩)
  · rintro ⟨i, string, hpoint, hget, rfl, hle, hcontent, heven⟩
    refine ⟨i, ⟨by omega, by omega⟩, string, hget, _, ⟨by omega, rfl⟩, _, ⟨hle, rfl⟩, ?_⟩
    rw [if_neg]
    rintro (hge | ⟨henc, hodd⟩)
    · omega
    · exact hodd (heven henc)

/-- In a separated row the answer is the one string with the target in its content. -/
theorem referencedStringRva_iff {imageSize : UInt64} {strings : List ExportRecoveredString}
    (himage : ∀ s ∈ strings, validRange s.rva (some s.byteSize) imageSize = true)
    (hsep : Separated (fun string : ExportRecoveredString => string.rva.toNat)
      (fun string => string.stop.toNat) strings) (targetRva rva : UInt64) :
    referencedStringRva strings targetRva = some rva ↔
      ∃ string ∈ strings, string.rva = rva ∧ string.HasContentAt targetRva := by
  have hsorted : strings.Pairwise fun a b : ExportRecoveredString =>
      decide (b.rva ≤ targetRva) = true → decide (a.rva ≤ targetRva) = true := by
    refine hsep.starts.imp fun h => ?_
    simp only [decide_eq_true_eq, UInt64.le_iff_toNat_le]
    omega
  have hpoint := lt_partitionPoint_iff hsorted
  rw [referencedStringRva_eq_some]
  constructor
  · rintro ⟨i, string, -, hget, hrva, hcontent⟩
    exact ⟨string, List.mem_of_getElem? hget, hrva, hcontent⟩
  · rintro ⟨string, hmem, hrva, hcontent⟩
    obtain ⟨i, hget⟩ := List.mem_iff_getElem?.mp hmem
    have hi := (hpoint i).mpr ⟨string, hget, by
      simpa [UInt64.le_iff_toNat_le] using hcontent.1⟩
    refine ⟨i, string, ?_, hget, hrva, hcontent⟩
    by_contra hne
    -- the next string starts behind the end of this one, so behind the target
    obtain ⟨next, hnext, hstart⟩ := (hpoint (i + 1)).mp (by omega)
    obtain ⟨hlt, heq⟩ := List.getElem?_eq_some_iff.mp hget
    obtain ⟨hlt', heq'⟩ := List.getElem?_eq_some_iff.mp hnext
    have hafter := List.pairwise_iff_getElem.mp hsep.2 i (i + 1) hlt hlt' (by omega)
    rw [heq, heq'] at hafter
    dsimp only at hafter
    have hstop := checkedAddU64_eq_some.mp (ExportRecoveredString.stop_toNat (himage string hmem)).2
    have hstart : next.rva.toNat ≤ targetRva.toNat := by
      simpa [UInt64.le_iff_toNat_le] using hstart
    have := hcontent.2.1
    omega

/-! ### Overlap removal is greedy by rank -/

/-- The sized functions of `functions` that have lost their size in `out`. -/
def droppedSizes (functions out : List ExportFunction) : List SizeCandidate :=
  (sizeCandidates functions).filter fun c => c ∉ sizeCandidates out

/-- The warning about a dropped size. -/
def overlapWarning (c : SizeCandidate) : WarningKey :=
  ⟨.overlappingFunctionRange, some (.function c.rva)⟩

theorem overlapping_perm (functions : List ExportFunction) :
    (overlapping functions).Perm
      (droppedSizes functions (dropSizes functions (overlapping functions))) := by
  have hnodup := nodup_sizeCandidates functions
  refine (List.perm_ext_iff_of_nodup ?_ (hnodup.filter _)).mpr fun c => ?_
  · exact (nodup_sortBy hnodup).sublist (rejected_sublist _ _ _)
  · simp only [List.mem_filter, decide_eq_true_eq, not_and, not_not,
      mem_sizeCandidates_dropSizes fun c hc => (mem_overlapping.mp hc).1]
    exact ⟨fun h => ⟨(mem_overlapping.mp h).1, fun _ => h⟩, fun h => h.2 h.1⟩

theorem sizeCandidates_fits {imageSize : UInt64} {functions : List ExportFunction}
    (himage : ∀ f ∈ functions, ∀ size ∈ f.size, validRange f.rva (some size) imageSize = true) :
    ∀ c ∈ sizeCandidates functions, c.Fits := by
  intro c hc
  obtain ⟨f, hf, hfc⟩ := mem_sizeCandidates.mp hc
  unfold sizeCandidate at hfc
  split at hfc
  · rename_i size attribution hsize hattribution
    have hc := Option.some.inj hfc
    have hrva : c.rva = f.rva := congrArg SizeCandidate.rva hc.symm
    have hcsize : c.size = size := congrArg SizeCandidate.size hc.symm
    have hrange := validRange_some (himage f (List.mem_of_getElem? hf) size hsize)
    have := imageSize.toNat_lt
    rw [SizeCandidate.Fits, hrva, hcsize]
    omega
  · cases hfc

/-- Sizes that come with attributions are all in the sweep, so the ranges left are disjoint. -/
theorem GreedySizes.ranges_disjoint {imageSize : UInt64} {functions out : List ExportFunction}
    (h : GreedySizes functions out)
    (hsizes : ∀ f ∈ functions, f.size.isSome = f.sizeAttribution.isSome)
    (himage : ∀ f ∈ functions, ∀ size ∈ f.size, validRange f.rva (some size) imageSize = true)
    {i j : ℕ} {f g : ExportFunction} {s t : UInt64} (hij : i ≠ j) (hf : out[i]? = some f)
    (hg : out[j]? = some g) (hs : f.size = some s) (ht : g.size = some t) :
    f.rva.toNat + s.toNat ≤ g.rva.toNat ∨ g.rva.toNat + t.toNat ≤ f.rva.toNat := by
  have hcandidate : ∀ {i : ℕ} {f : ExportFunction} {s : UInt64}, out[i]? = some f →
      f.size = some s → ∃ c ∈ sizeCandidates out, c.index = i ∧ c.rva = f.rva ∧ c.size = s := by
    intro i f s hf hs
    obtain ⟨hlt, -⟩ := List.getElem?_eq_some_iff.mp hf
    rw [h.length] at hlt
    obtain ⟨f', hf'⟩ : ∃ f', functions[i]? = some f' := ⟨_, List.getElem?_eq_getElem hlt⟩
    rcases h.entries i f' hf' with hout | ⟨-, hout⟩
    · obtain rfl := Option.some.inj (hout.symm.trans hf)
      have hattr := hsizes f' (List.mem_of_getElem? hf')
      rw [hs, Option.isSome_some] at hattr
      obtain ⟨attribution, hattr⟩ := Option.isSome_iff_exists.mp hattr.symm
      exact ⟨⟨i, f'.rva, s, attribution⟩,
        mem_sizeCandidates.mpr ⟨f', hf, by simp [sizeCandidate, hs, hattr]⟩, rfl, rfl, rfl⟩
    · obtain rfl := Option.some.inj (hout.symm.trans hf)
      simp [ExportFunction.dropSize] at hs
  obtain ⟨c, hc, hci, hcr, rfl⟩ := hcandidate hf hs
  obtain ⟨d, hd, hdj, hdr, rfl⟩ := hcandidate hg ht
  have hne : c ≠ d := by
    rintro rfl
    exact hij (hci.symm.trans hdj)
  have hdisjoint := h.disjoint c hc d hd hne
  have hcfits := sizeCandidates_fits himage c (h.retained c hc)
  have hdfits := sizeCandidates_fits himage d (h.retained d hd)
  have hcstop := checkedAddU64_eq_some.mp hcfits.checkedAdd
  have hdstop := checkedAddU64_eq_some.mp hdfits.checkedAdd
  simp only [SizeCandidate.Meets, Overlap, not_and, not_lt] at hdisjoint
  rw [← hcr, ← hdr]
  omega

/-- An accumulator with a warning about each of the first `n` addresses. -/
def addressWarnings (n : ℕ) : WarningAccumulator :=
  ⟨(List.range n).foldl (fun values i =>
    values.insert ⟨.addressOutsideImage, some (.global (.ofNat i))⟩ 1) ∅⟩

theorem addressWarnings_full {n : ℕ} (hn : n ≤ 2 ^ 64) :
    (addressWarnings n).values.size = n ∧ ∀ key ∈ (addressWarnings n).values,
      ∃ i < n, key = ⟨.addressOutsideImage, some (.global (.ofNat i))⟩ := by
  induction n with
  | zero => simp [addressWarnings]
  | succ n ih =>
    obtain ⟨hsize, hkeys⟩ := ih (by omega)
    have hnext : (addressWarnings (n + 1)).values = (addressWarnings n).values.insert
        ⟨.addressOutsideImage, some (.global (.ofNat n))⟩ 1 := by
      simp [addressWarnings, List.range_succ]
    have hnew : ⟨.addressOutsideImage, some (.global (.ofNat n))⟩ ∉ (addressWarnings n).values := by
      intro hmem
      obtain ⟨i, hi, heq⟩ := hkeys _ hmem
      have heq : UInt64.ofNat n = UInt64.ofNat i := by simpa using heq
      rw [← UInt64.toNat_inj, UInt64.toNat_ofNat', UInt64.toNat_ofNat',
        Nat.mod_eq_of_lt (by omega), Nat.mod_eq_of_lt (by omega)] at heq
      omega
    refine ⟨?_, fun key hkey => ?_⟩
    · rw [hnext, Std.ExtTreeMap.size_insert, if_neg (by simpa using hnew), hsize]
    · rw [hnext, Std.ExtTreeMap.mem_insert] at hkey
      rcases hkey with heq | hkey
      · exact ⟨n, by omega, (Std.LawfulEqOrd.eq_of_compare heq).symm⟩
      · obtain ⟨i, hi, hkey⟩ := hkeys key hkey
        exact ⟨i, by omega, hkey⟩

/-- Two functions of 16 bytes, the second inside the first. -/
def nestedFunctions : List ExportFunction :=
  [0x1000, 0x1008].map fun rva =>
    { rva, entryAttribution := none, size := some 16,
      sizeAttribution := some ⟨0, ⟨.user none, "review", none⟩⟩, selectedName := none,
      alternateNames := [], prototypes := [], classMemberships := [] }

theorem nestedFunctions_valid :
    (∀ f ∈ nestedFunctions, f.size.isSome = f.sizeAttribution.isSome) ∧
      ∀ f ∈ nestedFunctions, ∀ size ∈ f.size, validRange f.rva (some size) 0x2000 = true := by
  refine ⟨by decide, ?_⟩
  simp only [nestedFunctions, List.map_cons, List.map_nil, List.forall_mem_cons]
  refine ⟨?_, ?_, by simp⟩
  · rintro size ⟨⟩
    decide
  · rintro size ⟨⟩
    decide

theorem nestedFunctions_overlapping :
    overlapping nestedFunctions = [⟨1, 0x1008, 16, ⟨0, ⟨.user none, "review", none⟩⟩⟩] := by
  rw [overlapping, sortBy_of_pairwise (by decide +kernel)]
  decide +kernel

/-- With as many other warnings as there may be, the sweep fails and gives no functions back. -/
theorem overlap_removal_fails_at_warning_limit :
    (∀ f ∈ nestedFunctions, f.size.isSome = f.sizeAttribution.isSome) ∧
    (∀ f ∈ nestedFunctions, ∀ size ∈ f.size, validRange f.rva (some size) 0x2000 = true) ∧
    removeOverlappingFunctionSizes nestedFunctions (addressWarnings maxWarnings) =
      .error (.error (.limitExceeded "warning" maxWarnings)) := by
  obtain ⟨hsizes, himage⟩ := nestedFunctions_valid
  obtain ⟨hsize, hkeys⟩ := addressWarnings_full (show maxWarnings ≤ 2 ^ 64 by decide)
  have hnew : ⟨.overlappingFunctionRange, some (.function 0x1008)⟩ ∉
      (addressWarnings maxWarnings).values := by
    intro hmem
    obtain ⟨i, -, heq⟩ := hkeys _ hmem
    simp at heq
  refine ⟨hsizes, himage, ?_⟩
  rw [removeOverlappingFunctionSizes_eq (sizeCandidates_fits himage), nestedFunctions_overlapping,
    List.map_cons, WarningAccumulator.addEach, List.foldlM_cons,
    WarningAccumulator.add_of_full hsize hnew]
  rfl

/-- CORRECT (overlap removal): the sizes and the strings that are left are disjoint and are exactly
    those that no stronger one left overlaps; a function that loses its size keeps all else and
    leaves one warning; the projection fails exactly if the accumulator has no room for these
    warnings; and a target in the content of a string left is resolved to it, and no other target
    is. -/
theorem overlap_removal_greedy :
    (∀ (imageSize : UInt64) (functions : List ExportFunction) (warnings : WarningAccumulator),
      (∀ f ∈ functions, f.size.isSome = f.sizeAttribution.isSome) →
      (∀ f ∈ functions, ∀ size ∈ f.size, validRange f.rva (some size) imageSize = true) →
      ∃ out, GreedySizes functions out ∧
        (∀ (i j : ℕ) (f g : ExportFunction) (s t : UInt64), i ≠ j → out[i]? = some f →
          out[j]? = some g → f.size = some s → g.size = some t →
          f.rva.toNat + s.toNat ≤ g.rva.toNat ∨ g.rva.toNat + t.toNat ≤ f.rva.toNat) ∧
        ((∃ after, removeOverlappingFunctionSizes functions warnings = .ok (out, after) ∧
          ∀ key, after.count key = warnings.count key +
            ((droppedSizes functions out).map overlapWarning).count key) ∨
        ∃ e, removeOverlappingFunctionSizes functions warnings = .error (.error e) ∧
          WarningAccumulator.IsLimit e) ∧
        (warnings.values.size ≤ maxWarnings →
          ((∃ result, removeOverlappingFunctionSizes functions warnings = .ok result) ↔
            warnings.Room ((droppedSizes functions out).map overlapWarning)))) ∧
    ∀ (imageSize : UInt64) (candidates : List ExportRecoveredString),
      (∀ s ∈ candidates, validRange s.rva (some s.byteSize) imageSize = true) →
      candidates.Pairwise (fun a b => a.rva ≠ b.rva) →
      GreedyStrings candidates (selectNonOverlappingStrings candidates) ∧
      ∀ targetRva,
        (∀ rva, referencedStringRva (selectNonOverlappingStrings candidates) targetRva = some rva ↔
          ∃ s ∈ selectNonOverlappingStrings candidates, s.rva = rva ∧ s.HasContentAt targetRva) ∧
        ∀ s ∈ selectNonOverlappingStrings candidates,
          ∀ t ∈ selectNonOverlappingStrings candidates,
            s.HasContentAt targetRva → t.HasContentAt targetRva → s = t := by
  refine ⟨fun imageSize functions warnings hsizes himage => ?_,
    fun imageSize candidates himage hdistinct => ?_⟩
  · have hgreedy := greedySizes_dropSizes functions
    refine ⟨_, hgreedy, fun i j f g s t hij hf hg hs ht =>
      hgreedy.ranges_disjoint hsizes himage hij hf hg hs ht, ?_, fun hsize => ?_⟩ <;>
      rw [removeOverlappingFunctionSizes_eq (sizeCandidates_fits himage)]
    rotate_left
    · rw [← WarningAccumulator.room_perm ((overlapping_perm functions).map overlapWarning)]
      have hroom := WarningAccumulator.addEach_ok_iff .overlappingFunctionRange
        ((overlapping functions).map fun c => .function c.rva) hsize
      rw [List.map_map] at hroom
      refine Iff.trans ?_ hroom
      cases warnings.addEach .overlappingFunctionRange
        ((overlapping functions).map fun c => .function c.rva) <;> simp
        [Except.mapError, Except.map]
    rcases WarningAccumulator.addEach_cases warnings .overlappingFunctionRange
      ((overlapping functions).map fun c => .function c.rva)
      with ⟨after, hafter, hcount⟩ | ⟨e, he, hlimit⟩
    · refine .inl ⟨after, by rw [hafter]; rfl, fun key => ?_⟩
      rw [hcount, List.map_map, ((overlapping_perm functions).map _).count_eq]
      rfl
    · exact .inr ⟨e, by rw [he]; rfl, hlimit⟩
  · have hgreedy := greedyStrings_select himage hdistinct
    have hin : ∀ s ∈ selectNonOverlappingStrings candidates,
        validRange s.rva (some s.byteSize) imageSize = true :=
      fun s hs => himage s (hgreedy.retained s hs)
    refine ⟨hgreedy, fun targetRva => ⟨referencedStringRva_iff hin hgreedy.separated targetRva,
      fun s hs t ht hcontent hcontent' => ?_⟩⟩
    by_contra hne
    have : Std.Symm fun a b : ExportRecoveredString => ¬ a.Meets b := ⟨fun _ _ h h' => h h'.symm⟩
    refine hgreedy.separated.not_overlap.forall hs ht hne ?_
    have hs := checkedAddU64_eq_some.mp (ExportRecoveredString.stop_toNat (hin s hs)).2
    have ht := checkedAddU64_eq_some.mp (ExportRecoveredString.stop_toNat (hin t ht)).2
    have := hcontent.1
    have := hcontent.2.1
    have := hcontent'.1
    have := hcontent'.2.1
    simp only [Overlap]
    omega

/-- A string that reaches into another one. -/
def nestedStrings : List ExportRecoveredString :=
  [⟨0x3000, 6, .ascii, "hello", ⟨F64.one, ⟨.user none, "review", none⟩⟩⟩,
    ⟨0x3002, 4, .ascii, "llo", ⟨0, ⟨.user none, "review", none⟩⟩⟩]

/-- The second function loses its size with one warning, and the first string is left alone. -/
theorem overlap_removal_greedy_nested :
    (∃ out after, removeOverlappingFunctionSizes nestedFunctions .new = .ok (out, after) ∧
      GreedySizes nestedFunctions out ∧ out.map (·.size) = [some 16, none] ∧
      after.count ⟨.overlappingFunctionRange, some (.function 0x1008)⟩ = 1) ∧
    GreedyStrings nestedStrings (selectNonOverlappingStrings nestedStrings) ∧
    (selectNonOverlappingStrings nestedStrings).map (·.rva) = [0x3000] := by
  obtain ⟨hsizes, hstrings⟩ := overlap_removal_greedy
  obtain ⟨out, hout, -, hrun, -⟩ := hsizes 0x2000 nestedFunctions .new nestedFunctions_valid.1
    nestedFunctions_valid.2
  have heq := removeOverlappingFunctionSizes_eq (sizeCandidates_fits nestedFunctions_valid.2) .new
  rw [nestedFunctions_overlapping] at heq
  refine ⟨?_, (hstrings 0x4000 nestedStrings (by decide +kernel) (by decide +kernel)).1, ?_⟩
  · rcases hrun with ⟨after, hafter, hcount⟩ | ⟨e, he, -⟩
    · cases heq.symm.trans hafter
      exact ⟨_, _, hafter, hout, by decide +kernel, (hcount _).trans (by decide +kernel)⟩
    · cases heq.symm.trans he
  · rw [selectNonOverlappingStrings, sortBy_of_pairwise (by decide +kernel)]
    decide +kernel

end ReSymbol.Export
