import ReSymbol.Schemes.Merging

/-! Which addresses may be called as functions.

    The exception table covers addresses by the ranges of its runtime functions. A target inside a
    covered range is an unsubstantiated label, unless a function is known to start there.

        ───[ f          )────[ g     )──────▶ RVA
           ✓ ✗ ✗ ✗ ✗ ✗  ✓ ✓ ✓ ✓ ✗ ✗ ✗ ✓ ✓

    The table may hold anything, so its ranges are sorted and merged before they are searched. -/

namespace ReSymbol.Analysis
open Schemes

structure RuntimeFunction where
  beginRva : ℕ
  endRva : ℕ

structure RuntimeTargetPolicy where
  knownStarts : List ℕ
  coveredIntervals : List (ℕ × ℕ)

namespace RuntimeTargetPolicy

/-- The order of pairs. -/
def rangeOrder : ℕ × ℕ → ℕ × ℕ → Ordering := compareLex (compareOn Prod.fst) (compareOn Prod.snd)

instance : Std.TransCmp rangeOrder :=
  inferInstanceAs (Std.TransCmp (compareLex (compareOn Prod.fst) (compareOn Prod.snd)))

/-- The range of a function, none when it is empty. -/
def functionRange (function : RuntimeFunction) : Option (ℕ × ℕ) :=
  if function.beginRva < function.endRva then some (function.beginRva, function.endRva) else none

def new (runtimeFunctions : List RuntimeFunction) (additionalStarts : List ℕ) :
    RuntimeTargetPolicy where
  knownStarts := runtimeFunctions.map RuntimeFunction.beginRva ++ additionalStarts
  coveredIntervals := mergeRanges (sortBy rangeOrder (runtimeFunctions.filterMap functionRange))

def allowsFunctionTarget (policy : RuntimeTargetPolicy) (rva : ℕ) : Bool :=
  if rva ∈ policy.knownStarts then true
  else
    let candidate := partitionPoint (fun range => range.1 ≤ rva) policy.coveredIntervals
    candidate = 0 || (policy.coveredIntervals[candidate - 1]?).any fun range => rva ≥ range.2

/-! ### The intervals cover the ranges -/

theorem covers_functionRange {runtimeFunctions : List RuntimeFunction} {rva : ℕ} :
    Covers (runtimeFunctions.filterMap functionRange) rva ↔
      ∃ f ∈ runtimeFunctions, f.beginRva ≤ rva ∧ rva < f.endRva := by
  simp only [Covers, List.mem_filterMap, functionRange]
  constructor
  · rintro ⟨r, ⟨f, hf, hr⟩, hstart, hstop⟩
    split_ifs at hr
    obtain rfl := Option.some.inj hr
    exact ⟨f, hf, hstart, hstop⟩
  · rintro ⟨f, hf, hstart, hstop⟩
    exact ⟨_, ⟨f, hf, if_pos (lt_of_le_of_lt hstart hstop)⟩, hstart, hstop⟩

theorem merged_new (runtimeFunctions : List RuntimeFunction) (additionalStarts : List ℕ) :
    Merged (sortBy rangeOrder (runtimeFunctions.filterMap functionRange))
      (new runtimeFunctions additionalStarts).coveredIntervals := by
  refine merged_mergeRanges (fun r hr => ?_) ((pairwise_sortBy _).imp fun hab => ?_)
  · obtain ⟨f, -, hr⟩ := List.mem_filterMap.mp (mem_sortBy.mp hr)
    rw [functionRange] at hr
    split_ifs at hr with hlt
    obtain rfl := Option.some.inj hr
    exact hlt
  · exact le_of_isLE_compareLex hab

theorem covers_new {runtimeFunctions : List RuntimeFunction} {additionalStarts : List ℕ}
    {rva : ℕ} : Covers (new runtimeFunctions additionalStarts).coveredIntervals rva ↔
      ∃ f ∈ runtimeFunctions, f.beginRva ≤ rva ∧ rva < f.endRva := by
  rw [(merged_new runtimeFunctions additionalStarts).covers, ← covers_functionRange]
  simp only [Covers, mem_sortBy]

/-- The search finds out whether a separated row covers an address. -/
theorem allowsFunctionTarget_iff {policy : RuntimeTargetPolicy} {rva : ℕ}
    (h : Separated Prod.fst Prod.snd policy.coveredIntervals) :
    policy.allowsFunctionTarget rva = true ↔
      rva ∈ policy.knownStarts ∨ ¬ Covers policy.coveredIntervals rva := by
  have hcount := @lt_partitionPoint_iff (ℕ × ℕ) (fun range => range.1 ≤ rva)
    policy.coveredIntervals (h.starts.imp fun {a b} hab hb => by
      simp only [decide_eq_true_eq] at hb ⊢
      omega)
  simp only [decide_eq_true_eq] at hcount
  rw [h.covers_iff hcount, allowsFunctionTarget]
  split_ifs with hknown
  · simp [hknown]
  · generalize partitionPoint (fun range => decide (range.1 ≤ rva)) policy.coveredIntervals = k
      at hcount ⊢
    simp only [hknown, false_or, Bool.or_eq_true, decide_eq_true_eq]
    by_cases hzero : k = 0
    · simp [hzero]
    · obtain ⟨r, hget, -⟩ := (hcount (k - 1)).mp (by omega)
      simp [hzero, hget]

/-- CORRECT (target policy): a target is allowed exactly when a function is known to start there or
    no range of the table holds it, whatever the table looks like. -/
theorem allowsFunctionTarget_exact (runtimeFunctions : List RuntimeFunction)
    (additionalStarts : List ℕ) (rva : ℕ) :
    (new runtimeFunctions additionalStarts).allowsFunctionTarget rva = true ↔
      ((∃ f ∈ runtimeFunctions, f.beginRva = rva) ∨ rva ∈ additionalStarts) ∨
        ∀ f ∈ runtimeFunctions, ¬ (f.beginRva ≤ rva ∧ rva < f.endRva) := by
  rw [allowsFunctionTarget_iff (merged_new runtimeFunctions additionalStarts).separated, covers_new]
  refine or_congr ?_ ?_
  · simp [new]
  · push Not
    rfl

end RuntimeTargetPolicy

end ReSymbol.Analysis
