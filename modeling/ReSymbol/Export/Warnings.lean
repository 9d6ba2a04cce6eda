import ReSymbol.Export.Model

/-! The warnings of a projection.

    Equal warnings are counted, not repeated. The accumulator refuses a new kind of warning once it
    holds the most it may, and an occurrence that its 64-bit count cannot take. -/

namespace ReSymbol.Export

open Schemes Debugger

/-- `Option::expect`. -/
def expectSome {ε α : Type} (value : Option α) (message : String) : Except (Fault ε) α :=
  match value with
  | some a => .ok a
  | none => .error (.panic message)

/-- What two occurrences of one warning share. -/
structure WarningKey where
  code : ProjectionWarningCode
  subject : Option ExportSubject
  deriving DecidableEq

namespace WarningKey

/-- The derived order: by code, then subject. -/
def cmp : WarningKey → WarningKey → Ordering :=
  compareLex (compareOn fun key => key.code.ctorIdx) (compareOn WarningKey.subject)

instance : Ord WarningKey := ⟨cmp⟩

instance : Std.TransOrd WarningKey := inferInstanceAs (Std.TransCmp (compareLex _ _))

instance : Std.LawfulEqOrd WarningKey where
  eq_of_compare {a b} h := by
    change cmp a b = .eq at h
    simp only [cmp, compareLex, Ordering.then_eq_eq, compareOn] at h
    have hcode := Std.LawfulEqOrd.eq_of_compare h.1
    have hsubject := Std.LawfulEqOrd.eq_of_compare h.2
    obtain ⟨code, subject⟩ := a
    obtain ⟨code', subject'⟩ := b
    dsimp only at hcode hsubject
    rw [hsubject, ← ProjectionWarningCode.ofNat_ctorIdx code, hcode,
      ProjectionWarningCode.ofNat_ctorIdx]

end WarningKey

structure WarningAccumulator where
  values : Std.ExtTreeMap WarningKey ℕ

namespace WarningAccumulator

def new : WarningAccumulator := ⟨∅⟩

def addOccurrences (warnings : WarningAccumulator) (code : ProjectionWarningCode)
    (subject : Option ExportSubject) (occurrences : ℕ) : Except ExportError WarningAccumulator :=
  if occurrences = 0 then .ok warnings
  else
    let key : WarningKey := ⟨code, subject⟩
    if !warnings.values.contains key && warnings.values.size = maxWarnings then
      .error (.limitExceeded "warning" maxWarnings)
    else match checkedAdd (warnings.values[key]?.getD 0) occurrences with
      | none => .error (.limitExceeded "warning occurrence" (2 ^ 64 - 1))
      | some count => .ok ⟨warnings.values.insert key count⟩

def add (warnings : WarningAccumulator) (code : ProjectionWarningCode)
    (subject : Option ExportSubject) : Except ExportError WarningAccumulator :=
  warnings.addOccurrences code subject 1

/-! ### What an addition does -/

/-- How often a warning was added. -/
def count (warnings : WarningAccumulator) (key : WarningKey) : ℕ := warnings.values[key]?.getD 0

/-- The refusals of an accumulator. -/
def IsLimit (e : ExportError) : Prop :=
  e = .limitExceeded "warning" maxWarnings ∨ e = .limitExceeded "warning occurrence" (2 ^ 64 - 1)

theorem addOccurrences_cases (warnings : WarningAccumulator) (code : ProjectionWarningCode)
    (subject : Option ExportSubject) (occurrences : ℕ) :
    (∃ after, warnings.addOccurrences code subject occurrences = .ok after ∧
      ∀ key, after.count key =
        warnings.count key + if key = ⟨code, subject⟩ then occurrences else 0) ∨
    ∃ e, warnings.addOccurrences code subject occurrences = .error e ∧ IsLimit e := by
  unfold addOccurrences
  split
  case isTrue hzero =>
    subst hzero
    exact .inl ⟨warnings, rfl, fun key => by simp⟩
  case isFalse =>
    dsimp only
    split
    case isTrue => exact .inr ⟨_, rfl, .inl rfl⟩
    case isFalse =>
      split
      case h_1 => exact .inr ⟨_, rfl, .inr rfl⟩
      case h_2 total htotal =>
        obtain ⟨rfl, -⟩ := checkedAdd_eq_some.mp htotal
        refine .inl ⟨_, rfl, fun key => ?_⟩
        simp only [count, Std.ExtTreeMap.getElem?_insert, Std.LawfulEqCmp.compare_eq_iff_eq]
        by_cases hkey : (⟨code, subject⟩ : WarningKey) = key
        · subst hkey
          simp
        · simp [hkey, Ne.symm hkey]

/-- A full accumulator refuses what it does not hold yet. -/
theorem add_of_full {warnings : WarningAccumulator} {code : ProjectionWarningCode}
    {subject : Option ExportSubject} (hfull : warnings.values.size = maxWarnings)
    (hnew : ⟨code, subject⟩ ∉ warnings.values) :
    warnings.add code subject = .error (.limitExceeded "warning" maxWarnings) := by
  have hcontains : warnings.values.contains ⟨code, subject⟩ = false := by
    rwa [← Bool.not_eq_true, Std.ExtTreeMap.contains_iff_mem]
  simp [add, addOccurrences, hcontains, hfull]

/-- Warn once about each of the subjects. -/
def addEach (warnings : WarningAccumulator) (code : ProjectionWarningCode)
    (subjects : List ExportSubject) : Except ExportError WarningAccumulator :=
  subjects.foldlM (fun warnings subject => warnings.add code (some subject)) warnings

/-- The warnings are all added, each once, or one of them is refused. -/
theorem addEach_cases (warnings : WarningAccumulator) (code : ProjectionWarningCode)
    (subjects : List ExportSubject) :
    (∃ after, warnings.addEach code subjects = .ok after ∧ ∀ key, after.count key =
      warnings.count key + (subjects.map fun subject => ⟨code, some subject⟩).count key) ∨
    ∃ e, warnings.addEach code subjects = .error e ∧ IsLimit e := by
  induction subjects generalizing warnings with
  | nil => exact .inl ⟨warnings, rfl, by simp⟩
  | cons subject rest ih =>
    have hadd := addOccurrences_cases warnings code (some subject) 1
    simp only [addEach, List.foldlM_cons, add] at ih ⊢
    rcases hadd with ⟨next, hnext, hcount⟩ | ⟨e, he, hlimit⟩
    · rw [hnext, except_ok_bind]
      rcases ih next with ⟨after, hafter, hkeys⟩ | hfail
      · refine .inl ⟨after, hafter, fun key => ?_⟩
        rw [hkeys, hcount, List.map_cons, List.count_cons]
        by_cases h : key = ⟨code, some subject⟩
        · subst h
          simp
          omega
        · simp [h, Ne.symm h]
      · exact .inr hfail
    · rw [he]
      exact .inr ⟨e, rfl, hlimit⟩

/-! ### When a warning is refused -/

/-- The accumulator can take all these warnings: together with those it does not hold yet there are
    not more than there may be, and no count leaves 64 bits. -/
structure Room (warnings : WarningAccumulator) (needed : List WarningKey) : Prop where
  kinds : warnings.values.size + (needed.toFinset.filter (· ∉ warnings.values)).card ≤ maxWarnings
  counts : ∀ key ∈ needed, warnings.count key + needed.count key < 2 ^ 64

theorem room_perm {warnings : WarningAccumulator} {needed needed' : List WarningKey}
    (h : needed.Perm needed') : warnings.Room needed ↔ warnings.Room needed' := by
  have hiff : ∀ {xs ys : List WarningKey}, xs.Perm ys → warnings.Room xs → warnings.Room ys := by
    intro xs ys hperm hroom
    refine ⟨?_, fun key hkey => ?_⟩
    · rw [← List.toFinset_eq_of_perm _ _ hperm]
      exact hroom.kinds
    · rw [← hperm.count_eq]
      exact hroom.counts key (hperm.mem_iff.mpr hkey)
  exact ⟨hiff h, hiff h.symm⟩

/-- A warning is added where there is room for it. -/
theorem add_eq_ok {warnings next : WarningAccumulator} {code : ProjectionWarningCode}
    {subject : Option ExportSubject} :
    warnings.add code subject = .ok next ↔
      (⟨code, subject⟩ ∈ warnings.values ∨ warnings.values.size ≠ maxWarnings) ∧
        warnings.count ⟨code, subject⟩ + 1 < 2 ^ 64 ∧
        next = ⟨warnings.values.insert ⟨code, subject⟩ (warnings.count ⟨code, subject⟩ + 1)⟩ := by
  have hfound : warnings.values[(⟨code, subject⟩ : WarningKey)]?.getD 0 =
      warnings.count ⟨code, subject⟩ := rfl
  simp only [add, addOccurrences, Nat.one_ne_zero, if_false, hfound]
  by_cases hrefused : (!warnings.values.contains ⟨code, subject⟩ &&
      decide (warnings.values.size = maxWarnings)) = true
  · rw [if_pos hrefused]
    simp only [Bool.and_eq_true, Bool.not_eq_true', decide_eq_true_eq] at hrefused
    have hnot : (⟨code, subject⟩ : WarningKey) ∉ warnings.values := by
      rw [← Std.ExtTreeMap.contains_iff_mem, hrefused.1]
      decide
    simp [hnot, hrefused.2]
  · rw [if_neg hrefused]
    have hroom : ⟨code, subject⟩ ∈ warnings.values ∨ warnings.values.size ≠ maxWarnings := by
      rw [← Std.ExtTreeMap.contains_iff_mem]
      simpa [imp_iff_not_or] using hrefused
    cases hadd : checkedAdd (warnings.count ⟨code, subject⟩) 1 with
    | none =>
      have hover : ¬ warnings.count ⟨code, subject⟩ + 1 < 2 ^ 64 := fun hlt => by
        simp [checkedAdd_eq_some.mpr ⟨rfl, hlt⟩] at hadd
      simp only [reduceCtorEq, hover, false_and, and_false]
    | some total =>
      obtain ⟨rfl, hlt⟩ := checkedAdd_eq_some.mp hadd
      simp only [Except.ok.injEq, hroom, hlt, true_and]
      exact eq_comm

/-- Room for one warning more is room for the others after it was added. -/
theorem room_cons {warnings : WarningAccumulator} {key : WarningKey} {rest : List WarningKey}
    (hfits : warnings.count key + 1 < 2 ^ 64) :
    warnings.Room (key :: rest) ↔
      Room ⟨warnings.values.insert key (warnings.count key + 1)⟩ rest := by
  have hmem : ∀ k, k ∈ warnings.values.insert key (warnings.count key + 1) ↔
      key = k ∨ k ∈ warnings.values := by simp
  have hcount : ∀ k, count ⟨warnings.values.insert key (warnings.count key + 1)⟩ k =
      warnings.count k + if k = key then 1 else 0 := by
    intro k
    by_cases hk : key = k
    · subst hk
      simp [count]
    · simp [count, Std.ExtTreeMap.getElem?_insert, hk, Ne.symm hk]
  have hkinds : warnings.values.size +
        ((key :: rest).toFinset.filter (· ∉ warnings.values)).card =
      (warnings.values.insert key (warnings.count key + 1)).size + (rest.toFinset.filter
        (· ∉ warnings.values.insert key (warnings.count key + 1))).card := by
    rw [Std.ExtTreeMap.size_insert]
    by_cases hkey : key ∈ warnings.values
    · rw [if_pos (Std.ExtTreeMap.contains_iff_mem.mpr hkey)]
      congr 2
      ext k
      simp only [List.toFinset_cons, Finset.mem_filter, Finset.mem_insert, List.mem_toFinset, hmem,
        not_or]
      constructor
      · rintro ⟨rfl | hk, hnot⟩
        · exact absurd hkey hnot
        · exact ⟨hk, fun heq => hnot (heq ▸ hkey), hnot⟩
      · rintro ⟨hk, -, hnot⟩
        exact ⟨.inr hk, hnot⟩
    · have hinsert : (key :: rest).toFinset.filter (· ∉ warnings.values) = insert key
          (rest.toFinset.filter (· ∉ warnings.values.insert key (warnings.count key + 1))) := by
        ext k
        simp only [List.toFinset_cons, Finset.mem_filter, Finset.mem_insert, List.mem_toFinset,
          hmem, not_or]
        by_cases hk : k = key
        · simp [hk, hkey]
        · simp [hk, Ne.symm hk]
      rw [if_neg (by simpa using hkey), hinsert, Finset.card_insert_of_notMem (by simp [hmem])]
      omega
  constructor
  · rintro ⟨hroom, hcounts⟩
    refine ⟨hkinds ▸ hroom, fun k hk => ?_⟩
    have := hcounts k (List.mem_cons_of_mem _ hk)
    rw [List.count_cons] at this
    rw [hcount]
    by_cases hkey : k = key
    · simp only [hkey, if_true, beq_self_eq_true] at this ⊢
      omega
    · simp only [hkey, if_false, beq_iff_eq, Ne.symm hkey] at this ⊢
      omega
  · rintro ⟨hroom, hcounts⟩
    refine ⟨hkinds.symm ▸ hroom, fun k hk => ?_⟩
    rw [List.count_cons]
    by_cases hkey : k = key
    · subst hkey
      by_cases hrest : k ∈ rest
      · have := hcounts k hrest
        simp only [hcount, if_true, beq_self_eq_true] at this ⊢
        omega
      · simpa [List.count_eq_zero.mpr hrest] using hfits
    · have := hcounts k ((List.mem_cons.mp hk).resolve_left hkey)
      simp only [hcount, hkey, if_false, beq_iff_eq, Ne.symm hkey] at this ⊢
      omega

/-- By induction on the subjects: all warnings are added exactly where there is room for them. -/
theorem addEach_ok_iff {warnings : WarningAccumulator} (code : ProjectionWarningCode)
    (subjects : List ExportSubject) (hsize : warnings.values.size ≤ maxWarnings) :
    (∃ after, warnings.addEach code subjects = .ok after) ↔
      warnings.Room (subjects.map fun subject => ⟨code, some subject⟩) := by
  induction subjects generalizing warnings with
  | nil => exact ⟨fun _ => ⟨by simpa using hsize, by simp⟩, fun _ => ⟨warnings, rfl⟩⟩
  | cons subject rest ih =>
    rw [addEach, List.foldlM_cons, List.map_cons]
    constructor
    · rintro ⟨after, hafter⟩
      obtain ⟨next, hnext, hrest⟩ := except_bind_eq_ok.mp hafter
      obtain ⟨hroom, hfits, rfl⟩ := add_eq_ok.mp hnext
      refine (room_cons hfits).mpr ((ih ?_).mp ⟨after, hrest⟩)
      rw [Std.ExtTreeMap.size_insert]
      split_ifs with hkey
      · exact hsize
      · have := hroom.resolve_left (by simpa using hkey)
        omega
    · intro hroom
      have hcounts := hroom.counts _ (List.mem_cons_self ..)
      have hfits : warnings.count ⟨code, some subject⟩ + 1 < 2 ^ 64 := by
        rw [List.count_cons_self] at hcounts
        omega
      have hnew : ⟨code, some subject⟩ ∈ warnings.values ∨ warnings.values.size ≠ maxWarnings := by
        by_contra hfull
        rw [not_or, not_not] at hfull
        have hkinds := hroom.kinds
        have hpos : 0 < (((⟨code, some subject⟩ : WarningKey) :: rest.map fun subject =>
            ⟨code, some subject⟩).toFinset.filter (· ∉ warnings.values)).card :=
          Finset.card_pos.mpr ⟨⟨code, some subject⟩, by simp [hfull.1]⟩
        omega
      have hnext := add_eq_ok.mpr ⟨hnew, hfits, rfl⟩
      rw [hnext, except_ok_bind]
      refine (ih ?_).mpr ((room_cons hfits).mp hroom)
      rw [Std.ExtTreeMap.size_insert]
      split_ifs with hkey
      · exact hsize
      · have := hnew.resolve_left (by simpa using hkey)
        omega

end WarningAccumulator

end ReSymbol.Export
