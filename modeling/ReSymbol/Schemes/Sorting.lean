import Mathlib

/-! Stable sorting by a comparison, and what stands before what in a list. -/

namespace Schemes

variable {α : Type}

/-! ### Before -/

/-- `a` stands somewhere before `b`. -/
def Before (xs : List α) (a b : α) : Prop := [a, b].Sublist xs

theorem Before.mem {xs : List α} {a b : α} (h : Before xs a b) : a ∈ xs ∧ b ∈ xs :=
  ⟨h.subset (by simp), h.subset (by simp)⟩

theorem before_append {front back : List α} {a b : α} (ha : a ∈ front) (hb : b ∈ back) :
    Before (front ++ back) a b := by
  have h := (List.singleton_sublist.mpr ha).append (List.singleton_sublist.mpr hb)
  exact h

/-- Of two different members one stands before the other. -/
theorem before_total {xs : List α} {a b : α} (ha : a ∈ xs) (hb : b ∈ xs) (hne : a ≠ b) :
    Before xs a b ∨ Before xs b a := by
  obtain ⟨front, back, rfl⟩ := List.append_of_mem ha
  rcases List.mem_append.mp hb with hfront | hback
  · exact .inr (before_append hfront (by simp))
  · rcases List.mem_cons.mp hback with rfl | hback
    · exact absurd rfl hne
    · refine .inl (List.Sublist.trans ?_ (List.sublist_append_right front _))
      exact (List.singleton_sublist.mpr hback).cons_cons a

theorem not_before_of_before {xs : List α} (hnodup : xs.Nodup) {a b : α} (h : Before xs a b) :
    ¬ Before xs b a := by
  intro hba
  induction xs with
  | nil => exact absurd h.mem.1 (by simp)
  | cons x xs ih =>
    obtain ⟨hx, hrest⟩ := List.nodup_cons.mp hnodup
    have hcases : ∀ {c d : α}, Before (x :: xs) c d → Before xs c d ∨ (c = x ∧ d ∈ xs) := by
      intro c d hcd
      rcases List.sublist_cons_iff.mp hcd with hcd | ⟨rest, heq, hsub⟩
      · exact .inl hcd
      · obtain ⟨rfl, rfl⟩ := List.cons.inj heq
        exact .inr ⟨rfl, by simpa using hsub⟩
    rcases hcases h with hab | ⟨rfl, hb⟩
    · rcases hcases hba with hba | ⟨rfl, -⟩
      · exact ih hrest hab hba
      · exact hx hab.mem.2
    · rcases hcases hba with hba | ⟨rfl, -⟩
      · exact hx hba.mem.2
      · exact hx hb

/-- In a list without repetitions, what stands before a member is what is in front of it. -/
theorem before_iff_mem_front {front back : List α} {a b : α}
    (hnodup : (front ++ b :: back).Nodup) : Before (front ++ b :: back) a b ↔ a ∈ front := by
  constructor
  · intro h
    rcases List.mem_append.mp h.mem.1 with hfront | hback
    · exact hfront
    · rcases List.mem_cons.mp hback with rfl | hback
      · exact absurd h (not_before_of_before hnodup h)
      · refine absurd h (not_before_of_before hnodup ?_)
        refine List.Sublist.trans ?_ (List.sublist_append_right front _)
        exact (List.singleton_sublist.mpr hback).cons_cons b
  · intro h
    exact before_append h (by simp)

/-! ### Sorting -/

/-- A comparison of parts is as lawful as the comparison it uses. -/
instance transCmp_part {β : Type} {cmp : β → β → Ordering} [Std.TransCmp cmp] (part : α → β) :
    Std.TransCmp fun a b => cmp (part a) (part b) where
  eq_swap := Std.OrientedCmp.eq_swap
  isLE_trans := Std.TransCmp.isLE_trans

/-- What is in order is in order by the leading number. -/
theorem le_of_isLE_compareLex {f : α → ℕ} {cmp : α → α → Ordering} {a b : α}
    (h : (compareLex (compareOn f) cmp a b).isLE = true) : f a ≤ f b := by
  by_contra hlt
  rw [compareLex, compareOn, Nat.compare_eq_gt.mpr (not_le.mp hlt)] at h
  cases h

/-- `slice::sort_by`. -/
def sortBy (cmp : α → α → Ordering) (xs : List α) : List α :=
  xs.mergeSort fun a b => (cmp a b).isLE

variable {cmp : α → α → Ordering}

theorem sortBy_perm (xs : List α) : (sortBy cmp xs).Perm xs := List.mergeSort_perm _ _

@[simp] theorem mem_sortBy {xs : List α} {a : α} : a ∈ sortBy cmp xs ↔ a ∈ xs :=
  (sortBy_perm xs).mem_iff

theorem nodup_sortBy {xs : List α} (h : xs.Nodup) : (sortBy cmp xs).Nodup :=
  (sortBy_perm xs).nodup_iff.mpr h

/-- Sorting keeps a list that is sorted. -/
theorem sortBy_of_pairwise {xs : List α} (h : xs.Pairwise fun a b => (cmp a b).isLE = true) :
    sortBy cmp xs = xs :=
  List.mergeSort_of_pairwise h

variable [Std.TransCmp cmp]

omit [Std.TransCmp cmp] in
theorem cmp_swap (cmp : α → α → Ordering) [Std.OrientedCmp cmp] (a b : α) :
    cmp a b = (cmp b a).swap :=
  Std.OrientedCmp.eq_swap

theorem isLE_total (a b : α) : ((cmp a b).isLE || (cmp b a).isLE) = true := by
  rw [cmp_swap cmp b a]
  cases cmp a b <;> rfl

theorem pairwise_sortBy (xs : List α) :
    (sortBy cmp xs).Pairwise fun a b => (cmp a b).isLE = true :=
  List.pairwise_mergeSort (fun _ _ _ => Std.TransCmp.isLE_trans) isLE_total xs

/-- Where no two different items tie, sorting forgets the order of the input. -/
theorem sortBy_eq_of_perm {xs ys : List α}
    (hanti : ∀ a ∈ xs, ∀ b ∈ xs, cmp a b = .eq → a = b) (h : xs.Perm ys) :
    sortBy cmp xs = sortBy cmp ys := by
  refine List.Perm.eq_of_pairwise (fun a b ha hb hab hba => ?_) (pairwise_sortBy xs)
    (pairwise_sortBy ys) ((sortBy_perm xs).trans (h.trans (sortBy_perm ys).symm))
  exact hanti a (mem_sortBy.mp ha) b (h.mem_iff.mpr (mem_sortBy.mp hb))
    (Std.OrientedCmp.isLE_antisymm hab hba)

/-- The sorted list is in the order of the comparison, and of the input where it ties. -/
theorem before_sortBy_iff {xs : List α} (hnodup : xs.Nodup) {a b : α} (ha : a ∈ xs) (hb : b ∈ xs)
    (hne : a ≠ b) :
    Before (sortBy cmp xs) a b ↔ cmp a b = .lt ∨ (cmp a b = .eq ∧ Before xs a b) := by
  have hsorted : ∀ {c d : α}, Before (sortBy cmp xs) c d → (cmp c d).isLE = true := by
    intro c d hcd
    simpa using (pairwise_sortBy xs).sublist hcd
  have hties : ∀ {c d : α}, cmp c d = .eq → Before xs c d → Before (sortBy cmp xs) c d := by
    intro c d heq hcd
    exact List.pair_sublist_mergeSort (fun _ _ _ => Std.TransCmp.isLE_trans) isLE_total
      (by rw [heq]; rfl) hcd
  constructor
  · intro h
    have hle := hsorted h
    cases hcmp : cmp a b with
    | lt => exact .inl rfl
    | gt => simp [hcmp] at hle
    | eq =>
      refine .inr ⟨rfl, (before_total ha hb hne).resolve_right fun hba => ?_⟩
      have heq : cmp b a = .eq := by
        rw [cmp_swap cmp, hcmp]
        rfl
      exact not_before_of_before (nodup_sortBy hnodup) h (hties heq hba)
  · rintro (hlt | ⟨heq, hab⟩)
    · refine (before_total (mem_sortBy.mpr ha) (mem_sortBy.mpr hb) hne).resolve_right fun hba => ?_
      have hle := hsorted hba
      rw [cmp_swap cmp, hlt] at hle
      simp at hle
    · exact hties heq hab

end Schemes
