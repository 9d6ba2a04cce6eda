import Mathlib

/-! Items grouped by a key.

    A table from keys to the places of their items is built in one pass over the items. A second
    pass goes through the groups and changes the items of those that have two members or more.

        items   a₀ b₁ a₂ c₃ b₄ a₅        a ↦ [0, 2, 5]   b ↦ [1, 4]   c ↦ [3]
        second pass: a₀ a₂ a₅ under key a, b₁ b₄ under key b, c₃ untouched

    The groups are disjoint, so that the order in which the table is walked does not matter and
    every item is changed once at most. -/

namespace Schemes

variable {α κ : Type}

/-! ### The places of a key -/

/-- The places of the items with this key. -/
def placesOf [DecidableEq κ] (key : α → Option κ) (k : κ) (xs : List α) : List ℕ :=
  (xs.zipIdx.filter fun item => key item.1 = some k).map Prod.snd

theorem placesOf_concat [DecidableEq κ] (key : α → Option κ) (k : κ) (xs : List α) (x : α) :
    placesOf key k (xs ++ [x]) =
      placesOf key k xs ++ if key x = some k then [xs.length] else [] := by
  by_cases hx : key x = some k <;> simp [placesOf, List.zipIdx_append, List.filter_append, hx]

theorem mem_placesOf [DecidableEq κ] {key : α → Option κ} {k : κ} {xs : List α} {i : ℕ} :
    i ∈ placesOf key k xs ↔ ∃ x, xs[i]? = some x ∧ key x = some k := by
  simp [placesOf, List.mem_zipIdx_iff_getElem?, and_comm]

theorem length_placesOf [DecidableEq κ] (key : α → Option κ) (k : κ) (xs : List α) :
    (placesOf key k xs).length = xs.countP fun x => key x = some k := by
  induction xs using List.reverseRecOn with
  | nil => rfl
  | append_singleton xs x ih =>
    rw [placesOf_concat, List.length_append, ih, List.countP_append]
    by_cases hx : key x = some k <;> simp [hx]

theorem nodup_placesOf [DecidableEq κ] (key : α → Option κ) (k : κ) (xs : List α) :
    (placesOf key k xs).Nodup := by
  induction xs using List.reverseRecOn with
  | nil => exact List.nodup_nil
  | append_singleton xs x ih =>
    rw [placesOf_concat]
    by_cases hx : key x = some k
    · rw [if_pos hx, List.nodup_append]
      refine ⟨ih, List.nodup_singleton _, ?_⟩
      intro i hi j hj
      obtain ⟨y, hy, -⟩ := mem_placesOf.mp hi
      have hlt := (List.getElem?_eq_some_iff.mp hy).1
      rw [List.mem_singleton] at hj
      omega
    · rwa [if_neg hx, List.append_nil]

/-! ### Changing the members of groups -/

/-- Change the items at the places of a group. -/
def updatePlaces (f : α → α) (places : List ℕ) (xs : List α) : List α :=
  places.foldl (fun xs i => xs.modify i f) xs

/-- Change the items of every group that has two members or more. -/
def updateLargeGroups (f : κ → α → α) (groups : List (κ × List ℕ)) (xs : List α) : List α :=
  groups.foldl (fun xs group =>
    if group.2.length < 2 then xs else updatePlaces (f group.1) group.2 xs) xs

theorem updatePlaces_getElem? (f : α → α) {places : List ℕ} (hnodup : places.Nodup)
    (xs : List α) (i : ℕ) :
    (updatePlaces f places xs)[i]? = if i ∈ places then xs[i]?.map f else xs[i]? := by
  induction places generalizing xs with
  | nil => rfl
  | cons j places ih =>
    obtain ⟨hj, hnodup⟩ := List.nodup_cons.mp hnodup
    rw [updatePlaces, List.foldl_cons, ← updatePlaces, ih hnodup, List.getElem?_modify]
    by_cases hij : j = i
    · subst hij
      simp [hj]
    · simp [hij, Ne.symm hij]

/-- An item of no large group is not touched. -/
theorem updateLargeGroups_getElem?_of_small (f : κ → α → α) {groups : List (κ × List ℕ)}
    (hnodup : ∀ group ∈ groups, group.2.Nodup) {i : ℕ}
    (hsmall : ∀ group ∈ groups, i ∈ group.2 → group.2.length < 2) (xs : List α) :
    (updateLargeGroups f groups xs)[i]? = xs[i]? := by
  induction groups generalizing xs with
  | nil => rfl
  | cons group groups ih =>
    have htail := ih (fun g hg => hnodup g (List.mem_cons_of_mem _ hg))
      (fun g hg => hsmall g (List.mem_cons_of_mem _ hg))
    rw [updateLargeGroups, List.foldl_cons, ← updateLargeGroups, htail]
    split_ifs with hlength
    · rfl
    · rw [updatePlaces_getElem? _ (hnodup group List.mem_cons_self), if_neg]
      exact fun hi => hlength (hsmall group List.mem_cons_self hi)

/-- An item of a large group is changed once, under the key of the group. -/
theorem updateLargeGroups_getElem?_of_large (f : κ → α → α) {groups : List (κ × List ℕ)}
    (hnodup : ∀ group ∈ groups, group.2.Nodup)
    (hdisjoint : groups.Pairwise fun g g' => ∀ i ∈ g.2, i ∉ g'.2) {group : κ × List ℕ}
    (hgroup : group ∈ groups) {i : ℕ} (hi : i ∈ group.2) (hlarge : 2 ≤ group.2.length)
    (xs : List α) : (updateLargeGroups f groups xs)[i]? = xs[i]?.map (f group.1) := by
  induction groups generalizing xs with
  | nil => cases hgroup
  | cons g groups ih =>
    obtain ⟨hhead, htail⟩ := List.pairwise_cons.mp hdisjoint
    have hnodup' : ∀ g ∈ groups, g.2.Nodup := fun g hg => hnodup g (List.mem_cons_of_mem _ hg)
    rw [updateLargeGroups, List.foldl_cons, ← updateLargeGroups]
    rcases List.mem_cons.mp hgroup with rfl | hgroup
    · rw [updateLargeGroups_getElem?_of_small f hnodup'
        (fun g' hg' hi' => absurd hi' (hhead g' hg' i hi)), if_neg (by omega),
        updatePlaces_getElem? _ (hnodup group List.mem_cons_self), if_pos hi]
    · rw [ih hnodup' htail hgroup]
      split_ifs with hlength
      · rfl
      · rw [updatePlaces_getElem? _ (hnodup g List.mem_cons_self), if_neg]
        exact fun hi' => hhead group hgroup i hi' hi

/-! ### The table of places -/

/-- The places of the items with a key, by key. -/
def groupIndices [Ord κ] [Std.TransOrd κ] (key : α → Option κ) (xs : List α) : Std.ExtTreeMap κ
    (List ℕ) :=
  xs.zipIdx.foldl (fun groups item =>
    match key item.1 with
    | some k => groups.alter k fun places => some (places.getD [] ++ [item.2])
    | none => groups) ∅

theorem groupIndices_concat [Ord κ] [Std.TransOrd κ] (key : α → Option κ) (xs : List α) (x : α) :
    groupIndices key (xs ++ [x]) =
      match key x with
      | some k => (groupIndices key xs).alter k fun places =>
          some (places.getD [] ++ [xs.length])
      | none => groupIndices key xs := by
  simp [groupIndices, List.zipIdx_append]

variable [Ord κ] [Std.TransOrd κ] [Std.LawfulEqOrd κ] [DecidableEq κ]

/-- The table holds the places of every key that some item has. -/
theorem groupIndices_getElem? (key : α → Option κ) (xs : List α) (k : κ) :
    (groupIndices key xs)[k]? =
      if placesOf key k xs = [] then none else some (placesOf key k xs) := by
  induction xs using List.reverseRecOn with
  | nil => simp [groupIndices, placesOf]
  | append_singleton xs x ih =>
    rw [groupIndices_concat, placesOf_concat]
    cases hx : key x with
    | none => simpa using ih
    | some k' =>
      simp only [Option.some.injEq]
      rw [Std.ExtTreeMap.getElem?_alter]
      by_cases hk : k' = k
      · subst hk
        rw [if_pos Std.ReflCmp.compare_self, ih]
        by_cases hempty : placesOf key k' xs = [] <;> simp [hempty]
      · rw [if_neg (mt Std.LawfulEqCmp.eq_of_compare hk), ih, if_neg hk, List.append_nil]

/-- Two passes over the items come to one: an item whose key occurs twice is changed. -/
theorem updateLargeGroups_groupIndices (key : α → Option κ) (f : κ → α → α) (xs : List α) :
    updateLargeGroups f (groupIndices key xs).toList xs =
      xs.map fun x => match key x with
        | some k => if xs.countP (fun y => key y = some k) < 2 then x else f k x
        | none => x := by
  have hgroups : ∀ group ∈ (groupIndices key xs).toList,
      group.2 = placesOf key group.1 xs ∧ placesOf key group.1 xs ≠ [] := by
    intro group hgroup
    have hget := Std.ExtTreeMap.mem_toList_iff_getElem?_eq_some.mp hgroup
    rw [groupIndices_getElem?] at hget
    split_ifs at hget with hempty
    exact ⟨(Option.some.inj hget).symm, hempty⟩
  have hnodup : ∀ group ∈ (groupIndices key xs).toList, group.2.Nodup := by
    intro group hgroup
    rw [(hgroups group hgroup).1]
    exact nodup_placesOf key group.1 xs
  have hkeyed : ∀ group ∈ (groupIndices key xs).toList, ∀ i ∈ group.2,
      ∃ x, xs[i]? = some x ∧ key x = some group.1 := by
    intro group hgroup i hi
    rw [(hgroups group hgroup).1] at hi
    exact mem_placesOf.mp hi
  have hdisjoint : (groupIndices key xs).toList.Pairwise fun g g' => ∀ i ∈ g.2, i ∉ g'.2 := by
    refine Std.ExtTreeMap.distinct_keys_toList.imp_of_mem ?_
    intro g g' hg hg' hne i hi hi'
    obtain ⟨x, hx, hkey⟩ := hkeyed g hg i hi
    obtain ⟨x', hx', hkey'⟩ := hkeyed g' hg' i hi'
    obtain rfl : x = x' := Option.some.inj (hx.symm.trans hx')
    rw [Option.some.inj (hkey.symm.trans hkey')] at hne
    exact hne Std.ReflCmp.compare_self
  refine List.ext_getElem? fun i => ?_
  rw [List.getElem?_map]
  cases hx : xs[i]? with
  | none =>
    rw [updateLargeGroups_getElem?_of_small f hnodup, hx]
    · rfl
    · intro group hgroup hi
      obtain ⟨x, hx', -⟩ := hkeyed group hgroup i hi
      rw [hx] at hx'
      cases hx'
  | some x =>
    have hsmall : (∀ k, key x = some k → xs.countP (fun y => key y = some k) < 2) →
        (updateLargeGroups f (groupIndices key xs).toList xs)[i]? = some x := by
      intro hcount
      rw [updateLargeGroups_getElem?_of_small f hnodup, hx]
      intro group hgroup hi
      obtain ⟨x', hx', hkey⟩ := hkeyed group hgroup i hi
      obtain rfl : x = x' := Option.some.inj (hx.symm.trans hx')
      rw [(hgroups group hgroup).1, length_placesOf]
      exact hcount group.1 hkey
    cases hkey : key x with
    | none =>
      rw [hsmall (by simp [hkey])]
      simp [hkey]
    | some k =>
      by_cases hcount : xs.countP (fun y => key y = some k) < 2
      · rw [hsmall (by rw [hkey]; rintro _ ⟨⟩; exact hcount)]
        simp only [Option.map_some, hkey, if_pos hcount]
      · have hplace : i ∈ placesOf key k xs := mem_placesOf.mpr ⟨x, hx, hkey⟩
        have hmem : (k, placesOf key k xs) ∈ (groupIndices key xs).toList := by
          rw [Std.ExtTreeMap.mem_toList_iff_getElem?_eq_some, groupIndices_getElem?,
            if_neg (List.ne_nil_of_mem hplace)]
        rw [updateLargeGroups_getElem?_of_large f hnodup hdisjoint hmem hplace
          (by rw [length_placesOf]; omega), hx]
        simp only [Option.map_some, hkey, if_neg hcount]

end Schemes
