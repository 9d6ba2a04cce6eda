import ReSymbol.Schemes.Sorting

/-! Ranges kept by rank.

    Candidates come in the order of their rank, each with a half-open range. A candidate is kept
    when its range meets no range kept before it. The kept ranges, in the order of their starts, are
    separated, so the test has to look at the two neighbours of the candidate only:

        ──[ kept )───[ kept )──────────[ kept )──[ kept )──▶
                         ▲    [ new )    ▲
                      below              above

    A separated row is also searched by bisection: the only range that can hold a point is the last
    one that starts at or before it. -/

namespace Schemes

variable {α : Type}

/-! ### Bisection -/

/-- Halve the interval from `lo` to `hi` until the first index without `p` is found. -/
def bisect (p : ℕ → Bool) : ℕ → ℕ → ℕ → ℕ
  | 0, lo, _ => lo
  | fuel + 1, lo, hi =>
    if lo < hi then
      let mid := lo + (hi - lo) / 2
      if p mid then bisect p fuel (mid + 1) hi else bisect p fuel lo mid
    else lo

/-- `slice::partition_point`: the first index whose item does not satisfy `p`. -/
def partitionPoint (p : α → Bool) (xs : List α) : ℕ :=
  bisect (fun i => xs[i]?.any p) xs.length 0 xs.length

theorem bisect_spec {p : ℕ → Bool} {fuel lo hi : ℕ} (hfuel : hi - lo ≤ fuel) (hle : lo ≤ hi)
    (hmono : ∀ i j, i ≤ j → p j = true → p i = true) (hlo : ∀ i < lo, p i = true)
    (hhi : ∀ i, hi ≤ i → p i = false) (i : ℕ) : i < bisect p fuel lo hi ↔ p i = true := by
  induction fuel generalizing lo hi with
  | zero =>
    obtain rfl : lo = hi := by omega
    by_cases hi' : i < lo
    · simp [bisect, hi', hlo i hi']
    · simp [bisect, hi', hhi i (by omega)]
  | succ fuel ih =>
    by_cases hlt : lo < hi
    · by_cases hmid : p (lo + (hi - lo) / 2) = true
      · rw [bisect, if_pos hlt, if_pos hmid]
        exact ih (by omega) (by omega) (fun j hj => hmono j _ (by omega) hmid) hhi
      · rw [bisect, if_pos hlt, if_neg hmid]
        refine ih (by omega) (by omega) hlo fun j hj => ?_
        by_contra hpj
        exact hmid (hmono _ j hj (by simpa using hpj))
    · obtain rfl : lo = hi := by omega
      rw [bisect, if_neg hlt]
      by_cases hi' : i < lo
      · simp [hi', hlo i hi']
      · simp [hi', hhi i (by omega)]

/-- Where `p` holds of a front part of the list, the partition point is its length. -/
theorem lt_partitionPoint_iff {p : α → Bool} {xs : List α}
    (hsorted : xs.Pairwise fun a b => p b = true → p a = true) (i : ℕ) :
    i < partitionPoint p xs ↔ ∃ x, xs[i]? = some x ∧ p x = true := by
  rw [partitionPoint, bisect_spec (by omega) (by omega) ?_ (by omega) ?_]
  · cases xs[i]? <;> simp
  · intro i j hij hj
    obtain ⟨y, hy, hpy⟩ : ∃ y, xs[j]? = some y ∧ p y = true := by
      cases h : xs[j]? with
      | none => simp [h] at hj
      | some y => exact ⟨y, rfl, by simpa [h] using hj⟩
    obtain ⟨hjlt, rfl⟩ := List.getElem?_eq_some_iff.mp hy
    rw [List.getElem?_eq_getElem (by omega), Option.any_some]
    rcases Nat.lt_or_eq_of_le hij with hlt | rfl
    · exact List.pairwise_iff_getElem.mp hsorted i j _ _ hlt hpy
    · exact hpy
  · intro i hi
    simp [List.getElem?_eq_none hi]

/-! ### Separated rows -/

section Separated

variable {start stop : α → ℕ}

/-- Two half-open ranges share a point, when neither is empty. -/
def Overlap (start stop : α → ℕ) (a b : α) : Prop := start a < stop b ∧ start b < stop a

instance (a b : α) : Decidable (Overlap start stop a b) :=
  inferInstanceAs (Decidable (_ ∧ _))

theorem Overlap.symm {a b : α} (h : Overlap start stop a b) : Overlap start stop b a := ⟨h.2, h.1⟩

/-- The ranges stand in the order of their starts, each behind the end of the one before. -/
def Separated (start stop : α → ℕ) (xs : List α) : Prop :=
  (∀ x ∈ xs, start x < stop x) ∧ xs.Pairwise fun a b => stop a ≤ start b

theorem Separated.not_overlap {xs : List α} (h : Separated start stop xs) :
    xs.Pairwise fun a b => ¬ Overlap start stop a b :=
  h.2.imp fun hab hov => absurd hov.2 (by omega)

theorem Separated.starts {xs : List α} (h : Separated start stop xs) :
    xs.Pairwise fun a b => start a < start b := by
  refine h.2.imp_of_mem fun ha _ hab => ?_
  have := h.1 _ ha
  omega

/-- The last range that starts at or before a point. -/
def below (start : α → ℕ) (xs : List α) (point : ℕ) : Option α :=
  (xs.filter fun x => start x ≤ point).getLast?

/-- The first range that starts at or after a point. -/
def above (start : α → ℕ) (xs : List α) (point : ℕ) : Option α :=
  xs.find? fun x => point ≤ start x

theorem mem_of_below {xs : List α} {point : ℕ} {x : α} (h : below start xs point = some x) :
    x ∈ xs ∧ start x ≤ point := by
  simpa using List.mem_of_getLast? h

theorem mem_of_above {xs : List α} {point : ℕ} {x : α} (h : above start xs point = some x) :
    x ∈ xs ∧ point ≤ start x :=
  ⟨List.mem_of_find?_eq_some h, by simpa using List.find?_some h⟩

/-- In a separated row, a range that reaches past a point it does not start after is `below`. -/
theorem Separated.below_eq {xs : List α} (h : Separated start stop xs) {x : α} {point : ℕ}
    (hx : x ∈ xs) (hstart : start x ≤ point) (hstop : point < stop x) :
    below start xs point = some x := by
  have hmem : x ∈ xs.filter fun x => start x ≤ point := by simpa using ⟨hx, hstart⟩
  have hpair := h.2.filter fun x => decide (start x ≤ point)
  generalize hys : xs.filter (fun x => decide (start x ≤ point)) = ys at hmem hpair
  have hle : ∀ y ∈ ys, start y ≤ point := by
    intro y hy
    rw [← hys] at hy
    simpa using (List.mem_filter.mp hy).2
  rcases List.eq_nil_or_concat' ys with rfl | ⟨front, last, rfl⟩
  · simp at hmem
  · rw [below, hys, List.getLast?_concat]
    rcases List.mem_append.mp hmem with hfront | hlast
    · -- a range further to the front ends before the last one starts
      have hsep := (List.pairwise_append.mp hpair).2.2 x hfront last (by simp)
      have hlast := hle last (by simp)
      omega
    · rw [List.mem_singleton.mp hlast]

/-- The neighbours tell whether a range meets any range of the row. -/
theorem Separated.neighbours {xs : List α} (h : Separated start stop xs) {lo hi : ℕ}
    (hlt : lo < hi) :
    ((below start xs lo).any (fun x => lo < stop x) ||
        (above start xs lo).any (fun x => start x < hi)) = true ↔
      ∃ x ∈ xs, start x < hi ∧ lo < stop x := by
  rw [Bool.or_eq_true]
  constructor
  · rintro (hb | ha)
    · cases hx : below start xs lo with
      | none => simp [hx] at hb
      | some x =>
        have hmem := mem_of_below hx
        simp only [hx, Option.any_some, decide_eq_true_eq] at hb
        exact ⟨x, hmem.1, by omega, hb⟩
    · cases hx : above start xs lo with
      | none => simp [hx] at ha
      | some x =>
        have hmem := mem_of_above hx
        have hpos := h.1 x hmem.1
        simp only [hx, Option.any_some, decide_eq_true_eq] at ha
        exact ⟨x, hmem.1, ha, by omega⟩
  · rintro ⟨x, hx, hstart, hstop⟩
    by_cases hle : start x ≤ lo
    · left
      rw [h.below_eq hx hle hstop]
      simpa using hstop
    · right
      cases ha : above start xs lo with
      | none =>
        have := List.find?_eq_none.mp ha x hx
        simp at this
        omega
      | some y =>
        -- the first range from the point on starts no later than `x`
        obtain ⟨hy, front, back, rfl, hfront⟩ := List.find?_eq_some_iff_append.mp ha
        have hstarts := h.starts
        rw [List.pairwise_append] at hstarts
        have hyx : start y ≤ start x := by
          rcases List.mem_append.mp hx with hxf | hxb
          · have := hfront x hxf
            simp at this
            omega
          · rcases List.mem_cons.mp hxb with rfl | hxb
            · exact le_rfl
            · exact (List.rel_of_pairwise_cons hstarts.2.1 hxb).le
        simp
        omega

/-! ### Searching a row -/

section Search

variable {xs : List α} {point k : ℕ}

/-- Where `k` counts the ranges that start at or before a point, a range that holds the point is the
    last one counted. -/
theorem Separated.getElem_pred (h : Separated start stop xs)
    (hk : ∀ i, i < k ↔ ∃ x, xs[i]? = some x ∧ start x ≤ point) {x : α} (hx : x ∈ xs)
    (hstart : start x ≤ point) (hstop : point < stop x) : k ≠ 0 ∧ xs[k - 1]? = some x := by
  obtain ⟨i, hi, rfl⟩ := List.getElem_of_mem hx
  have hik : i < k := (hk i).mpr ⟨_, List.getElem?_eq_getElem hi, hstart⟩
  obtain ⟨y, hy, hystart⟩ := (hk (k - 1)).mp (by omega)
  refine ⟨by omega, ?_⟩
  obtain ⟨hlt, rfl⟩ := List.getElem?_eq_some_iff.mp hy
  rcases Nat.lt_or_ge i (k - 1) with hless | hge
  · have := List.pairwise_iff_getElem.mp h.2 i (k - 1) hi hlt hless
    omega
  · obtain rfl : i = k - 1 := by omega
    exact hy

end Search

end Separated

/-! ### Greedy selection -/

section Greedy

variable (meets : α → α → Prop) [DecidableRel meets]

/-- Go through the candidates and keep each one that meets none of those kept before. -/
def greedy (kept : List α) (xs : List α) : List α :=
  xs.foldl (fun kept x => if ∃ y ∈ kept, meets y x then kept else kept ++ [x]) kept

theorem greedy_cons (kept : List α) (x : α) (xs : List α) :
    greedy meets kept (x :: xs) =
      greedy meets (if ∃ y ∈ kept, meets y x then kept else kept ++ [x]) xs := rfl

theorem greedy_append (kept xs ys : List α) :
    greedy meets kept (xs ++ ys) = greedy meets (greedy meets kept xs) ys :=
  List.foldl_append

/-- What is kept stays kept, and only candidates are added. -/
theorem greedy_eq_append (kept xs : List α) :
    ∃ more, greedy meets kept xs = kept ++ more ∧ more.Sublist xs := by
  induction xs generalizing kept with
  | nil => exact ⟨[], by simp [greedy], .refl _⟩
  | cons x xs ih =>
    rw [greedy_cons]
    split
    · obtain ⟨more, heq, hsub⟩ := ih kept
      exact ⟨more, heq, hsub.cons x⟩
    · obtain ⟨more, heq, hsub⟩ := ih (kept ++ [x])
      exact ⟨x :: more, by simpa using heq, hsub.cons_cons x⟩

theorem greedy_sublist (xs : List α) : (greedy meets [] xs).Sublist xs := by
  obtain ⟨more, heq, hsub⟩ := greedy_eq_append meets [] xs
  rw [heq]
  simpa using hsub

/-- The candidates that are turned away, in the order in which they come. -/
def rejected (kept : List α) : List α → List α
  | [] => []
  | x :: xs =>
    if ∃ y ∈ kept, meets y x then x :: rejected kept xs else rejected (kept ++ [x]) xs

theorem mem_rejected_iff {kept xs : List α} (hnodup : (kept ++ xs).Nodup) (x : α) :
    x ∈ rejected meets kept xs ↔ x ∈ xs ∧ x ∉ greedy meets kept xs := by
  induction xs generalizing kept with
  | nil => simp [rejected]
  | cons y xs ih =>
    obtain ⟨hkept, hrest, hdisjoint⟩ := List.nodup_append.mp hnodup
    obtain ⟨hy, hxs⟩ := List.nodup_cons.mp hrest
    have hykept : y ∉ kept := fun h => hdisjoint y h y (by simp) rfl
    rw [rejected, greedy_cons]
    by_cases hmeets : ∃ z ∈ kept, meets z y
    · have hnext : (kept ++ xs).Nodup := hnodup.sublist (by simp)
      rw [if_pos hmeets, if_pos hmeets, List.mem_cons, ih hnext, List.mem_cons]
      obtain ⟨more, heq, hsub⟩ := greedy_eq_append meets kept xs
      have hout : y ∉ greedy meets kept xs := by
        rw [heq, List.mem_append, not_or]
        exact ⟨hykept, fun h => hy (hsub.subset h)⟩
      constructor
      · rintro (rfl | ⟨hx, hnot⟩)
        · exact ⟨.inl rfl, hout⟩
        · exact ⟨.inr hx, hnot⟩
      · rintro ⟨rfl | hx, hnot⟩
        · exact .inl rfl
        · exact .inr ⟨hx, hnot⟩
    · have hnext : (kept ++ [y] ++ xs).Nodup := by simpa using hnodup
      rw [if_neg hmeets, if_neg hmeets, ih hnext, List.mem_cons]
      obtain ⟨more, heq, hsub⟩ := greedy_eq_append meets (kept ++ [y]) xs
      have hin : y ∈ greedy meets (kept ++ [y]) xs := by simp [heq]
      constructor
      · rintro ⟨hx, hnot⟩
        exact ⟨.inr hx, hnot⟩
      · rintro ⟨rfl | hx, hnot⟩
        · exact absurd hin hnot
        · exact ⟨hx, hnot⟩

theorem rejected_sublist (kept xs : List α) : (rejected meets kept xs).Sublist xs := by
  induction xs generalizing kept with
  | nil => exact .refl _
  | cons x xs ih =>
    rw [rejected]
    split
    · exact (ih kept).cons_cons x
    · exact (ih (kept ++ [x])).cons x

variable {meets}

/-- No two of the kept candidates meet. -/
theorem greedy_pairwise {kept : List α} (hkept : kept.Pairwise fun a b => ¬ meets a b)
    (xs : List α) : (greedy meets kept xs).Pairwise fun a b => ¬ meets a b := by
  induction xs generalizing kept with
  | nil => exact hkept
  | cons x xs ih =>
    rw [greedy_cons]
    split
    case isTrue => exact ih hkept
    case isFalse hnone =>
      refine ih (List.pairwise_append.mpr ⟨hkept, by simp, fun a ha b hb => ?_⟩)
      obtain rfl : b = x := by simpa using hb
      exact fun hmeets => hnone ⟨a, ha, hmeets⟩

/-- A candidate is kept exactly when it meets none of those kept before it. -/
theorem mem_greedy_iff {xs : List α} {x : α} (hnodup : xs.Nodup) (hx : x ∈ xs) :
    x ∈ greedy meets [] xs ↔ ∀ y ∈ greedy meets [] xs, Before xs y x → ¬ meets y x := by
  obtain ⟨before, after, rfl⟩ := List.append_of_mem hx
  obtain ⟨hbefore, hrest, hdisjoint⟩ := List.nodup_append.mp hnodup
  have hx : x ∉ before := fun h => hdisjoint x h x (by simp) rfl
  have hafter : x ∉ after := (List.nodup_cons.mp hrest).1
  simp only [before_iff_mem_front hnodup]
  -- what is kept in front of `x`, and what is kept behind it
  have hsub := greedy_sublist meets before
  rw [greedy_append, greedy_cons]
  obtain ⟨more, hmore, hsubm⟩ := greedy_eq_append meets
    (if ∃ y ∈ greedy meets [] before, meets y x then greedy meets [] before
      else greedy meets [] before ++ [x]) after
  rw [hmore]
  have hfront : ∀ y ∈ before, y ∉ more ∧ y ≠ x := by
    intro y hy
    refine ⟨fun hm => hdisjoint y hy y (.tail _ (hsubm.subset hm)) rfl, ?_⟩
    rintro rfl
    exact hx hy
  by_cases hmeets : ∃ y ∈ greedy meets [] before, meets y x
  · rw [if_pos hmeets]
    obtain ⟨y, hy, hyx⟩ := hmeets
    constructor
    · intro hmem
      rcases List.mem_append.mp hmem with hm | hm
      · exact absurd (hsub.subset hm) hx
      · exact absurd (hsubm.subset hm) hafter
    · intro hall
      exact absurd hyx (hall y (List.mem_append_left _ hy) (hsub.subset hy))
  · rw [if_neg hmeets]
    constructor
    · rintro - y hy hyb hyx
      rcases List.mem_append.mp hy with hm | hm
      · rcases List.mem_append.mp hm with hm | hm
        · exact hmeets ⟨y, hm, hyx⟩
        · exact (hfront y hyb).2 (by simpa using hm)
      · exact (hfront y hyb).1 hm
    · intro _
      simp

end Greedy

end Schemes
