import ReSymbol.Schemes.Ranges

/-! Ranges merged into a separated row.

    Ranges that come in the order of their starts are merged from the left: a range that starts
    inside or at the end of the last one extends it, any other one starts a new entry. The row
    covers the same points and is searched by bisection.

        ──[ a )                          ──[ a ∪ b )──[ c )──▶
            ─[ b )        merged to
                  ─[ c ) -/

namespace Schemes

/-- Some range holds the point. -/
def Covers (ranges : List (ℕ × ℕ)) (point : ℕ) : Prop := ∃ r ∈ ranges, r.1 ≤ point ∧ point < r.2

/-- Extend the last range, or add one behind it. -/
def mergeRange (merged : List (ℕ × ℕ)) (range : ℕ × ℕ) : List (ℕ × ℕ) :=
  match merged.getLast? with
  | some last =>
    if range.1 ≤ last.2 then merged.dropLast ++ [(last.1, max last.2 range.2)]
    else merged ++ [range]
  | none => merged ++ [range]

def mergeRanges (ranges : List (ℕ × ℕ)) : List (ℕ × ℕ) := ranges.foldl mergeRange []

theorem mergeRange_concat (front : List (ℕ × ℕ)) (last range : ℕ × ℕ) :
    mergeRange (front ++ [last]) range =
      if range.1 ≤ last.2 then front ++ [(last.1, max last.2 range.2)]
      else front ++ [last] ++ [range] := by
  simp [mergeRange]

theorem covers_append {xs ys : List (ℕ × ℕ)} {point : ℕ} :
    Covers (xs ++ ys) point ↔ Covers xs point ∨ Covers ys point := by
  simp only [Covers, List.mem_append, or_and_right, exists_or]

theorem covers_singleton {r : ℕ × ℕ} {point : ℕ} :
    Covers [r] point ↔ r.1 ≤ point ∧ point < r.2 := by
  simp [Covers]

/-- The row is separated, covers what the ranges cover, and every entry starts where a range
    does. -/
structure Merged (ranges merged : List (ℕ × ℕ)) : Prop where
  separated : Separated Prod.fst Prod.snd merged
  covers : ∀ point, Covers merged point ↔ Covers ranges point
  starts : ∀ m ∈ merged, ∃ r ∈ ranges, r.1 = m.1

theorem merged_nil : Merged [] [] where
  separated := ⟨by simp, .nil⟩
  covers _ := Iff.rfl
  starts := by simp

section Step

variable {ranges front : List (ℕ × ℕ)} {last range : ℕ × ℕ}

/-- A range that meets the last entry extends it. -/
theorem Merged.extend (h : Merged ranges (front ++ [last])) (hsorted : last.1 ≤ range.1)
    (hmeets : range.1 ≤ last.2) :
    Merged (ranges ++ [range]) (front ++ [(last.1, max last.2 range.2)]) := by
  have hpositive := h.separated.1 last (by simp)
  obtain ⟨hfront, -, hbehind⟩ := List.pairwise_append.mp h.separated.2
  refine ⟨⟨?_, ?_⟩, fun point => ?_, ?_⟩
  · intro m hm
    rcases List.mem_append.mp hm with hm | hm
    · exact h.separated.1 m (by simp [hm])
    · rw [List.mem_singleton.mp hm]
      exact lt_max_of_lt_left hpositive
  · refine List.pairwise_append.mpr ⟨hfront, List.pairwise_singleton _ _, fun a ha b hb => ?_⟩
    rw [List.mem_singleton.mp hb]
    exact hbehind a ha last (by simp)
  · have hbefore := h.covers point
    rw [covers_append, covers_singleton] at hbefore
    -- the two ranges meet, so together they hold what the extended one holds
    have hunion : last.1 ≤ point ∧ point < max last.2 range.2 ↔
        (last.1 ≤ point ∧ point < last.2) ∨ (range.1 ≤ point ∧ point < range.2) := by
      omega
    rw [covers_append, covers_append, covers_singleton, covers_singleton, ← hbefore, hunion,
      or_assoc]
  · intro m hm
    rcases List.mem_append.mp hm with hm | hm
    · obtain ⟨r, hr, heq⟩ := h.starts m (by simp [hm])
      exact ⟨r, List.mem_append_left _ hr, heq⟩
    · obtain ⟨r, hr, heq⟩ := h.starts last (by simp)
      exact ⟨r, List.mem_append_left _ hr, by rw [List.mem_singleton.mp hm]; exact heq⟩

theorem Merged.push {merged : List (ℕ × ℕ)} (h : Merged ranges merged)
    (hrange : range.1 < range.2) (hbehind : ∀ m ∈ merged, m.2 ≤ range.1) :
    Merged (ranges ++ [range]) (merged ++ [range]) := by
  refine ⟨⟨?_, ?_⟩, fun point => ?_, ?_⟩
  · intro m hm
    rcases List.mem_append.mp hm with hm | hm
    · exact h.separated.1 m hm
    · rw [List.mem_singleton.mp hm]
      exact hrange
  · refine List.pairwise_append.mpr
      ⟨h.separated.2, List.pairwise_singleton _ _, fun a ha b hb => ?_⟩
    rw [List.mem_singleton.mp hb]
    exact hbehind a ha
  · rw [covers_append, h.covers point, covers_append]
  · intro m hm
    rcases List.mem_append.mp hm with hm | hm
    · obtain ⟨r, hr, heq⟩ := h.starts m hm
      exact ⟨r, List.mem_append_left _ hr, heq⟩
    · exact ⟨range, by simp, by rw [List.mem_singleton.mp hm]⟩

theorem Merged.concat {merged : List (ℕ × ℕ)} (h : Merged ranges merged)
    (hrange : range.1 < range.2) (hsorted : ∀ r ∈ ranges, r.1 ≤ range.1) :
    Merged (ranges ++ [range]) (mergeRange merged range) := by
  rcases List.eq_nil_or_concat' merged with rfl | ⟨front, last, rfl⟩
  · exact h.push hrange (by simp)
  · rw [mergeRange_concat]
    split_ifs with hmeets
    · obtain ⟨r, hr, heq⟩ := h.starts last (by simp)
      exact h.extend (heq ▸ hsorted r hr) hmeets
    · refine h.push hrange fun m hm => ?_
      rcases List.mem_append.mp hm with hm | hm
      · have hpositive := h.separated.1 last (by simp)
        have hbehind := (List.pairwise_append.mp h.separated.2).2.2 m hm last (by simp)
        omega
      · rw [List.mem_singleton.mp hm]
        omega

end Step

theorem merged_mergeRanges {ranges : List (ℕ × ℕ)} (hpositive : ∀ r ∈ ranges, r.1 < r.2)
    (hsorted : ranges.Pairwise fun a b => a.1 ≤ b.1) : Merged ranges (mergeRanges ranges) := by
  induction ranges using List.reverseRecOn with
  | nil => exact merged_nil
  | append_singleton ranges range ih =>
    obtain ⟨hfront, -, hlast⟩ := List.pairwise_append.mp hsorted
    rw [mergeRanges, List.foldl_append]
    exact (ih (fun r hr => hpositive r (by simp [hr])) hfront).concat (hpositive range (by simp))
      fun r hr => hlast r hr range (by simp)

/-- In a separated row, the last range that starts at or before a point decides about the point. -/
theorem Separated.covers_iff {row : List (ℕ × ℕ)} (h : Separated Prod.fst Prod.snd row)
    {point k : ℕ} (hk : ∀ i, i < k ↔ ∃ r, row[i]? = some r ∧ r.1 ≤ point) :
    Covers row point ↔ k ≠ 0 ∧ ∃ r, row[k - 1]? = some r ∧ point < r.2 := by
  constructor
  · rintro ⟨r, hr, hstart, hstop⟩
    obtain ⟨hne, hget⟩ := h.getElem_pred hk hr hstart hstop
    exact ⟨hne, r, hget, hstop⟩
  · rintro ⟨hne, r, hget, hstop⟩
    obtain ⟨r', hget', hstart⟩ := (hk (k - 1)).mp (by omega)
    rw [hget, Option.some.injEq] at hget'
    exact ⟨r, List.mem_of_getElem? hget, hget' ▸ hstart, hstop⟩

end Schemes
