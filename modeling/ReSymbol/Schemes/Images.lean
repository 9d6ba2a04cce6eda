import Mathlib
import ReSymbol.Schemes.Bytes

/-! Sparse images.

    An image gives a value to some of the addresses. Reading a span of it asks for the value of
    every address of the span, and fails when one of them has none. Where several extents make up an
    image and the first one that holds an address decides, a walk over extents in the order of their
    starts can stay with one extent to its end:

        ──[ first ────────)──[ third ───)──▶
               [ second ─────────)
          ▲ first decides ▲ second  ▲ third  -/

namespace Schemes

variable {α β : Type}

/-! ### Reading a span -/

/-- The values of `n` addresses from `p` on. -/
def gather (image : ℕ → Option α) : ℕ → ℕ → Option (List α)
  | _, 0 => some []
  | p, n + 1 => do
    let x ← image p
    let xs ← gather image (p + 1) n
    some (x :: xs)

theorem gather_eq_some_iff {image : ℕ → Option α} {p n : ℕ} {xs : List α} :
    gather image p n = some xs ↔ xs.length = n ∧ ∀ i < n, image (p + i) = xs[i]? := by
  induction n generalizing p xs with
  | zero =>
    simp only [gather, Option.some.injEq]
    constructor
    · rintro rfl
      simp
    · rintro ⟨hlength, -⟩
      exact (List.length_eq_zero_iff.mp hlength).symm
  | succ n ih =>
    simp only [gather, Option.bind_eq_bind, Option.bind_eq_some_iff, Option.some.injEq]
    constructor
    · rintro ⟨x, hx, rest, hrest, rfl⟩
      obtain ⟨hlength, hvalues⟩ := ih.mp hrest
      refine ⟨by simpa using hlength, fun i hi => ?_⟩
      cases i with
      | zero => exact hx
      | succ i =>
        rw [List.getElem?_cons_succ, ← hvalues i (by omega)]
        congr 1
        omega
    · rintro ⟨hlength, hvalues⟩
      cases xs with
      | nil => simp at hlength
      | cons x rest =>
        refine ⟨x, hvalues 0 (by omega), rest, ih.mpr ⟨by simpa using hlength, fun i hi => ?_⟩, rfl⟩
        have h := hvalues (i + 1) (by omega)
        rw [List.getElem?_cons_succ] at h
        rw [← h]
        congr 1
        omega

/-- A span can be read exactly when every address of it has a value. -/
theorem gather_isSome_iff {image : ℕ → Option α} {p n : ℕ} :
    (∃ xs, gather image p n = some xs) ↔ ∀ i < n, ∃ x, image (p + i) = some x := by
  constructor
  · rintro ⟨xs, h⟩ i hi
    obtain ⟨hlength, hvalues⟩ := gather_eq_some_iff.mp h
    exact ⟨xs[i], by rw [hvalues i hi, List.getElem?_eq_getElem (by omega)]⟩
  · intro h
    choose value hvalue using h
    refine ⟨List.ofFn fun i : Fin n => value i i.isLt,
      gather_eq_some_iff.mpr ⟨by simp, fun i hi => ?_⟩⟩
    rw [hvalue i hi]
    simp [hi]

/-- A span is read as two spans, one after the other. -/
theorem gather_add_eq_some_iff {image : ℕ → Option α} {p a b : ℕ} {xs : List α} :
    gather image p (a + b) = some xs ↔
      ∃ front back, gather image p a = some front ∧ gather image (p + a) b = some back ∧
        xs = front ++ back := by
  constructor
  · intro h
    obtain ⟨hlength, hvalues⟩ := gather_eq_some_iff.mp h
    refine ⟨xs.take a, xs.drop a, gather_eq_some_iff.mpr ⟨by simp; omega, fun i hi => ?_⟩,
      gather_eq_some_iff.mpr ⟨by simp; omega, fun i hi => ?_⟩, (List.take_append_drop a xs).symm⟩
    · rw [hvalues i (by omega), List.getElem?_take_of_lt hi]
    · rw [List.getElem?_drop, ← hvalues (a + i) (by omega)]
      congr 1
      omega
  · rintro ⟨front, back, hfront, hback, rfl⟩
    obtain ⟨hlengthFront, hvaluesFront⟩ := gather_eq_some_iff.mp hfront
    obtain ⟨hlengthBack, hvaluesBack⟩ := gather_eq_some_iff.mp hback
    refine gather_eq_some_iff.mpr ⟨by simp; omega, fun i hi => ?_⟩
    by_cases ha : i < a
    · rw [List.getElem?_append_left (by omega), hvaluesFront i ha]
    · rw [List.getElem?_append_right (by omega), hlengthFront, ← hvaluesBack (i - a) (by omega)]
      congr 1
      omega

/-- An image that copies a list over a span is read as a window of the list. -/
theorem gather_eq_window {image : ℕ → Option α} {xs : List α} {p n offset : ℕ}
    (hinside : offset + n ≤ xs.length) (h : ∀ i < n, image (p + i) = xs[offset + i]?) :
    gather image p n = some (window xs offset n) := by
  refine gather_eq_some_iff.mpr ⟨length_window hinside, fun i hi => ?_⟩
  rw [h i hi, window, List.getElem?_take_of_lt hi, List.getElem?_drop]

/-! ### The first extent -/

/-- In the order of starts, the first extent that holds an address decides up to its own end. -/
theorem find_extent_stays {start stop : β → ℕ} {holds : ℕ → β → Bool} {xs : List β} {x : β}
    {p q : ℕ} (hholds : ∀ p x, holds p x = true ↔ start x ≤ p ∧ p < stop x)
    (hsorted : xs.Pairwise fun a b => start a ≤ start b) (hfind : xs.find? (holds p) = some x)
    (hpq : p ≤ q) (hq : q < stop x) : xs.find? (holds q) = some x := by
  obtain ⟨hx, front, back, rfl, hfront⟩ := List.find?_eq_some_iff_append.mp hfind
  obtain ⟨hstart, -⟩ := (hholds p x).mp hx
  refine List.find?_eq_some_iff_append.mpr
    ⟨(hholds q x).mpr ⟨by omega, hq⟩, front, back, rfl, fun y hy => ?_⟩
  -- an earlier extent starts at or before `p`, so it has ended there
  have hyx : start y ≤ start x := (List.pairwise_append.mp hsorted).2.2 y hy x (by simp)
  have hyp := hfront y hy
  rw [Bool.not_eq_true', ← Bool.not_eq_true, hholds] at hyp ⊢
  omega

end Schemes
