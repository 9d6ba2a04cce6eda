import Mathlib.Data.List.Basic
import Mathlib.Tactic

/-! Streams that stops divide into lines.

    A line reaches through the next stop, or to the end of the stream. The lines of a stream do not
    depend on how the stream is handed out: a piece without a stop is a front part of the line, a
    piece with one ends it.

        stream   a b c ⏎ d ⏎ e
        lines    [abc⏎] [d⏎] [e] -/

namespace Schemes

variable {α : Type} (stop : α → Bool)

/-- The number of items through the first stop, or all of them. -/
def lineLength (xs : List α) : ℕ := (xs.findIdx? stop).elim xs.length (· + 1)

/-- The lines of a stream, each with its stop. -/
def linesOf : List α → List (List α)
  | [] => []
  | x :: xs =>
    if stop x then [x] :: linesOf xs
    else match linesOf xs with
      | [] => [[x]]
      | line :: lines => (x :: line) :: lines

variable {stop}

@[simp] theorem lineLength_nil : lineLength stop [] = 0 := rfl

theorem lineLength_cons (x : α) (xs : List α) :
    lineLength stop (x :: xs) = if stop x then 1 else lineLength stop xs + 1 := by
  rw [lineLength, List.findIdx?_cons]
  split_ifs with hx
  · rfl
  · rw [lineLength]
    cases xs.findIdx? stop <;> rfl

theorem lineLength_le (xs : List α) : lineLength stop xs ≤ xs.length := by
  induction xs with
  | nil => exact le_rfl
  | cons x xs ih =>
    rw [lineLength_cons, List.length_cons]
    split_ifs <;> omega

theorem lineLength_pos {xs : List α} (h : xs ≠ []) : 0 < lineLength stop xs := by
  cases xs with
  | nil => exact absurd rfl h
  | cons x xs =>
    rw [lineLength_cons]
    split_ifs <;> omega

/-- The last item of a line is a stop exactly when the stream has one. -/
theorem getElem?_lineLength {xs : List α} (h : xs ≠ []) :
    (xs[lineLength stop xs - 1]?).any stop = xs.any stop := by
  induction xs with
  | nil => exact absurd rfl h
  | cons x xs ih =>
    rw [lineLength_cons]
    by_cases hx : stop x = true
    · simp [hx]
    · rw [if_neg hx, Nat.add_sub_cancel]
      cases xs with
      | nil => simp
      | cons y ys =>
        have hpos : 0 < lineLength stop (y :: ys) := lineLength_pos (List.cons_ne_nil y ys)
        rw [← Nat.sub_add_cancel hpos, List.getElem?_cons_succ, ih (List.cons_ne_nil y ys)]
        simp [hx]

/-- A piece with a stop holds the whole line. -/
theorem lineLength_append_of_any {xs : List α} (h : xs.any stop = true) (ys : List α) :
    lineLength stop (xs ++ ys) = lineLength stop xs := by
  induction xs with
  | nil => simp at h
  | cons x xs ih =>
    rw [List.cons_append, lineLength_cons, lineLength_cons]
    by_cases hx : stop x = true
    · rw [if_pos hx, if_pos hx]
    · rw [if_neg hx, if_neg hx, ih (by simpa [hx] using h)]

/-- A piece without a stop is a front part of the line. -/
theorem lineLength_append_of_not_any {xs : List α} (h : xs.any stop = false) (ys : List α) :
    lineLength stop (xs ++ ys) = xs.length + lineLength stop ys := by
  induction xs with
  | nil => simp
  | cons x xs ih =>
    simp only [List.any_cons, Bool.or_eq_false_iff] at h
    rw [List.cons_append, lineLength_cons, if_neg (by simp [h.1]), ih h.2, List.length_cons]
    omega

theorem lineLength_of_not_any {xs : List α} (h : xs.any stop = false) :
    lineLength stop xs = xs.length := by
  simpa using lineLength_append_of_not_any h []

/-- The first line, and the lines of what follows it. -/
theorem linesOf_eq_cons {xs : List α} (h : xs ≠ []) :
    linesOf stop xs =
      xs.take (lineLength stop xs) :: linesOf stop (xs.drop (lineLength stop xs)) := by
  induction xs with
  | nil => exact absurd rfl h
  | cons x xs ih =>
    rw [linesOf, lineLength_cons]
    by_cases hx : stop x = true
    · simp [hx]
    · rw [if_neg hx, if_neg hx, List.take_succ_cons, List.drop_succ_cons]
      cases xs with
      | nil => rfl
      | cons y ys => rw [ih (List.cons_ne_nil y ys)]

theorem flatten_linesOf (xs : List α) : (linesOf stop xs).flatten = xs := by
  induction xs with
  | nil => rfl
  | cons x xs ih =>
    rw [linesOf]
    split_ifs with hx
    · simp [ih]
    · cases hlines : linesOf stop xs with
      | nil =>
        rw [hlines] at ih
        simp [← ih]
      | cons line lines =>
        rw [hlines] at ih
        simp [← ih]

end Schemes
