import ReSymbol.Schemes.Bytes

/-! Lists with a part overwritten.

    Content written at an offset replaces as many elements as it has; inside of it the new content
    is read, everywhere else the list is untouched.

        ┌────────┬──────────┬────────┐
        │ before │███ ys ███│  after │      window (overwrite xs offset ys) offset |ys| = ys
        └────────┴──────────┴────────┘ -/

namespace Schemes

variable {α : Type}

theorem getElem?_window {xs : List α} {offset len i : ℕ} (h : i < len) :
    (window xs offset len)[i]? = xs[offset + i]? := by
  rw [window, List.getElem?_take_of_lt h, List.getElem?_drop]

theorem window_eq {xs ys : List α} {offset len : ℕ} (hlen : ys.length = len)
    (h : ∀ i < len, xs[offset + i]? = ys[i]?) : window xs offset len = ys := by
  apply List.ext_getElem?
  intro i
  rcases Nat.lt_or_ge i len with hi | hi
  · rw [getElem?_window hi, h i hi]
  · rw [window, List.getElem?_take_eq_none hi, List.getElem?_eq_none (by omega)]

/-! ### Overwriting -/

/-- The list with a part of it replaced. -/
def overwrite (xs : List α) (offset : ℕ) (ys : List α) : List α :=
  xs.take offset ++ ys ++ xs.drop (offset + ys.length)

section Overwrite

variable {xs ys : List α} {offset i : ℕ}

theorem length_overwrite (h : offset + ys.length ≤ xs.length) :
    (overwrite xs offset ys).length = xs.length := by
  simp only [overwrite, List.length_append, List.length_take, List.length_drop]
  omega

theorem getElem?_overwrite_inside (h : offset + ys.length ≤ xs.length) (hi : i < ys.length) :
    (overwrite xs offset ys)[offset + i]? = ys[i]? := by
  have htake : (xs.take offset).length = offset := by
    rw [List.length_take]
    omega
  rw [overwrite, List.append_assoc, List.getElem?_append_right (by omega), htake,
    Nat.add_sub_cancel_left, List.getElem?_append_left hi]

theorem getElem?_overwrite_outside (h : offset + ys.length ≤ xs.length)
    (hi : i < offset ∨ offset + ys.length ≤ i) : (overwrite xs offset ys)[i]? = xs[i]? := by
  have htake : (xs.take offset).length = offset := by
    rw [List.length_take]
    omega
  rcases hi with hi | hi
  · rw [overwrite, List.append_assoc, List.getElem?_append_left (by omega),
      List.getElem?_take_of_lt hi]
  · rw [overwrite, List.getElem?_append_right (by rw [List.length_append]; omega),
      List.length_append, htake, List.getElem?_drop, Nat.add_sub_cancel' hi]

end Overwrite

end Schemes
