import ReSymbol.Schemes.PrefixCodes

/-! Texts as bytes, and names joined by a separator.

    A text is told by its UTF-8 bytes. Names that are not empty and do not contain the separator can
    be read back from their joined form, since the last separator ends what was joined before.

        joined [a, b, c] = a/b/c -/

namespace Schemes

/-! ### Bytes -/

/-- `as_bytes`. -/
def utf8 (text : String) : List UInt8 := text.toByteArray.data.toList

theorem utf8_inj {a b : String} : utf8 a = utf8 b ↔ a = b := by
  rw [utf8, utf8, Array.toList_inj, ← String.toByteArray_inj]
  exact ⟨fun h => ByteArray.ext h, fun h => by rw [h]⟩

theorem length_utf8 (text : String) : (utf8 text).length = text.utf8ByteSize := by
  rw [utf8, Array.length_toList, ByteArray.size_data, String.size_toByteArray]

/-- The order of texts by their bytes. -/
def byteOrder (a b : String) : Ordering := compare (utf8 a) (utf8 b)

instance : Std.TransCmp byteOrder where
  eq_swap := Std.OrientedOrd.eq_swap (α := List UInt8)
  isLE_trans := Std.TransOrd.isLE_trans (α := List UInt8)

instance : Std.LawfulEqCmp byteOrder where
  eq_of_compare h := utf8_inj.mp (Std.LawfulEqOrd.eq_of_compare (α := List UInt8) h)

/-! ### Joined names -/

/-- A name behind what was joined before. -/
def joinName (front name : String) : String :=
  if front.isEmpty then name else front ++ "/" ++ name

/-- Names joined by slashes. -/
def joined (names : List String) : String := names.foldl joinName ""

/-- A name that can be told from what it is joined with. -/
def IsName (name : String) : Prop := name ≠ "" ∧ '/' ∉ name.toList

instance (name : String) : Decidable (IsName name) :=
  inferInstanceAs (Decidable (name ≠ "" ∧ '/' ∉ name.toList))

@[simp] theorem joined_nil : joined [] = "" := rfl

theorem joined_concat (names : List String) (name : String) :
    joined (names ++ [name]) = joinName (joined names) name := by
  rw [joined, List.foldl_append]
  rfl

theorem joined_eq_empty_iff {names : List String} (h : ∀ name ∈ names, IsName name) :
    joined names = "" ↔ names = [] := by
  induction names using List.reverseRecOn with
  | nil => simp
  | append_singleton names name ih =>
    have hname := h name (by simp)
    rw [joined_concat, joinName]
    split_ifs with hempty
    · simp [hname.1]
    · simp

/-- What stands behind the last separator, and what stands in front of it. -/
theorem append_slash_inj {front front' name name' : List Char} (h : '/' ∉ name)
    (h' : '/' ∉ name') :
    front ++ '/' :: name = front' ++ '/' :: name' ↔ front = front' ∧ name = name' := by
  have hdelimits : Delimits (fun xs : List Char => '/' ∉ xs) (fun xs => id xs ++ ['/'])
      fun xs ys => id xs = id ys := Delimits.terminated fun _ hx => hx
  have hreverse := @hdelimits name.reverse name'.reverse (by simpa using h) (by simpa using h')
    front.reverse front'.reverse
  rw [← List.reverse_inj]
  simp only [id, List.reverse_append, List.reverse_cons] at hreverse ⊢
  rw [hreverse, List.reverse_inj, List.reverse_inj, and_comm]

theorem joined_inj {names names' : List String} (h : ∀ name ∈ names, IsName name)
    (h' : ∀ name ∈ names', IsName name) : joined names = joined names' ↔ names = names' := by
  refine ⟨?_, fun heq => by rw [heq]⟩
  induction names using List.reverseRecOn generalizing names' with
  | nil =>
    intro heq
    exact ((joined_eq_empty_iff h').mp heq.symm).symm
  | append_singleton names name ih =>
    intro heq
    rcases List.eq_nil_or_concat' names' with rfl | ⟨front', name', rfl⟩
    · exact (joined_eq_empty_iff h).mp heq
    · have hname := h name (by simp)
      have hname' := h' name' (by simp)
      have hfront : ∀ n ∈ names, IsName n := fun n hn => h n (by simp [hn])
      have hfront' : ∀ n ∈ front', IsName n := fun n hn => h' n (by simp [hn])
      rw [joined_concat, joined_concat, joinName, joinName] at heq
      by_cases hempty : (joined names).isEmpty = true <;>
        by_cases hempty' : (joined front').isEmpty = true
      · rw [if_pos hempty, if_pos hempty'] at heq
        rw [String.isEmpty_iff, joined_eq_empty_iff hfront] at hempty
        rw [String.isEmpty_iff, joined_eq_empty_iff hfront'] at hempty'
        rw [hempty, hempty', heq]
      · rw [if_pos hempty, if_neg hempty'] at heq
        exact absurd (by rw [heq]; simp) hname.2
      · rw [if_neg hempty, if_pos hempty'] at heq
        exact absurd (by rw [← heq]; simp) hname'.2
      · rw [if_neg hempty, if_neg hempty', ← String.toList_inj] at heq
        simp only [String.toList_append, List.append_assoc] at heq
        obtain ⟨hjoined, hlast⟩ := (append_slash_inj hname.2 hname'.2).mp heq
        rw [ih hfront hfront' (String.toList_inj.mp hjoined), String.toList_inj.mp hlast]

end Schemes
