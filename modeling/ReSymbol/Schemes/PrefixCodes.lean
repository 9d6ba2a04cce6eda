import ReSymbol.Schemes.Bytes
import ReSymbol.Schemes.Reducer
import ReSymbol.Schemes.Sorting

/-! Self-delimiting codes.

    A code writes a value in front of a rest. It is self-delimiting when the reader can tell where
    the value ends: whatever stands behind, two written forms agree exactly when the values agree
    and the rests agree. Agreement is a relation `R` of the values, not only equality, because a
    code may forget something of the value on purpose.

        enc a ++ r = enc b ++ r'   ↔   R a b ∧ r = r'

    Codes compose: one behind the other, behind a count, behind a terminator, and item by item. -/

namespace Schemes

variable {α β γ : Type}

/-- On the values of the domain, `enc` marks its own end and tells values apart exactly as `R`. -/
def Delimits (domain : α → Prop) (enc : α → List γ) (R : α → α → Prop) : Prop :=
  ∀ ⦃a b : α⦄, domain a → domain b → ∀ r r' : List γ, enc a ++ r = enc b ++ r' ↔ R a b ∧ r = r'

/-- A measure of lists by which a part of known size is cut off in one way only. -/
structure Measures (size : List γ → ℕ) : Prop where
  append : ∀ xs ys, size (xs ++ ys) = size xs + size ys
  eq_nil : ∀ xs, size xs = 0 → xs = []

theorem measures_length : Measures (List.length (α := γ)) where
  append _ _ := List.length_append
  eq_nil _ := List.eq_nil_of_length_eq_zero

theorem Measures.append_inj {size : List γ → ℕ} (hsize : Measures size) {xs ys r r' : List γ}
    (h : size xs = size ys) : xs ++ r = ys ++ r' ↔ xs = ys ∧ r = r' := by
  constructor
  · intro heq
    -- one of the two parts continues the other, by something of size zero
    rcases List.append_eq_append_iff.mp heq with ⟨more, rfl, rfl⟩ | ⟨more, rfl, rfl⟩
    · rw [hsize.append] at h
      obtain rfl := hsize.eq_nil more (by omega)
      simp
    · rw [hsize.append] at h
      obtain rfl := hsize.eq_nil more (by omega)
      simp
  · rintro ⟨rfl, rfl⟩
    rfl

/-- Bytes behind their length, which takes so many bytes. -/
def lengthPrefixed (width : ℕ) (value : List UInt8) : List UInt8 :=
  leBytes width value.length ++ value

namespace Delimits

variable {domain domain' : α → Prop} {enc enc' : α → List γ} {R S : α → α → Prop}

/-- Two whole encodings are equal exactly when their values agree. -/
theorem whole (h : Delimits domain enc R) {a b : α} (ha : domain a) (hb : domain b) :
    enc a = enc b ↔ R a b := by
  simpa using h ha hb [] []

/-- A code whose agreement is known by another name. -/
theorem congr (h : Delimits domain enc R) (hR : ∀ a b, domain a → domain b → (R a b ↔ S a b)) :
    Delimits domain enc S := by
  intro a b ha hb r r'
  rw [h ha hb, hR a b ha hb]

/-- A value is written as the value that `f` makes of it. -/
theorem comap {enc : β → List γ} {domain : β → Prop} {R : β → β → Prop}
    (h : Delimits domain enc R) (f : α → β) :
    Delimits (fun a => domain (f a)) (fun a => enc (f a)) (fun a b => R (f a) (f b)) :=
  fun _ _ ha hb => h ha hb

/-- One field behind the other. -/
theorem append (h : Delimits domain enc R) (h' : Delimits domain' enc' S) :
    Delimits (fun a => domain a ∧ domain' a) (fun a => enc a ++ enc' a)
      (fun a b => R a b ∧ S a b) := by
  rintro a b ⟨ha, ha'⟩ ⟨hb, hb'⟩ r r'
  rw [List.append_assoc, List.append_assoc, h ha hb, h' ha' hb', and_assoc]

/-- One field behind the other, of values of one domain. -/
theorem and (h : Delimits domain enc R) (h' : Delimits domain enc' S) :
    Delimits domain (fun a => enc a ++ enc' a) (fun a b => R a b ∧ S a b) :=
  fun _ _ ha hb => h.append h' ⟨ha, ha⟩ ⟨hb, hb⟩

/-- All written forms have one width. -/
theorem fixed {width : ℕ} (h : ∀ a, domain a → (enc a).length = width) :
    Delimits domain enc (fun a b => enc a = enc b) := by
  intro a b ha hb r r'
  exact measures_length.append_inj ((h a ha).trans (h b hb).symm)

/-- The number in so many little-endian bytes. -/
theorem leBytes (width : ℕ) : Delimits (· < 256 ^ width) (leBytes width) Eq := by
  refine (fixed fun n _ => length_leBytes width n).congr fun n m hn hm => ⟨fun h => ?_, ?_⟩
  · rw [← ofLeBytes_leBytes hn, h, ofLeBytes_leBytes hm]
  · rintro rfl
    rfl

/-- A terminator that the written form does not contain. -/
theorem terminated {stop : γ} (h : ∀ a, domain a → stop ∉ enc a) :
    Delimits domain (fun a => enc a ++ [stop]) (fun a b => enc a = enc b) := by
  intro a b ha hb r r'
  simp only [List.append_assoc, List.singleton_append]
  constructor
  · intro heq
    have ha := h a ha
    have hb := h b hb
    generalize enc a = xs at ha heq ⊢
    generalize enc b = ys at hb heq ⊢
    induction xs generalizing ys with
    | nil =>
      cases ys with
      | nil => simpa using heq
      | cons y ys =>
        simp only [List.nil_append, List.cons_append, List.cons.injEq] at heq
        exact absurd (heq.1 ▸ List.mem_cons_self) hb
    | cons x xs ih =>
      cases ys with
      | nil =>
        simp only [List.nil_append, List.cons_append, List.cons.injEq] at heq
        exact absurd (heq.1 ▸ List.mem_cons_self) ha
      | cons y ys =>
        simp only [List.cons_append, List.cons.injEq] at heq
        obtain ⟨rfl, heq⟩ := heq
        simp only [List.mem_cons, not_or] at ha hb
        obtain ⟨rfl, rfl⟩ := ih ha.2 ys hb.2 heq
        simp
  · rintro ⟨heq, rfl⟩
    rw [heq]

/-- A text behind its size. -/
theorem counted {num : ℕ → List γ} {range : ℕ → Prop} {size : List γ → ℕ}
    (hnum : Delimits range num Eq) (hsize : Measures size) :
    Delimits (fun xs => range (size xs)) (fun xs => num (size xs) ++ xs) Eq := by
  intro xs ys hxs hys r r'
  rw [List.append_assoc, List.append_assoc, hnum hxs hys]
  constructor
  · rintro ⟨hlen, heq⟩
    exact (hsize.append_inj hlen).mp heq
  · rintro ⟨rfl, rfl⟩
    exact ⟨rfl, rfl⟩

theorem lengthPrefixed (width : ℕ) :
    Delimits (fun value => value.length < 256 ^ width) (lengthPrefixed width) Eq :=
  (leBytes width).counted measures_length

/-- A list of items behind its length. -/
theorem list {num : ℕ → List γ} {range : ℕ → Prop} (hnum : Delimits range num Eq)
    (h : Delimits domain enc R) :
    Delimits (fun xs : List α => range xs.length ∧ ∀ x ∈ xs, domain x)
      (fun xs => num xs.length ++ xs.flatMap enc) (List.Forall₂ R) := by
  rintro xs ys ⟨hxs, hdx⟩ ⟨hys, hdy⟩ r r'
  rw [List.append_assoc, List.append_assoc, hnum hxs hys]
  clear hxs hys
  induction xs generalizing ys with
  | nil =>
    cases ys with
    | nil => simp
    | cons y ys => simp
  | cons x xs ih =>
    cases ys with
    | nil => simp
    | cons y ys =>
      have hstep := ih (fun z hz => hdx z (.tail _ hz)) (fun z hz => hdy z (.tail _ hz))
      have hhead := h (hdx x List.mem_cons_self) (hdy y List.mem_cons_self)
      simp only [List.length_cons, Nat.add_right_cancel_iff, List.flatMap_cons, List.append_assoc,
        hhead, List.forall₂_cons]
      rw [and_assoc, ← hstep]
      tauto

/-- A text of self-delimiting, non-empty parts splits into them in one way. -/
theorem flatMap_inj (h : Delimits domain enc Eq) (hne : ∀ a, enc a ≠ []) {xs ys : List α}
    (hxs : ∀ x ∈ xs, domain x) (hys : ∀ y ∈ ys, domain y) :
    xs.flatMap enc = ys.flatMap enc ↔ xs = ys := by
  induction xs generalizing ys with
  | nil =>
    cases ys with
    | nil => simp
    | cons y ys => simp [hne y]
  | cons x xs ih =>
    cases ys with
    | nil => simp [hne x]
    | cons y ys =>
      rw [List.flatMap_cons, List.flatMap_cons, h (hxs x List.mem_cons_self)
        (hys y List.mem_cons_self), ih (fun z hz => hxs z (.tail _ hz))
        (fun z hz => hys z (.tail _ hz)), List.cons.injEq]

end Delimits

/-! ### Writers

    A writer appends a code to what is already written, or fails. -/

/-- The writer fails outside of the domain and appends the code inside of it. -/
def Writes {ε : Type} (write : List γ → α → Except ε (List γ)) (domain : α → Prop)
    (enc : α → List γ) : Prop :=
  ∀ written a out, write written a = .ok out ↔ domain a ∧ out = written ++ enc a

namespace Writes

variable {ε : Type} {write write' : List γ → α → Except ε (List γ)} {domain domain' : α → Prop}
  {enc enc' : α → List γ}

/-- Writing every item of a list. -/
theorem foldlM (h : Writes write domain enc) :
    Writes (fun written (xs : List α) => xs.foldlM write written) (fun xs => ∀ x ∈ xs, domain x)
      (fun xs => xs.flatMap enc) := by
  intro written xs out
  induction xs generalizing written with
  | nil =>
    simp [pure, Except.pure, eq_comm]
  | cons x xs ih =>
    simp only [List.foldlM_cons, except_bind_eq_ok, h written x, ih, List.forall_mem_cons,
      List.flatMap_cons]
    constructor
    · rintro ⟨next, ⟨hx, rfl⟩, hxs, rfl⟩
      exact ⟨⟨hx, hxs⟩, by rw [List.append_assoc]⟩
    · rintro ⟨⟨hx, hxs⟩, rfl⟩
      exact ⟨_, ⟨hx, rfl⟩, hxs, by rw [List.append_assoc]⟩

end Writes

/-- Encoding every item of a list on its own. -/
theorem mapM_eq_ok {ε : Type} {f : α → Except ε β} {domain : α → Prop} {g : α → β}
    (h : ∀ a out, f a = .ok out ↔ domain a ∧ out = g a) (xs : List α) (out : List β) :
    xs.mapM f = .ok out ↔ (∀ x ∈ xs, domain x) ∧ out = xs.map g := by
  induction xs generalizing out with
  | nil => simp [pure, Except.pure, eq_comm]
  | cons x xs ih =>
    simp only [List.mapM_cons, except_bind_eq_ok, h x, ih, List.forall_mem_cons,
      List.map_cons, pure, Except.pure, Except.ok.injEq]
    constructor
    · rintro ⟨_, ⟨hx, rfl⟩, _, ⟨hxs, rfl⟩, rfl⟩
      exact ⟨⟨hx, hxs⟩, rfl⟩
    · rintro ⟨⟨hx, hxs⟩, rfl⟩
      exact ⟨_, ⟨hx, rfl⟩, _, ⟨hxs, rfl⟩, rfl⟩

/-! ### Multisets written in order -/

section Sorted

variable [Ord α]

/-- The list in ascending order. -/
def sorted (xs : List α) : List α := sortBy compare xs

theorem sorted_perm (xs : List α) : (sorted xs).Perm xs := sortBy_perm xs

/-- Sorting forgets the order and nothing else. -/
theorem sorted_eq_iff_perm [Std.TransOrd α] [Std.LawfulEqOrd α] {xs ys : List α} :
    sorted xs = sorted ys ↔ xs.Perm ys := by
  constructor
  · intro h
    exact (sorted_perm xs).symm.trans (h ▸ sorted_perm ys)
  · intro h
    refine List.Perm.eq_of_pairwise (fun a b _ _ hab hba => ?_) (pairwise_sortBy xs)
      (pairwise_sortBy ys) ((sorted_perm xs).trans (h.trans (sorted_perm ys).symm))
    exact Std.LawfulEqOrd.eq_of_compare (Std.OrientedCmp.isLE_antisymm hab hba)

end Sorted

/-- Two lists have permuted images exactly when their items match up, image by image. -/
theorem perm_map_iff_rel {f : α → β} {xs ys : List α} :
    (xs.map f).Perm (ys.map f) ↔
      Multiset.Rel (fun a b => f a = f b) (xs : Multiset α) (ys : Multiset α) := by
  rw [← Multiset.coe_eq_coe, ← Multiset.map_coe, ← Multiset.map_coe, ← Multiset.rel_eq,
    Multiset.rel_map]

end Schemes
