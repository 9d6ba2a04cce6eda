import Mathlib

/-! Compare-and-replace patches on a cell memory.

    A patch replaces the cells of a span it expects to find. A stack of patches, each of which
    found what it expected when it was applied, can be taken off from the top: undoing is again a
    compare-and-replace, it always succeeds, and it walks back through the same memories, however
    the spans overlap.

        m₀ ──p₁──▶ m₁ ──p₂──▶ m₂ ──p₃──▶ m
        m₀ ◀─p₁⁻¹─ m₁ ◀─p₂⁻¹─ m₂ ◀─p₃⁻¹─ m -/

namespace Schemes

variable {β : Type}

/-- A memory of cells `β`, addressed by natural numbers. -/
abbrev Memory (β : Type) := ℕ → β

/-- The `size` cells from `address` on. -/
def readSpan (m : Memory β) (address size : ℕ) : List β :=
  (List.range size).map fun i => m (address + i)

/-- The memory with `cells` stored from `address` on. -/
def writeSpan (m : Memory β) (address : ℕ) (cells : List β) : Memory β :=
  fun a => if address ≤ a then cells.getD (a - address) (m a) else m a

/-! ### Spans -/

@[simp] theorem readSpan_length (m : Memory β) (address size : ℕ) :
    (readSpan m address size).length = size := by
  simp [readSpan]

theorem writeSpan_inside (m : Memory β) {address a : ℕ} {cells : List β} (h : address ≤ a)
    (hlt : a - address < cells.length) :
    writeSpan m address cells a = cells.get ⟨a - address, hlt⟩ := by
  simp [writeSpan, h, List.getD_eq_getElem?_getD, List.getElem?_eq_getElem hlt]

theorem writeSpan_outside (m : Memory β) {address a : ℕ} {cells : List β}
    (h : address ≤ a → cells.length ≤ a - address) : writeSpan m address cells a = m a := by
  unfold writeSpan
  split_ifs with ha
  · rw [List.getD_eq_getElem?_getD, List.getElem?_eq_none (h ha), Option.getD_none]
  · rfl

/-- What was written is what is read back. -/
theorem readSpan_writeSpan (m : Memory β) (address : ℕ) (cells : List β) :
    readSpan (writeSpan m address cells) address cells.length = cells := by
  refine List.ext_getElem (by simp) fun i hi hi' => ?_
  simp [readSpan, writeSpan, List.getD_eq_getElem?_getD, List.getElem?_eq_getElem hi']

/-- A second write of the same length hides the first. -/
theorem writeSpan_writeSpan (m : Memory β) (address : ℕ) {cells cells' : List β}
    (h : cells'.length = cells.length) :
    writeSpan (writeSpan m address cells) address cells' = writeSpan m address cells' := by
  funext a
  by_cases hin : address ≤ a ∧ a - address < cells'.length
  · rw [writeSpan_inside _ hin.1 hin.2, writeSpan_inside _ hin.1 hin.2]
  · rw [writeSpan_outside _ (fun ha => by omega), writeSpan_outside _ (fun ha => by omega),
      writeSpan_outside _ (fun ha => by omega)]

/-- Writing what is already there changes nothing. -/
theorem writeSpan_readSpan (m : Memory β) (address size : ℕ) :
    writeSpan m address (readSpan m address size) = m := by
  funext a
  by_cases hin : address ≤ a ∧ a - address < (readSpan m address size).length
  · rw [writeSpan_inside _ hin.1 hin.2]
    simp [readSpan, Nat.add_sub_cancel' hin.1]
  · exact writeSpan_outside _ (fun ha => by omega)

/-! ### Patches -/

/-- One replacement of `before` by `after` at `address`. -/
structure Patch (β : Type) where
  address : ℕ
  before : List β
  after : List β

namespace Patch

/-- The patch finds what it expects, and keeps its length. -/
structure Fits (p : Patch β) (m : Memory β) : Prop where
  found : readSpan m p.address p.before.length = p.before
  length : p.after.length = p.before.length

def apply (p : Patch β) (m : Memory β) : Memory β := writeSpan m p.address p.after

/-- Compare-and-replace in the other direction. -/
def undo [DecidableEq β] (p : Patch β) (m : Memory β) : Option (Memory β) :=
  if readSpan m p.address p.after.length = p.after then some (writeSpan m p.address p.before)
  else none

theorem found_apply (p : Patch β) (m : Memory β) :
    readSpan (p.apply m) p.address p.after.length = p.after :=
  readSpan_writeSpan m p.address p.after

/-- Writing the expected cells back restores the memory a fitting patch was applied to. -/
theorem writeSpan_before_apply {p : Patch β} {m : Memory β} (h : p.Fits m) :
    writeSpan (p.apply m) p.address p.before = m := by
  unfold apply
  rw [writeSpan_writeSpan m p.address h.length.symm]
  calc writeSpan m p.address p.before
      = writeSpan m p.address (readSpan m p.address p.before.length) := by rw [h.found]
    _ = m := writeSpan_readSpan m p.address p.before.length

theorem undo_apply [DecidableEq β] {p : Patch β} {m : Memory β} (h : p.Fits m) :
    p.undo (p.apply m) = some m := by
  rw [undo, if_pos (p.found_apply m), writeSpan_before_apply h]

end Patch

/-! ### Stacks of patches -/

/-- The memory with the `after` cells of all patches laid over it, oldest first. -/
def overlay (m : Memory β) (ps : List (Patch β)) : Memory β := ps.foldl (fun m p => p.apply m) m

/-- `Stacked m₀ ps ms m`: the patches `ps` lead from `m₀` to `m`, each one fits where it is applied,
    and `ms` are the memories that preceded them. -/
inductive Stacked (m₀ : Memory β) : List (Patch β) → List (Memory β) → Memory β → Prop
  | nil : Stacked m₀ [] [] m₀
  | push {ps ms m p} (h : Stacked m₀ ps ms m) (fits : p.Fits m) :
      Stacked m₀ (ps ++ [p]) (ms ++ [m]) (p.apply m)

namespace Stacked

variable {m₀ m : Memory β} {ps : List (Patch β)} {ms : List (Memory β)}

theorem eq_overlay (h : Stacked m₀ ps ms m) : m = overlay m₀ ps := by
  induction h with
  | nil => rfl
  | push _ _ ih => rw [overlay, List.foldl_append, List.foldl_cons, List.foldl_nil, ih, overlay]

/-- Taking the top patch off uncovers the memory that preceded it. -/
theorem pop {p : Patch β} (h : Stacked m₀ (ps ++ [p]) ms m) :
    ∃ ms' m', ms = ms' ++ [m'] ∧ Stacked m₀ ps ms' m' ∧ p.Fits m' ∧ m = p.apply m' := by
  generalize hq : ps ++ [p] = qs at h
  cases h with
  | nil => simp at hq
  | push h fits =>
    obtain ⟨rfl, hp⟩ := List.append_inj' hq rfl
    obtain rfl := List.singleton_injective hp
    exact ⟨_, _, rfl, h, fits, rfl⟩

/-- The last memory met on the way back is the one everything started from. -/
theorem getLast_eq (h : Stacked m₀ ps ms m) : (m :: ms.reverse).getLast? = some m₀ := by
  induction h with
  | nil => rfl
  | push _ _ ih =>
    rw [List.reverse_append, List.reverse_singleton, List.singleton_append, List.getLast?_cons_cons]
    exact ih

end Stacked

/-- Undo the patches in the order given, keeping every memory passed through. -/
def undoAll [DecidableEq β] : List (Patch β) → Memory β → Option (List (Memory β))
  | [], _ => some []
  | p :: ps, m =>
    match p.undo m with
    | none => none
    | some m' => (undoAll ps m').map (m' :: ·)

/-- Undoing a stack from the top passes through exactly the memories that preceded its patches. -/
theorem Stacked.undoAll_reverse [DecidableEq β] {m₀ m : Memory β} {ps : List (Patch β)}
    {ms : List (Memory β)} (h : Stacked m₀ ps ms m) :
    undoAll ps.reverse m = some ms.reverse := by
  induction h with
  | nil => rfl
  | push _ fits ih =>
    rw [List.reverse_append, List.reverse_singleton, List.singleton_append, undoAll,
      Patch.undo_apply fits]
    simp only [ih, Option.map_some, List.reverse_append, List.reverse_singleton,
      List.singleton_append]

end Schemes
