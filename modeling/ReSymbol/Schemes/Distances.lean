import Mathlib.Order.Bounds.Basic
import Mathlib.Tactic

/-! Distances from a root.

    A walk follows edges; the distance of a node is the length of its shortest walk. Labels that a
    search puts on nodes are distances if every label comes from a node one below, and every edge
    that leaves a labelled node either leads to a label at most one above, or to a node that the
    search left out when no label stood more than one above.

        root ──▶ 1 ──▶ 2 ──▶ 3
                  ╲──▶ 2 ──▶ ·      left out: no label is above 3 -/

namespace Schemes

variable {ν : Type} (edge : ν → ν → Prop) (root : ν)

/-- The node is reached in so many steps. -/
inductive Walks : ℕ → ν → Prop
  | start : Walks 0 root
  | step {n : ℕ} {u v : ν} (hwalk : Walks n u) (hedge : edge u v) : Walks (n + 1) v

/-- The node is reached. -/
def Reached (v : ν) : Prop := ∃ n, Walks edge root n v

variable {edge root} {label : ν → ℕ → Prop}

section Layers

variable (hstart : label root 0)
  (hparent : ∀ {v d}, label v d →
    (v = root ∧ d = 0) ∨ ∃ u d', label u d' ∧ edge u v ∧ d = d' + 1)
  (hedge : ∀ {u d v}, label u d → edge u v →
    (∃ d', label v d' ∧ d' ≤ d + 1) ∨ ∀ w d', label w d' → d' ≤ d + 1)

include hparent in
theorem walks_of_label {v : ν} {d : ℕ} (h : label v d) : Walks edge root d v := by
  induction d generalizing v with
  | zero =>
    rcases hparent h with ⟨rfl, -⟩ | ⟨u, d', -, -, hd⟩
    · exact .start
    · omega
  | succ d ih =>
    rcases hparent h with ⟨-, hd⟩ | ⟨u, d', hu, huv, hd⟩
    · omega
    · obtain rfl : d = d' := by omega
      exact .step (ih hu) huv

include hstart hedge in
/-- A walk stays within the labels, or has become as long as every label. -/
theorem label_or_bound {n : ℕ} {v : ν} (h : Walks edge root n v) :
    (∃ d, label v d ∧ d ≤ n) ∨ ∀ w d, label w d → d ≤ n := by
  induction h with
  | start => exact .inl ⟨0, hstart, le_rfl⟩
  | step hwalk huv ih =>
    rcases ih with ⟨d, hd, hle⟩ | hall
    · rcases hedge hd huv with ⟨d', hd', hle'⟩ | hall
      · exact .inl ⟨d', hd', by omega⟩
      · exact .inr fun w d' hw => (hall w d' hw).trans (by omega)
    · exact .inr fun w d hw => (hall w d hw).trans (Nat.le_succ _)

include hstart hparent hedge in
/-- The labels are the distances. -/
theorem isLeast_of_label (hunique : ∀ {v d d'}, label v d → label v d' → d = d') {v : ν} {d : ℕ}
    (h : label v d) : IsLeast {n | Walks edge root n v} d := by
  refine ⟨walks_of_label hparent h, fun n hn => ?_⟩
  rcases label_or_bound hstart hedge hn with ⟨d', hd', hle⟩ | hall
  · rwa [hunique h hd']
  · exact hall v d h

end Layers

/-- A set that no edge leaves holds everything that is reached. -/
theorem reached_subset {s : ν → Prop} (hroot : s root) (hclosed : ∀ {u v}, s u → edge u v → s v)
    {v : ν} (h : Reached edge root v) : s v := by
  obtain ⟨n, hn⟩ := h
  induction hn with
  | start => exact hroot
  | step _ huv ih => exact hclosed ih huv

end Schemes
