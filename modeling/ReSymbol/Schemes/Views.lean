import Mathlib

/-! What a stateful computation leaves alone.

    A view is a part of the state, or anything computed from it. A computation keeps a view when it
    ends with the view that it began with; a sequence keeps what its parts keep. -/

namespace Schemes

variable {σ α β γ : Type} {view : σ → γ}

theorem run_bind {x : StateM σ α} {f : α → StateM σ β} {s s' : σ} {a : α} (h : x s = (a, s')) :
    (x >>= f) s = f a s' := congrArg (fun r : α × σ => f r.1 r.2) h

/-- The computation leaves the view of the state as it was. -/
def Keeps (view : σ → γ) (x : StateM σ α) : Prop := ∀ s, view (x s).2 = view s

namespace Keeps

theorem pure (a : α) : Keeps view (Pure.pure a : StateM σ α) := fun _ => rfl

theorem get : Keeps view (MonadState.get : StateM σ σ) := fun _ => rfl

theorem bind {x : StateM σ α} {f : α → StateM σ β} (hx : Keeps view x)
    (hf : ∀ a, Keeps view (f a)) :
    Keeps view (x >>= f) :=
  fun s => (hf (x s).1 (x s).2).trans (hx s)

theorem ite {c : Prop} [Decidable c] {x y : StateM σ α} (hx : Keeps view x) (hy : Keeps view y) :
    Keeps view (if c then x else y) := by
  split
  · exact hx
  · exact hy

end Keeps

/-! ### Moves of a view -/

/-- The computation moves the view of the state along a relation. -/
def Moves (view : σ → γ) (R : γ → γ → Prop) (x : StateM σ α) : Prop :=
  ∀ s, R (view s) (view (x s).2)

variable {R : γ → γ → Prop}

theorem Keeps.moves {x : StateM σ α} (h : Keeps view x) (hrefl : ∀ v, R v v) : Moves view R x :=
  fun s => (congrArg (R (view s)) (h s)).mpr (hrefl (view s))

theorem Keeps.bind_moves {x : StateM σ α} {f : α → StateM σ β} (hx : Keeps view x)
    (hf : ∀ a, Moves view R (f a)) : Moves view R (x >>= f) :=
  fun s => (congrArg (R · _) (hx s)).mp (hf (x s).1 (x s).2)

theorem Moves.bind {x : StateM σ α} {f : α → StateM σ β} (hx : Moves view R x)
    (hf : ∀ a, Keeps view (f a)) : Moves view R (x >>= f) :=
  fun s => (congrArg (R (view s)) (hf (x s).1 (x s).2)).mpr (hx s)

theorem Moves.ite_of {c : Prop} [Decidable c] {x y : StateM σ α} (hx : c → Moves view R x)
    (hy : ¬ c → Moves view R y) : Moves view R (if c then x else y) := by
  split
  · exact hx ‹_›
  · exact hy ‹_›

theorem Moves.ite {c : Prop} [Decidable c] {x y : StateM σ α} (hx : Moves view R x)
    (hy : Moves view R y) : Moves view R (if c then x else y) := ite_of (fun _ => hx) fun _ => hy

end Schemes
