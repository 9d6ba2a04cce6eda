import Mathlib.Logic.Relation
import Mathlib.Order.WellFounded

/-! Runs that come to an end.

    Every reachable state has a rank in a well-founded order, and every step lowers it: from the
    start no run goes on for ever, so that a run that cannot be continued is reached in any order of
    the steps. The ranks come with what is known of the states, so that a rank need not be a
    function of the state. -/

namespace Schemes
open Relation

variable {σ α : Type} {step : σ → σ → Prop}

/-- What a step keeps up holds after every run. -/
theorem reachable_invariant (Inv : σ → Prop) {s₀ s : σ} (h₀ : Inv s₀)
    (hstep : ∀ s s', Inv s → step s s' → Inv s') (hrun : ReflTransGen step s₀ s) : Inv s := by
  induction hrun with
  | refl => exact h₀
  | tail _ h ih => exact hstep _ _ ih h

/-- No run goes on for ever, if every step lowers the rank. -/
theorem no_endless_run [LT α] [WellFoundedLT α] (Ranked : σ → α → Prop)
    (hstep : ∀ s a s', Ranked s a → step s s' → ∃ b, Ranked s' b ∧ b < a) {s₀ : σ} {a₀ : α}
    (h₀ : Ranked s₀ a₀) (f : ℕ → σ) (hf : f 0 = s₀) : ¬ ∀ n, step (f n) (f (n + 1)) := by
  induction a₀ using WellFoundedLT.induction generalizing s₀ f with
  | ind a₀ ih =>
    intro hendless
    obtain ⟨b, hranked, hlt⟩ := hstep s₀ a₀ (f 1) h₀ (hf ▸ hendless 0)
    exact ih b hlt hranked (fun n => f (n + 1)) rfl fun n => hendless (n + 1)

end Schemes
