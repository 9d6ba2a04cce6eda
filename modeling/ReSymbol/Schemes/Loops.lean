import Mathlib

/-! Loops that can fail.

    A round of a loop fails, ends the loop with an answer, or hands its state to the next round. The
    number of rounds is bounded from outside, so that a loop that does not end is an outcome of its
    own: a computation is still running (`none`), or it has come to an answer or an error.

        s ──round──▶ again s₁ ──round──▶ again s₂ ──▶ … ──▶ done answer
              └────────▶ error e

    A loop comes to an end when a measure of its state falls in every round. -/

namespace Schemes

variable {ε α β σ ρ : Type}

/-! ### Computations that may still be running -/

/-- A fallible computation that may not have ended yet. -/
def Running (ε α : Type) : Type := Option (Except ε α)

namespace Running

/-- The computation has ended with this outcome. -/
def ended (outcome : Except ε α) : Running ε α := some outcome

instance : Monad (Running ε) where
  pure a := ended (.ok a)
  bind x f := match x with
    | none => none
    | some (.error e) => ended (.error e)
    | some (.ok a) => f a

instance : MonadLift (Except ε) (Running ε) := ⟨ended⟩

instance [DecidableEq ε] [DecidableEq α] : DecidableEq (Running ε α) :=
  inferInstanceAs (DecidableEq (Option (Except ε α)))

@[simp] theorem ended_inj {x y : Except ε α} : ended x = ended y ↔ x = y :=
  Option.some_inj

@[simp] theorem ended_ok_bind (a : α) (f : α → Running ε β) : (ended (.ok a) >>= f) = f a := rfl

@[simp] theorem pure_eq_ended (a : α) : (pure a : Running ε α) = ended (.ok a) := rfl

theorem bind_eq_ok {x : Running ε α} {f : α → Running ε β} {b : β} :
    (x >>= f) = ended (.ok b) ↔ ∃ a, x = ended (.ok a) ∧ f a = ended (.ok b) := by
  rcases x with _ | e | a
  · constructor
    · intro h
      cases h
    · rintro ⟨a, h, -⟩
      cases h
  · constructor
    · intro h
      cases h
    · rintro ⟨a, h, -⟩
      cases h
  · constructor
    · intro h
      exact ⟨a, rfl, h⟩
    · rintro ⟨a', h, hf⟩
      cases h
      exact hf

/-- The computation has ended. -/
def Halts (x : Running ε α) : Prop := ∃ outcome, x = ended outcome

theorem Halts.ended (outcome : Except ε α) : Halts (ended outcome) := ⟨outcome, rfl⟩

theorem Halts.bind {x : Running ε α} {f : α → Running ε β} (hx : Halts x)
    (hf : ∀ a, x = Running.ended (.ok a) → Halts (f a)) : Halts (x >>= f) := by
  obtain ⟨outcome, rfl⟩ := hx
  cases outcome with
  | error e => exact Halts.ended (.error e)
  | ok a => exact hf a rfl

theorem Halts.foldlM {f : β → α → Running ε β} (hf : ∀ b a, Halts (f b a)) (xs : List α) (b : β) :
    Halts (xs.foldlM f b) := by
  induction xs generalizing b with
  | nil => exact Halts.ended (.ok b)
  | cons x xs ih =>
    rw [List.foldlM_cons]
    exact (hf b x).bind fun b' _ => ih b'

end Running

/-! ### Loops -/

/-- What a round of a loop comes to when it does not fail. -/
inductive Round (σ ρ : Type) where
  | again (state : σ)
  | done (answer : ρ)

/-- Run at most so many rounds. -/
def loop (round : σ → Except ε (Round σ ρ)) : ℕ → σ → Running ε ρ
  | 0, _ => none
  | rounds + 1, s =>
    match round s with
    | .error e => Running.ended (.error e)
    | .ok (.done answer) => Running.ended (.ok answer)
    | .ok (.again s') => loop round rounds s'

/-- What a round may come to, when `inv` and a falling `measure` carry the loop to `post`. -/
def RoundMeets (inv : σ → Prop) (measure : σ → ℕ) (post : Except ε ρ → Prop) (s : σ) :
    Except ε (Round σ ρ) → Prop
  | .error e => post (.error e)
  | .ok (.done answer) => post (.ok answer)
  | .ok (.again s') => inv s' ∧ measure s' < measure s

/-- The rule of loops: the invariant is kept and the measure falls, so the loop ends as said. -/
theorem loop_meets {round : σ → Except ε (Round σ ρ)} {inv : σ → Prop} {measure : σ → ℕ}
    {post : Except ε ρ → Prop} (hround : ∀ s, inv s → RoundMeets inv measure post s (round s))
    {rounds : ℕ} {s : σ} (hinv : inv s) (hrounds : measure s < rounds) :
    ∃ outcome, loop round rounds s = Running.ended outcome ∧ post outcome := by
  induction rounds generalizing s with
  | zero => omega
  | succ rounds ih =>
    have hmeets := hround s hinv
    rw [loop]
    cases hresult : round s with
    | error e =>
      rw [hresult] at hmeets
      exact ⟨.error e, rfl, hmeets⟩
    | ok next =>
      rw [hresult] at hmeets
      cases next with
      | done answer => exact ⟨.ok answer, rfl, hmeets⟩
      | again s' => exact ih hmeets.1 (by have := hmeets.2; omega)

/-- A later round begins with this state. -/
inductive Reaches (round : σ → Except ε (Round σ ρ)) (s : σ) : σ → Prop
  | start : Reaches round s s
  | again {s₁ s₂ : σ} (h : Reaches round s s₁) (hround : round s₁ = .ok (.again s₂)) :
      Reaches round s s₂

/-- What every round keeps holds at every round. -/
theorem Reaches.invariant {round : σ → Except ε (Round σ ρ)} {s s' : σ} (h : Reaches round s s')
    (inv : σ → Prop) (hkeeps : ∀ s₁ s₂, inv s₁ → round s₁ = .ok (.again s₂) → inv s₂)
    (hstart : inv s) : inv s' := by
  induction h with
  | start => exact hstart
  | again _ hround ih => exact hkeeps _ _ ih hround

end Schemes
