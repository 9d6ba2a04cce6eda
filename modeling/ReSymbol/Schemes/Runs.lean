import Mathlib

/-! Runs of a labelled transition system.

    A system is a relation `step s i o s'`: in state `s` the input `i` is answered by `o` and the
    state becomes `s'`. A run is the list of its events, oldest first; every event keeps the states
    on both sides, so that a property of a whole history can be stated over its run.

        s₀ ──e₁──▶ s₁ ──e₂──▶ … ──eₙ──▶ s -/

namespace Schemes

variable {σ ι ο : Type}

/-- One answered input together with the states around it. -/
structure Event (σ ι ο : Type) where
  pre : σ
  input : ι
  output : ο
  post : σ

/-- `Run step s₀ es s`: the events `es` lead from `s₀` to `s`. -/
inductive Run (step : σ → ι → ο → σ → Prop) (s₀ : σ) : List (Event σ ι ο) → σ → Prop
  | start : Run step s₀ [] s₀
  | next {es s i o s'} (run : Run step s₀ es s) (h : step s i o s') :
      Run step s₀ (es ++ [⟨s, i, o, s'⟩]) s'

namespace Run

variable {step : σ → ι → ο → σ → Prop} {s₀ s : σ} {es : List (Event σ ι ο)}

/-- What holds at the start and survives every step holds after every run. -/
theorem invariant (Inv : σ → Prop) (h₀ : Inv s₀)
    (hstep : ∀ s i o s', Inv s → step s i o s' → Inv s') (run : Run step s₀ es s) : Inv s := by
  induction run with
  | start => exact h₀
  | next _ h ih => exact hstep _ _ _ _ ih h

/-- What a step establishes from an invariant holds of every event of a run. -/
theorem event_invariant (Inv : σ → Prop) (P : Event σ ι ο → Prop) (h₀ : Inv s₀)
    (hstep : ∀ s i o s', Inv s → step s i o s' → Inv s' ∧ P ⟨s, i, o, s'⟩)
    (run : Run step s₀ es s) : Inv s ∧ ∀ e ∈ es, P e := by
  induction run with
  | start => exact ⟨h₀, by simp⟩
  | next _ h ih =>
    obtain ⟨hi, hp⟩ := hstep _ _ _ _ ih.1 h
    refine ⟨hi, fun e he => ?_⟩
    rcases List.mem_append.mp he with he | he
    · exact ih.2 e he
    · rw [List.mem_singleton.mp he]; exact hp

theorem trans {es' : List (Event σ ι ο)} {s' : σ} (run : Run step s₀ es s)
    (rest : Run step s es' s') : Run step s₀ (es ++ es') s' := by
  induction rest with
  | start => simpa using run
  | next _ h ih => rw [← List.append_assoc]; exact ih.next h

/-- Invariants of a run may also speak about the events so far. -/
theorem history_invariant (Inv : List (Event σ ι ο) → σ → Prop) (h₀ : Inv [] s₀)
    (hstep : ∀ es s i o s', Run step s₀ es s → Inv es s → step s i o s' →
      Inv (es ++ [⟨s, i, o, s'⟩]) s')
    (run : Run step s₀ es s) : Inv es s := by
  induction run with
  | start => exact h₀
  | next r h ih => exact hstep _ _ _ _ _ r ih h

/-- What a step establishes from an invariant of the history holds of every event of a run, with
    the events before it. -/
theorem event_history (Inv : List (Event σ ι ο) → σ → Prop)
    (P : List (Event σ ι ο) → Event σ ι ο → Prop) (h₀ : Inv [] s₀)
    (hstep : ∀ es s i o s', Inv es s → step s i o s' →
      Inv (es ++ [⟨s, i, o, s'⟩]) s' ∧ P es ⟨s, i, o, s'⟩)
    (run : Run step s₀ es s) :
    Inv es s ∧ ∀ earlier e later, es = earlier ++ e :: later → P earlier e := by
  induction run with
  | start => exact ⟨h₀, by simp⟩
  | @next es s i o s' _ h ih =>
    obtain ⟨hi, hp⟩ := hstep _ _ _ _ _ ih.1 h
    refine ⟨hi, fun earlier e later hes => ?_⟩
    rcases List.eq_nil_or_concat later with rfl | ⟨rest, last, rfl⟩
    · obtain ⟨rfl, hlast⟩ := List.append_inj' hes rfl
      rw [← List.singleton_inj.mp hlast]
      exact hp
    · refine ih.2 earlier e rest ?_
      have hes' : es ++ [⟨s, i, o, s'⟩] = (earlier ++ e :: rest) ++ [last] := by simpa using hes
      exact (List.append_inj' hes' rfl).1

/-- What is used up is available first, and becomes available only by being provided: a run uses it
    at most as often as it was provided. -/
theorem used_le_provided (available : σ → ℕ) (uses provides : Event σ ι ο → Bool)
    (Inv : σ → Prop) (h₀ : Inv s₀) (hnone : available s₀ = 0)
    (hstep : ∀ s i o s', Inv s → step s i o s' → Inv s' ∧
      (uses ⟨s, i, o, s'⟩).toNat + available s' ≤ available s + (provides ⟨s, i, o, s'⟩).toNat)
    (run : Run step s₀ es s) : es.countP uses + available s ≤ es.countP provides := by
  suffices h : Inv s ∧ es.countP uses + available s ≤ es.countP provides from h.2
  induction run with
  | start => exact ⟨h₀, by simp [hnone]⟩
  | next _ h ih =>
    obtain ⟨hinv, hle⟩ := ih
    obtain ⟨hinv', hmove⟩ := hstep _ _ _ _ hinv h
    refine ⟨hinv', ?_⟩
    simp only [List.countP_append, List.countP_singleton]
    cases huses : uses _ <;> cases hprovides : provides _ <;>
      simp [huses, hprovides] at hmove ⊢ <;> omega

/-- Numbers issued above a watermark that never falls come out strictly increasing, and the
    watermark stays above all of them. -/
theorem issued_increasing (mark : σ → ℕ) (issued : Event σ ι ο → List ℕ) (Inv : σ → Prop)
    (h₀ : Inv s₀)
    (hstep : ∀ s i o s', Inv s → step s i o s' → Inv s' ∧ mark s ≤ mark s' ∧
      (issued ⟨s, i, o, s'⟩).Pairwise (· < ·) ∧
      ∀ n ∈ issued ⟨s, i, o, s'⟩, mark s < n ∧ n ≤ mark s')
    (run : Run step s₀ es s) :
    (es.flatMap issued).Pairwise (· < ·) ∧ ∀ n ∈ es.flatMap issued, n ≤ mark s := by
  suffices h : Inv s ∧ (es.flatMap issued).Pairwise (· < ·) ∧ ∀ n ∈ es.flatMap issued, n ≤ mark s
    from h.2
  induction run with
  | start => exact ⟨h₀, by simp, by simp⟩
  | next _ h ih =>
    obtain ⟨hinv, hpair, hle⟩ := ih
    obtain ⟨hinv', hmono, hnew, hrange⟩ := hstep _ _ _ _ hinv h
    refine ⟨hinv', ?_, ?_⟩
    · simp only [List.flatMap_append, List.flatMap_cons, List.flatMap_nil, List.append_nil]
      rw [List.pairwise_append]
      exact ⟨hpair, hnew, fun a ha b hb => lt_of_le_of_lt (hle a ha) (hrange b hb).1⟩
    · intro n hn
      simp only [List.flatMap_append, List.flatMap_cons, List.flatMap_nil, List.append_nil,
        List.mem_append] at hn
      rcases hn with hn | hn
      · exact le_trans (hle n hn) hmono
      · exact (hrange n hn).2

end Run

/-! ### Deterministic systems -/

/-- Feed a list of inputs to a function, keeping the events. -/
def execute (f : ι → σ → ο × σ) : σ → List ι → List (Event σ ι ο) × σ
  | s, [] => ([], s)
  | s, i :: rest =>
    let next := execute f (f i s).2 rest
    (⟨s, i, (f i s).1, (f i s).2⟩ :: next.1, next.2)

/-- Executing a function is a run of the system it defines. -/
theorem run_execute (f : ι → σ → ο × σ) (s : σ) (inputs : List ι) :
    Run (fun s i o s' => f i s = (o, s')) s (execute f s inputs).1 (execute f s inputs).2 := by
  induction inputs generalizing s with
  | nil => exact .start
  | cons i rest ih =>
    have first : Run (fun s i o s' => f i s = (o, s')) s ([] ++ [⟨s, i, (f i s).1, (f i s).2⟩])
        (f i s).2 := Run.start.next rfl
    exact first.trans (ih (f i s).2)

end Schemes
