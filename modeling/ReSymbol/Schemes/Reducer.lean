import Mathlib

/-! Fallible reducers.

    A reducer is an operation on a state value that either answers or fails, and that keeps what it
    wrote before failing: `x s = (outcome, s')`. Unlike a transaction, a failed reducer may leave
    `s' ≠ s`, so every statement about failure has to speak about the state it leaves behind.

        s ──x──▶ (ok a, s₁)    ──f a──▶ (ok b, s₂)      the bind `x >>= f` answers `b`
                 (error e, s₁)                          the bind stops at `s₁` -/

namespace Schemes

/-- An operation on states `σ` that answers an `α` or fails with an `ε`. -/
def Reducer (σ ε α : Type) : Type := σ → Except ε α × σ

/-- How an operation can end without an answer: it reports an error, or it panics. -/
inductive Fault (ε : Type) where
  | error (e : ε)
  | panic (message : String)

/-- The outcome is not a panic. -/
def NoPanic {ε α : Type} : Except (Fault ε) α → Prop
  | .error (.panic _) => False
  | _ => True

namespace Reducer

variable {σ τ ε ε' α β : Type}

instance : Monad (Reducer σ ε) where
  pure a := fun s => (.ok a, s)
  bind x f := fun s =>
    match x s with
    | (.ok a, s₁) => f a s₁
    | (.error e, s₁) => (.error e, s₁)

/-- Fail without touching the state. -/
def raise (e : ε) : Reducer σ ε α := fun s => (.error e, s)

/-- Read the whole state. -/
def look : Reducer σ ε σ := fun s => (.ok s, s)

/-- Rewrite the state. -/
def update (f : σ → σ) : Reducer σ ε Unit := fun s => (.ok (), f s)

/-- Fail with `e` when `c` holds. -/
def refuse (c : Prop) [Decidable c] (e : ε) : Reducer σ ε Unit :=
  fun s => if c then (.error e, s) else (.ok (), s)

/-- Answer the value of a pure check, or fail as it does. -/
def lift (x : Except ε α) : Reducer σ ε α := fun s => (x, s)

/-- Answer the value inside `o`, or fail with `e`. -/
def require (o : Option α) (e : ε) : Reducer σ ε α :=
  fun s => match o with
    | some a => (.ok a, s)
    | none => (.error e, s)

/-- A pure check whose failure is an ordinary error. -/
def check (x : Except ε α) : Reducer σ (Fault ε) α := lift (x.mapError .error)

/-- Answer the value inside `o`, or panic. -/
def expect (o : Option α) (message : String) : Reducer σ (Fault ε) α := require o (.panic message)

/-- Run a reducer of a part of the state: the part is written back even when it fails. -/
def within (part : σ → τ) (put : τ → σ → σ) (wrap : ε' → ε) (x : Reducer τ ε' α) :
    Reducer σ ε α :=
  fun s => match x (part s) with
    | (.ok a, t) => (.ok a, put t s)
    | (.error e, t) => (.error (wrap e), put t s)

/-- The answer and the state of a run that did not fail. -/
def succeeded : Except ε α × σ → Option (α × σ)
  | (.ok a, s) => some (a, s)
  | (.error _, _) => none

/-! ### Running one combinator -/

@[simp] theorem pure_run (a : α) (s : σ) : (pure a : Reducer σ ε α) s = (.ok a, s) := rfl

@[simp] theorem raise_run (e : ε) (s : σ) : (raise e : Reducer σ ε α) s = (.error e, s) := rfl

@[simp] theorem look_run (s : σ) : (look : Reducer σ ε σ) s = (.ok s, s) := rfl

@[simp] theorem update_run (f : σ → σ) (s : σ) :
    (update f : Reducer σ ε Unit) s = (.ok (), f s) := rfl

@[simp] theorem lift_run (x : Except ε α) (s : σ) : lift x s = (x, s) := rfl

theorem bind_run (x : Reducer σ ε α) (f : α → Reducer σ ε β) (s : σ) :
    (x >>= f) s = match x s with
      | (.ok a, s₁) => f a s₁
      | (.error e, s₁) => (.error e, s₁) := rfl

/-- A reducer that answered hands its answer and its state on. -/
theorem bind_of_ok {x : Reducer σ ε α} {f : α → Reducer σ ε β} {s s₁ : σ} {a : α}
    (h : x s = (.ok a, s₁)) : (x >>= f) s = f a s₁ := by
  rw [bind_run, h]

theorem bind_of_error {x : Reducer σ ε α} {f : α → Reducer σ ε β} {s s₁ : σ} {e : ε}
    (h : x s = (.error e, s₁)) : (x >>= f) s = (.error e, s₁) := by
  rw [bind_run, h]

@[simp] theorem pure_bind_run (a : α) (f : α → Reducer σ ε β) (s : σ) :
    (pure a >>= f : Reducer σ ε β) s = f a s := rfl

@[simp] theorem look_bind_run (f : σ → Reducer σ ε β) (s : σ) : (look >>= f) s = f s s := rfl

@[simp] theorem update_bind_run (g : σ → σ) (f : Unit → Reducer σ ε β) (s : σ) :
    (update g >>= f) s = f () (g s) := rfl

@[simp] theorem refuse_bind_run (c : Prop) [Decidable c] (e : ε) (f : Unit → Reducer σ ε β)
    (s : σ) : (refuse c e >>= f) s = if c then (.error e, s) else f () s := by
  by_cases hc : c <;> simp [bind_run, refuse, hc]

/-- Wrapping an answer changes neither the state nor a failure. -/
theorem bind_pure_run (x : Reducer σ ε α) (f : α → β) (s : σ) :
    (x >>= fun a => pure (f a)) s = ((x s).1.map f, (x s).2) := by
  rcases hx : x s with ⟨_ | _, s₁⟩ <;> simp [bind_run, hx, Except.map]

@[simp] theorem lift_ok_bind_run (a : α) (f : α → Reducer σ ε β) (s : σ) :
    (lift (.ok a) >>= f) s = f a s := rfl

@[simp] theorem check_bind_ok (a : α) (f : α → Reducer σ (Fault ε) β) (s : σ) :
    (check (.ok a) >>= f) s = f a s := rfl

@[simp] theorem check_bind_error (e : ε) (f : α → Reducer σ (Fault ε) β) (s : σ) :
    (check (.error e) >>= f) s = (.error (.error e), s) := rfl

@[simp] theorem expect_bind_some (a : α) (message : String) (f : α → Reducer σ (Fault ε) β)
    (s : σ) : (expect (some a) message >>= f) s = f a s := rfl

/-! ### Taking a sequence apart -/

/-- A sequence answers exactly when both halves do. -/
@[simp] theorem succeeded_eq_some {x : Except ε α × σ} {a : α} {s : σ} :
    succeeded x = some (a, s) ↔ x = (.ok a, s) := by
  rcases x with ⟨_ | b, t⟩ <;> simp [succeeded]

theorem bind_eq_ok {x : Reducer σ ε α} {f : α → Reducer σ ε β} {s s' : σ} {b : β} :
    (x >>= f) s = (.ok b, s') ↔ ∃ a s₁, x s = (.ok a, s₁) ∧ f a s₁ = (.ok b, s') := by
  rcases hx : x s with ⟨r, s₁⟩
  cases r with
  | ok a => simp [bind_run, hx]
  | error e => simp [bind_run, hx]

/-- A sequence fails in its first half, or in its second after the first answered. -/
theorem bind_eq_error {x : Reducer σ ε α} {f : α → Reducer σ ε β} {s s' : σ} {e : ε} :
    (x >>= f) s = (.error e, s') ↔
      x s = (.error e, s') ∨ ∃ a s₁, x s = (.ok a, s₁) ∧ f a s₁ = (.error e, s') := by
  rcases hx : x s with ⟨r, s₁⟩
  cases r with
  | ok a => simp [bind_run, hx]
  | error e => simp [bind_run, hx]

@[simp] theorem refuse_eq_ok {c : Prop} [Decidable c] {e : ε} {s s' : σ} {u : Unit} :
    refuse c e s = (.ok u, s') ↔ ¬ c ∧ s = s' := by
  by_cases hc : c <;> simp [refuse, hc]

@[simp] theorem require_eq_ok {o : Option α} {e : ε} {s s' : σ} {a : α} :
    require o e s = (.ok a, s') ↔ o = some a ∧ s = s' := by
  cases o <;> simp [require]

@[simp] theorem pure_eq_ok {a b : α} {s s' : σ} :
    (pure a : Reducer σ ε α) s = (.ok b, s') ↔ a = b ∧ s = s' := by
  simp

@[simp] theorem look_eq_ok {s s' t : σ} :
    (look : Reducer σ ε σ) s = (.ok t, s') ↔ s = t ∧ s = s' := by
  simp

@[simp] theorem update_eq_ok {f : σ → σ} {s s' : σ} {u : Unit} :
    (update f : Reducer σ ε Unit) s = (.ok u, s') ↔ f s = s' := by
  simp

@[simp] theorem lift_eq_ok {x : Except ε α} {s s' : σ} {a : α} :
    lift x s = (.ok a, s') ↔ x = .ok a ∧ s = s' := by
  simp

/-! ### Reducers that check first and write last -/

/-- The reducer never writes. -/
def ReadOnly (x : Reducer σ ε α) : Prop := ∀ s, (x s).2 = s

/-- The reducer always answers. -/
def Total (x : Reducer σ ε α) : Prop := ∀ s, ∃ a s', x s = (.ok a, s')

/-- The reducer leaves the state as it was when it fails. -/
def Atomic (x : Reducer σ ε α) : Prop := ∀ s e s', x s = (.error e, s') → s' = s

theorem readOnly_look : ReadOnly (look : Reducer σ ε σ) := fun _ => rfl

theorem readOnly_raise (e : ε) : ReadOnly (raise e : Reducer σ ε α) := fun _ => rfl

theorem readOnly_lift (x : Except ε α) : ReadOnly (lift x : Reducer σ ε α) := fun _ => rfl

theorem readOnly_refuse (c : Prop) [Decidable c] (e : ε) :
    ReadOnly (refuse c e : Reducer σ ε Unit) := by
  intro s
  by_cases hc : c <;> simp [refuse, hc]

theorem readOnly_require (o : Option α) (e : ε) : ReadOnly (require o e : Reducer σ ε α) := by
  intro s
  cases o <;> rfl

theorem total_pure (a : α) : Total (pure a : Reducer σ ε α) := fun s => ⟨a, s, rfl⟩

theorem total_update (f : σ → σ) : Total (update f : Reducer σ ε Unit) := fun s => ⟨(), f s, rfl⟩

theorem ReadOnly.bind {x : Reducer σ ε α} {f : α → Reducer σ ε β} (hx : ReadOnly x)
    (hf : ∀ a, ReadOnly (f a)) : ReadOnly (x >>= f) := by
  intro s
  have hs := hx s
  rcases h : x s with ⟨_ | a, s₁⟩ <;> simp only [bind_run, h] at hs ⊢
  · exact hs
  · rw [hf a s₁, hs]

theorem Total.bind {x : Reducer σ ε α} {f : α → Reducer σ ε β} (hx : Total x)
    (hf : ∀ a, Total (f a)) : Total (x >>= f) := by
  intro s
  obtain ⟨a, s₁, h⟩ := hx s
  rw [bind_of_ok h]
  exact hf a s₁

theorem ReadOnly.atomic {x : Reducer σ ε α} (hx : ReadOnly x) : Atomic x := by
  intro s e s' h
  have hs := hx s
  rwa [h] at hs

theorem Total.atomic {x : Reducer σ ε α} (hx : Total x) : Atomic x := by
  intro s e s' h
  obtain ⟨a, s₁, hok⟩ := hx s
  simp [hok] at h

/-- Checks in front of an atomic reducer keep it atomic. -/
theorem ReadOnly.bind_atomic {x : Reducer σ ε α} {f : α → Reducer σ ε β} (hx : ReadOnly x)
    (hf : ∀ a, Atomic (f a)) : Atomic (x >>= f) := by
  intro s e s' h
  rcases bind_eq_error.mp h with herr | ⟨a, s₁, hok, herr⟩
  · exact hx.atomic s e s' herr
  · have hs := hx s
    rw [hok] at hs
    obtain rfl : s₁ = s := hs
    exact hf a s₁ e s' herr

/-- Writes that cannot fail keep it atomic. -/
theorem Atomic.bind_total {x : Reducer σ ε α} {f : α → Reducer σ ε β} (hx : Atomic x)
    (hf : ∀ a, Total (f a)) : Atomic (x >>= f) := by
  intro s e s' h
  rcases bind_eq_error.mp h with h | ⟨a, s₁, -, h⟩
  · exact hx s e s' h
  · obtain ⟨b, s₂, hok⟩ := hf a s₁
    simp [hok] at h

/-- No run of the reducer, answered or failed, changes this view of the state. -/
def Preserves (view : σ → τ) (x : Reducer σ ε α) : Prop := ∀ s, view (x s).2 = view s

theorem ReadOnly.preserves {view : σ → τ} {x : Reducer σ ε α} (hx : ReadOnly x) :
    Preserves view x := fun s => congrArg view (hx s)

theorem preserves_pure {view : σ → τ} (a : α) : Preserves view (pure a : Reducer σ ε α) :=
  fun _ => rfl

theorem preserves_update {view : σ → τ} {f : σ → σ} (h : ∀ s, view (f s) = view s) :
    Preserves view (update f : Reducer σ ε Unit) := h

theorem Preserves.bind {view : σ → τ} {x : Reducer σ ε α} {f : α → Reducer σ ε β}
    (hx : Preserves view x) (hf : ∀ a, Preserves view (f a)) : Preserves view (x >>= f) := by
  intro s
  have hs := hx s
  rcases h : x s with ⟨_ | a, s₁⟩ <;> simp only [bind_run, h] at hs ⊢
  · exact hs
  · rw [hf a s₁, hs]

end Reducer

/-! ### Chains of pure checks -/

section Checks

variable {ε α β : Type}

theorem ite_error_eq_ok {c : Prop} [Decidable c] {e : ε} {x : Except ε α} {a : α} :
    (if c then .error e else x) = .ok a ↔ ¬ c ∧ x = .ok a := by
  by_cases hc : c <;> simp [hc]

theorem except_bind_eq_ok {x : Except ε α} {f : α → Except ε β} {b : β} :
    (x >>= f) = .ok b ↔ ∃ a, x = .ok a ∧ f a = .ok b := by
  cases x <;> simp [bind, Except.bind]

theorem except_ok_bind (a : α) (f : α → Except ε β) : (Except.ok a >>= f) = f a := rfl

/-- A guard in front of the rest of a computation. -/
theorem guard_eq_ok {c : Prop} [Decidable c] {e : ε} {k : Unit → Except ε α} {a : α} :
    (if c then Except.error e >>= k else k ()) = .ok a ↔ ¬ c ∧ k () = .ok a := by
  by_cases hc : c <;> simp [hc, bind, Except.bind]

/-- Fail with `e` when `c` holds. -/
def refuseIf (c : Prop) [Decidable c] (e : ε) : Except ε Unit := if c then .error e else .ok ()

@[simp] theorem refuseIf_eq_ok {c : Prop} [Decidable c] {e : ε} {u : Unit} :
    refuseIf c e = .ok u ↔ ¬ c := by
  by_cases hc : c <;> simp [refuseIf, hc]

/-- A mapped answer comes from an answer. -/
theorem ok_of_map {β : Type} {f : α → β} {x : Except ε α} {b : β} (h : x.map f = .ok b) :
    ∃ a, x = .ok a ∧ f a = b := by
  cases x with
  | error e => cases h
  | ok a => exact ⟨a, rfl, Except.ok.inj h⟩

theorem forM_eq_ok {f : α → Except ε Unit} {xs : List α} {u : Unit} :
    xs.forM f = .ok u ↔ ∀ x ∈ xs, f x = .ok () := by
  induction xs with
  | nil => simp [pure, Except.pure]
  | cons x xs ih =>
    simp only [List.forM_eq_forM, List.forM_cons, except_bind_eq_ok, List.forall_mem_cons] at ih ⊢
    rw [← ih]
    exact ⟨fun ⟨_, hx, hrest⟩ => ⟨hx, hrest⟩, fun ⟨hx, hrest⟩ => ⟨(), hx, hrest⟩⟩

/-- Check every item against every later one, in the order of the list. -/
def pairsM (f : α → α → Except ε Unit) : List α → Except ε Unit
  | [] => .ok ()
  | x :: xs => do
    xs.forM (f x)
    pairsM f xs

theorem pairsM_eq_ok {f : α → α → Except ε Unit} {xs : List α} {u : Unit} :
    pairsM f xs = .ok u ↔ xs.Pairwise fun x y => f x y = .ok () := by
  induction xs with
  | nil => simp [pairsM]
  | cons x xs ih =>
    rw [pairsM, except_bind_eq_ok, List.pairwise_cons, ← ih]
    simp only [forM_eq_ok]
    exact ⟨fun ⟨_, hx, hrest⟩ => ⟨hx, hrest⟩, fun ⟨hx, hrest⟩ => ⟨(), hx, hrest⟩⟩

/-- A fold whose steps another fold can take ends as the other one does. -/
theorem foldlM_ok_imp {f g : β → α → Except ε β} {xs : List α}
    (h : ∀ s, ∀ x ∈ xs, ∀ s', f s x = .ok s' → g s x = .ok s') {s s' : β}
    (hf : xs.foldlM f s = .ok s') : xs.foldlM g s = .ok s' := by
  induction xs generalizing s with
  | nil => exact hf
  | cons x xs ih =>
    rw [List.foldlM_cons] at hf ⊢
    obtain ⟨s₁, hstep, hrest⟩ := except_bind_eq_ok.mp hf
    rw [h s x List.mem_cons_self s₁ hstep]
    exact ih (fun s y hy => h s y (List.mem_cons_of_mem _ hy)) hrest

/-- A map answers the answers of its items, one for each. -/
theorem mapM_eq_ok_iff {f : α → Except ε β} {xs : List α} {ys : List β} :
    xs.mapM f = .ok ys ↔ List.Forall₂ (fun x y => f x = .ok y) xs ys := by
  induction xs generalizing ys with
  | nil => simp [pure, Except.pure, eq_comm]
  | cons x xs ih =>
    simp only [List.mapM_cons, except_bind_eq_ok, ih, List.forall₂_cons_left_iff]
    constructor
    · rintro ⟨y, hy, rest, hrest, h⟩
      exact ⟨y, rest, hy, hrest, (Except.ok.inj h).symm⟩
    · rintro ⟨y, rest, hy, hrest, rfl⟩
      exact ⟨y, hy, rest, hrest, rfl⟩

/-- Every item of a mapped list is an answer. -/
theorem exists_of_mem_mapM {f : α → Except ε β} {xs : List α} {ys : List β}
    (h : xs.mapM f = .ok ys) {y : β} (hy : y ∈ ys) : ∃ x ∈ xs, f x = .ok y := by
  have hall := mapM_eq_ok_iff.mp h
  clear h
  induction hall with
  | nil => simp at hy
  | @cons x' y' xs ys hxy hrest ih =>
    rcases List.mem_cons.mp hy with rfl | hmem
    · exact ⟨x', List.mem_cons_self, hxy⟩
    · obtain ⟨x, hx, hfx⟩ := ih hmem
      exact ⟨x, List.mem_cons_of_mem _ hx, hfx⟩

theorem mapError_eq_ok {ε' : Type} {x : Except ε α} {f : ε → ε'} {a : α} :
    x.mapError f = .ok a ↔ x = .ok a := by
  cases x <;> simp [Except.mapError]

/-- A number that must fit in so many bits. -/
def bounded (bits n : ℕ) (refusal : ε) : Except ε ℕ :=
  if n < 2 ^ bits then .ok n else .error refusal

theorem bounded_eq_ok {bits n m : ℕ} {refusal : ε} :
    bounded bits n refusal = .ok m ↔ n < 2 ^ bits ∧ n = m := by
  rw [bounded]
  split_ifs with h <;> simp only [Except.ok.injEq, h, true_and, false_and]

theorem bounded_of_lt {bits n : ℕ} {refusal : ε} (h : n < 2 ^ bits) :
    bounded bits n refusal = .ok n := if_pos h

end Checks

end Schemes
