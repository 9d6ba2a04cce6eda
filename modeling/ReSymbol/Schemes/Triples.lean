import ReSymbol.Schemes.Reducer

/-! Preconditions of reducers.

    `wp x Q E s` says that the run of `x` from `s` answers with `Q` or fails with `E`, each read in
    the state the run leaves. One rule for each combinator turns a reducer into what has to hold of
    the operations it calls, so a property of a long reducer follows its text from the top down.

        s ──x──▶ (ok a, s')     Q a s'
                 (error e, s')  E e s' -/

namespace Schemes.Reducer

variable {σ ε ε' α β : Type}

/-- The run from `s` answers with `Q`, or fails with `E`. -/
def wp (x : Reducer σ ε α) (Q : α → σ → Prop) (E : ε → σ → Prop) (s : σ) : Prop :=
  match x s with
  | (.ok a, s') => Q a s'
  | (.error e, s') => E e s'

/-! ### Handling failures -/

/-- Run to the end either way, and answer how it ended. -/
def attempt (x : Reducer σ ε α) : Reducer σ ε' (Except ε α) := fun s => (.ok (x s).1, (x s).2)

/-- Answer whether the run succeeded with an answer the test accepts. -/
def isOkAnd (x : Reducer σ ε α) (p : α → Bool) : Reducer σ ε' Bool := do
  match ← attempt x with
  | .ok a => return p a
  | .error _ => return false

def isOk (x : Reducer σ ε α) : Reducer σ ε' Bool := isOkAnd x fun _ => true

/-- The second condition is evaluated only if the first holds. -/
def andThen (x y : Reducer σ ε Bool) : Reducer σ ε Bool := do
  if ← x then y else return false

/-! ### Rules -/

variable {Q : α → σ → Prop} {E : ε → σ → Prop}

@[simp] theorem wp_pure (a : α) : wp (pure a : Reducer σ ε α) Q E = Q a := rfl

@[simp] theorem wp_raise (e : ε) : wp (raise e : Reducer σ ε α) Q E = E e := rfl

@[simp] theorem wp_bind {x : Reducer σ ε β} {f : β → Reducer σ ε α} :
    wp (x >>= f) Q E = wp x (fun b => wp (f b) Q E) E := by
  funext s
  simp only [wp, bind_run]
  rcases x s with ⟨_ | b, s'⟩ <;> rfl

@[simp] theorem wp_look {Q : σ → σ → Prop} :
    wp (look : Reducer σ ε σ) Q E = fun s => Q s s := rfl

@[simp] theorem wp_update {Q : Unit → σ → Prop} (f : σ → σ) :
    wp (update f : Reducer σ ε Unit) Q E = fun s => Q () (f s) := rfl

@[simp] theorem wp_refuse {Q : Unit → σ → Prop} (c : Prop) [Decidable c] (e : ε) :
    wp (refuse c e : Reducer σ ε Unit) Q E = fun s => if c then E e s else Q () s := by
  funext s
  by_cases hc : c <;> simp [wp, refuse, hc]

@[simp] theorem wp_lift (x : Except ε α) : wp (lift x : Reducer σ ε α) Q E =
    fun s => match x with | .ok a => Q a s | .error e => E e s := by
  funext s
  cases x <;> rfl

@[simp] theorem wp_check (x : Except ε α) {E : Fault ε → σ → Prop} :
    wp (check x : Reducer σ (Fault ε) α) Q E =
      fun s => match x with | .ok a => Q a s | .error e => E (.error e) s := by
  funext s
  cases x <;> rfl

@[simp] theorem wp_require_some (a : α) (e : ε) :
    wp (require (some a) e : Reducer σ ε α) Q E = Q a := rfl

@[simp] theorem wp_require_none (e : ε) :
    wp (require none e : Reducer σ ε α) Q E = E e := rfl

@[simp] theorem wp_expect_some {E : Fault ε → σ → Prop} (a : α) (message : String) :
    wp (expect (some a) message : Reducer σ (Fault ε) α) Q E = Q a := rfl

@[simp] theorem wp_attempt {x : Reducer σ ε' α} {Q : Except ε' α → σ → Prop} :
    wp (attempt x : Reducer σ ε (Except ε' α)) Q E =
      wp x (fun a => Q (.ok a)) (fun e => Q (.error e)) := by
  funext s
  unfold wp attempt
  rcases x s with ⟨_ | a, s'⟩ <;> rfl

@[simp] theorem wp_isOkAnd {x : Reducer σ ε' α} {p : α → Bool} {Q : Bool → σ → Prop} :
    wp (isOkAnd x p : Reducer σ ε Bool) Q E = wp x (fun a => Q (p a)) (fun _ => Q false) := by
  simp only [isOkAnd, wp_bind, wp_attempt, wp_pure]

@[simp] theorem wp_isOk {x : Reducer σ ε' α} {Q : Bool → σ → Prop} :
    wp (isOk x : Reducer σ ε Bool) Q E = wp x (fun _ => Q true) (fun _ => Q false) :=
  wp_isOkAnd

@[simp] theorem wp_andThen {x y : Reducer σ ε Bool} {Q : Bool → σ → Prop} :
    wp (andThen x y) Q E = wp x (fun b => if b then wp y Q E else Q false) E := by
  funext s
  simp only [andThen, wp_bind]
  unfold wp
  rcases x s with ⟨_ | _ | _, s'⟩ <;> rfl

@[simp] theorem wp_within {τ : Type} {part : σ → τ} {put : τ → σ → σ} {wrap : ε' → ε}
    {x : Reducer τ ε' α} : wp (within part put wrap x) Q E =
      fun s => wp x (fun a t => Q a (put t s)) (fun e t => E (wrap e) (put t s)) (part s) := by
  funext s
  unfold wp within
  rcases x (part s) with ⟨_ | _, t⟩ <;> rfl

/-- A stronger postcondition will do. -/
theorem wp_mono {x : Reducer σ ε α} {Q' : α → σ → Prop} {E' : ε → σ → Prop} {s : σ}
    (h : wp x Q E s) (hQ : ∀ a s', Q a s' → Q' a s') (hE : ∀ e s', E e s' → E' e s') :
    wp x Q' E' s := by
  unfold wp at h ⊢
  rcases hx : x s with ⟨e | a, s'⟩ <;> rw [hx] at h
  · exact hE e s' h
  · exact hQ a s' h

/-- A loop keeps what each of its rounds carries from the items left to the items after it. -/
theorem wp_forM {f : β → Reducer σ ε Unit} {Q : Unit → σ → Prop} (I : List β → σ → Prop)
    (hround : ∀ x rest s, I (x :: rest) s → wp (f x) (fun _ => I rest) E s)
    (hend : ∀ s, I [] s → Q () s) : ∀ xs s, I xs s → wp (xs.forM f) Q E s := by
  intro xs
  induction xs with
  | nil => exact fun s h => hend s h
  | cons x rest ih =>
    intro s h
    change wp (f x >>= fun _ => rest.forM f) Q E s
    rw [wp_bind]
    exact wp_mono (hround x rest s h) (fun _ s' h' => ih s' h') (fun _ _ h' => h')

theorem wp_of_ok {x : Reducer σ ε α} {s s' : σ} {a : α} (hx : x s = (.ok a, s')) :
    wp x Q E s = Q a s' := by
  simp only [wp, hx]

theorem wp_of_error {x : Reducer σ ε α} {s s' : σ} {e : ε} (hx : x s = (.error e, s')) :
    wp x Q E s = E e s' := by
  simp only [wp, hx]

theorem wp_state {x : Reducer σ ε α} {P : σ → Prop} {s s' : σ} {answer : Except ε α}
    (h : wp x (fun _ => P) (fun _ => P) s) (hx : x s = (answer, s')) : P s' := by
  unfold wp at h
  rw [hx] at h
  cases answer <;> exact h

theorem wp_ok {x : Reducer σ ε α} {s s' : σ} {a : α} (h : wp x Q E s) (hx : x s = (.ok a, s')) :
    Q a s' := by
  unfold wp at h
  rwa [hx] at h

theorem wp_error {x : Reducer σ ε α} {s s' : σ} {e : ε} (h : wp x Q E s)
    (hx : x s = (.error e, s')) : E e s' := by
  unfold wp at h
  rwa [hx] at h

end Schemes.Reducer
