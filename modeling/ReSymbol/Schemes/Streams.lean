import Mathlib.Data.List.Induction

/-! Streams read one symbol at a time.

    A reader is a state and a function that takes one symbol, may emit an event and goes to the next
    state. Feeding it a stream gives the events in order and the state at the end.

        stream   b₁ b₂ b₃ b₄ b₅ …
        states  s₀──s₁──s₂──s₃──s₄──s₅ …
        events        e₁          e₂

    Items that each bring the reader from a state of rest to a state of rest are read one after the
    other; what one symbol preserves holds after every part of the stream. -/

namespace Schemes

variable {σ β ε : Type}

/-- Feed a stream to a reader. -/
def feed (push : σ → β → Option ε × σ) : σ → List β → List ε × σ
  | s, [] => ([], s)
  | s, b :: bs =>
    ((push s b).1.toList ++ (feed push (push s b).2 bs).1, (feed push (push s b).2 bs).2)

variable {push : σ → β → Option ε × σ}

@[simp] theorem feed_nil (s : σ) : feed push s [] = ([], s) := rfl

theorem feed_cons (s : σ) (b : β) (bs : List β) :
    feed push s (b :: bs) = ((push s b).1.toList ++ (feed push (push s b).2 bs).1,
      (feed push (push s b).2 bs).2) := rfl

theorem feed_append (s : σ) (xs ys : List β) :
    feed push s (xs ++ ys) = ((feed push s xs).1 ++ (feed push (feed push s xs).2 ys).1,
      (feed push (feed push s xs).2 ys).2) := by
  induction xs generalizing s with
  | nil => rfl
  | cons b bs ih => simp [feed_cons, ih]

/-- A symbol that emits nothing. -/
theorem feed_cons_silent {s s' : σ} {b : β} (h : push s b = (none, s')) (bs : List β) :
    feed push s (b :: bs) = feed push s' bs := by
  simp [feed_cons, h]

theorem feed_append_silent {s s' : σ} {xs : List β} (h : feed push s xs = ([], s'))
    (ys : List β) : feed push s (xs ++ ys) = feed push s' ys := by
  simp [feed_append, h]

theorem feed_singleton {s s' : σ} {b : β} {e : ε} (h : push s b = (some e, s')) :
    feed push s [b] = ([e], s') := by
  simp [feed_cons, h]

/-- Within a stream that emits nothing, no symbol emits. -/
theorem push_silent {s s' t : σ} {xs ys : List β} {b : β} (hxs : feed push s xs = ([], s'))
    (h : feed push s (xs ++ b :: ys) = ([], t)) : (push s' b).1 = none := by
  rw [feed_append_silent hxs, feed_cons] at h
  have hnone := (List.append_eq_nil_iff.mp (congrArg Prod.fst h)).1
  rcases hpush : (push s' b).1 with _ | e
  · rfl
  · simp [hpush] at hnone

/-- Items that are each read from a state of rest to a state of rest. -/
theorem feed_items {ι : Type} (Rest : σ → Prop) (encode : ι → List β) (events : ι → List ε)
    {items : List ι} (hitem : ∀ i ∈ items, ∀ s, Rest s →
      (feed push s (encode i)).1 = events i ∧ Rest (feed push s (encode i)).2)
    {s : σ} (hs : Rest s) : (feed push s (items.flatMap encode)).1 = items.flatMap events ∧
      Rest (feed push s (items.flatMap encode)).2 := by
  induction items generalizing s with
  | nil => exact ⟨rfl, hs⟩
  | cons i items ih =>
    obtain ⟨hevents, hrest⟩ := hitem i (by simp) s hs
    obtain ⟨hevents', hrest'⟩ := ih (fun j hj => hitem j (by simp [hj])) hrest
    rw [List.flatMap_cons, List.flatMap_cons, feed_append]
    exact ⟨by rw [hevents, hevents'], hrest'⟩

/-- What a symbol preserves, together with what was read so far, holds after every stream. -/
theorem feed_invariant (Inv : List β → σ → Prop) {s₀ : σ} (h₀ : Inv [] s₀)
    (hpush : ∀ xs s b, Inv xs s → Inv (xs ++ [b]) (push s b).2) (xs : List β) :
    Inv xs (feed push s₀ xs).2 := by
  induction xs using List.reverseRecOn with
  | nil => exact h₀
  | append_singleton xs b ih =>
    rw [feed_append]
    exact hpush xs _ b ih

end Schemes
