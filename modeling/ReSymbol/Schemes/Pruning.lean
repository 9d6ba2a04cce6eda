import ReSymbol.Schemes.Loops

/-! Pruning to the greatest set that supports itself.

    Whether an item may stay depends on what else is kept. A round removes every item that what is
    kept does not support; rounds are repeated until one removes nothing. Support that only grows
    with the set makes the outcome the greatest set of the items all of whose members it supports,
    whatever cycles there are among them.

        kept ⊇ { supported by kept } ⊇ … ⊇ S = { supported by S } -/

namespace Schemes

variable {ε α σ : Type} {support : Set α → α → Prop}

/-- Every member is supported by the set. -/
def SelfSupporting (support : Set α → α → Prop) (S : Set α) : Prop :=
  ∀ a ∈ S, support S a

/-- One round leaves what the kept items support, and the last one removes nothing. -/
structure Prunes (round : σ → Except ε (Round σ σ)) (support : Set α → α → Prop)
    (kept : σ → Set α) (measure : σ → ℕ) (s : σ) (s' : σ) : Prop where
  kept_eq : kept s' = {a ∈ kept s | support (kept s) a}
  outcome : round s = .ok (.again s') ∧ measure s' < measure s ∨
    round s = .ok (.done s') ∧ kept s' = kept s

/-- The rule of pruning: the loop ends with the greatest set that supports itself. -/
theorem loop_prunes {round : σ → Except ε (Round σ σ)} {inv : σ → Prop} {kept : σ → Set α}
    {measure : σ → ℕ} (hmono : ∀ S T a, S ⊆ T → support S a → support T a)
    (hround : ∀ s, inv s → ∃ s', inv s' ∧ Prunes round support kept measure s s')
    {rounds : ℕ} {s : σ} (hinv : inv s) (hrounds : measure s < rounds) :
    ∃ s', loop round rounds s = Running.ended (.ok s') ∧ inv s' ∧
      IsGreatest {S | S ⊆ kept s ∧ SelfSupporting support S} (kept s') := by
  let holds (t : σ) : Prop :=
    inv t ∧ kept t ⊆ kept s ∧ ∀ S, S ⊆ kept s → SelfSupporting support S → S ⊆ kept t
  let post : Except ε σ → Prop
    | .error _ => False
    | .ok t => holds t ∧ SelfSupporting support (kept t)
  have hmeets : ∀ t, holds t → RoundMeets holds measure post t (round t) := by
    rintro t ⟨ht, hsub, hcontains⟩
    obtain ⟨t', ht', hkept, houtcome⟩ := hround t ht
    have hsub' : kept t' ⊆ kept s := by
      rw [hkept]
      exact fun a ha => hsub ha.1
    -- what supports itself is supported by everything around it, so that no round removes it
    have hcontains' : ∀ S, S ⊆ kept s → SelfSupporting support S → S ⊆ kept t' := by
      intro S hS hself a ha
      rw [hkept]
      exact ⟨hcontains S hS hself ha, hmono S _ a (hcontains S hS hself) (hself a ha)⟩
    rcases houtcome with ⟨hagain, hless⟩ | ⟨hdone, hsame⟩
    · rw [hagain]
      exact ⟨⟨ht', hsub', hcontains'⟩, hless⟩
    · rw [hdone]
      refine ⟨⟨ht', hsub', hcontains'⟩, ?_⟩
      intro a ha
      rw [hkept] at ha
      rw [hsame]
      exact ha.2
  obtain ⟨outcome, hloop, hpost⟩ :=
    loop_meets hmeets ⟨hinv, subset_rfl, fun _ hS _ => hS⟩ hrounds
  cases outcome with
  | error e => exact hpost.elim
  | ok t =>
    obtain ⟨⟨ht, hsub, hcontains⟩, hself⟩ := hpost
    exact ⟨t, hloop, ht, ⟨hsub, hself⟩, fun S hS => hcontains S hS.1 hS.2⟩

end Schemes
