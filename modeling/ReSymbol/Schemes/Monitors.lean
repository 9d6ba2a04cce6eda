import Mathlib

/-! Monitors of call logs.

    A monitor keeps a state over a log, one entry at a time, and has rules that say which entry it
    admits in which state. A component keeps the rules when each entry of its log is admitted in the
    state that the entries before it lead to.

        m ──c₁──▶ after m c₁ ──c₂──▶ after (after m c₁) c₂    admits m c₁, admits (after m c₁) c₂ -/

namespace Schemes

variable {μ κ : Type} (admits : μ → κ → Prop) (after : μ → κ → μ)

/-- Every entry of the log is admitted where it stands. -/
def Obeys : μ → List κ → Prop
  | _, [] => True
  | m, c :: log => admits m c ∧ Obeys (after m c) log

variable {admits after} {m : μ} {log : List κ} {c : κ}

theorem obeys_append {earlier later : List κ} :
    Obeys admits after m (earlier ++ later) ↔
      Obeys admits after m earlier ∧ Obeys admits after (earlier.foldl after m) later := by
  induction earlier generalizing m with
  | nil => simp [Obeys]
  | cons c earlier ih => simp [Obeys, ih, and_assoc]

/-- One more entry has to be admitted at the end of the log. -/
theorem Obeys.snoc (h : Obeys admits after m log) (hadmits : admits (log.foldl after m) c) :
    Obeys admits after m (log ++ [c]) :=
  obeys_append.mpr ⟨h, hadmits, trivial⟩

/-- An entry of a log, with what was admitted before it and after it. -/
theorem Obeys.split {earlier later : List κ} (h : Obeys admits after m (earlier ++ c :: later)) :
    admits (earlier.foldl after m) c ∧
      Obeys admits after (after (earlier.foldl after m) c) later :=
  (obeys_append.mp h).2

end Schemes
