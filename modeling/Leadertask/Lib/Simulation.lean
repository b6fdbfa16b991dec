import Mathlib.Data.List.Forall2

/-!
# Machines that answer

A machine takes inputs one at a time and answers each. `outputs` are its answers,
`final` its state after the last input.

* `outputs_simulated`: a relation between two machines that every input keeps, and that makes
  them answer alike, makes their runs answer alike.
-/

namespace Machine

variable {σ τ ι κ ρ ϱ : Type}

/-- The answers to the inputs, from state `s` on. -/
def outputs (step : σ → ι → ρ × σ) : σ → List ι → List ρ
  | _, [] => []
  | s, i :: is => (step s i).1 :: outputs step (step s i).2 is

/-- The state after the inputs. -/
def final (step : σ → ι → ρ × σ) : σ → List ι → σ
  | s, [] => s
  | s, i :: is => final step (step s i).2 is

variable {step : σ → ι → ρ × σ} {step' : τ → κ → ϱ × τ}

theorem outputs_append (s : σ) (is js : List ι) :
    outputs step s (is ++ js) = outputs step s is ++ outputs step (final step s is) js := by
  induction is generalizing s with
  | nil => rfl
  | cons i is ih => rw [List.cons_append, outputs, outputs, List.cons_append, ih, final]

theorem final_append (s : σ) (is js : List ι) :
    final step s (is ++ js) = final step (final step s is) js := by
  induction is generalizing s with
  | nil => rfl
  | cons i is ih => rw [List.cons_append, final, ih, final]

/-- **Simulation.** `R` may speak of the inputs that are still to come. -/
theorem outputs_simulated {R : List ι → σ → τ → Prop} {S : ρ → ϱ → Prop} (p : ι → κ)
    (h : ∀ i is s t, R (i :: is) s t →
      S (step s i).1 (step' t (p i)).1 ∧ R is (step s i).2 (step' t (p i)).2)
    {s : σ} {t : τ} (is : List ι) (h₀ : R is s t) :
    List.Forall₂ S (outputs step s is) (outputs step' t (is.map p)) := by
  induction is generalizing s t with
  | nil => exact .nil
  | cons i is ih =>
    obtain ⟨h1, h2⟩ := h i is s t h₀
    exact .cons h1 (ih h2)

/-- The states in which the two runs end are related, too. -/
theorem final_simulated {R : List ι → σ → τ → Prop} (p : ι → κ)
    (h : ∀ i is s t, R (i :: is) s t → R is (step s i).2 (step' t (p i)).2)
    {s : σ} {t : τ} (is : List ι) (h₀ : R is s t) : R [] (final step s is) (final step' t (is.map p)) := by
  induction is generalizing s t with
  | nil => exact h₀
  | cons i is ih => exact ih (h i is s t h₀)

end Machine
