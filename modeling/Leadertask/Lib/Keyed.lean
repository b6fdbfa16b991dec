import Mathlib.Logic.Function.Basic
import Mathlib.Data.List.Basic

/-!
# Machines side by side

A table holds one machine per key. An input steps the machine of its own key, which
the step creates if it is not there, and leaves the others alone.

* `filter_runAll`: the outputs at one key are those of that key's machine, fed the
  inputs of that key alone. So a fact about one machine's runs holds of every key in
  every interleaving of the keys' inputs.
-/

namespace Keyed

variable {κ β γ ρ : Type} [DecidableEq κ]

/-- Step the machine of the input's key. -/
def stepAt (step : Option β → γ → ρ × β) (key : γ → κ) (m : κ → Option β) (c : γ) :
    ρ × (κ → Option β) :=
  ((step (m (key c)) c).1, Function.update m (key c) (some (step (m (key c)) c).2))

/-- The inputs of a run of the table, each with its output. -/
def runAll (step : Option β → γ → ρ × β) (key : γ → κ) :
    (κ → Option β) → List γ → List (γ × ρ)
  | _, [] => []
  | m, c :: cs => (c, (stepAt step key m c).1) :: runAll step key (stepAt step key m c).2 cs

/-- The inputs of a run of one machine, each with its output. -/
def runOne (step : Option β → γ → ρ × β) : Option β → List γ → List (γ × ρ)
  | _, [] => []
  | b, c :: cs => (c, (step b c).1) :: runOne step (some (step b c).2) cs

variable (step : Option β → γ → ρ × β) (key : γ → κ)

theorem map_fst_runOne (b : Option β) (cs : List γ) : (runOne step b cs).map Prod.fst = cs := by
  induction cs generalizing b with
  | nil => rfl
  | cons c cs ih => rw [runOne, List.map_cons, ih]

/-- **One key sees one machine**: what the table answers at key `k` is what the machine
of `k` answers to its own inputs. -/
theorem filter_runAll (m : κ → Option β) (cs : List γ) (k : κ) :
    (runAll step key m cs).filter (fun x => key x.1 = k) =
      runOne step (m k) (cs.filter fun c => key c = k) := by
  induction cs generalizing m with
  | nil => rfl
  | cons c cs ih =>
    rw [runAll, List.filter_cons, List.filter_cons, ih]
    by_cases h : key c = k
    · simp only [h, decide_true, if_true, runOne, stepAt, Function.update_self]
    · have hk : k ≠ key c := fun e => h e.symm
      simp only [h, decide_false, Bool.false_eq_true, if_false, stepAt, Function.update_of_ne hk]

end Keyed
