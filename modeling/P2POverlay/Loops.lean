import Mathlib.Logic.Basic

/-!
# Loops that may not end

A `while` loop tests its guard, performs its body and starts again. An execution of
the loop is finite: it performs the body a number of times and ends in a state in which
the guard fails. The number and the last state are determined by the first one, and a
loop whose guard never fails has no execution.

An evaluation with a bounded number of tests finds an execution as soon as the bound
exceeds its number of iterations.
-/

namespace Loops

universe u
variable {σ : Type u} {guard : σ → Prop} {body : σ → σ}

/-- An execution of the loop: the number of its iterations, and its first and its last
state. -/
inductive Iterates (guard : σ → Prop) (body : σ → σ) : Nat → σ → σ → Prop where
  | exit (state : σ) (fails : ¬ guard state) : Iterates guard body 0 state state
  | iterate (count : Nat) (state final : σ) (holds : guard state)
      (later : Iterates guard body count (body state) final) :
      Iterates guard body (count + 1) state final

/-- The first state determines the number of iterations and the last state. -/
theorem Iterates.unique {count count' : Nat} {state final final' : σ}
    (execution : Iterates guard body count state final)
    (other : Iterates guard body count' state final') : count = count' ∧ final = final' := by
  induction execution generalizing count' with
  | exit state fails =>
    cases other with
    | exit => exact ⟨rfl, rfl⟩
    | iterate _ _ _ holds _ => exact absurd holds fails
  | iterate count state final holds later inductionHypothesis =>
    cases other with
    | exit _ fails => exact absurd holds fails
    | iterate count' _ _ _ later' =>
      obtain ⟨same, sameFinal⟩ := inductionHypothesis later'
      exact ⟨congrArg (· + 1) same, sameFinal⟩

/-- A loop has no execution from a state whose successors all pass the guard. -/
theorem not_iterates (invariant : σ → Prop) (stays : ∀ state, invariant state → guard state)
    (kept : ∀ state, invariant state → invariant (body state)) (count : Nat) (state final : σ)
    (initially : invariant state) : ¬ Iterates guard body count state final := by
  intro execution
  induction execution with
  | exit state fails => exact fails (stays state initially)
  | iterate count state final _ _ inductionHypothesis =>
    exact inductionHypothesis (kept state initially)

end Loops
