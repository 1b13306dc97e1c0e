import FloodUp.Async.Run
import Mathlib.Algebra.Ring.Nat

/-!
# Simulations that pay their way

A system simulates a specification if each of its steps is matched by some actions of the
specification. Where the specification's actions have a cost, each step pays for the actions that
match it with what the step itself is worth and with what the state has saved. Costs are counted
separately for each key `k`, such as the node that an action belongs to. `Simulation.run` adds
this up over a run.
-/

namespace Async

variable {σ τ α β κ : Type}

/-- Each step from a state related to one of the specification is matched there, at a cost that is
paid by the step and by what is saved. -/
structure Simulation (step : σ → α → Option σ) (spec : τ → β → Option τ) (R : σ → τ → Prop)
    (worth : κ → α → ℕ) (saved : κ → σ → ℕ) (cost : κ → β → ℕ) : Prop where
  step : ∀ s a s' t, R s t → step s a = some s' → ∃ bs t', run spec t bs = some t' ∧ R s' t' ∧
    ∀ k, (bs.map (cost k)).sum + saved k s' ≤ saved k s + worth k a

variable {step : σ → α → Option σ} {spec : τ → β → Option τ} {R : σ → τ → Prop}
  {worth : κ → α → ℕ} {saved : κ → σ → ℕ} {cost : κ → β → ℕ}

/-- So is each run. -/
theorem Simulation.run (hsim : Simulation step spec R worth saved cost) {s s' : σ} {t : τ}
    {as : List α} (hR : R s t) (hrun : Async.run step s as = some s') :
    ∃ bs t', Async.run spec t bs = some t' ∧ R s' t' ∧
      ∀ k, (bs.map (cost k)).sum + saved k s' ≤ saved k s + (as.map (worth k)).sum := by
  induction as generalizing s t with
  | nil =>
    rw [run_nil, Option.some.injEq] at hrun
    subst hrun
    exact ⟨[], t, rfl, hR, by simp⟩
  | cons a as ih =>
    obtain ⟨s₁, hs₁, hrun⟩ := run_cons_eq_some.mp hrun
    obtain ⟨bs₁, t₁, ht₁, hR₁, hpaid₁⟩ := hsim.step s a s₁ t hR hs₁
    obtain ⟨bs₂, t₂, ht₂, hR₂, hpaid₂⟩ := ih hR₁ hrun
    refine ⟨bs₁ ++ bs₂, t₂, run_append_eq_some.mpr ⟨t₁, ht₁, ht₂⟩, hR₂, fun k => ?_⟩
    -- what the first step has saved is there for the rest
    have h₁ := hpaid₁ k
    have h₂ := hpaid₂ k
    simp only [List.map_append, List.sum_append, List.map_cons, List.sum_cons]
    omega

end Async
