import Mathlib.Tactic.Common

/-!
# Runs of a step function

A system is given by what one action does to its state, `none` where the action is not
possible. A run is a list of actions. `Along P` says that every action of a run is taken in
a state where `P` allows it; `run_invariant` is the induction rule for it.
-/

namespace Async

variable {σ α : Type} (step : σ → α → Option σ)

/-- The state after a run, `none` if one of its actions is not possible. -/
def run : σ → List α → Option σ
  | s, [] => some s
  | s, a :: as =>
    match step s a with
    | some s' => run s' as
    | none => none

/-- Every action of the run is taken in a state where `P` allows it. -/
def Along (P : σ → α → Prop) : σ → List α → Prop
  | _, [] => True
  | s, a :: as =>
    P s a ∧
      match step s a with
      | some s' => Along P s' as
      | none => True

variable {step}

@[simp] theorem run_nil (s : σ) : run step s [] = some s := rfl

theorem run_cons_eq_some {s s' : σ} {a : α} {as : List α} :
    run step s (a :: as) = some s' ↔ ∃ s₁, step s a = some s₁ ∧ run step s₁ as = some s' := by
  simp only [run]
  cases step s a <;> simp

/-- A run goes on where another one has ended. -/
theorem run_append_eq_some {s s' : σ} {as bs : List α} :
    run step s (as ++ bs) = some s' ↔ ∃ s₁, run step s as = some s₁ ∧ run step s₁ bs = some s' := by
  induction as generalizing s with
  | nil => simp
  | cons a as ih =>
    simp only [List.cons_append, run]
    cases step s a with
    | none => simp
    | some s₁ => exact ih

theorem along_cons {P : σ → α → Prop} {s s₁ : σ} {a : α} {as : List α}
    (hs : step s a = some s₁) : Along step P s (a :: as) ↔ P s a ∧ Along step P s₁ as := by
  simp only [Along, hs]

theorem Along.and {P Q : σ → α → Prop} {s : σ} {as : List α} (hP : Along step P s as)
    (hQ : Along step Q s as) : Along step (fun s a => P s a ∧ Q s a) s as := by
  induction as generalizing s with
  | nil => trivial
  | cons a as ih =>
    simp only [Along] at hP hQ ⊢
    refine ⟨⟨hP.1, hQ.1⟩, ?_⟩
    cases hs : step s a with
    | none => trivial
    | some s₁ =>
      rw [hs] at hP hQ
      exact ih hP.2 hQ.2

/-- A condition that does not look at the state. -/
theorem along_of_forall {Q : α → Prop} {s : σ} {as : List α} (h : ∀ a ∈ as, Q a) :
    Along step (fun _ a => Q a) s as := by
  induction as generalizing s with
  | nil => trivial
  | cons a as ih =>
    obtain ⟨ha, has⟩ := List.forall_mem_cons.mp h
    refine ⟨ha, ?_⟩
    cases step s a with
    | none => trivial
    | some s₁ => exact ih has

/-- Two conditions on the actions of a run that agree wherever the invariant holds: the invariant
is kept as long as they are met. -/
theorem along_congr {P Q : σ → α → Prop} {Inv : σ → Prop}
    (hiff : ∀ s a s', Inv s → step s a = some s' → (P s a ↔ Q s a))
    (hstep : ∀ s a s', Inv s → P s a → step s a = some s' → Inv s') {s s' : σ} {as : List α}
    (h₀ : Inv s) (hr : run step s as = some s') : Along step P s as ↔ Along step Q s as := by
  induction as generalizing s with
  | nil => exact Iff.rfl
  | cons a as ih =>
    obtain ⟨s₁, hs₁, hr₁⟩ := run_cons_eq_some.mp hr
    rw [along_cons hs₁, along_cons hs₁, ← hiff s a s₁ h₀ hs₁]
    -- the first action is allowed either way, so the invariant holds behind it
    exact and_congr_right fun hPa => ih (hstep s a s₁ h₀ hPa hs₁) hr₁

/-- What holds at first and is kept by every allowed action holds after every run whose
actions are all allowed. -/
theorem run_invariant {P : σ → α → Prop} {Inv : σ → Prop}
    (hstep : ∀ s a s', Inv s → P s a → step s a = some s' → Inv s') {s s' : σ} {as : List α}
    (h₀ : Inv s) (hP : Along step P s as) (hr : run step s as = some s') : Inv s' := by
  induction as generalizing s with
  | nil =>
    simp only [run_nil, Option.some.injEq] at hr
    exact hr ▸ h₀
  | cons a as ih =>
    obtain ⟨s₁, hs₁, hr₁⟩ := run_cons_eq_some.mp hr
    obtain ⟨hPa, hPas⟩ := (along_cons hs₁).mp hP
    exact ih (hstep s a s₁ h₀ hPa hs₁) hPas hr₁

/-- What holds at first and is kept by every action holds after every run. -/
theorem run_keeps {Inv : σ → Prop} (hstep : ∀ s a s', Inv s → step s a = some s' → Inv s')
    {s s' : σ} {as : List α} (h₀ : Inv s) (hr : run step s as = some s') : Inv s' := by
  induction as generalizing s with
  | nil =>
    simp only [run_nil, Option.some.injEq] at hr
    exact hr ▸ h₀
  | cons a as ih =>
    obtain ⟨s₁, hs₁, hr₁⟩ := run_cons_eq_some.mp hr
    exact ih (hstep s a s₁ h₀ hs₁) hr₁

end Async
