import Mathlib.Tactic.Common

/-!
# Asynchronous routines over a shared state

A routine is one activation of an asynchronous function in a single-threaded event loop.
Between two suspension points it runs alone and may read and write the state it shares
with the other routines; at an `await` it hands a call to the outside and gives up control
until that call is answered.

* `Signature`, the calls that can be awaited and the type of the reply to each;
* `Routine`, the routine itself, as a tree whose only branching points are the state it reads and
  the replies it receives;
* `Routine.bind` and `Routine.tryCatch`, sequencing and `try`/`catch` with a partial handler;
* `Routine.advance`, the run from one suspension point to the next.
-/

namespace Async

/-- The calls a routine may await, with the type of the reply to each. -/
structure Signature where
  Call : Type
  Reply : Call → Type

/-- A routine over the shared state `σ` that may throw an `ε` and returns an `α`. -/
inductive Routine (S : Signature) (σ ε α : Type) : Type where
  | pure (a : α)
  | throw (e : ε)
  | read (k : σ → Routine S σ ε α)
  | write (f : σ → σ) (k : Routine S σ ε α)
  | await (c : S.Call) (k : S.Reply c → Routine S σ ε α)

/-- A call together with the reply it got. -/
structure Answered (S : Signature) where
  call : S.Call
  reply : S.Reply call

namespace Routine

variable {S : Signature} {σ ε α β : Type}

/-! ## Sequencing and exceptions -/

/-- Run `t` and pass its result to `k`; an exception of `t` skips `k`. -/
protected def bind : Routine S σ ε α → (α → Routine S σ ε β) → Routine S σ ε β
  | .pure a, k => k a
  | .throw e, _ => .throw e
  | .read f, k => .read fun s => (f s).bind k
  | .write f t, k => .write f (t.bind k)
  | .await c f, k => .await c fun r => (f r).bind k

instance : Monad (Routine S σ ε) where
  pure := .pure
  bind := .bind

/-- `try t on ... catch`: the handler `h` takes the exceptions it matches, the others pass. -/
def tryCatch : Routine S σ ε α → (ε → Option (Routine S σ ε α)) → Routine S σ ε α
  | .pure a, _ => .pure a
  -- an exception the handler does not match is thrown again
  | .throw e, h => (h e).getD (.throw e)
  | .read f, h => .read fun s => (f s).tryCatch h
  | .write f t, h => .write f (t.tryCatch h)
  | .await c f, h => .await c fun r => (f r).tryCatch h

/-- The shared state. -/
def get : Routine S σ ε σ := .read .pure

/-- Change the shared state. -/
def modify (f : σ → σ) : Routine S σ ε Unit := .write f (.pure ())

/-- The value of a reply that is either a value or a failure; a failure is thrown. -/
def ofExcept {φ : Type} (raise : φ → ε) : Except φ α → Routine S σ ε α
  | .ok a => .pure a
  | .error e => .throw (raise e)

@[simp] theorem pure_eq (a : α) : (Pure.pure a : Routine S σ ε α) = .pure a := rfl

@[simp] theorem bind_eq (t : Routine S σ ε α) (k : α → Routine S σ ε β) : t >>= k = t.bind k := rfl

theorem bind_assoc {γ : Type} (t : Routine S σ ε α) (k : α → Routine S σ ε β)
    (l : β → Routine S σ ε γ) : (t.bind k).bind l = t.bind fun a => (k a).bind l := by
  induction t with
  | pure a => rfl
  | throw e => rfl
  | read f ih => exact congrArg Routine.read (funext ih)
  | write f t ih => exact congrArg (Routine.write f) ih
  | await c f ih => exact congrArg (Routine.await c) (funext ih)

/-! ## From one suspension point to the next -/

/-- Run a routine until it awaits a call, returns or throws. -/
def advance : Routine S σ ε α → σ → σ × Routine S σ ε α
  | .read k, s => (k s).advance s
  | .write f k, s => k.advance (f s)
  | .pure a, s => (s, .pure a)
  | .throw e, s => (s, .throw e)
  | .await c k, s => (s, .await c k)

/-- The call a routine is suspended at. -/
def awaiting : Routine S σ ε α → Option S.Call
  | .await c _ => some c
  | _ => none

/-- The result of a routine that has ended. -/
def result : Routine S σ ε α → Option (Except ε α)
  | .pure a => some (.ok a)
  | .throw e => some (.error e)
  | _ => none

/-- Hand a reply to a suspended routine; the reply must be to the call it awaits. -/
def resume [DecidableEq S.Call] : Routine S σ ε α → Answered S → Option (Routine S σ ε α)
  -- a reply to another call is not taken
  | .await c k, e => if h : e.call = c then some (k (h ▸ e.reply)) else none
  | _, _ => none

theorem resume_await [DecidableEq S.Call] (c : S.Call) (k : S.Reply c → Routine S σ ε α)
    (r : S.Reply c) : (Routine.await c k).resume ⟨c, r⟩ = some (k r) := by
  simp [resume]

/-- A routine that takes a reply was suspended at the call the reply is to. -/
theorem resume_eq_some [DecidableEq S.Call] {t t' : Routine S σ ε α} {e : Answered S}
    (h : t.resume e = some t') :
    ∃ k : S.Reply e.call → Routine S σ ε α, t = .await e.call k ∧ t' = k e.reply := by
  cases t with
  | await c k =>
    simp only [resume] at h
    split at h
    · rename_i hc
      subst hc
      exact ⟨k, rfl, by simpa using h.symm⟩
    · cases h
  | _ => simp [resume] at h

/-! ## Routines that await nothing -/

/-- `t` runs from `s` to its end without awaiting anything. -/
def Runs (t : Routine S σ ε α) (s : σ) (r : Except ε α) (s' : σ) : Prop :=
  t.advance s = (s', match r with
    | .ok a => .pure a
    | .error e => .throw e)

/-- Induction along such a run: it reads and writes until it ends. -/
@[elab_as_elim]
theorem Runs.induction_on {r : Except ε α} {s' : σ} {motive : Routine S σ ε α → σ → Prop}
    {t : Routine S σ ε α} {s : σ} (ht : t.Runs s r s')
    (hpure : ∀ a, r = .ok a → motive (.pure a) s')
    (hthrow : ∀ e, r = .error e → motive (.throw e) s')
    (hread : ∀ k s, motive (k s) s → motive (.read k) s)
    (hwrite : ∀ f k s, motive k (f s) → motive (.write f k) s) : motive t s := by
  induction t generalizing s with
  | pure a =>
    cases r with
    | ok b =>
      simp only [Runs, advance, Prod.mk.injEq, pure.injEq] at ht
      obtain ⟨rfl, rfl⟩ := ht
      exact hpure a rfl
    | error e => simp [Runs, advance] at ht
  | throw e =>
    cases r with
    | ok b => simp [Runs, advance] at ht
    | error e' =>
      simp only [Runs, advance, Prod.mk.injEq, throw.injEq] at ht
      obtain ⟨rfl, rfl⟩ := ht
      exact hthrow e rfl
  | read k ih => exact hread k s (ih s ht)
  | write f k ih => exact hwrite f k s (ih ht)
  -- a routine that is left at a call has not ended
  | await c k => cases r <;> simp [Runs, advance] at ht

/-- Sequencing, if the first routine returns. -/
theorem Runs.bind {t : Routine S σ ε α} {k : α → Routine S σ ε β} {s s₁ s' : σ} {a : α}
    {r : Except ε β} (ht : t.Runs s (.ok a) s₁) (hk : (k a).Runs s₁ r s') :
    (t.bind k).Runs s r s' := by
  refine ht.induction_on ?_ ?_ ?_ ?_
  · intro b hb
    rw [Except.ok.inj hb] at hk
    exact hk
  · intro e he
    cases he
  · intro f s ih
    exact ih
  · intro f t s ih
    exact ih

/-- Sequencing, if the first routine throws. -/
theorem Runs.bind_error {t : Routine S σ ε α} {k : α → Routine S σ ε β} {s s' : σ} {e : ε}
    (ht : t.Runs s (.error e) s') : (t.bind k).Runs s (.error e) s' := by
  refine ht.induction_on ?_ ?_ ?_ ?_
  · intro b hb
    cases hb
  · intro e' he
    rw [Except.error.inj he]
    rfl
  · intro f s ih
    exact ih
  · intro f t s ih
    exact ih

end Routine

end Async
