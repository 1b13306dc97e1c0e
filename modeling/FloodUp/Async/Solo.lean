import FloodUp.Async.Pool
import FloodUp.Async.Run

/-!
# Undisturbed executions

What a routine does when nothing else happens while it waits: `play` feeds it a list of
answers and returns its result and the final state, `none` if the list is not exactly what
the routine asks for. `Always` is the weakest precondition over all such executions, with
its rules for composed routines. Where every call can be answered there is an execution
(`exists_play`), and a thread of a pool can go through it (`Pool.run_play`).
-/

namespace Async

variable {S : Signature} {σ ε α β : Type}

namespace Routine

/-- Run `t` from `s` on the answers `h`, all of which it must use. -/
def play [DecidableEq S.Call] (effect : (c : S.Call) → S.Reply c → σ → σ) :
    Routine S σ ε α → σ → List (Answered S) → Option (Except ε α × σ)
  | .pure a, s, [] => some (.ok a, s)
  | .throw e, s, [] => some (.error e, s)
  -- answers that nobody has asked for
  | .pure _, _, _ :: _ => none
  | .throw _, _, _ :: _ => none
  | .read k, s, h => (k s).play effect s h
  | .write f k, s, h => k.play effect (f s) h
  | .await _ _, _, [] => none
  | .await c k, s, e :: h =>
    if hc : e.call = c then (k (hc ▸ e.reply)).play effect (effect e.call e.reply s) h else none

/-- Every undisturbed execution of `t` from `s`, after the answers `h`, ends as `Q` says: `Q`
is given all answers, the result and the final state. -/
def Always (effect : (c : S.Call) → S.Reply c → σ → σ)
    (Q : List (Answered S) → Except ε α → σ → Prop) :
    Routine S σ ε α → List (Answered S) → σ → Prop
  | .pure a, h, s => Q h (.ok a) s
  | .throw e, h, s => Q h (.error e) s
  | .read k, h, s => (k s).Always effect Q h s
  | .write f k, h, s => k.Always effect Q h (f s)
  | .await c k, h, s => ∀ r, (k r).Always effect Q (h ++ [⟨c, r⟩]) (effect c r s)

variable {effect : (c : S.Call) → S.Reply c → σ → σ}

/-- `Always` speaks about every execution `play` has. -/
theorem Always.play [DecidableEq S.Call] {Q : List (Answered S) → Except ε α → σ → Prop}
    {t : Routine S σ ε α} {h h' : List (Answered S)} {s s' : σ} {r : Except ε α}
    (ht : t.Always effect Q h s) (hp : t.play effect s h' = some (r, s')) :
    Q (h ++ h') r s' := by
  induction t generalizing h h' s with
  | pure a =>
    cases h' with
    | nil =>
      simp only [Routine.play, Option.some.injEq, Prod.mk.injEq] at hp
      obtain ⟨rfl, rfl⟩ := hp
      rw [List.append_nil]
      exact ht
    | cons e h' => simp [Routine.play] at hp
  | throw e =>
    cases h' with
    | nil =>
      simp only [Routine.play, Option.some.injEq, Prod.mk.injEq] at hp
      obtain ⟨rfl, rfl⟩ := hp
      rw [List.append_nil]
      exact ht
    | cons e h' => simp [Routine.play] at hp
  | read k ih => exact ih s ht (by simpa [Routine.play] using hp)
  | write f k ih => exact ih ht (by simpa [Routine.play] using hp)
  | await c k ih =>
    cases h' with
    | nil => simp [Routine.play] at hp
    | cons e h' =>
      -- the first answer must be to the call awaited, and joins those received so far
      obtain ⟨c', x⟩ := e
      simp only [Routine.play] at hp
      split at hp
      · rename_i hc
        subst hc
        have := ih x (ht x) hp
        simpa [List.append_assoc] using this
      · cases hp

/-! ## Rules -/

@[simp] theorem always_pure {Q : List (Answered S) → Except ε α → σ → Prop} (a : α)
    (h : List (Answered S)) (s : σ) :
    (Routine.pure a : Routine S σ ε α).Always effect Q h s ↔ Q h (.ok a) s := Iff.rfl

@[simp] theorem always_throw {Q : List (Answered S) → Except ε α → σ → Prop} (e : ε)
    (h : List (Answered S)) (s : σ) :
    (Routine.throw e : Routine S σ ε α).Always effect Q h s ↔ Q h (.error e) s := Iff.rfl

@[simp] theorem always_read {Q : List (Answered S) → Except ε α → σ → Prop}
    (k : σ → Routine S σ ε α) (h : List (Answered S)) (s : σ) :
    (Routine.read k).Always effect Q h s ↔ (k s).Always effect Q h s := Iff.rfl

@[simp] theorem always_write {Q : List (Answered S) → Except ε α → σ → Prop}
    (f : σ → σ) (k : Routine S σ ε α) (h : List (Answered S)) (s : σ) :
    (Routine.write f k).Always effect Q h s ↔ k.Always effect Q h (f s) := Iff.rfl

@[simp] theorem always_await {Q : List (Answered S) → Except ε α → σ → Prop}
    (c : S.Call) (k : S.Reply c → Routine S σ ε α) (h : List (Answered S)) (s : σ) :
    (Routine.await c k).Always effect Q h s ↔
      ∀ r, (k r).Always effect Q (h ++ [⟨c, r⟩]) (effect c r s) := Iff.rfl

@[simp] theorem always_get {Q : List (Answered S) → Except ε σ → σ → Prop}
    (h : List (Answered S)) (s : σ) :
    (Routine.get : Routine S σ ε σ).Always effect Q h s ↔ Q h (.ok s) s := Iff.rfl

@[simp] theorem always_modify {Q : List (Answered S) → Except ε Unit → σ → Prop} (f : σ → σ)
    (h : List (Answered S)) (s : σ) :
    (Routine.modify f : Routine S σ ε Unit).Always effect Q h s ↔ Q h (.ok ()) (f s) := Iff.rfl

theorem Always.mono {Q R : List (Answered S) → Except ε α → σ → Prop} {t : Routine S σ ε α}
    {h : List (Answered S)} {s : σ} (hQ : ∀ h r s, Q h r s → R h r s)
    (ht : t.Always effect Q h s) : t.Always effect R h s := by
  induction t generalizing h s with
  | pure a => exact hQ _ _ _ ht
  | throw e => exact hQ _ _ _ ht
  | read k ih => exact ih _ ht
  | write f k ih => exact ih ht
  | await c k ih => exact fun r => ih r (ht r)

theorem always_bind {Q : List (Answered S) → Except ε β → σ → Prop} (t : Routine S σ ε α)
    (k : α → Routine S σ ε β) (h : List (Answered S)) (s : σ) :
    (t.bind k).Always effect Q h s ↔
      t.Always effect (fun h r s => match r with
        | .ok a => (k a).Always effect Q h s
        | .error e => Q h (.error e) s) h s := by
  induction t generalizing h s with
  | pure a => exact Iff.rfl
  | throw e => exact Iff.rfl
  | read f ih => exact ih s h s
  | write f t ih => exact ih h (f s)
  | await c f ih => exact forall_congr' fun r => ih r _ _

theorem always_tryCatch {Q : List (Answered S) → Except ε α → σ → Prop} (t : Routine S σ ε α)
    (hd : ε → Option (Routine S σ ε α)) (h : List (Answered S)) (s : σ) :
    (t.tryCatch hd).Always effect Q h s ↔
      t.Always effect (fun h r s => match r with
        | .ok a => Q h (.ok a) s
        | .error e => ((hd e).getD (.throw e)).Always effect Q h s) h s := by
  induction t generalizing h s with
  | pure a => exact Iff.rfl
  | throw e => exact Iff.rfl
  | read f ih => exact ih s h s
  | write f t ih => exact ih h (f s)
  | await c f ih => exact forall_congr' fun r => ih r _ _

/-! ## Routines that await nothing -/

theorem Runs.always {Q : List (Answered S) → Except ε α → σ → Prop} {t : Routine S σ ε α}
    {h : List (Answered S)} {s s' : σ} {r : Except ε α} (ht : t.Runs s r s') :
    t.Always effect Q h s ↔ Q h r s' := by
  refine ht.induction_on ?_ ?_ ?_ ?_
  · rintro a rfl
    exact Iff.rfl
  · rintro e rfl
    exact Iff.rfl
  · intro k s ih
    exact ih
  · intro f k s ih
    exact ih

/-- A routine that awaits nothing plays without answers. -/
theorem Runs.play [DecidableEq S.Call] {t : Routine S σ ε α} {s s' : σ} {r : Except ε α}
    (ht : t.Runs s r s') : t.play effect s [] = some (r, s') := by
  refine ht.induction_on ?_ ?_ ?_ ?_
  · rintro a rfl
    rfl
  · rintro e rfl
    rfl
  · intro k s ih
    exact ih
  · intro f k s ih
    exact ih

/-- What a routine that awaits nothing plays is its run. -/
theorem Runs.play_eq [DecidableEq S.Call] {t : Routine S σ ε α} {s s' : σ} {r : Except ε α}
    (ht : t.Runs s r s') {h : List (Answered S)} {x : Except ε α × σ}
    (hp : t.play effect s h = some x) : x = (r, s') := by
  have hall : t.Always effect (fun _ r' s'' => (r', s'') = (r, s')) [] s := ht.always.mpr rfl
  exact hall.play hp

/-- A routine that awaits nothing plays before what follows it. -/
theorem Runs.play_bind [DecidableEq S.Call] {t : Routine S σ ε α} {k : α → Routine S σ ε β}
    {s s₁ : σ} {a : α} (ht : t.Runs s (.ok a) s₁) (h : List (Answered S)) :
    (t.bind k).play effect s h = (k a).play effect s₁ h := by
  refine ht.induction_on ?_ ?_ ?_ ?_
  · intro b hb
    rw [Except.ok.inj hb]
    rfl
  · intro e he
    cases he
  · intro f s ih
    exact ih
  · intro f t s ih
    exact ih

/-- A call takes the first answer. -/
theorem play_await [DecidableEq S.Call] (c : S.Call) (k : S.Reply c → Routine S σ ε α) (s : σ)
    (r : S.Reply c) (h : List (Answered S)) :
    (Routine.await c k).play effect s (⟨c, r⟩ :: h) = (k r).play effect (effect c r s) h := by
  simp [Routine.play]

/-! ## Executions there are -/

/-- Where every call can be answered well, every routine comes to its end on good answers. -/
theorem exists_play [DecidableEq S.Call] (effect : (c : S.Call) → S.Reply c → σ → σ)
    {good : (c : S.Call) → S.Reply c → Prop} (hgood : ∀ c, ∃ r, good c r)
    (t : Routine S σ ε α) (s : σ) :
    ∃ h r s', t.play effect s h = some (r, s') ∧ ∀ e ∈ h, good e.call e.reply := by
  induction t generalizing s with
  | pure a => exact ⟨[], .ok a, s, rfl, by simp⟩
  | throw e => exact ⟨[], .error e, s, rfl, by simp⟩
  | read k ih => exact ih s s
  | write f k ih => exact ih (f s)
  | await c k ih =>
    obtain ⟨x, hx⟩ := hgood c
    obtain ⟨h, r, s', hplay, hh⟩ := ih x (effect c x s)
    refine ⟨⟨c, x⟩ :: h, r, s', ?_, List.forall_mem_cons.mpr ⟨hx, hh⟩⟩
    rw [play_await]
    exact hplay

/-- What is left to play at the first suspension point. -/
theorem play_advance [DecidableEq S.Call] (t : Routine S σ ε α) (s : σ) (h : List (Answered S)) :
    (t.advance s).2.play effect (t.advance s).1 h = t.play effect s h := by
  induction t generalizing s with
  | read k ih => exact ih s s
  | write f k ih => exact ih (f s)
  | _ => rfl

/-- A routine at a suspension point goes no further by itself. -/
theorem advance_advance (t : Routine S σ ε α) (s : σ) :
    (t.advance s).2.advance (t.advance s).1 = t.advance s := by
  induction t generalizing s with
  | read k ih => exact ih s s
  | write f k ih => exact ih (f s)
  | _ => rfl

theorem play_nil [DecidableEq S.Call] {t : Routine S σ ε α} {s s' : σ} {r : Except ε α}
    (hplay : t.play effect s [] = some (r, s')) : (t.advance s).1 = s' := by
  induction t generalizing s with
  | read k ih => exact ih s hplay
  | write f k ih => exact ih hplay
  | pure a => exact congrArg Prod.snd (Option.some.inj hplay)
  | throw e => exact congrArg Prod.snd (Option.some.inj hplay)
  | await c k => cases hplay

/-- The first answer is to the call the routine comes to first. -/
theorem play_cons [DecidableEq S.Call] {t : Routine S σ ε α} {s : σ} {e : Answered S}
    {h : List (Answered S)} {x : Except ε α × σ} (hplay : t.play effect s (e :: h) = some x) :
    ∃ k, (t.advance s).2 = .await e.call k ∧
      (k e.reply).play effect (effect e.call e.reply (t.advance s).1) h = some x := by
  induction t generalizing s with
  | read k ih => exact ih s hplay
  | write f k ih => exact ih hplay
  | pure a => cases hplay
  | throw e => cases hplay
  | await c k =>
    simp only [Routine.play] at hplay
    split at hplay
    · rename_i hc
      subst hc
      exact ⟨k, rfl, hplay⟩
    · cases hplay

end Routine

/-- A thread at a suspension point can be given the answers of an execution one after the other. -/
theorem Pool.run_play [DecidableEq S.Call] {τ : Type} (env : Env S σ) {p : Pool S σ ε τ} {i : ℕ}
    {th : Thread S σ ε τ} {h : List (Answered S)} {r : Except ε Unit} {s' : σ}
    (hth : p.threads[i]? = some th) (hstill : th.now.advance p.state = (p.state, th.now))
    (hplay : th.now.play env.effect p.state h = some (r, s')) :
    ∃ p', run (fun p e => p.answer env i e) p h = some p' ∧ p'.state = s' := by
  induction h generalizing p th with
  | nil =>
    have hstate := Routine.play_nil hplay
    rw [hstill] at hstate
    exact ⟨p, rfl, hstate⟩
  | cons e h ih =>
    obtain ⟨k, hnow, hrest⟩ := Routine.play_cons hplay
    rw [hstill] at hrest
    have hnow : th.now = .await e.call k := (congrArg Prod.snd hstill).symm.trans hnow
    obtain ⟨p₁, hanswer⟩ := Pool.exists_answer env e hth (by rw [hnow]; rfl)
    obtain ⟨th', k', hth', hnow', hp₁⟩ := Pool.answer_eq_some hanswer
    obtain rfl := Option.some.inj (hth.symm.trans hth')
    rw [hnow] at hnow'
    obtain rfl : k = k' := by
      injection hnow'
    -- the thread goes on from the reply to its next suspension point
    let t := (k e.reply).advance (env.effect e.call e.reply p.state)
    have hget : p₁.threads[i]? = some { th with past := th.past ++ [e], now := t.2 } := by
      rw [hp₁]
      exact List.getElem?_set_self (List.getElem?_eq_some_iff.mp hth).1
    have hstate : p₁.state = t.1 := by rw [hp₁]
    obtain ⟨p', hrun, hlast⟩ := ih hget (by rw [hstate]; exact Routine.advance_advance _ _)
      (by rw [hstate]; exact (Routine.play_advance _ _ _).trans hrest)
    exact ⟨p', run_cons_eq_some.mpr ⟨p₁, hanswer, hrun⟩, hlast⟩

end Async
