import FloodUp.Async.Contract

/-!
# Pools of routines

A pool is a shared state with the routines started so far, each suspended at a call or ended.
Its steps are the start of a routine, the answer to the call a routine is suspended at, and a
change of the state from outside; a routine runs from one suspension point to the next in a
single step, as on an event loop.

`Pool.Ok` says that every routine is at rest for its contract. `Pool.Ok.update`, `Pool.Ok.start` and
`Pool.Ok.answer` are the rules by which it is kept: the routine that moves does so by its contract,
and each other routine must find what it relies on unchanged.
-/

namespace Async

/-- A started routine: what it is (`tag`), the state it was started in, the answers it has got
and where it is now. -/
structure Thread (S : Signature) (σ ε τ : Type) where
  tag : τ
  born : σ
  past : List (Answered S)
  now : Routine S σ ε Unit

/-- The shared state and all threads, oldest first. -/
structure Pool (S : Signature) (σ ε τ : Type) where
  state : σ
  threads : List (Thread S σ ε τ)

namespace Pool

variable {S : Signature} {σ ε τ : Type}

/-- Start a routine and run it to its first suspension point. -/
def start (tag : τ) (t : Routine S σ ε Unit) (p : Pool S σ ε τ) : Pool S σ ε τ where
  state := (t.advance p.state).1
  threads := p.threads ++ [⟨tag, p.state, [], (t.advance p.state).2⟩]

/-- Answer the call thread `i` is suspended at and run it to its next suspension point. -/
def answer [DecidableEq S.Call] (env : Env S σ) (i : ℕ) (e : Answered S) (p : Pool S σ ε τ) :
    Option (Pool S σ ε τ) :=
  match p.threads[i]? with
  | none => none
  | some th =>
    match th.now.resume e with
    | none => none
    | some t =>
      let r := t.advance (env.effect e.call e.reply p.state)
      some ⟨r.1, p.threads.set i { th with past := th.past ++ [e], now := r.2 }⟩

/-- Change the state from outside. -/
def update (f : σ → σ) (p : Pool S σ ε τ) : Pool S σ ε τ := { p with state := f p.state }

/-- Some thread for which `P` holds is suspended at a call. -/
def Pending (P : Thread S σ ε τ → S.Call → Prop) (p : Pool S σ ε τ) : Prop :=
  ∃ th ∈ p.threads, ∃ c, th.now.awaiting = some c ∧ P th c

instance {P : Thread S σ ε τ → S.Call → Prop} [∀ th c, Decidable (P th c)] (p : Pool S σ ε τ) :
    Decidable (p.Pending P) :=
  decidable_of_iff (p.threads.any fun th => th.now.awaiting.any fun c => decide (P th c)) (by
    simp [Pending, Option.any_eq_true])

variable {env : Env S σ} {p p' : Pool S σ ε τ}

/-- A thread that awaits a call takes any answer to it. -/
theorem exists_answer [DecidableEq S.Call] (env : Env S σ) {i : ℕ} {th : Thread S σ ε τ} (e : Answered S)
    (hth : p.threads[i]? = some th) (hawait : th.now.awaiting = some e.call) :
    ∃ p', p.answer env i e = some p' := by
  obtain ⟨c, r⟩ := e
  unfold answer
  rw [hth]
  cases hnow : th.now with
  | await c' k =>
    rw [hnow] at hawait
    obtain rfl := Option.some.inj hawait
    simp only [hnow, Routine.resume_await]
    exact ⟨_, rfl⟩
  | _ =>
    rw [hnow] at hawait
    cases hawait

/-- What an answer does: the thread it is for was suspended at the call, and it alone goes on. -/
theorem answer_eq_some [DecidableEq S.Call] {i : ℕ} {e : Answered S}
    (h : p.answer env i e = some p') :
    ∃ th k, p.threads[i]? = some th ∧ th.now = .await e.call k ∧
      p' = ⟨((k e.reply).advance (env.effect e.call e.reply p.state)).1,
        p.threads.set i { th with
          past := th.past ++ [e],
          now := ((k e.reply).advance (env.effect e.call e.reply p.state)).2 }⟩ := by
  unfold answer at h
  split at h
  · cases h
  · rename_i th hth
    split at h
    · cases h
    · rename_i t ht
      obtain ⟨k, hnow, rfl⟩ := Routine.resume_eq_some ht
      exact ⟨th, k, hth, hnow, by simpa using h.symm⟩

/-! ## The threads after a step -/

/-- The threads after a start. -/
theorem threads_start {tag : τ} {t : Routine S σ ε Unit} {i : ℕ} {th : Thread S σ ε τ}
    (hth : (p.start tag t).threads[i]? = some th) :
    p.threads[i]? = some th ∨
      i = p.threads.length ∧ th = ⟨tag, p.state, [], (t.advance p.state).2⟩ := by
  simp only [Pool.start, List.getElem?_append] at hth
  by_cases hi : i < p.threads.length
  · rw [if_pos hi] at hth
    exact .inl hth
  · rw [if_neg hi] at hth
    obtain ⟨hlen, hnew⟩ := List.getElem?_eq_some_iff.mp hth
    rw [List.length_singleton] at hlen
    rw [List.getElem_singleton] at hnew
    exact .inr ⟨by omega, hnew.symm⟩

/-- The threads after an answer. -/
theorem threads_answer {i j : ℕ} {th th' : Thread S σ ε τ}
    (hthreads : p'.threads = p.threads.set i th) (hth' : p'.threads[j]? = some th') :
    j = i ∧ th' = th ∨ j ≠ i ∧ p.threads[j]? = some th' := by
  by_cases hj : j = i
  · subst hj
    have hlt : j < p.threads.length := by
      have := (List.getElem?_eq_some_iff.mp hth').1
      rw [hthreads, List.length_set] at this
      exact this
    rw [hthreads, List.getElem?_set_self hlt] at hth'
    exact .inl ⟨rfl, (Option.some.inj hth').symm⟩
  · rw [hthreads, List.getElem?_set_ne (Ne.symm hj)] at hth'
    exact .inr ⟨hj, hth'⟩

/-! ## Threads stay what they are -/

/-- Thread `i` is of this tag and was started in this state. -/
def Began (p : Pool S σ ε τ) (i : ℕ) (tag : τ) (born : σ) : Prop :=
  ∃ th, p.threads[i]? = some th ∧ th.tag = tag ∧ th.born = born

theorem Began.start {i : ℕ} {tag : τ} {born : σ} (h : p.Began i tag born) (tag' : τ)
    (t : Routine S σ ε Unit) : (p.start tag' t).Began i tag born := by
  obtain ⟨th, hth, htag, hborn⟩ := h
  have hlt := (List.getElem?_eq_some_iff.mp hth).1
  exact ⟨th, by simp only [Pool.start, List.getElem?_append_left hlt, hth], htag, hborn⟩

theorem Began.answer [DecidableEq S.Call] {i j : ℕ} {e : Answered S} {tag : τ} {born : σ}
    (h : p.Began i tag born) (hans : p.answer env j e = some p') : p'.Began i tag born := by
  obtain ⟨th, hth, htag, hborn⟩ := h
  obtain ⟨th', k, hth', -, rfl⟩ := answer_eq_some hans
  by_cases hij : j = i
  · -- the thread that goes on keeps its tag and its first state
    subst hij
    rw [hth] at hth'
    obtain rfl := Option.some.inj hth'
    have hlt := (List.getElem?_eq_some_iff.mp hth).1
    exact ⟨_, List.getElem?_set_self hlt, htag, hborn⟩
  · exact ⟨th, by rw [List.getElem?_set_ne hij, hth], htag, hborn⟩

/-! ## Keeping the contracts -/

/-- Every thread is at rest for the contract of its tag and the state it was started in. -/
def Ok (env : Env S σ) (K : τ → σ → Contract S σ ε Unit) (p : Pool S σ ε τ) : Prop :=
  ∀ (i : ℕ) th, p.threads[i]? = some th → th.now.Rests env (K th.tag th.born) th.past p.state

/-- The change of the state from `p.state` to `s'` leaves what the threads other than `j` rely
on. -/
def Undisturbed (K : τ → σ → Contract S σ ε Unit) (p : Pool S σ ε τ) (s' : σ) (j : Option ℕ) :
    Prop :=
  ∀ (i : ℕ) th c, some i ≠ j → p.threads[i]? = some th → th.now.awaiting = some c →
    (K th.tag th.born).holds th.past c p.state → (K th.tag th.born).holds th.past c s'

variable {K : τ → σ → Contract S σ ε Unit}

theorem ok_of_threads_nil (h : p.threads = []) : p.Ok env K := by
  intro i th hth
  simp [h] at hth

theorem Ok.stable {s' : σ} (hok : p.Ok env K) (hst : p.Undisturbed K s' none) :
    (⟨s', p.threads⟩ : Pool S σ ε τ).Ok env K := by
  intro i th hth
  exact (hok i th hth).stable fun c hc hc' => hst i th c (by simp) hth hc hc'

/-- A change from outside that no thread notices. -/
theorem Ok.update {f : σ → σ} (hok : p.Ok env K) (hst : p.Undisturbed K (f p.state) none) :
    (p.update f).Ok env K :=
  hok.stable hst

/-- A start keeps the contracts if the new routine keeps its own and disturbs no other. -/
theorem Ok.start {tag : τ} {t : Routine S σ ε Unit} (hok : p.Ok env K)
    (ht : t.Meets env (K tag p.state) (K tag p.state).final [] p.state p.state)
    (hst : p.Undisturbed K (p.start tag t).state none) : (p.start tag t).Ok env K := by
  intro i th hth
  rcases threads_start hth with hold | ⟨-, rfl⟩
  · exact hok.stable hst i th hold
  · exact ht.advance.2

/-- The move an answer makes, by the contract of the thread it is for. -/
theorem Ok.answer_cases [DecidableEq S.Call] {i : ℕ} {e : Answered S} (hok : p.Ok env K)
    (hans : p.answer env i e = some p') (hadm : env.admits e.call e.reply p.state) :
    ∃ th t, p.threads[i]? = some th ∧ th.now.awaiting = some e.call ∧
      (K th.tag th.born).holds th.past e.call p.state ∧
      (K th.tag th.born).moves (th.past ++ [e]) p.state t.awaiting p'.state ∧
      t.Rests env (K th.tag th.born) (th.past ++ [e]) p'.state ∧
      p'.threads = p.threads.set i { th with past := th.past ++ [e], now := t } := by
  obtain ⟨th, k, hth, hnow, rfl⟩ := answer_eq_some hans
  have hrest := hok i th hth
  have hmeets := hrest.resume (hnow ▸ Routine.resume_await e.call k e.reply) hadm
  obtain ⟨hmove, hrests⟩ := hmeets.advance
  exact ⟨th, _, hth, by rw [hnow]; rfl, hrest.holds (by rw [hnow]; rfl), hmove, hrests, rfl⟩

/-- An answer keeps the contracts if the threads it is not for are not disturbed. -/
theorem Ok.answer [DecidableEq S.Call] {i : ℕ} {e : Answered S} (hok : p.Ok env K)
    (hans : p.answer env i e = some p') (hadm : env.admits e.call e.reply p.state)
    (hst : p.Undisturbed K p'.state (some i)) : p'.Ok env K := by
  obtain ⟨th, t, hth, -, -, -, hrests, hthreads⟩ := hok.answer_cases hans hadm
  intro j th' hth'
  rcases threads_answer hthreads hth' with ⟨-, rfl⟩ | ⟨hj, hold⟩
  · exact hrests
  · exact (hok j th' hold).stable fun c hc hc' => hst j th' c (by simpa using hj) hold hc hc'

/-! ## One routine at a time -/

/-- No thread is suspended. -/
def Idle (p : Pool S σ ε τ) : Prop :=
  ∀ (i : ℕ) th, p.threads[i]? = some th → th.now.awaiting = none

/-- At most one thread is suspended. -/
def Single (p : Pool S σ ε τ) : Prop :=
  ∀ (i j : ℕ) th th' c c', p.threads[i]? = some th → p.threads[j]? = some th' →
    th.now.awaiting = some c → th'.now.awaiting = some c' → i = j

theorem idle_of_not_pending (h : ¬p.Pending fun _ _ => True) : p.Idle := by
  intro i th hth
  cases hc : th.now.awaiting with
  | none => rfl
  | some c => exact absurd ⟨th, List.mem_of_getElem? hth, c, hc, trivial⟩ h

theorem single_of_threads_nil (h : p.threads = []) : p.Single := by
  intro i j th th' c c' hi
  simp [h] at hi

/-- Where no thread is suspended none can be disturbed. -/
theorem Idle.undisturbed {s' : σ} {j : Option ℕ} (h : p.Idle) : p.Undisturbed K s' j := by
  intro i th c _ hth hc
  rw [h i th hth] at hc
  cases hc

theorem Idle.single_start (h : p.Idle) (tag : τ) (t : Routine S σ ε Unit) :
    (p.start tag t).Single := by
  have hnew : ∀ (k : ℕ) th c, (p.start tag t).threads[k]? = some th →
      th.now.awaiting = some c → k = p.threads.length := fun k th c hk hc => by
    rcases threads_start hk with hold | ⟨hk, -⟩
    · rw [h k th hold] at hc
      cases hc
    · exact hk
  intro i j th th' c c' hi hj hc hc'
  rw [hnew i th c hi hc, hnew j th' c' hj hc']

/-- While one thread goes on, no other is suspended. -/
theorem Single.others {i : ℕ} {th : Thread S σ ε τ} {c : S.Call} (h : p.Single)
    (hth : p.threads[i]? = some th) (hc : th.now.awaiting = some c) {j : ℕ} {th' : Thread S σ ε τ}
    (hj : j ≠ i) (hth' : p.threads[j]? = some th') : th'.now.awaiting = none := by
  cases hc' : th'.now.awaiting with
  | none => rfl
  | some c' => exact absurd (h j i th' th c' c hth' hth hc' hc) hj

theorem Single.undisturbed {i : ℕ} {th : Thread S σ ε τ} {c : S.Call} {s' : σ} (h : p.Single)
    (hth : p.threads[i]? = some th) (hc : th.now.awaiting = some c) :
    p.Undisturbed K s' (some i) := by
  intro j th' c' hj hth' hc'
  rw [h.others hth hc (fun hji => hj (congrArg some hji)) hth'] at hc'
  cases hc'

/-- After an answer only the thread it was for can be suspended. -/
theorem Single.answer {i : ℕ} {th th₁ : Thread S σ ε τ} {c : S.Call} (h : p.Single)
    (hth : p.threads[i]? = some th) (hc : th.now.awaiting = some c)
    (hthreads : p'.threads = p.threads.set i th₁) : p'.Single := by
  have hmoved : ∀ (j : ℕ) th' c', p'.threads[j]? = some th' → th'.now.awaiting = some c' →
      j = i := fun j th' c' hth' hc' => by
    rcases threads_answer hthreads hth' with ⟨hj, -⟩ | ⟨hj, hold⟩
    · exact hj
    · rw [h.others hth hc hj hold] at hc'
      cases hc'
  intro j k th₁ th₂ c₁ c₂ hj hk hc₁ hc₂
  rw [hmoved j th₁ c₁ hj hc₁, hmoved k th₂ c₂ hk hc₂]

end Pool

end Async
