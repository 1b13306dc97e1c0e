import FloodUp.Async.Routine

/-!
# Contracts of asynchronous routines

A routine is reasoned about segment by segment. A `Contract` says what a routine relies on while
it is suspended at a call (`holds`), what one run between two suspension points does to the
shared state (`moves`), and how it may end (`ends`). All three may look at the answers the
routine has received so far, which no other routine can change.

`Meets` is the weakest precondition of a routine for a contract: it follows the tree of the
routine, assumes `holds` again in whatever state a reply arrives, and asks for `moves` and
`holds` at each suspension point. The rules below are the ones a derivation uses.
-/

namespace Async

/-- How the outside answers: the change of state that comes with a reply, and the replies
that can be given. -/
structure Env (S : Signature) (σ : Type) where
  effect : (c : S.Call) → S.Reply c → σ → σ
  admits : (c : S.Call) → S.Reply c → σ → Prop

/-- What is promised about a routine, as seen from its suspension points. -/
structure Contract (S : Signature) (σ ε α : Type) where
  /-- While suspended at `c`, after the answers `h`, the state is such. -/
  holds : (h : List (Answered S)) → (c : S.Call) → σ → Prop
  /-- The segment after the answers `h` goes from the first state to the second and stops
  at the call `c`, or ends. -/
  moves : (h : List (Answered S)) → σ → (c : Option S.Call) → σ → Prop
  /-- After the answers `h` the routine may end with this result. -/
  ends : (h : List (Answered S)) → Except ε α → Prop

variable {S : Signature} {σ ε α β : Type}

/-- What a contract asks of the last segment of a routine. -/
def Contract.final (K : Contract S σ ε α) (h : List (Answered S)) (s₀ : σ) (r : Except ε α)
    (s : σ) : Prop :=
  K.moves h s₀ none s ∧ K.ends h r

namespace Routine

/-- `t`, continued in state `s` in a segment that began in `s₀` after the answers `h`, keeps
the contract `K` and ends as `Q` says. -/
def Meets {γ : Type} (env : Env S σ) (K : Contract S σ ε γ)
    (Q : List (Answered S) → σ → Except ε α → σ → Prop) :
    Routine S σ ε α → List (Answered S) → σ → σ → Prop
  | .pure a, h, s₀, s => Q h s₀ (.ok a) s
  | .throw e, h, s₀, s => Q h s₀ (.error e) s
  | .read k, h, s₀, s => (k s).Meets env K Q h s₀ s
  | .write f k, h, s₀, s => k.Meets env K Q h s₀ (f s)
  | .await c k, h, s₀, s =>
    K.moves h s₀ (some c) s ∧ K.holds h c s ∧
      -- the state may have changed meanwhile; all that is known of it is `holds`
      ∀ s' r, K.holds h c s' → env.admits c r s' →
        (k r).Meets env K Q (h ++ [⟨c, r⟩]) s' (env.effect c r s')

variable {γ : Type} {env : Env S σ} {K : Contract S σ ε γ}
  {Q R : List (Answered S) → σ → Except ε α → σ → Prop}

/-! ## One step of a routine -/

@[simp] theorem meets_pure (a : α) (h : List (Answered S)) (s₀ s : σ) :
    (Routine.pure a : Routine S σ ε α).Meets env K Q h s₀ s ↔ Q h s₀ (.ok a) s := Iff.rfl

@[simp] theorem meets_throw (e : ε) (h : List (Answered S)) (s₀ s : σ) :
    (Routine.throw e : Routine S σ ε α).Meets env K Q h s₀ s ↔ Q h s₀ (.error e) s := Iff.rfl

@[simp] theorem meets_read (k : σ → Routine S σ ε α) (h : List (Answered S)) (s₀ s : σ) :
    (Routine.read k).Meets env K Q h s₀ s ↔ (k s).Meets env K Q h s₀ s := Iff.rfl

@[simp] theorem meets_write (f : σ → σ) (k : Routine S σ ε α) (h : List (Answered S)) (s₀ s : σ) :
    (Routine.write f k).Meets env K Q h s₀ s ↔ k.Meets env K Q h s₀ (f s) := Iff.rfl

theorem meets_await (c : S.Call) (k : S.Reply c → Routine S σ ε α) (h : List (Answered S))
    (s₀ s : σ) :
    (Routine.await c k).Meets env K Q h s₀ s ↔
      K.moves h s₀ (some c) s ∧ K.holds h c s ∧
        ∀ s' r, K.holds h c s' → env.admits c r s' →
          (k r).Meets env K Q (h ++ [⟨c, r⟩]) s' (env.effect c r s') := Iff.rfl

/-! ## Composed routines -/

/-- A weaker postcondition asks no more. -/
theorem Meets.mono {t : Routine S σ ε α} {h : List (Answered S)} {s₀ s : σ}
    (hQ : ∀ h s₀ r s, Q h s₀ r s → R h s₀ r s) (ht : t.Meets env K Q h s₀ s) :
    t.Meets env K R h s₀ s := by
  induction t generalizing h s₀ s with
  | pure a => exact hQ _ _ _ _ ht
  | throw e => exact hQ _ _ _ _ ht
  | read k ih => exact ih _ ht
  | write f k ih => exact ih ht
  | await c k ih =>
    -- the moves and what is relied on do not depend on the postcondition
    obtain ⟨hmove, hhold, hk⟩ := ht
    exact ⟨hmove, hhold, fun s' r hs' hr => ih r (hk s' r hs' hr)⟩

/-- Sequencing: the second routine starts in the segment in which the first one returns. -/
theorem meets_bind (t : Routine S σ ε α) (k : α → Routine S σ ε β)
    {Q : List (Answered S) → σ → Except ε β → σ → Prop} (h : List (Answered S)) (s₀ s : σ) :
    (t.bind k).Meets env K Q h s₀ s ↔
      t.Meets env K (fun h s₀ r s => match r with
        | .ok a => (k a).Meets env K Q h s₀ s
        | .error e => Q h s₀ (.error e) s) h s₀ s := by
  induction t generalizing h s₀ s with
  | pure a => exact Iff.rfl
  | throw e => exact Iff.rfl
  | read f ih => exact ih s h s₀ s
  | write f t ih => exact ih h s₀ (f s)
  | await c f ih =>
    simp only [Routine.bind, meets_await]
    refine and_congr_right fun _ => and_congr_right fun _ => ?_
    exact forall_congr' fun s' => forall_congr' fun r => imp_congr_right fun _ =>
      imp_congr_right fun _ => ih r _ _ _

/-- `try`: the handler continues in the segment in which the exception was thrown. -/
theorem meets_tryCatch (t : Routine S σ ε α) (hd : ε → Option (Routine S σ ε α))
    (h : List (Answered S)) (s₀ s : σ) :
    (t.tryCatch hd).Meets env K Q h s₀ s ↔
      t.Meets env K (fun h s₀ r s => match r with
        | .ok a => Q h s₀ (.ok a) s
        | .error e => ((hd e).getD (.throw e)).Meets env K Q h s₀ s) h s₀ s := by
  induction t generalizing h s₀ s with
  | pure a => exact Iff.rfl
  | throw e => exact Iff.rfl
  | read f ih => exact ih s h s₀ s
  | write f t ih => exact ih h s₀ (f s)
  | await c f ih =>
    simp only [Routine.tryCatch, meets_await]
    refine and_congr_right fun _ => and_congr_right fun _ => ?_
    exact forall_congr' fun s' => forall_congr' fun r => imp_congr_right fun _ =>
      imp_congr_right fun _ => ih r _ _ _

@[simp] theorem meets_get {Q : List (Answered S) → σ → Except ε σ → σ → Prop}
    (h : List (Answered S)) (s₀ s : σ) :
    (Routine.get : Routine S σ ε σ).Meets env K Q h s₀ s ↔ Q h s₀ (.ok s) s := Iff.rfl

@[simp] theorem meets_modify {Q : List (Answered S) → σ → Except ε Unit → σ → Prop} (f : σ → σ)
    (h : List (Answered S)) (s₀ s : σ) :
    (Routine.modify f : Routine S σ ε Unit).Meets env K Q h s₀ s ↔ Q h s₀ (.ok ()) (f s) := Iff.rfl

/-- A routine that awaits nothing keeps every contract up to its end. -/
theorem Runs.meets {t : Routine S σ ε α} {h : List (Answered S)} {s₀ s s' : σ} {r : Except ε α}
    (ht : t.Runs s r s') : t.Meets env K Q h s₀ s ↔ Q h s₀ r s' := by
  refine ht.induction_on ?_ ?_ ?_ ?_
  · rintro a rfl
    exact Iff.rfl
  · rintro e rfl
    exact Iff.rfl
  · intro k s ih
    exact ih
  · intro f k s ih
    exact ih

/-! ## Frames -/

/-- Every write of `t` goes from a state to one related to it by `R`, and `t` makes calls of the
kind `C` only. -/
def Within (R : σ → σ → Prop) (C : S.Call → Prop) : Routine S σ ε α → Prop
  | .pure _ => True
  | .throw _ => True
  | .read k => ∀ s, (k s).Within R C
  | .write f k => (∀ s, R s (f s)) ∧ k.Within R C
  | .await c k => C c ∧ ∀ r, (k r).Within R C

section Within

variable {R : σ → σ → Prop} {C : S.Call → Prop}

@[simp] theorem within_pure (a : α) : (Routine.pure a : Routine S σ ε α).Within R C := trivial

@[simp] theorem within_throw (e : ε) : (Routine.throw e : Routine S σ ε α).Within R C := trivial

@[simp] theorem within_get : (Routine.get : Routine S σ ε σ).Within R C := fun _ => trivial

@[simp] theorem within_modify (f : σ → σ) :
    (Routine.modify f : Routine S σ ε Unit).Within R C ↔ ∀ s, R s (f s) :=
  and_iff_left trivial

@[simp] theorem within_ofExcept {φ : Type} (raise : φ → ε) (x : Except φ α) :
    (Routine.ofExcept raise x : Routine S σ ε α).Within R C := by
  cases x <;> trivial

theorem Within.bind {t : Routine S σ ε α} {k : α → Routine S σ ε β} (ht : t.Within R C)
    (hk : ∀ a, (k a).Within R C) : (t.bind k).Within R C := by
  induction t with
  | pure a => exact hk a
  | throw e => trivial
  | read f ih => exact fun s => ih s (ht s)
  | write f t ih => exact ⟨ht.1, ih ht.2⟩
  | await c f ih => exact ⟨ht.1, fun r => ih r (ht.2 r)⟩

theorem Within.tryCatch {t : Routine S σ ε α} {hd : ε → Option (Routine S σ ε α)}
    (ht : t.Within R C) (hhd : ∀ e t', hd e = some t' → t'.Within R C) :
    (t.tryCatch hd).Within R C := by
  induction t with
  | pure a => trivial
  | throw e =>
    show ((hd e).getD (.throw e)).Within R C
    cases he : hd e with
    | none => trivial
    | some t' => exact hhd e t' he
  | read f ih => exact fun s => ih s (ht s)
  | write f t ih => exact ⟨ht.1, ih ht.2⟩
  | await c f ih => exact ⟨ht.1, fun r => ih r (ht.2 r)⟩

/-- A routine within a frame keeps a contract that relies on nothing but the kind of the calls and
allows every move within the frame; the answers to its calls stay within the frame as well. -/
theorem Within.meets_calls {t : Routine S σ ε α} {h : List (Answered S)} {s₀ s : σ}
    (ht : t.Within R C) (htrans : ∀ s₁ s₂ s₃, R s₁ s₂ → R s₂ s₃ → R s₁ s₃)
    (hholds : ∀ h c s, C c → K.holds h c s)
    (hmoves : ∀ h s c s', (∀ e, h.getLast? = some e → C e.call) → R s s' → C c →
      K.moves h s (some c) s')
    (heffect : ∀ c r s, C c → R s (env.effect c r s))
    (hh : ∀ e, h.getLast? = some e → C e.call) (hs : R s₀ s)
    (hQ : ∀ h s₀ r s, (∀ e, h.getLast? = some e → C e.call) → R s₀ s → Q h s₀ r s) :
    t.Meets env K Q h s₀ s := by
  induction t generalizing h s₀ s with
  | pure a => exact hQ _ _ _ _ hh hs
  | throw e => exact hQ _ _ _ _ hh hs
  | read k ih => exact ih s (ht s) hh hs
  | write f k ih => exact ih ht.2 hh (htrans _ _ _ hs (ht.1 s))
  | await c k ih =>
    refine ⟨hmoves _ _ _ _ hh hs ht.1, hholds _ _ _ ht.1, fun s' r _ _ => ?_⟩
    -- the new segment begins with the answer to a call of the frame
    refine ih r (ht.2 r) (fun e he => ?_) (heffect c r s' ht.1)
    simp only [List.getLast?_append, List.getLast?_singleton, Option.some_or,
      Option.some.injEq] at he
    exact he ▸ ht.1

/-- A routine within a frame keeps a contract that relies on nothing and allows every move
within the frame. -/
theorem Within.meets {t : Routine S σ ε α} {h : List (Answered S)} {s₀ s : σ} (ht : t.Within R C)
    (htrans : ∀ s₁ s₂ s₃, R s₁ s₂ → R s₂ s₃ → R s₁ s₃) (hholds : ∀ h c s, K.holds h c s)
    (hmoves : ∀ h s c s', R s s' → C c → K.moves h s (some c) s')
    (heffect : ∀ c r s, R s (env.effect c r s)) (hs : R s₀ s)
    (hQ : ∀ h s₀ r s, R s₀ s → Q h s₀ r s) : t.Meets env K Q h s₀ s := by
  induction t generalizing h s₀ s with
  | pure a => exact hQ _ _ _ _ hs
  | throw e => exact hQ _ _ _ _ hs
  | read k ih => exact ih s (ht s) hs
  | write f k ih => exact ih ht.2 (htrans _ _ _ hs (ht.1 s))
  | await c k ih =>
    -- after the call a new segment begins in the state the reply has made
    exact ⟨hmoves _ _ _ _ hs ht.1, hholds _ _ _, fun s' r _ _ => ih r (ht.2 r) (heffect c r s')⟩

/-- A routine within a frame that makes no calls ends in the segment it began in. -/
theorem Within.meets_quiet {t : Routine S σ ε α} {h : List (Answered S)} {s₀ s : σ}
    (ht : t.Within R fun _ => False) (hrefl : ∀ s, R s s)
    (htrans : ∀ s₁ s₂ s₃, R s₁ s₂ → R s₂ s₃ → R s₁ s₃) (hQ : ∀ r s', R s s' → Q h s₀ r s') :
    t.Meets env K Q h s₀ s := by
  induction t generalizing s with
  | pure a => exact hQ _ _ (hrefl s)
  | throw e => exact hQ _ _ (hrefl s)
  | read k ih => exact ih s (ht s) hQ
  | write f k ih => exact ih ht.2 fun r s' hs' => hQ r s' (htrans _ _ _ (ht.1 s) hs')
  | await c k => exact ht.1.elim

/-- A routine that makes calls of one kind only keeps every contract that asks no more of it than one
it is known to keep, if calls of that kind are all there are. -/
theorem Meets.of_calls {K' : Contract S σ ε γ} {Q' : List (Answered S) → σ → Except ε α → σ → Prop}
    {t : Routine S σ ε α} {h : List (Answered S)} {s₀ s : σ} (ht : t.Meets env K Q h s₀ s)
    (hcalls : t.Within R C) (hholds : ∀ h c s, K'.holds h c s ↔ K.holds h c s)
    (hmoves : ∀ h s c s', C c → K.moves h s (some c) s' → K'.moves h s (some c) s')
    (hQ : ∀ h s₀ r s, Q h s₀ r s → Q' h s₀ r s) : t.Meets env K' Q' h s₀ s := by
  induction t generalizing h s₀ s with
  | pure a => exact hQ _ _ _ _ ht
  | throw e => exact hQ _ _ _ _ ht
  | read k ih => exact ih s ht (hcalls s)
  | write f k ih => exact ih ht hcalls.2
  | await c k ih =>
    obtain ⟨hmove, hhold, hk⟩ := ht
    exact ⟨hmoves _ _ _ _ hcalls.1 hmove, (hholds _ _ _).mpr hhold, fun s' r hs' hr =>
      ih r (hk s' r ((hholds _ _ _).mp hs') hr) (hcalls.2 r)⟩

end Within

/-! ## Running a segment -/

/-- What is known of a routine at rest: `K.holds` at the call it awaits and a continuation that
keeps the contract, or an end the contract allows. -/
def Rests (env : Env S σ) (K : Contract S σ ε α) (h : List (Answered S)) (s : σ) :
    Routine S σ ε α → Prop
  | .pure a => K.ends h (.ok a)
  | .throw e => K.ends h (.error e)
  | .await c k => K.holds h c s ∧ ∀ s' r, K.holds h c s' → env.admits c r s' →
      (k r).Meets env K K.final (h ++ [⟨c, r⟩]) s' (env.effect c r s')
  | _ => False

/-- Running a routine that keeps its contract makes one move and leaves it at rest. -/
theorem Meets.advance {K : Contract S σ ε α} {t : Routine S σ ε α} {h : List (Answered S)} {s₀ s : σ}
    (ht : t.Meets env K K.final h s₀ s) :
    K.moves h s₀ (t.advance s).2.awaiting (t.advance s).1 ∧
      (t.advance s).2.Rests env K h (t.advance s).1 := by
  induction t generalizing s with
  | pure a => exact ht
  | throw e => exact ht
  | read k ih => exact ih s ht
  | write f k ih => exact ih ht
  | await c k => exact ⟨ht.1, ht.2⟩

/-- A routine at rest stays so when the state changes within what it relies on. -/
theorem Rests.stable {K : Contract S σ ε α} {t : Routine S σ ε α} {h : List (Answered S)} {s s' : σ}
    (ht : t.Rests env K h s)
    (hs : ∀ c, t.awaiting = some c → K.holds h c s → K.holds h c s') :
    t.Rests env K h s' := by
  cases t with
  | await c k => exact ⟨hs c rfl ht.1, ht.2⟩
  | pure a => exact ht
  | throw e => exact ht
  | read k => exact ht
  | write f k => exact ht

/-- A routine at rest at a call relies on `K.holds` there. -/
theorem Rests.holds {K : Contract S σ ε α} {t : Routine S σ ε α} {h : List (Answered S)} {s : σ}
    {c : S.Call} (ht : t.Rests env K h s) (hc : t.awaiting = some c) : K.holds h c s := by
  cases t with
  | await c' k =>
    simp only [awaiting, Option.some.injEq] at hc
    subst hc
    exact ht.1
  | _ => simp [awaiting] at hc

/-- A routine at rest that has ended ended as its contract allows. -/
theorem Rests.ends {K : Contract S σ ε α} {t : Routine S σ ε α} {h : List (Answered S)} {s : σ}
    {r : Except ε α} (ht : t.Rests env K h s) (hr : t.result = some r) : K.ends h r := by
  cases t with
  | pure a =>
    simp only [result, Option.some.injEq] at hr
    subst hr
    exact ht
  | throw e =>
    simp only [result, Option.some.injEq] at hr
    subst hr
    exact ht
  | _ => simp [result] at hr

/-- A reply to a routine at rest starts a segment that keeps the contract. -/
theorem Rests.resume [DecidableEq S.Call] {K : Contract S σ ε α} {t t' : Routine S σ ε α}
    {h : List (Answered S)} {s : σ} {e : Answered S} (ht : t.Rests env K h s)
    (he : t.resume e = some t') (hadm : env.admits e.call e.reply s) :
    t'.Meets env K K.final (h ++ [e]) s (env.effect e.call e.reply s) := by
  obtain ⟨k, rfl, rfl⟩ := resume_eq_some he
  exact ht.2 s e.reply ht.1 hadm

end Routine

end Async
