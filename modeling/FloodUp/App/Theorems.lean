import FloodUp.App.Localizations
import FloodUp.Async.Pool
import FloodUp.Async.Solo

/-!
# Rules for the primitives

`SameData w w'` says that `w'` differs from `w` at most in the navigator, the progress
indicator's context and the log. Results about pages, globals and the backend need nothing
else about the primitives of the screen.
-/

namespace FloodUp

open Async

/-- A dialog or an alert: the user closes it, nothing else depends on it. -/
inductive Call.IsNotice : Call → Prop where
  | dialog (id : ℕ) : IsNotice (.dialog id)
  | alert (id : ℕ) : IsNotice (.alert id)

/-! ## Changes of the screen only -/

/-- The two worlds agree in all that does not concern the screen. -/
structure World.SameData (w w' : World) : Prop where
  globals : w'.globals = w.globals
  publish : w'.publish = w.publish
  map : w'.map = w.map
  login : w'.login = w.login
  clock : w'.clock = w.clock
  auth : w'.auth = w.auth
  events : w'.events = w.events
  uploads : w'.uploads = w.uploads
  stored : w'.stored = w.stored
  links : w'.links = w.links

namespace World

theorem SameData.refl (w : World) : SameData w w := by
  constructor <;> rfl

theorem SameData.trans {w₁ w₂ w₃ : World} (h₁ : SameData w₁ w₂) (h₂ : SameData w₂ w₃) :
    SameData w₁ w₃ where
  globals := h₂.globals.trans h₁.globals
  publish := h₂.publish.trans h₁.publish
  map := h₂.map.trans h₁.map
  login := h₂.login.trans h₁.login
  clock := h₂.clock.trans h₁.clock
  auth := h₂.auth.trans h₁.auth
  events := h₂.events.trans h₁.events
  uploads := h₂.uploads.trans h₁.uploads
  stored := h₂.stored.trans h₁.stored
  links := h₂.links.trans h₁.links

/-- Pushing a route touches the navigator only. -/
theorem sameData_push (w : World) (kind : RouteKind) : SameData w (w.push kind) := by
  constructor <;> rfl

theorem sameData_pushAndRemoveUntilFirst (w : World) (kind : RouteKind) :
    SameData w (w.pushAndRemoveUntilFirst kind) := by
  constructor <;> rfl

/-- So does an entry in the log. -/
theorem sameData_note (w : World) (e : Ui) : SameData w (w.note e) := by
  constructor <;> rfl

/-- So does the end of a route whose future has completed. -/
theorem sameData_drop (w : World) (id : ℕ) : SameData w (w.drop id) := by
  constructor <;> rfl

/-- A `pop` touches the navigator only, whatever it takes away. -/
theorem sameData_pop (w : World) (result : Option Bool) : SameData w (w.pop result) := by
  unfold pop
  split <;> constructor <;> rfl

/-- Remembering a context leaves all data as they are. -/
theorem sameData_setContext (w : World) (page : ℕ) : SameData w (w.setContext page) := by
  constructor <;> rfl

/-- Remembering a context takes no page away. -/
@[simp] theorem mounted_setContext (w : World) (page page' : ℕ) :
    (w.setContext page).mounted page' = w.mounted page' := rfl

/-- `hideProgress` leaves all data as they are, whether it pops a route or finds nothing to pop. -/
theorem sameData_hideProgress (w : World) (op : ℕ) : SameData w (w.hideProgress op) := by
  unfold hideProgress
  split
  · exact w.sameData_note _
  · split
    · exact (w.sameData_pop none).trans (sameData_note _ _)
    · exact w.sameData_note _

/-- No answer changes a form by itself; only the routine that gets it does. -/
theorem answered_publish (c : Call) (r : Reply c) (s : World) :
    (answered c r s).publish = s.publish := by
  unfold answered
  split <;> rfl

/-- The download URLs an app was given stay with it. -/
theorem answered_links (c : Call) (r : Reply c) (s : World) :
    s.links ⊆ (answered c r s).links := by
  unfold answered
  split <;> simp [drop]

/-- The two worlds look the same on the screen. -/
structure SameUi (w w' : World) : Prop where
  routes : w'.routes = w.routes
  nextRoute : w'.nextRoute = w.nextRoute
  popped : w'.popped = w.popped
  mcontext : w'.mcontext = w.mcontext
  log : w'.log = w.log

theorem SameUi.refl (w : World) : SameUi w w := by
  constructor <;> rfl

/-- The answer to a call that is no dialog does not change the screen. -/
theorem answered_sameUi {c : Call} (hc : ¬c.IsNotice) (r : Reply c) (s : World) :
    s.SameUi (answered c r s) := by
  unfold answered
  split
  · exact absurd (.dialog _) hc
  · exact absurd (.alert _) hc
  all_goals exact ⟨rfl, rfl, rfl, rfl, rfl⟩

/-! ## Routes -/

/-- A route that is closed right after it was opened leaves only its number behind. -/
theorem drop_push_note {w : World} {kind : RouteKind} {e : Ui}
    (h : ∀ r ∈ w.routes, r.id < w.nextRoute) :
    ((w.push kind).note e).drop w.nextRoute = { w with nextRoute := w.nextRoute + 1 }.note e := by
  have hfilter : w.routes.filter (fun r => r.id != w.nextRoute) = w.routes := by
    rw [List.filter_eq_self]
    intro r hr
    have := h r hr
    simp
    omega
  simp [push, note, drop, hfilter]

/-- `Navigator.pop` takes the top route if that is no page with an open drawer. -/
theorem pop_of_routes {w : World} {r r' : Route} {rs : List Route} {result : Option Bool}
    (h : w.routes = r :: r' :: rs) (hdrawer : ∀ name, r.kind ≠ .page name true) :
    w.pop result = { w with routes := r' :: rs, popped := w.popped ++ [(r.id, result)] } := by
  unfold pop
  split
  · rename_i id name rs' hroutes
    rw [h] at hroutes
    simp only [List.cons.injEq] at hroutes
    exact absurd (congrArg Route.kind hroutes.1) (hdrawer name)
  · rename_i hroutes
    rw [h] at hroutes
    simp only [List.cons.injEq] at hroutes
    obtain ⟨rfl, rfl, rfl⟩ := hroutes
    rfl
  · rename_i _ hroutes
    exact absurd h (hroutes _ _ _)

/-- What `Navigator.pop` would take is the top route, if that is no page with an open drawer. -/
theorem topmost_of_routes {w : World} {r r' : Route} {rs : List Route} (h : w.routes = r :: r' :: rs)
    (hdrawer : ∀ name, r.kind ≠ .page name true) : w.topmost = .route r := by
  unfold topmost
  split
  · rename_i id name rs' hroutes
    rw [h] at hroutes
    simp only [List.cons.injEq] at hroutes
    exact absurd (congrArg Route.kind hroutes.1) (hdrawer name)
  · rename_i hroutes
    rw [h] at hroutes
    simp only [List.cons.injEq] at hroutes
    rw [hroutes.1]
  · rename_i _ hroutes
    exact absurd h (hroutes _ _ _)

end World

/-! ## Contracts -/

section Meets

variable {γ α : Type} {adm : (c : Call) → Reply c → World → Prop}
  {K : Contract remote World Thrown γ}
  {Q : List (Answered remote) → World → Except Thrown α → World → Prop}

/-- The use of a page's context goes on if the page is there and fails if it is gone. -/
theorem meets_withContext {Q : List (Answered remote) → World → Except Thrown Unit → World → Prop}
    {env : Env remote World} (me : Caller) (h : List (Answered remote)) (s₀ s : World) :
    (withContext me).Meets env K Q h s₀ s ↔
      if s.mounted me.page then Q h s₀ (.ok ()) s else Q h s₀ (.error .noSuchMethod) s := by
  simp only [withContext, Routine.meets_read]
  split <;> rfl

/-- A remote call suspends, and goes on with the outcome its reply stands for. -/
theorem meets_remoteCall {env : Env remote World} (c : Call) (outcome : Reply c → Except Fault α)
    (h : List (Answered remote)) (s₀ s : World) :
    (remoteCall c outcome).Meets env K Q h s₀ s ↔
      K.moves h s₀ (some c) s ∧ K.holds h c s ∧
        ∀ s' r, K.holds h c s' → env.admits c r s' →
          Q (h ++ [⟨c, r⟩]) s' ((outcome r).mapError .fault) (env.effect c r s') := by
  simp only [remoteCall, ask, Routine.bind_eq, Routine.bind, Routine.meets_await]
  refine and_congr_right fun _ => and_congr_right fun _ => ?_
  refine forall_congr' fun s' => forall_congr' fun r => imp_congr_right fun _ =>
    imp_congr_right fun _ => ?_
  cases outcome r <;> rfl

/-- To wait for a dialog is to suspend on its route until the user has closed it. -/
theorem meets_dialogClosed
    {Q : List (Answered remote) → World → Except Thrown Unit → World → Prop}
    {env : Env remote World} (id : ℕ) (h : List (Answered remote)) (s₀ s : World) :
    (dialogClosed id).Meets env K Q h s₀ s ↔
      K.moves h s₀ (some (.dialog id)) s ∧ K.holds h (.dialog id) s ∧
        ∀ s' (r : Unit), K.holds h (.dialog id) s' → env.admits (.dialog id) r s' →
          Q (h ++ [⟨.dialog id, r⟩]) s' (.ok ()) (env.effect (.dialog id) r s') := Iff.rfl

/-- To wait for an alert is to suspend on its route; the answer is the button pressed. -/
theorem meets_alertClosed
    {Q : List (Answered remote) → World → Except Thrown Bool → World → Prop}
    {env : Env remote World} (id : ℕ) (h : List (Answered remote)) (s₀ s : World) :
    (alertClosed id).Meets env K Q h s₀ s ↔
      K.moves h s₀ (some (.alert id)) s ∧ K.holds h (.alert id) s ∧
        ∀ s' (r : Bool), K.holds h (.alert id) s' → env.admits (.alert id) r s' →
          Q (h ++ [⟨.alert id, r⟩]) s' (.ok r) (env.effect (.alert id) r s') := Iff.rfl

/-- `showProgress` changes the screen only; it fails if its page is gone. -/
theorem meets_showProgress
    {Q : List (Answered remote) → World → Except Thrown Unit → World → Prop}
    {env : Env remote World} {me : Caller} {h : List (Answered remote)} {s₀ s : World}
    (hQ : ∀ r s', World.SameData s s' → r = .ok () ∨ r = .error .noSuchMethod → Q h s₀ r s') :
    (showProgress me).Meets env K Q h s₀ s := by
  have hctx := s.sameData_setContext me.page
  simp only [showProgress, Routine.bind_eq, Routine.meets_bind, Routine.meets_modify,
    meets_withContext]
  split
  · exact hQ _ _ ((hctx.trans (World.sameData_push _ _)).trans (World.sameData_note _ _)) (.inl rfl)
  · exact hQ _ _ hctx (.inr rfl)

/-- `hideProgress` changes the screen only and never fails. -/
theorem meets_hideProgress
    {Q : List (Answered remote) → World → Except Thrown Unit → World → Prop}
    {env : Env remote World} {me : Caller} {h : List (Answered remote)} {s₀ s : World}
    (hQ : ∀ s', World.SameData s s' → Q h s₀ (.ok ()) s') :
    (hideProgress me).Meets env K Q h s₀ s :=
  hQ _ (s.sameData_hideProgress me.op)

/-- Opening a dialog changes the screen only, or fails on a page that is gone. -/
theorem meets_showDialog
    {Q : List (Answered remote) → World → Except Thrown ℕ → World → Prop}
    {env : Env remote World} {me : Caller} {message : String} {h : List (Answered remote)}
    {s₀ s : World}
    (hgone : Q h s₀ (.error .noSuchMethod) s)
    (hQ : ∀ id s', World.SameData s s' → Q h s₀ (.ok id) s') :
    (showDialog me message).Meets env K Q h s₀ s := by
  simp only [showDialog, Routine.bind_eq, Routine.meets_bind, meets_withContext,
    Routine.meets_get, Routine.meets_modify]
  split
  · exact hQ _ _ ((World.sameData_push _ _).trans (World.sameData_note _ _))
  · exact hgone

/-- A pop of the navigator changes the screen only; it fails if its page is gone. -/
theorem meets_navigatorPop
    {Q : List (Answered remote) → World → Except Thrown Unit → World → Prop}
    {env : Env remote World} {me : Caller} {result : Option Bool} {h : List (Answered remote)}
    {s₀ s : World}
    (hQ : ∀ r s', World.SameData s s' → r = .ok () ∨ r = .error .noSuchMethod → Q h s₀ r s') :
    (navigatorPop me result).Meets env K Q h s₀ s := by
  simp only [navigatorPop, Routine.bind_eq, Routine.meets_bind, Routine.meets_modify,
    meets_withContext]
  split
  · exact hQ _ _ ((World.sameData_pop _ _).trans (World.sameData_note _ _)) (.inl rfl)
  · exact hQ _ _ (World.SameData.refl s) (.inr rfl)

end Meets

/-! ## Frames -/

section Within

variable {R : World → World → Prop} {C : Call → Prop}

/-- The use of a context writes nothing and asks nothing. -/
theorem within_withContext (me : Caller) : (withContext me).Within R C := by
  intro s
  by_cases hpage : s.mounted me.page = true
  · simp only [hpage, if_true, Routine.within_pure]
  · simp only [hpage]
    trivial

/-- A remote call asks that one call and writes nothing. -/
theorem within_remoteCall {α : Type} {c : Call} {outcome : Reply c → Except Fault α} (hc : C c) :
    (remoteCall c outcome).Within R C :=
  ⟨hc, fun _ => Routine.within_ofExcept _ _⟩

variable (hR : ∀ w w', World.SameData w w' → R w w')
include hR

/-- `showProgress` writes the screen and asks nothing, and so do the five primitives after it. -/
theorem within_showProgress (me : Caller) : (showProgress me).Within R C :=
  .bind ((Routine.within_modify _).mpr fun w => hR _ _ (w.sameData_setContext _)) fun _ =>
    .bind (within_withContext me) fun _ => (Routine.within_modify _).mpr fun w =>
      hR _ _ ((w.sameData_push _).trans (World.sameData_note _ _))

theorem within_hideProgress (me : Caller) : (hideProgress me).Within R C :=
  (Routine.within_modify _).mpr fun w => hR _ _ (w.sameData_hideProgress _)

theorem within_showDialog (me : Caller) (message : String) : (showDialog me message).Within R C :=
  .bind (within_withContext me) fun _ => .bind Routine.within_get fun _ =>
    .bind ((Routine.within_modify _).mpr fun w =>
      hR _ _ ((w.sameData_push _).trans (World.sameData_note _ _))) fun _ => Routine.within_pure _

theorem within_navigatorPush (me : Caller) (kind : RouteKind) :
    (navigatorPush me kind).Within R C :=
  .bind (within_withContext me) fun _ => .bind Routine.within_get fun _ =>
    .bind ((Routine.within_modify _).mpr fun w => hR _ _ (w.sameData_push _)) fun _ =>
      Routine.within_pure _

theorem within_navigatorPop (me : Caller) (result : Option Bool) :
    (navigatorPop me result).Within R C :=
  .bind (within_withContext me) fun _ => (Routine.within_modify _).mpr fun w =>
    hR _ _ ((w.sameData_pop _).trans (World.sameData_note _ _))

theorem within_navigatorPushAndRemoveUntilFirst (me : Caller) (kind : RouteKind) :
    (navigatorPushAndRemoveUntilFirst me kind).Within R C :=
  .bind (within_withContext me) fun _ => (Routine.within_modify _).mpr fun w =>
    hR _ _ (w.sameData_pushAndRemoveUntilFirst _)

end Within

/-! ## Undisturbed executions -/

section Always

variable {α : Type} {effect : (c : Call) → Reply c → World → World}
  {Q : List (Answered remote) → Except Thrown α → World → Prop}

/-- The context of a page that is there can be used. -/
theorem always_withContext {Q : List (Answered remote) → Except Thrown Unit → World → Prop}
    {me : Caller} {h : List (Answered remote)} {s : World} (hs : s.mounted me.page = true) :
    (withContext me).Always effect Q h s ↔ Q h (.ok ()) s := by
  simp only [withContext, Routine.always_read, hs, if_true, Routine.always_pure]

/-- The context of a page that may be gone. -/
theorem always_anyContext {Q : List (Answered remote) → Except Thrown Unit → World → Prop}
    {me : Caller} {h : List (Answered remote)} {s : World} (hok : Q h (.ok ()) s)
    (hgone : Q h (.error .noSuchMethod) s) : (withContext me).Always effect Q h s := by
  by_cases hpage : s.mounted me.page = true
  · exact (always_withContext hpage).mpr hok
  · simp only [withContext, Routine.always_read, hpage]
    exact hgone

/-- A remote call goes on with the outcome its reply stands for. -/
theorem always_remoteCall (c : Call) (outcome : Reply c → Except Fault α)
    (h : List (Answered remote)) (s : World) :
    (remoteCall c outcome).Always effect Q h s ↔
      ∀ r, Q (h ++ [⟨c, r⟩]) ((outcome r).mapError .fault) (effect c r s) := by
  simp only [remoteCall, ask, Routine.bind_eq, Routine.bind, Routine.always_await]
  refine forall_congr' fun r => ?_
  cases outcome r <;> rfl

/-- A remote call that succeeds takes its answer and goes on. -/
theorem play_remoteCall {β : Type} {c : Call} (outcome : Reply c → Except Fault α) {r : Reply c}
    {a : α} (hr : outcome r = .ok a) (k : α → Dart β) (h : List (Answered remote)) (s : World) :
    ((remoteCall c outcome).bind k).play effect s (⟨c, r⟩ :: h) = (k a).play effect (effect c r s) h := by
  show (Routine.await c fun r => ((Routine.pure r).bind fun r =>
    Routine.ofExcept .fault (outcome r)).bind k : Dart β).play effect s (⟨c, r⟩ :: h) = _
  rw [@Routine.play_await remote]
  show ((Routine.ofExcept .fault (outcome r)).bind k : Dart β).play _ _ _ = _
  rw [hr]
  rfl

/-- The state in which an operation that has called `showProgress` begins. -/
def World.beginProgress (me : Caller) (w : World) : World :=
  ((w.setContext me.page).push (.progress me.op)).note (.showProgress me.op)

/-- `showProgress` of a page that is there leads to the state with its dialog on top. -/
theorem always_showProgress {Q : List (Answered remote) → Except Thrown Unit → World → Prop}
    {me : Caller} {h : List (Answered remote)} {s : World} (hs : s.mounted me.page = true) :
    (showProgress me).Always effect Q h s ↔ Q h (.ok ()) (s.beginProgress me) := by
  simp only [showProgress, Routine.bind_eq, Routine.always_bind, Routine.always_modify]
  rw [always_withContext (by simpa using hs)]
  rfl

theorem always_hideProgress {Q : List (Answered remote) → Except Thrown Unit → World → Prop}
    (me : Caller) (h : List (Answered remote)) (s : World) :
    (hideProgress me).Always effect Q h s ↔ Q h (.ok ()) (s.hideProgress me.op) := Iff.rfl

/-- A dialog opened from a page that is there gets the next number of a route. -/
theorem always_showDialog {Q : List (Answered remote) → Except Thrown ℕ → World → Prop}
    {me : Caller} {message : String} {h : List (Answered remote)} {s : World}
    (hs : s.mounted me.page = true) :
    (showDialog me message).Always effect Q h s ↔
      Q h (.ok s.nextRoute) ((s.push (.dialog message)).note (.dialog me.op message)) := by
  simp only [showDialog, Routine.bind_eq, Routine.always_bind]
  rw [always_withContext hs]
  rfl

/-- An awaited dialog is answered once, when it has been closed. -/
theorem always_awaitDialog {Q : List (Answered remote) → Except Thrown Unit → World → Prop}
    {me : Caller} {message : String} {h : List (Answered remote)} {s : World}
    (hs : s.mounted me.page = true) :
    (awaitDialog me message).Always effect Q h s ↔
      Q (h ++ [⟨.dialog s.nextRoute, ()⟩]) (.ok ())
        (effect (.dialog s.nextRoute) ()
          ((s.push (.dialog message)).note (.dialog me.op message))) := by
  simp only [awaitDialog, Routine.bind_eq, Routine.always_bind]
  rw [always_showDialog hs]
  simp only [dialogClosed, ask, Routine.always_await, Routine.always_pure]
  exact ⟨fun h => h (), fun h r => h⟩

/-- An awaited alert is answered by either of its buttons. -/
theorem always_awaitAlert {Q : List (Answered remote) → Except Thrown Bool → World → Prop}
    {me : Caller} {title : String} {h : List (Answered remote)} {s : World}
    (hs : s.mounted me.page = true) :
    (awaitAlert me title).Always effect Q h s ↔
      ∀ r : Bool, Q (h ++ [⟨.alert s.nextRoute, r⟩]) (.ok r)
        (effect (.alert s.nextRoute) r ((s.push (.alert title)).note (.alert me.op title))) := by
  simp only [awaitAlert, Routine.bind_eq, Routine.always_bind]
  rw [always_withContext hs]
  rfl

/-- A pop from a page that is there takes what is on top and is noted in the log. -/
theorem always_navigatorPop {Q : List (Answered remote) → Except Thrown Unit → World → Prop}
    {me : Caller} {result : Option Bool} {h : List (Answered remote)} {s : World}
    (hs : s.mounted me.page = true) :
    (navigatorPop me result).Always effect Q h s ↔
      Q h (.ok ()) ((s.pop result).note (.pop me.op s.topmost result)) := by
  simp only [navigatorPop, Routine.bind_eq, Routine.always_bind]
  rw [always_withContext hs]
  rfl

end Always

/-! ## Segments that await nothing -/

section Runs

variable {me : Caller} {s : World}

/-- On a page that is there the context is used at once. -/
theorem withContext_runs (h : s.mounted me.page = true) : (withContext me).Runs s (.ok ()) s := by
  show (if s.mounted me.page then Routine.pure () else Routine.throw Thrown.noSuchMethod).advance s = _
  rw [h]
  rfl

/-- On a page that is gone its use throws at once. -/
theorem withContext_runs_gone (h : s.mounted me.page = false) :
    (withContext me).Runs s (.error .noSuchMethod) s := by
  show (if s.mounted me.page then Routine.pure () else Routine.throw Thrown.noSuchMethod).advance s = _
  rw [h]
  rfl

/-- `showProgress` awaits nothing. -/
theorem showProgress_runs (h : s.mounted me.page = true) :
    (showProgress me).Runs s (.ok ()) (s.beginProgress me) := by
  have hset : (Routine.modify fun w : World => w.setContext me.page : Dart Unit).Runs s (.ok ())
      (s.setContext me.page) := rfl
  exact hset.bind ((withContext_runs (by simpa using h)).bind rfl)

/-- Nor does opening a dialog; its number is the one the next route gets. -/
theorem showDialog_runs {message : String} (h : s.mounted me.page = true) :
    (showDialog me message).Runs s (.ok s.nextRoute)
      ((s.push (.dialog message)).note (.dialog me.op message)) :=
  (withContext_runs h).bind rfl

end Runs

end FloodUp
