import FloodUp.System.Progress

/-!
# The operations on the navigator's stack

What the six operations do to the stack of routes, segment by segment, while others act on it in
between. An operation is `AtWork` while its progress dialog is on top of the page it was started
on, and on the `Ground` when that page is on top again; while it waits for a dialog or an alert
to be closed, one of these holds `Under` that notice.
-/

namespace FloodUp

open Async

/-! ## The stack -/

/-- The page an operation is started on. The last entry of the drawer logs out. -/
def Operation.page : Operation → RouteKind
  | .loadWeatherEvents _ => .page .map false
  | .publishEvent => .page .publish false
  | .loginToFireBase _ _ => .page .login false
  | .registerUserToFireBase _ _ _ _ => .page .signup false
  | .resetPassword _ => .page .forgot false
  | .logout => .page .map true

/-- A Login or Map page, whose `WillPopScope` stops the back button. -/
def RouteKind.isRoot : RouteKind → Bool
  | .page .login _ => true
  | .page .map _ => true
  | _ => false

/-- A dialog or an alert, which the user closes. -/
def RouteKind.isNotice : RouteKind → Bool
  | .dialog _ => true
  | .alert _ => true
  | _ => false

/-- At the bottom of the stack is the page the app began with; the numbers of routes are new. -/
structure World.Rooted (w : World) : Prop where
  root : ∃ r, w.routes.getLast? = some r ∧ r.kind.isRoot = true
  routes : ∀ r ∈ w.routes, r.id < w.nextRoute
  popped : ∀ x ∈ w.popped, x.1 < w.nextRoute

namespace World.Rooted

variable {w w' : World}

theorem sameUi (h : w.Rooted) (hs : w.SameUi w') : w'.Rooted where
  root := hs.routes ▸ h.root
  routes := by rw [hs.routes, hs.nextRoute]; exact h.routes
  popped := by rw [hs.popped, hs.nextRoute]; exact h.popped

theorem note (h : w.Rooted) (e : Ui) : (w.note e).Rooted := ⟨h.root, h.routes, h.popped⟩

theorem setContext (h : w.Rooted) (page : ℕ) : (w.setContext page).Rooted :=
  ⟨h.root, h.routes, h.popped⟩

/-- The route pushed gets a new number. -/
theorem push (h : w.Rooted) (kind : RouteKind) : (w.push kind).Rooted where
  root := by
    obtain ⟨r, hr, hroot⟩ := h.root
    exact ⟨r, by simp [World.push, List.getLast?_cons, hr], hroot⟩
  routes r hr := by
    rcases List.mem_cons.mp hr with rfl | hr
    · exact Nat.lt_succ_self _
    · exact Nat.lt_succ_of_lt (h.routes r hr)
  popped x hx := Nat.lt_succ_of_lt (h.popped x hx)

/-- Opening or closing the drawer of the page on top. -/
theorem setDrawer (h : w.Rooted) {id : ℕ} {name : PageName} {drawer : Bool} {rs : List Route}
    (hroutes : w.routes = ⟨id, .page name drawer⟩ :: rs) (drawer' : Bool) :
    { w with routes := ⟨id, .page name drawer'⟩ :: rs }.Rooted := by
  obtain ⟨root, hlast, hroot⟩ := h.root
  rw [hroutes] at hlast
  refine ⟨?_, fun r hr => ?_, h.popped⟩
  · cases rs with
    | nil =>
      have hhead : ⟨id, .page name drawer⟩ = root := Option.some.inj hlast
      refine ⟨_, rfl, ?_⟩
      rw [← hhead] at hroot
      cases name <;> first | rfl | cases hroot
    -- the page with the drawer is not the last one
    | cons r rs => exact ⟨root, by simpa [List.getLast?_cons_cons] using hlast, hroot⟩
  · rcases List.mem_cons.mp hr with rfl | hr
    · exact h.routes ⟨id, .page name drawer⟩ (hroutes ▸ .head _)
    · exact h.routes r (hroutes ▸ .tail _ hr)

/-- A `pop` leaves the last route where it is. -/
theorem pop (h : w.Rooted) (result : Option Bool) : (w.pop result).Rooted := by
  unfold World.pop
  split
  · rename_i id name rs hroutes
    exact h.setDrawer hroutes false
  · rename_i r r' rs _ hroutes
    obtain ⟨root, hlast, hroot⟩ := h.root
    rw [hroutes] at hlast
    refine ⟨⟨root, by simpa [List.getLast?_cons_cons] using hlast, hroot⟩,
      fun q hq => h.routes q (hroutes ▸ .tail _ hq), fun x hx => ?_⟩
    rcases List.mem_append.mp hx with hx | hx
    · exact h.popped x hx
    · rw [List.mem_singleton.mp hx]
      exact h.routes r (hroutes ▸ .head _)
  · exact h

/-- So does what removes all routes but the first. -/
theorem pushAndRemoveUntilFirst (h : w.Rooted) (kind : RouteKind) :
    (w.pushAndRemoveUntilFirst kind).Rooted where
  root := by
    obtain ⟨r, hr, hroot⟩ := h.root
    exact ⟨r, by simp [World.pushAndRemoveUntilFirst, hr, List.getLast?_cons], hroot⟩
  routes r hr := by
    rcases List.mem_cons.mp hr with rfl | hr
    · exact Nat.lt_succ_self _
    · exact Nat.lt_succ_of_lt (h.routes r (List.mem_of_getLast? (by simpa using hr)))
  popped x hx := Nat.lt_succ_of_lt (h.popped x hx)

/-- Only a Login or Map page can be the last route. -/
theorem below_ne_nil (h : w.Rooted) {r : Route} {below : List Route} (hroutes : w.routes = r :: below)
    (hkind : r.kind.isRoot = false) : below ≠ [] := by
  rintro rfl
  obtain ⟨root, hlast, hroot⟩ := h.root
  rw [hroutes] at hlast
  have hr : r = root := Option.some.inj hlast
  rw [← hr, hkind] at hroot
  cases hroot

end World.Rooted

/-! ## The contract of an operation -/

/-- A `hideProgress` of the operation takes its own progress dialog, the `Navigator.pop` of a
publication its Publish page, that of a logout the drawer; nothing else pops. -/
def Proper (o : Operation) (me : Caller) : Ui → Prop
  -- the dialog of this operation, not that of another one
  | .hideProgress op removed => op = me.op ∧ ∃ n, removed = .route ⟨n, .progress me.op⟩
  | .pop op removed _ => op = me.op ∧
    (o = .publishEvent ∧ removed = .route ⟨me.page, .page .publish false⟩ ∨
      o = .logout ∧ removed = .drawer me.page)
  | _ => True

/-- The page the operation was started on is on top. -/
def Ground (o : Operation) (me : Caller) (s : World) : Prop :=
  ∃ below, s.routes = ⟨me.page, o.page⟩ :: below

/-- The operation's progress dialog is on top of that page. -/
structure AtWork (o : Operation) (me : Caller) (s : World) : Prop where
  routes : ∃ n below, s.routes = ⟨n, .progress me.op⟩ :: ⟨me.page, o.page⟩ :: below
  mcontext : s.mcontext = some me.page

/-- The route `d` has been popped. -/
def World.Closed (d : ℕ) (w : World) : Prop := ∃ x ∈ w.popped, x.1 = d

/-- `P` holds of the stack below the notice `d`, which is still on top or has been closed. -/
inductive Under (d : ℕ) (P : World → Prop) (s : World) : Prop where
  | opened (r : Route) (rest : List Route) (hroutes : s.routes = r :: rest)
    (hid : r.id = d) (hkind : r.kind.isNotice = true) (hnew : ¬s.Closed d)
    (hbelow : P { s with routes := rest })
  | closed (hclosed : s.Closed d) (hbelow : P s)

/-- The dialog that tells of an unknown place stands over the progress dialog, any other over the
page. -/
def BelowDialog (o : Operation) (me : Caller) : World → Prop :=
  if o = .publishEvent then AtWork o me else Ground o me

/-- A segment of the operation leaves the stack rooted, and has noted no pop that is not its own. -/
structure ScreenMove (o : Operation) (me : Caller) (s s' : World) : Prop where
  rooted : s'.Rooted
  log : ∃ l, s'.log = s.log ++ l ∧ ∀ e ∈ l, Proper o me e

/-- A notice is closed by the user before its future completes. -/
def screenEnv : Env remote World where
  effect
    -- the user has taken it away already
    | .dialog _, _, s => s
    | .alert _, _, s => s
    | c, r, s => World.answered c r s
  admits c _ s := s.Rooted ∧ match c with
    | .dialog d => s.Closed d
    | .alert d => s.Closed d
    | _ => True

/-- While the operation waits for a remote call its progress dialog is on top; a notice it waits for
stands over the page or the progress dialog, or has been closed. -/
def screenContract (o : Operation) (me : Caller) : Contract remote World Thrown Unit where
  holds _ c s := match c with
    | .dialog d => Under d (BelowDialog o me) s
    | .alert d => Under d (Ground o me) s
    | _ => AtWork o me s
  moves _ s _ s' := ScreenMove o me s s'
  ends _ _ := True

variable {o : Operation} {me : Caller} {s₀ s s' : World} {h : List (Answered remote)}

theorem ScreenMove.refl (hs : s.Rooted) : ScreenMove o me s s := ⟨hs, [], by simp, by simp⟩

/-- What does not show on the screen can be added to a segment. -/
theorem ScreenMove.sameUi (hseg : ScreenMove o me s₀ s) (hs : s.SameUi s') : ScreenMove o me s₀ s' where
  rooted := hseg.rooted.sameUi hs
  log := hs.log ▸ hseg.log

/-- A step that notes something proper can be added. -/
theorem ScreenMove.note (hseg : ScreenMove o me s₀ s) (hs : s'.Rooted) {e : Ui} (he : Proper o me e)
    (hlog : s'.log = s.log ++ [e]) : ScreenMove o me s₀ s' where
  rooted := hs
  log := by
    obtain ⟨l, hl, hall⟩ := hseg.log
    refine ⟨l ++ [e], by rw [hlog, hl, List.append_assoc], fun e' he' => ?_⟩
    rcases List.mem_append.mp he' with he' | he'
    · exact hall e' he'
    · exact List.mem_singleton.mp he' ▸ he

/-- A step that notes nothing can be added if the stack stays rooted. -/
theorem ScreenMove.screen (hseg : ScreenMove o me s₀ s) (hs : s'.Rooted) (hlog : s'.log = s.log) :
    ScreenMove o me s₀ s' where
  rooted := hs
  log := hlog ▸ hseg.log

theorem AtWork.sameUi (hw : AtWork o me s) (hs : s.SameUi s') : AtWork o me s' where
  routes := hs.routes ▸ hw.routes
  mcontext := hs.mcontext.trans hw.mcontext

theorem Ground.mounted (hg : Ground o me s) : s.mounted me.page = true := by
  obtain ⟨below, hroutes⟩ := hg
  simp [World.mounted, hroutes]

/-- Once the notice is closed the stack is the one below it. -/
theorem Under.of_closed {d : ℕ} {P : World → Prop} (hu : Under d P s) (hd : s.Closed d) : P s := by
  cases hu with
  -- a notice on top has not been popped
  | opened r rest hroutes hid hkind hnew hbelow => exact absurd hd hnew
  | closed _ hbelow => exact hbelow

/-! ## Work under the progress dialog -/

/-- `t` asks remote calls only and leaves the screen as it is. -/
def KeepsScreen (o : Operation) (me : Caller) {α : Type} (t : Dart α) : Prop :=
  ∀ h s₀ s, ScreenMove o me s₀ s → AtWork o me s → t.Meets screenEnv (screenContract o me)
    (fun _ s₀ _ s => ScreenMove o me s₀ s ∧ AtWork o me s) h s₀ s

section KeepsScreen

variable {α β : Type}

/-- A result leaves the screen as it is, and so do the other pieces of a routine below. -/
theorem keepsScreen_pure (a : α) : KeepsScreen o me (.pure a) := fun _ _ _ hseg hw => ⟨hseg, hw⟩

theorem keepsScreen_throw (e : Thrown) : KeepsScreen o me (.throw e : Dart α) := fun _ _ _ hseg hw => ⟨hseg, hw⟩

theorem keepsScreen_read {k : World → Dart α} (hk : ∀ s, KeepsScreen o me (k s)) : KeepsScreen o me (.read k) :=
  fun h s₀ s hseg hw => hk s h s₀ s hseg hw

theorem keepsScreen_get : KeepsScreen o me (Routine.get : Dart World) := keepsScreen_read fun s => keepsScreen_pure s

theorem keepsScreen_modify {f : World → World} (hf : ∀ s : World, s.SameUi (f s)) :
    KeepsScreen o me (Routine.modify f : Dart Unit) :=
  fun _ _ s hseg hw => ⟨hseg.sameUi (hf s), hw.sameUi (hf s)⟩

/-- A quiet routine, then another one. -/
theorem KeepsScreen.andThen {t : Dart α} {k : α → Dart β}
    {Q : List (Answered remote) → World → Except Thrown β → World → Prop}
    (ht : KeepsScreen o me t) (hseg : ScreenMove o me s₀ s) (hw : AtWork o me s)
    (hk : ∀ a h s₀ s, ScreenMove o me s₀ s → AtWork o me s →
      (k a).Meets screenEnv (screenContract o me) Q h s₀ s)
    (he : ∀ e h s₀ s, ScreenMove o me s₀ s → AtWork o me s → Q h s₀ (.error e) s) :
    (t.bind k).Meets screenEnv (screenContract o me) Q h s₀ s := by
  rw [Routine.meets_bind]
  refine Routine.Meets.mono (fun h s₀ r s hend => ?_) (ht h s₀ s hseg hw)
  cases r with
  | ok a => exact hk a h s₀ s hend.1 hend.2
  | error e => exact he e h s₀ s hend.1 hend.2

/-- Two such routines in a row are one. -/
theorem KeepsScreen.bind {t : Dart α} {k : α → Dart β} (ht : KeepsScreen o me t) (hk : ∀ a, KeepsScreen o me (k a)) :
    KeepsScreen o me (t.bind k) :=
  fun _ _ _ hseg hw => ht.andThen hseg hw (fun a h s₀ s hseg hw => hk a h s₀ s hseg hw)
    fun _ _ _ _ hseg hw => ⟨hseg, hw⟩

/-- A handler that leaves the screen as it is makes no difference. -/
theorem KeepsScreen.tryCatch {t : Dart α} {hd : Thrown → Option (Dart α)} (ht : KeepsScreen o me t)
    (hhd : ∀ e t', hd e = some t' → KeepsScreen o me t') : KeepsScreen o me (t.tryCatch hd) := by
  intro h s₀ s hseg hw
  rw [Routine.meets_tryCatch]
  refine Routine.Meets.mono (fun h s₀ r s hend => ?_) (ht h s₀ s hseg hw)
  cases r with
  | ok a => exact hend
  | error e =>
    show ((hd e).getD (.throw e)).Meets _ _ _ _ _ _
    cases hcaught : hd e with
    | none => exact hend
    | some t' => exact hhd e t' hcaught h s₀ s hend.1 hend.2

/-- An answer that closes no notice does not show on the screen. -/
theorem screenEnv_sameUi {c : Call} (hc : ¬c.IsNotice) (r : Reply c) (s : World) :
    s.SameUi (screenEnv.effect c r s) := by
  have hanswered := World.answered_sameUi hc r s
  cases c with
  | dialog id => exact absurd (.dialog id) hc
  | alert id => exact absurd (.alert id) hc
  | _ => exact hanswered

/-- During a call that is no notice the operation is at work. -/
theorem screenContract_holds {c : Call} (hc : ¬c.IsNotice) :
    (screenContract o me).holds h c s ↔ AtWork o me s := by
  cases c with
  | dialog id => exact absurd (.dialog id) hc
  | alert id => exact absurd (.alert id) hc
  | _ => exact Iff.rfl

/-- A remote call leaves the dialog on top, however long it takes. -/
theorem keepsScreen_remoteCall {c : Call} (hc : ¬c.IsNotice) (outcome : Reply c → Except Fault α) :
    KeepsScreen o me (remoteCall c outcome) := by
  intro h s₀ s hseg hw
  rw [meets_remoteCall]
  refine ⟨hseg, (screenContract_holds hc).mpr hw, fun s' r hholds hadmits => ?_⟩
  -- the answer changes nothing on the screen, so the new segment begins with the dialog on top
  have hsame := screenEnv_sameUi hc r s'
  exact ⟨(ScreenMove.refl hadmits.1).sameUi hsame,
    ((screenContract_holds hc).mp hholds).sameUi hsame⟩

theorem keepsScreen_ofExcept {φ : Type} (raise : φ → Thrown) (r : Except φ α) :
    KeepsScreen o me (Routine.ofExcept raise r) := by
  cases r with
  | ok a => exact keepsScreen_pure a
  | error e => exact keepsScreen_throw (raise e)

theorem keepsScreen_withContext : KeepsScreen o me (withContext me) := by
  refine keepsScreen_read fun s => ?_
  by_cases hs : s.mounted me.page = true
  · rw [if_pos hs]
    exact keepsScreen_pure ()
  · rw [if_neg hs]
    exact keepsScreen_throw _

/-- What loading does under the dialog. -/
theorem keepsScreen_processEvents (documents : List Document) : KeepsScreen o me (processEvents me documents) := by
  refine keepsScreen_withContext.bind fun _ => .bind ?_ fun _ => keepsScreen_withContext
  induction documents with
  | nil => exact keepsScreen_pure ()
  | cons document documents ih =>
    refine .bind (.bind (keepsScreen_ofExcept _ _) fun images => ?_) fun _ => ih
    refine .bind (keepsScreen_modify fun s => (s.sameButMap_setMap _ _).sameUi) fun _ => ?_
    exact .bind (keepsScreen_ofExcept _ _) fun _ =>
      keepsScreen_modify fun s => (s.sameButMap_setMap _ _).sameUi

/-- The search for the place, with its handler. -/
theorem keepsScreen_getLocationFromAddress (address : String) :
    KeepsScreen o me (getLocationFromAddress address) := by
  refine .tryCatch (.bind (keepsScreen_remoteCall (by rintro ⟨⟩) _) fun placemark => ?_) fun e t' ht' => ?_
  · rcases placemark with _ | _ | _
    · exact keepsScreen_pure _
    · exact keepsScreen_throw _
    · exact keepsScreen_pure _
  · obtain ⟨code, -, rfl⟩ := Option.map_eq_some_iff.mp ht'
    exact keepsScreen_pure _

/-- All uploads go on under one dialog. -/
theorem keepsScreen_uploadLoop (categoryNo : String) (length left : ℕ) :
    KeepsScreen o me (uploadLoop me categoryNo length left) := by
  induction left with
  | zero =>
    refine keepsScreen_read fun s => ?_
    split
    · exact keepsScreen_pure ()
    · exact keepsScreen_throw _
  | succ left ih =>
    refine keepsScreen_read fun s => ?_
    split
    · split
      · exact keepsScreen_throw _
      · refine .bind (keepsScreen_modify fun s => ⟨rfl, rfl, rfl, rfl, rfl⟩) fun _ => ?_
        refine .bind (keepsScreen_remoteCall (by rintro ⟨⟩) _) fun _ => ?_
        refine .bind (keepsScreen_remoteCall (by rintro ⟨⟩) _) fun url => ?_
        exact .bind (keepsScreen_modify fun s => ⟨rfl, rfl, rfl, rfl, rfl⟩) fun _ => ih
    · exact keepsScreen_throw _

theorem keepsScreen_uploadAttached : KeepsScreen o me (uploadAttached me) := by
  refine .bind keepsScreen_get fun w => ?_
  show KeepsScreen o me (if _ then _ else _)
  split
  · refine .bind (keepsScreen_modify fun s => ⟨rfl, rfl, rfl, rfl, rfl⟩) fun _ => ?_
    refine .bind keepsScreen_get fun w => .bind (keepsScreen_uploadLoop _ _ _) fun _ => ?_
    exact .bind keepsScreen_get fun w => keepsScreen_pure _
  · exact keepsScreen_pure _

/-- A handler that only prints an `Exception` leaves the screen as it is. -/
theorem caught_exception {e : Thrown} {t' : Dart Unit}
    (h : (if e.isException then some (.pure ()) else none) = some t') : KeepsScreen o me t' := by
  split at h
  · obtain rfl := Option.some.inj h
    exact keepsScreen_pure ()
  · cases h

/-- The add, whose failure is printed at most. -/
theorem keepsScreen_storeEvent (loc : LatLng) : KeepsScreen o me (storeEvent me loc) := by
  refine .tryCatch (.bind keepsScreen_get fun w => ?_) fun e t' ht' => caught_exception ht'
  exact .bind (keepsScreen_remoteCall (by rintro ⟨⟩) _) fun _ => keepsScreen_pure _

theorem keepsScreen_readSubscription (email : String) : KeepsScreen o me (readSubscription email) := by
  refine .tryCatch (.bind (keepsScreen_remoteCall (by rintro ⟨⟩) _) fun subVal => ?_)
    fun e t' ht' => caught_exception ht'
  cases subVal with
  | none => exact keepsScreen_pure ()
  | some data =>
    exact .bind (keepsScreen_ofExcept _ _) fun _ => keepsScreen_modify fun s => ⟨rfl, rfl, rfl, rfl, rfl⟩

theorem keepsScreen_saveSubscription (email isSubscribed : String) :
    KeepsScreen o me (saveSubscription email isSubscribed) :=
  .tryCatch (.bind (keepsScreen_remoteCall (by rintro ⟨⟩) _) fun _ =>
    keepsScreen_modify fun s => ⟨rfl, rfl, rfl, rfl, rfl⟩) fun e t' ht' => caught_exception ht'

end KeepsScreen

/-! ## Putting the dialog up and taking it away -/

/-- An operation may end after any segment. -/
theorem ScreenMove.final (hseg : ScreenMove o me s₀ s) (r : Except Thrown Unit) :
    (screenContract o me).final h s₀ r s := ⟨hseg, trivial⟩

theorem Ground.sameUi (hg : Ground o me s) (hs : s.SameUi s') : Ground o me s' := by
  obtain ⟨below, hroutes⟩ := hg
  exact ⟨below, hs.routes.trans hroutes⟩

/-- The page is there below the dialog. -/
theorem AtWork.mounted (hw : AtWork o me s) : s.mounted me.page = true := by
  obtain ⟨n, below, hroutes⟩ := hw.routes
  simp [World.mounted, hroutes]

/-- `showProgress` brings the operation from the ground to work. -/
theorem meets_begin {Q : List (Answered remote) → World → Except Thrown Unit → World → Prop}
    (hseg : ScreenMove o me s₀ s) (hg : Ground o me s)
    (hQ : ∀ s', ScreenMove o me s₀ s' → AtWork o me s' → Q h s₀ (.ok ()) s') :
    (showProgress me).Meets screenEnv (screenContract o me) Q h s₀ s := by
  simp only [showProgress, Routine.bind_eq, Routine.meets_bind, Routine.meets_modify,
    meets_withContext]
  rw [if_pos (by exact hg.mounted)]
  have hrooted := (hseg.rooted.setContext me.page).push (.progress me.op)
  obtain ⟨below, hroutes⟩ := hg
  refine hQ _ (hseg.note (hrooted.note _) (e := .showProgress me.op) trivial rfl)
    ⟨⟨s.nextRoute, below, ?_⟩, ?_⟩
  · simp [World.note, World.push, World.setContext, hroutes]
  · simp [World.note, World.push, World.setContext, World.mounted, hroutes]

/-- `hideProgress` takes the operation's own dialog and uncovers the page. -/
theorem AtWork.hideProgress (hw : AtWork o me s) (hseg : ScreenMove o me s₀ s) :
    ScreenMove o me s₀ (s.hideProgress me.op) ∧ Ground o me (s.hideProgress me.op) := by
  obtain ⟨n, below, hroutes⟩ := hw.routes
  have hcan : s.canPop = true := by simp [World.canPop, hroutes]
  have hhide : s.hideProgress me.op = (s.pop none).note (.hideProgress me.op s.topmost) := by
    simp [World.hideProgress, hw.mcontext, hw.mounted, hcan]
  have hpop := @World.pop_of_routes _ _ _ _ none hroutes (by simp)
  have htop := World.topmost_of_routes hroutes (by simp)
  rw [hhide]
  constructor
  · refine hseg.note ((hseg.rooted.pop none).note _) (e := .hideProgress me.op s.topmost)
      ⟨rfl, n, htop⟩ ?_
    rw [World.note, hpop]
  · refine ⟨below, ?_⟩
    rw [World.note, hpop]

/-- `hideProgress` brings it back to the ground. -/
theorem meets_hide {Q : List (Answered remote) → World → Except Thrown Unit → World → Prop}
    (hseg : ScreenMove o me s₀ s) (hw : AtWork o me s)
    (hQ : ∀ s', ScreenMove o me s₀ s' → Ground o me s' → Q h s₀ (.ok ()) s') :
    (hideProgress me).Meets screenEnv (screenContract o me) Q h s₀ s :=
  hQ _ (hw.hideProgress hseg).1 (hw.hideProgress hseg).2

/-! ## On the ground -/

/-- A page may be opened from the ground. -/
theorem meets_openPage {Q : List (Answered remote) → World → Except Thrown ℕ → World → Prop}
    {kind : RouteKind} (hseg : ScreenMove o me s₀ s) (hg : Ground o me s)
    (hQ : ∀ id s', ScreenMove o me s₀ s' → Q h s₀ (.ok id) s') :
    (navigatorPush me kind).Meets screenEnv (screenContract o me) Q h s₀ s := by
  simp only [navigatorPush, Routine.bind_eq, Routine.meets_bind, meets_withContext, hg.mounted,
    if_true, Routine.meets_get, Routine.meets_modify]
  exact hQ _ _ (hseg.screen (hseg.rooted.push kind) rfl)

/-- So may a dialog nobody waits for. -/
theorem meets_openDialog {Q : List (Answered remote) → World → Except Thrown ℕ → World → Prop}
    {message : String} (hseg : ScreenMove o me s₀ s) (hg : Ground o me s)
    (hQ : ∀ id s', ScreenMove o me s₀ s' → Q h s₀ (.ok id) s') :
    (showDialog me message).Meets screenEnv (screenContract o me) Q h s₀ s := by
  simp only [showDialog, Routine.bind_eq, Routine.meets_bind, meets_withContext, hg.mounted,
    if_true, Routine.meets_get, Routine.meets_modify]
  exact hQ _ _ (hseg.note ((hseg.rooted.push _).note _) (e := .dialog me.op message) trivial rfl)

/-- A number that has not been given to a route has not been closed either. -/
theorem World.Rooted.not_closed (hs : s.Rooted) : ¬s.Closed s.nextRoute := by
  rintro ⟨x, hx, hid⟩
  have := hs.popped x hx
  omega

/-- What is below a dialog depends on the stack and the remembered context. -/
theorem BelowDialog.of_eq (hb : BelowDialog o me s) (hroutes : s'.routes = s.routes)
    (hmcontext : s'.mcontext = s.mcontext) : BelowDialog o me s' := by
  unfold BelowDialog at hb ⊢
  split
  · rename_i ho
    rw [if_pos ho] at hb
    exact ⟨hroutes ▸ hb.routes, hmcontext.trans hb.mcontext⟩
  · rename_i ho
    rw [if_neg ho] at hb
    obtain ⟨below, hb⟩ := hb
    exact ⟨below, hroutes.trans hb⟩

/-- Nothing has changed below a dialog when it has been closed. -/
theorem meets_dialogOver {Q : List (Answered remote) → World → Except Thrown Unit → World → Prop}
    {message : String} (hseg : ScreenMove o me s₀ s) (hb : BelowDialog o me s)
    (hmounted : s.mounted me.page = true)
    (hQ : ∀ h s', s'.Rooted → BelowDialog o me s' → Q h s' (.ok ()) s') :
    (awaitDialog me message).Meets screenEnv (screenContract o me) Q h s₀ s := by
  simp only [awaitDialog, showDialog, Routine.bind_eq, Routine.meets_bind, meets_withContext,
    hmounted, if_true, Routine.meets_get, Routine.meets_modify, Routine.pure_eq,
    Routine.meets_pure, meets_dialogClosed]
  refine ⟨hseg.note ((hseg.rooted.push _).note _) (e := .dialog me.op message) trivial rfl,
    .opened ⟨s.nextRoute, .dialog message⟩ s.routes rfl rfl rfl hseg.rooted.not_closed
      (hb.of_eq rfl rfl), fun s' _ hholds hadmits => ?_⟩
  exact hQ _ s' hadmits.1 (Under.of_closed hholds hadmits.2)

/-- While an alert is open others may act; it is closed over the page it was opened on. -/
theorem meets_alertOver {Q : List (Answered remote) → World → Except Thrown Bool → World → Prop}
    {title : String} (hseg : ScreenMove o me s₀ s) (hg : Ground o me s)
    (hQ : ∀ h pressed s', s'.Rooted → Ground o me s' → Q h s' (.ok pressed) s') :
    (awaitAlert me title).Meets screenEnv (screenContract o me) Q h s₀ s := by
  simp only [awaitAlert, Routine.bind_eq, Routine.meets_bind, meets_withContext, hg.mounted,
    if_true, Routine.meets_get, Routine.meets_modify, meets_alertClosed]
  refine ⟨hseg.note ((hseg.rooted.push _).note _) (e := .alert me.op title) trivial rfl,
    .opened ⟨s.nextRoute, .alert title⟩ s.routes rfl rfl rfl hseg.rooted.not_closed hg,
    fun s' pressed hholds hadmits => ?_⟩
  exact hQ _ pressed s' hadmits.1 (Under.of_closed hholds hadmits.2)

/-! ## The operations -/

/-- A handler takes the progress dialog away before it opens its own. -/
theorem meets_reportFailure {Q : List (Answered remote) → World → Except Thrown Unit → World → Prop}
    {message : String} (hseg : ScreenMove o me s₀ s) (hw : AtWork o me s)
    (hQ : ∀ s', ScreenMove o me s₀ s' → Q h s₀ (.ok ()) s') :
    (reportFailure me message).Meets screenEnv (screenContract o me) Q h s₀ s := by
  simp only [reportFailure, Routine.bind_eq, Routine.meets_bind]
  refine meets_hide hseg hw fun s₁ hseg₁ hg₁ => ?_
  rw [meets_withContext, if_pos hg₁.mounted]
  exact meets_openDialog hseg₁ hg₁ fun id s₂ hseg₂ => hQ s₂ hseg₂

/-- A handler that reports a `PlatformException` and passes everything else on. -/
theorem meets_handler (message : String → String) (e : Thrown) (hseg : ScreenMove o me s₀ s)
    (hw : AtWork o me s) :
    ((e.platformCode.map fun code => reportFailure me (message code)).getD (.throw e)).Meets
      screenEnv (screenContract o me) (screenContract o me).final h s₀ s := by
  cases e.platformCode with
  | none => exact hseg.final _
  | some code => exact meets_reportFailure hseg hw fun s' hseg' => hseg'.final _

/-- A load ends by taking its dialog away, or by a failure that leaves the stack alone. -/
theorem loadWeatherEvents_screen (hs : s.Rooted) (hg : Ground o me s) (category : ℕ) :
    (loadWeatherEvents me category).Meets screenEnv (screenContract o me)
      (screenContract o me).final [] s s := by
  unfold loadWeatherEvents
  simp only [Routine.bind_eq, Routine.meets_bind, Routine.meets_modify]
  have hset := (s.sameButMap_setMap me.page fun m =>
    { m with eventDatas := [], allEventMarkers := [] }).sameUi
  refine meets_begin ((ScreenMove.refl hs).sameUi hset) (hg.sameUi hset) fun s₁ hseg₁ hw₁ => ?_
  -- with or without documents the load ends by taking its dialog away
  have hhide : ∀ h s₀ s, ScreenMove o me s₀ s → AtWork o me s → (hideProgress me).Meets screenEnv
      (screenContract o me) (screenContract o me).final h s₀ s := fun h s₀ s hseg hw =>
    meets_hide hseg hw fun s' hseg' _ => hseg'.final _
  rw [← Routine.meets_bind]
  refine (keepsScreen_remoteCall (by rintro ⟨⟩) _).andThen hseg₁ hw₁ (fun documents h s₀ s hseg hw => ?_)
    fun _ _ _ _ hseg _ => hseg.final _
  by_cases hempty : documents = []
  · rw [if_neg (not_not.mpr hempty)]
    exact hhide h s₀ s hseg hw
  · rw [if_pos hempty]
    exact (keepsScreen_processEvents documents).andThen hseg hw (fun _ => hhide)
      fun _ _ _ _ hseg _ => hseg.final _

/-- A login takes its dialog away before it opens the Map page. -/
theorem loginToFireBase_screen (hs : s.Rooted) (hg : Ground o me s) (email password : String) :
    (loginToFireBase me email password).Meets screenEnv (screenContract o me)
      (screenContract o me).final [] s s := by
  unfold loginToFireBase
  simp only [Routine.bind_eq, Routine.meets_bind]
  refine meets_begin (ScreenMove.refl hs) hg fun s₁ hseg₁ hw₁ => ?_
  rw [Routine.meets_tryCatch]
  have hfail : ∀ (e : Thrown) h s₀ s, ScreenMove o me s₀ s → AtWork o me s →
      ((e.platformCode.map fun code => reportFailure me (loginErrorMessage code)).getD
        (.throw e)).Meets screenEnv (screenContract o me) (screenContract o me).final h s₀ s :=
    fun e h s₀ s hseg hw => meets_handler loginErrorMessage e hseg hw
  refine (keepsScreen_remoteCall (by rintro ⟨⟩) _).andThen hseg₁ hw₁ (fun user h s₀ s hseg hw => ?_) hfail
  refine (keepsScreen_readSubscription _).andThen hseg hw (fun _ h s₀ s hseg hw => ?_) hfail
  simp only [Routine.meets_bind, Routine.meets_modify]
  have hfill : s.SameUi { s with globals := s.globals.withUser user } := ⟨rfl, rfl, rfl, rfl, rfl⟩
  refine meets_hide (hseg.sameUi hfill) (hw.sameUi hfill) fun s' hseg' hg' => ?_
  -- what is written after the dialog is gone does not show on the stack
  have hclear : s'.SameUi (s'.setLogin me.page fun p => { p with textEmail := "", textPassword := "" }) :=
    ⟨rfl, rfl, rfl, rfl, rfl⟩
  exact meets_openPage (hseg'.sameUi hclear) (hg'.sameUi hclear) fun id s'' hseg'' => hseg''.final _

theorem resetPassword_screen (hs : s.Rooted) (hg : Ground o me s) (email : String) :
    (resetPassword me email).Meets screenEnv (screenContract o me)
      (screenContract o me).final [] s s := by
  unfold resetPassword
  simp only [Routine.bind_eq, Routine.meets_bind]
  refine meets_begin (ScreenMove.refl hs) hg fun s₁ hseg₁ hw₁ => ?_
  rw [Routine.meets_tryCatch]
  refine (keepsScreen_remoteCall (by rintro ⟨⟩) _).andThen hseg₁ hw₁ (fun _ h s₀ s hseg hw => ?_)
    fun e h s₀ s hseg hw => meets_handler resetErrorMessage e hseg hw
  simp only [Routine.meets_bind]
  refine meets_hide hseg hw fun s' hseg' hg' => ?_
  exact meets_openDialog hseg' hg' fun id s'' hseg'' => hseg''.final _

/-- A registration waits for its closing dialog on the ground and opens the Map page then. -/
theorem registerUserToFireBase_screen (hs : s.Rooted) (hg : Ground o me s) (ho : o ≠ .publishEvent)
    (email password userName isSubscribed : String) :
    (registerUserToFireBase me email password userName isSubscribed).Meets screenEnv
      (screenContract o me) (screenContract o me).final [] s s := by
  unfold registerUserToFireBase
  simp only [Routine.bind_eq, Routine.meets_bind]
  refine meets_begin (ScreenMove.refl hs) hg fun s₁ hseg₁ hw₁ => ?_
  rw [Routine.meets_tryCatch]
  refine (keepsScreen_remoteCall (by rintro ⟨⟩) _).andThen hseg₁ hw₁ (fun user h s₀ s hseg hw => ?_)
    fun e h s₀ s hseg hw => ?_
  · refine (keepsScreen_remoteCall (by rintro ⟨⟩) _).andThen hseg hw (fun _ h s₀ s hseg hw => ?_)
      fun _ _ _ _ hseg _ => hseg.final _
    refine (keepsScreen_saveSubscription _ _).andThen hseg hw (fun _ h s₀ s hseg hw => ?_)
      fun _ _ _ _ hseg _ => hseg.final _
    unfold enterRegistered
    simp only [Routine.bind_eq, Routine.meets_bind, Routine.meets_modify]
    refine meets_hide hseg hw fun s₂ hseg₂ hg₂ => ?_
    have hfill : s₂.SameUi { s₂ with globals := s₂.globals.withUser user } :=
      ⟨rfl, rfl, rfl, rfl, rfl⟩
    have hg₃ := hg₂.sameUi hfill
    refine meets_dialogOver (hseg₂.sameUi hfill) (by rw [BelowDialog, if_neg ho]; exact hg₃)
      hg₃.mounted fun h s₄ hs₄ hb₄ => ?_
    rw [BelowDialog, if_neg ho] at hb₄
    exact meets_openPage (ScreenMove.refl hs₄) hb₄ fun id s₅ hseg₅ => hseg₅.final _
  · show ((e.platformCode.map fun code => (reportFailure me (registrationErrorMessage code)).bind
      fun _ => .pure none).getD (.throw e)).Meets _ _ _ _ _ _
    cases e.platformCode with
    | none => exact hseg.final _
    | some code =>
      show ((reportFailure me (registrationErrorMessage code)).bind fun _ => .pure none).Meets
        _ _ _ _ _ _
      rw [Routine.meets_bind]
      exact meets_reportFailure hseg hw fun s' hseg' => hseg'.final _

/-- A logout pops the drawer it was started from, logged in or not. -/
theorem logout_screen (hs : s.Rooted) (hg : Ground .logout me s) :
    (logout me).Meets screenEnv (screenContract .logout me) (screenContract .logout me).final
      [] s s := by
  -- the pop closes the drawer, the page stays
  have hleave : ∀ h s₀ s, ScreenMove .logout me s₀ s → Ground .logout me s →
      ((navigatorPop me none).bind fun _ =>
        navigatorPushAndRemoveUntilFirst me (.page .login false)).Meets screenEnv
        (screenContract .logout me) (screenContract .logout me).final h s₀ s :=
    fun h s₀ s hseg hg => by
      obtain ⟨below, hroutes⟩ := hg
      have hpop : s.pop none = { s with routes := ⟨me.page, .page .map false⟩ :: below } := by
        simp [World.pop, hroutes, Operation.page]
      have htop : s.topmost = .drawer me.page := by simp [World.topmost, hroutes, Operation.page]
      have hmounted : s.mounted me.page = true := by simp [World.mounted, hroutes]
      have hmounted' : ((s.pop none).note (.pop me.op s.topmost none)).mounted me.page = true := by
        simp [World.mounted, World.note, hpop]
      simp only [navigatorPop, navigatorPushAndRemoveUntilFirst, Routine.bind_eq,
        Routine.meets_bind, meets_withContext, hmounted, if_true, Routine.meets_modify, hmounted']
      have hpopped := hseg.note ((hseg.rooted.pop none).note (.pop me.op s.topmost none))
        (e := .pop me.op s.topmost none) ⟨rfl, .inr ⟨rfl, htop⟩⟩ (by rw [World.note, hpop])
      exact (hpopped.screen (hpopped.rooted.pushAndRemoveUntilFirst (.page .login false)) rfl).final _
  unfold logout
  simp only [Routine.bind_eq, Routine.meets_bind, Routine.meets_get]
  by_cases hin : s.globals.bLoggedIn = true
  · rw [if_pos hin, Routine.meets_bind]
    refine meets_begin (ScreenMove.refl hs) hg fun s₁ hseg₁ hw₁ => ?_
    refine (keepsScreen_remoteCall (by rintro ⟨⟩) _).andThen hseg₁ hw₁ (fun _ h s₀ s hseg hw => ?_)
      fun _ _ _ _ hseg _ => hseg.final _
    rw [Routine.meets_bind]
    refine meets_hide hseg hw fun s₂ hseg₂ hg₂ => ?_
    have hclear : s₂.SameUi { s₂ with globals := s₂.globals.loggedOut } :=
      ⟨rfl, rfl, rfl, rfl, rfl⟩
    exact hleave h s₀ _ (hseg₂.sameUi hclear) (hg₂.sameUi hclear)
  · rw [if_neg hin]
    exact hleave [] s s (ScreenMove.refl hs) hg

/-! ### Publishing -/

/-- The thanks take the progress dialog away, wait for the alert and pop the Publish page. -/
theorem thankPublisher_screen (hseg : ScreenMove .publishEvent me s₀ s)
    (hw : AtWork .publishEvent me s) :
    (thankPublisher me).Meets screenEnv (screenContract .publishEvent me)
      (screenContract .publishEvent me).final h s₀ s := by
  -- the pop takes the Publish page, which is never the last route
  have hleave : ∀ h s₀ s, ScreenMove .publishEvent me s₀ s → Ground .publishEvent me s →
      (navigatorPop me (some true)).Meets screenEnv (screenContract .publishEvent me)
        (screenContract .publishEvent me).final h s₀ s := fun h s₀ s hseg hg => by
    have hmounted := hg.mounted
    obtain ⟨below, hroutes⟩ := hg
    obtain ⟨b, bs, rfl⟩ := List.exists_cons_of_ne_nil (hseg.rooted.below_ne_nil hroutes rfl)
    have htop := World.topmost_of_routes hroutes (by simp [Operation.page])
    have hpop := @World.pop_of_routes _ _ _ _ (some true) hroutes (by simp [Operation.page])
    simp only [navigatorPop, Routine.bind_eq, Routine.meets_bind, meets_withContext, hmounted,
      if_true, Routine.meets_modify]
    have hpopped := hseg.note ((hseg.rooted.pop (some true)).note (.pop me.op s.topmost (some true)))
      (e := .pop me.op s.topmost (some true)) ⟨rfl, .inl ⟨rfl, htop⟩⟩ (by rw [World.note, hpop])
    exact hpopped.final _
  unfold thankPublisher
  simp only [Routine.bind_eq, Routine.meets_bind]
  refine meets_hide hseg hw fun s₁ hseg₁ hg₁ => ?_
  -- while the alert is open others may come and go; it is closed over the same page
  refine meets_alertOver hseg₁ hg₁ fun h pressed s₂ hs₂ hg₂ => ?_
  cases pressed with
  | false => exact hleave _ s₂ s₂ (ScreenMove.refl hs₂) hg₂
  | true =>
    simp only [if_true, translated, Routine.bind_eq, Routine.meets_bind, meets_withContext,
      hg₂.mounted, Routine.meets_get, Routine.pure_eq, Routine.meets_pure, Routine.meets_modify]
    exact hleave _ s₂ _ ((ScreenMove.refl hs₂).note (hs₂.note _) (e := .share me.op _) trivial rfl) hg₂

/-- A publication pops its Publish page at its end, and nothing before. -/
theorem publishEvent_screen (hs : s.Rooted) (hg : Ground .publishEvent me s) :
    (publishEvent me).Meets screenEnv (screenContract .publishEvent me)
      (screenContract .publishEvent me).final [] s s := by
  have hrefuse : ∀ message : String, ((showDialog me message).bind fun _ => .pure ()).Meets screenEnv
      (screenContract .publishEvent me) (screenContract .publishEvent me).final [] s s :=
    fun message => by
      rw [Routine.meets_bind]
      exact meets_openDialog (ScreenMove.refl hs) hg fun id s' hseg' => hseg'.final _
  unfold publishEvent
  simp only [Routine.bind_eq, Routine.pure_eq, Routine.meets_bind, Routine.meets_get]
  split
  · exact hrefuse _
  split
  · exact hrefuse _
  unfold publishChecked
  simp only [Routine.bind_eq, Routine.meets_bind]
  refine meets_begin (ScreenMove.refl hs) hg fun s₁ hseg₁ hw₁ => ?_
  simp only [Routine.meets_get]
  rw [← Routine.meets_bind]
  have hpass : ∀ e h s₀ s, ScreenMove .publishEvent me s₀ s → AtWork .publishEvent me s →
      (screenContract .publishEvent me).final h s₀ (.error e) s := fun _ _ _ _ hseg _ => hseg.final _
  refine (keepsScreen_getLocationFromAddress _).andThen hseg₁ hw₁ (fun loc h s₀ s hseg hw => ?_) hpass
  -- no such place: the dialog stands over the progress dialog, which goes after it
  by_cases hloc : loc = noLocation
  · rw [if_pos hloc, Routine.meets_bind]
    refine meets_dialogOver hseg (by rw [BelowDialog, if_pos rfl]; exact hw) hw.mounted
      fun h s' hs' hb' => ?_
    rw [BelowDialog, if_pos rfl] at hb'
    exact meets_hide (ScreenMove.refl hs') hb' fun s'' hseg'' _ => hseg''.final _
  · rw [if_neg hloc]
    refine keepsScreen_uploadAttached.andThen hseg hw (fun _ h s₀ s hseg hw => ?_) hpass
    exact (keepsScreen_storeEvent loc).andThen hseg hw
      (fun _ h s₀ s hseg hw => thankPublisher_screen hseg hw) hpass

/-- **Every operation keeps its contract with the screen.** -/
theorem Operation.screen (o : Operation) (hs : s.Rooted) (hg : Ground o me s) :
    (o.routine me).Meets screenEnv (screenContract o me) (screenContract o me).final [] s s := by
  cases o with
  | loadWeatherEvents category => exact loadWeatherEvents_screen hs hg category
  | publishEvent => exact publishEvent_screen hs hg
  | loginToFireBase email password => exact loginToFireBase_screen hs hg email password
  | registerUserToFireBase email password userName isSubscribed =>
    exact registerUserToFireBase_screen hs hg (by simp) email password userName isSubscribed
  | resetPassword email => exact resetPassword_screen hs hg email
  | logout => exact logout_screen hs hg

end FloodUp
