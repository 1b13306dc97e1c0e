import Mathlib.Data.List.Nodup
import FloodUp.Account.Session
import FloodUp.App.Theorems
import FloodUp.Async.Run
import FloodUp.Map.Events

/-!
# Centring the map

Every Map page listens to the location and moves its camera to the first fix after which
`globals.isMapDisplayed` is still false; the flag, the current location and the initial camera
position are shared by all pages, and no page ever cancels its listener. `CameraRun` is the app as far as
the cameras go, over any number of Map pages: `centring_kept_iff` says along which runs the flag is
true only while the page in front stands at a fix, no listener throws, and the page in front gets
the next fix.
-/

namespace FloodUp

open Async

/-! ## The listener of a page -/

/-- The part of one `_MapState` that the location concerns: whether `map_controller` has been set,
and where the camera of the map stands. -/
structure MapView where
  page : ℕ
  hasController : Bool := false
  camera : LatLng
deriving DecidableEq

/-- Both coordinates are there. -/
def LatLng.Valid (p : LatLng) : Prop := p.latitude ≠ 0 ∧ p.longitude ≠ 0

instance (p : LatLng) : Decidable p.Valid := inferInstanceAs (Decidable (_ ∧ _))

/-- The listener `initState` adds: the location is noted first, the flag is set after the camera
has been moved. -/
def MapView.onLocationChanged (result : LatLng) (g : Globals) (v : MapView) :
    Globals × Except Thrown MapView :=
  -- noted even if the camera does not move
  let g := { g with currentLocation := result }
  if result.Valid ∧ g.isMapDisplayed = false then
    if v.hasController then
      ({ g with isMapDisplayed := true }, .ok { v with camera := result })
    else
      -- `map_controller` is `null`
      (g, .error .noSuchMethod)
  else (g, .ok v)

/-- A fix reaches the listeners in the order in which they were added; what one throws does not
keep it from the others. The last component has the pages whose listeners have thrown. -/
def deliver (result : LatLng) : Globals → List MapView → Globals × List MapView × List ℕ
  | g, [] => (g, [], [])
  | g, v :: views =>
    match v.onLocationChanged result g with
    | (g, .ok v) =>
      let (g, views, raised) := deliver result g views
      (g, v :: views, raised)
    | (g, .error _) =>
      let (g, views, raised) := deliver result g views
      (g, v :: views, v.page :: raised)

/-! ## The app -/

/-- A run so far. `views` has every Map page that was ever opened, the oldest first; `shown` is the
last Map page that was on screen, `fixes` what has been delivered to a listener, `raised` the
pages whose listeners have thrown. -/
structure CameraRun where
  world : World
  kGooglePlex : Option LatLng := none
  views : List MapView := []
  shown : Option ℕ := none
  fixes : List LatLng := []
  raised : List ℕ := []

/-- The Map page on screen. -/
def World.mapOnScreen (w : World) : Option ℕ :=
  match w.routes with
  | ⟨id, .page .map _⟩ :: _ => some id
  | _ => none

namespace CameraRun

/-- Take note of the Map page on screen. -/
def look (r : CameraRun) : CameraRun := { r with shown := r.world.mapOnScreen.or r.shown }

/-- `_kGooglePlex`, a static field: its initializer runs when it is first read. -/
def initialCamera (r : CameraRun) : LatLng := r.kGooglePlex.getD r.world.globals.currentLocation

/-- `Navigator.push` of a Map page, with the first `build` of the page. -/
def openMap (r : CameraRun) : CameraRun :=
  look { r with
    world := r.world.push (.page .map false)
    kGooglePlex := some r.initialCamera
    views := r.views ++ [{ page := r.world.nextRoute, camera := r.initialCamera }] }

/-- `Navigator.pushAndRemoveUntil` of the Login page. -/
def toLogin (r : CameraRun) : CameraRun :=
  look { r with world := r.world.pushAndRemoveUntilFirst (.page .login false) }

def setGlobals (f : Globals → Globals) (r : CameraRun) : CameraRun :=
  { r with world := { r.world with globals := f r.world.globals } }

/-- `onMapCreated` of a page. -/
def mapCreated (page : ℕ) (r : CameraRun) : CameraRun :=
  { r with views := r.views.map fun v =>
      if v.page = page then { v with hasController := true } else v }

/-- A fix, if any page listens. -/
def fix (result : LatLng) (r : CameraRun) : CameraRun :=
  match r.views with
  | [] => r
  | _ :: _ =>
    let (globals, views, raised) := deliver result r.world.globals r.views
    { r with
      world := { r.world with globals }
      views
      fixes := r.fixes ++ [result]
      raised := r.raised ++ raised }

end CameraRun

/-- How a Map page is opened. -/
inductive Entry where
  | login (user : FirebaseUser)
  | signUp (user : FirebaseUser)
  | withoutRegistering

/-- What is written to the globals on the way. -/
def Entry.apply : Entry → Globals → Globals
  | .login user => Globals.withUser user
  | .signUp user => Globals.withUser user
  | .withoutRegistering => id

inductive CameraAction where
  | openMap (entry : Entry)
  | mapCreated (page : ℕ)
  | fix (result : LatLng)
  /-- `initPlatformState`; without a location it throws. -/
  | located (myLocation : Option LatLng)
  | logout
  | addButton

/-- One action; the drawer and the add button are those of the Map page on screen. -/
def cameraStep (r : CameraRun) : CameraAction → Option CameraRun
  | .openMap entry => some (r.setGlobals entry.apply).openMap
  | .mapCreated page => some (r.mapCreated page)
  | .fix result => some (r.fix result)
  -- nobody awaits `initPlatformState`, and no listener is concerned
  | .located none => some r
  | .located (some p) => some (r.setGlobals fun g => { g with currentLocation := p })
  | .logout =>
    -- the callback of `signOut`, once the progress dialog is gone
    if r.world.mapOnScreen = none then none
    else if r.world.globals.bLoggedIn then some (r.setGlobals Globals.loggedOut).toLogin
    else some r.toLogin
  | .addButton =>
    if r.world.mapOnScreen = none ∨ r.world.globals.bLoggedIn = true then none
    else some r.toLogin

/-- The app before its first page is shown. -/
structure AppStart (w : World) : Prop where
  routes : w.routes = []
  displayed : w.globals.isMapDisplayed = false

/-- The first page is a Map page for a user who is logged in, else the Login page. -/
def CameraRun.start (w : World) (loginStatus : Bool) : CameraRun :=
  if loginStatus then openMap { world := w } else { world := w.push (.page .login false) }

/-! ## What the flag should mean -/

/-- The camera of the Map page last on screen stands at such a place. -/
def CameraRun.ShownAt (P : LatLng → Prop) (r : CameraRun) : Prop :=
  ∃ v ∈ r.views, r.shown = some v.page ∧ P v.camera

/-- It stands at a delivered fix. -/
def CameraRun.Centred (r : CameraRun) : Prop := r.ShownAt (· ∈ r.fixes)

structure CameraRun.Kept (r : CameraRun) : Prop where
  displayed : r.world.globals.isMapDisplayed = true → r.Centred
  silent : r.raised = []

/-- An action that leads to `r'` keeps the meaning of the flag, and a valid fix centres the page
last on screen if its map is ready and does not stand at a fix yet. -/
structure StepKept (r : CameraRun) (a : CameraAction) (r' : CameraRun) : Prop where
  kept : r'.Kept
  centres : ∀ result, a = .fix result → result.Valid → ∀ v ∈ r.views, r.shown = some v.page →
    v.hasController = true → v.camera ∉ r.fixes → { v with camera := result } ∈ r'.views

/-- The flag keeps its meaning all along the run. -/
def KeepsCentring (r : CameraRun) (as : List CameraAction) : Prop :=
  r.Kept ∧ Along cameraStep (fun r a => ∀ r', cameraStep r a = some r' → StepKept r a r') r as

/-- A Map page is opened while the flag is true only at a fix; the user logs out only from a page
that is centred; and a valid fix that finds the flag false reaches the oldest page first, which
must be ready, and be the only one unless the page last on screen is where it should be. -/
def CameraAction.Safe (r : CameraRun) : CameraAction → Prop
  | .openMap _ => r.world.globals.isMapDisplayed = true → r.initialCamera ∈ r.fixes
  | .logout => r.world.globals.bLoggedIn = true → r.Centred
  | .fix result => result.Valid → r.world.globals.isMapDisplayed = false →
    ∀ oldest views, r.views = oldest :: views → oldest.hasController = true ∧
      (views = [] ∨ r.ShownAt (· ∈ r.fixes ++ [result]))
  | _ => True

/-! ## What a fix does -/

section Deliver

variable {result : LatLng} {g : Globals} {v : MapView} {views : List MapView}

theorem deliver_ok {g' : Globals} {v' : MapView} (h : v.onLocationChanged result g = (g', .ok v')) :
    deliver result g (v :: views) = ((deliver result g' views).1,
      v' :: (deliver result g' views).2.1, (deliver result g' views).2.2) := by
  rw [deliver, h]

theorem deliver_error {g' : Globals} {e : Thrown} (h : v.onLocationChanged result g = (g', .error e)) :
    deliver result g (v :: views) = ((deliver result g' views).1,
      v :: (deliver result g' views).2.1, v.page :: (deliver result g' views).2.2) := by
  rw [deliver, h]

/-- If the flag is set or a coordinate is missing, nobody does anything but note the location. -/
theorem deliver_idle (h : ¬(result.Valid ∧ g.isMapDisplayed = false)) :
    (deliver result g views).1.isMapDisplayed = g.isMapDisplayed ∧
      (deliver result g views).2 = (views, []) := by
  induction views generalizing g with
  | nil => exact ⟨rfl, rfl⟩
  | cons v views ih =>
    have hlisten : v.onLocationChanged result g = ({ g with currentLocation := result }, .ok v) := by
      unfold MapView.onLocationChanged
      exact if_neg h
    -- the location is noted again by each page, the flag stays
    obtain ⟨hflag, hrest⟩ := @ih { g with currentLocation := result } h
    rw [deliver_ok hlisten, hrest]
    exact ⟨hflag, rfl⟩

/-- A page that is ready takes the fix and sets the flag, so no other page does. -/
theorem deliver_ready (hvalid : result.Valid) (hflag : g.isMapDisplayed = false)
    (hready : v.hasController = true) :
    (deliver result g (v :: views)).1.isMapDisplayed = true ∧
      (deliver result g (v :: views)).2 = ({ v with camera := result } :: views, []) := by
  have hlisten : v.onLocationChanged result g =
      ({ g with currentLocation := result, isMapDisplayed := true },
        .ok { v with camera := result }) := by
    unfold MapView.onLocationChanged
    simp only [hvalid, hflag, hready, and_self, if_true]
  obtain ⟨hset, hrest⟩ := @deliver_idle result
    { g with currentLocation := result, isMapDisplayed := true } views (by simp)
  rw [deliver_ok hlisten, hrest]
  exact ⟨hset, rfl⟩

/-- A page that is not ready throws. -/
theorem deliver_unready (hvalid : result.Valid) (hflag : g.isMapDisplayed = false)
    (hready : v.hasController = false) : v.page ∈ (deliver result g (v :: views)).2.2 := by
  have hlisten : v.onLocationChanged result g =
      ({ g with currentLocation := result }, .error .noSuchMethod) := by
    unfold MapView.onLocationChanged
    simp only [hvalid, hflag, hready, and_self, if_true]
    rfl
  rw [deliver_error hlisten]
  exact .head _

theorem deliver_pages : (deliver result g views).2.1.map (·.page) = views.map (·.page) := by
  induction views generalizing g with
  | nil => rfl
  | cons v views ih =>
    cases hlisten : v.onLocationChanged result g with
    | mk g' listened =>
      cases listened with
      | error e =>
        rw [deliver_error hlisten, List.map_cons, ih]
        rfl
      | ok v' =>
        have hpage : v'.page = v.page := by
          unfold MapView.onLocationChanged at hlisten
          simp only at hlisten
          split at hlisten
          · split at hlisten
            · simp only [Prod.mk.injEq, Except.ok.injEq] at hlisten
              rw [← hlisten.2]
            · simp at hlisten
          · simp only [Prod.mk.injEq, Except.ok.injEq] at hlisten
            rw [← hlisten.2]
        rw [deliver_ok hlisten, List.map_cons, ih, hpage]
        rfl

end Deliver

/-- A fix that some page hears. -/
theorem fix_eq {r : CameraRun} {result : LatLng} {oldest : MapView} {views : List MapView}
    (h : r.views = oldest :: views) : r.fix result =
      { r with
        world := { r.world with globals := (deliver result r.world.globals (oldest :: views)).1 }
        views := (deliver result r.world.globals (oldest :: views)).2.1
        fixes := r.fixes ++ [result]
        raised := r.raised ++ (deliver result r.world.globals (oldest :: views)).2.2 } := by
  unfold CameraRun.fix
  rw [h]

/-! ## The order of the pages -/

/-- The pages have the numbers of their routes, and the one last on screen is the one opened last: no
Map page is ever uncovered again. -/
structure CameraRun.Ordered (r : CameraRun) : Prop where
  fresh : ∀ v ∈ r.views, v.page < r.world.nextRoute
  nodup : (r.views.map (·.page)).Nodup
  last : r.shown = r.views.getLast?.map (·.page)
  onScreen : ∀ page, r.world.mapOnScreen = some page → r.shown = some page

variable {r r' : CameraRun} {a : CameraAction}

namespace CameraRun.Ordered

theorem views_pages (hr : r.Ordered) (hworld : r'.world.nextRoute = r.world.nextRoute)
    (hroutes : r'.world.routes = r.world.routes)
    (hpages : r'.views.map (·.page) = r.views.map (·.page)) (hshown : r'.shown = r.shown) :
    r'.Ordered where
  fresh := by
    have h : ∀ page ∈ r.views.map (·.page), page < r.world.nextRoute := by
      simpa using hr.fresh
    rw [← hpages, ← hworld] at h
    simpa using h
  nodup := by
    rw [hpages]
    exact hr.nodup
  last := by
    rw [hshown, hr.last, ← List.getLast?_map, ← List.getLast?_map, hpages]
  onScreen page h := by
    rw [World.mapOnScreen, hroutes] at h
    rw [hshown]
    exact hr.onScreen page h

theorem openMap (hr : r.Ordered) : r.openMap.Ordered where
  fresh v hv := by
    have hv : v ∈ r.views ++ [{ page := r.world.nextRoute, camera := r.initialCamera }] := hv
    show v.page < r.world.nextRoute + 1
    rcases List.mem_append.mp hv with hv | hv
    · have := hr.fresh v hv
      omega
    · rw [List.mem_singleton.mp hv]
      exact Nat.lt_succ_self _
  nodup := by
    show ((r.views ++ [{ page := r.world.nextRoute, camera := r.initialCamera : MapView }]).map
      (·.page)).Nodup
    rw [List.map_append, List.nodup_append]
    refine ⟨hr.nodup, by simp, ?_⟩
    intro page hpage page' hpage' hsame
    obtain ⟨v, hv, rfl⟩ := List.mem_map.mp hpage
    have := hr.fresh v hv
    simp only [List.map_cons, List.map_nil, List.mem_singleton] at hpage'
    omega
  last := by
    show (some r.world.nextRoute).or r.shown =
      (r.views ++ [{ page := r.world.nextRoute, camera := r.initialCamera : MapView }]).getLast?.map _
    simp
  onScreen page h := by
    have h : some r.world.nextRoute = some page := h
    show (some r.world.nextRoute).or r.shown = some page
    rw [h]
    rfl

theorem toLogin (hr : r.Ordered) : r.toLogin.Ordered where
  fresh v hv := Nat.lt_succ_of_lt (hr.fresh v hv)
  nodup := hr.nodup
  last := hr.last
  onScreen page h := by
    have h : (none : Option ℕ) = some page := h
    cases h

theorem setGlobals (hr : r.Ordered) (f : Globals → Globals) : (r.setGlobals f).Ordered :=
  hr.views_pages rfl rfl rfl rfl

theorem mapCreated (hr : r.Ordered) (page : ℕ) : (r.mapCreated page).Ordered := by
  have hpages : (r.mapCreated page).views.map (·.page) = r.views.map (·.page) := by
    show (r.views.map _).map _ = _
    rw [List.map_map]
    apply List.map_congr_left
    intro v _
    -- becoming ready does not change a page's number
    by_cases h : v.page = page <;> simp [h]
  exact hr.views_pages rfl rfl hpages rfl

theorem fix (hr : r.Ordered) (result : LatLng) : (r.fix result).Ordered := by
  cases hviews : r.views with
  | nil =>
    have hsame : r.fix result = r := by
      unfold CameraRun.fix
      rw [hviews]
    rw [hsame]
    exact hr
  | cons oldest views =>
    rw [fix_eq hviews]
    exact hr.views_pages rfl rfl (by rw [hviews]; exact deliver_pages) rfl

theorem step (hr : r.Ordered) (h : cameraStep r a = some r') : r'.Ordered := by
  cases a with
  | openMap entry =>
    rw [← Option.some.inj h]
    exact (hr.setGlobals entry.apply).openMap
  | mapCreated page =>
    rw [← Option.some.inj h]
    exact hr.mapCreated page
  | fix result =>
    rw [← Option.some.inj h]
    exact hr.fix result
  | located myLocation =>
    cases myLocation with
    | none =>
      rw [← Option.some.inj h]
      exact hr
    | some p =>
      rw [← Option.some.inj h]
      exact hr.setGlobals _
  | logout =>
    simp only [cameraStep] at h
    split at h
    · cases h
    · split at h
      · rw [← Option.some.inj h]
        exact (hr.setGlobals _).toLogin
      · rw [← Option.some.inj h]
        exact hr.toLogin
  | addButton =>
    simp only [cameraStep] at h
    split at h
    · cases h
    · rw [← Option.some.inj h]
      exact hr.toLogin

/-- No two pages share the page last on screen. -/
theorem eq_of_shown (hr : r.Ordered) {v v' : MapView} (hv : v ∈ r.views) (hv' : v' ∈ r.views)
    (h : r.shown = some v.page) (h' : r.shown = some v'.page) : v = v' := by
  have hpage : v.page = v'.page := Option.some.inj (h.symm.trans h')
  exact List.inj_on_of_nodup_map hr.nodup hv hv' hpage

end CameraRun.Ordered

/-! ## One action -/

theorem Globals.withUser_camera (user : FirebaseUser) (g : Globals) :
    (g.withUser user).isMapDisplayed = g.isMapDisplayed ∧
      (g.withUser user).currentLocation = g.currentLocation := by
  unfold Globals.withUser Globals.withName
  cases user.displayName with
  | none => exact ⟨rfl, rfl⟩
  | some name => by_cases h : name = "" <;> simp [h]

/-- Signing in leaves the flag and the location alone. -/
theorem Entry.apply_camera (entry : Entry) (g : Globals) :
    (entry.apply g).isMapDisplayed = g.isMapDisplayed ∧
      (entry.apply g).currentLocation = g.currentLocation := by
  cases entry with
  | login user => exact g.withUser_camera user
  | signUp user => exact g.withUser_camera user
  | withoutRegistering => exact ⟨rfl, rfl⟩

/-- A logout that comes to its end has written what the action `logout` writes. -/
theorem logout_globals {me : Caller} {w : World} (hw : w.mounted me.page = true)
    (hin : w.globals.bLoggedIn = true) : (logout me).Always World.answered
      (fun _ r s => r = .ok () → s.globals = w.globals.loggedOut) [] w := by
  unfold logout
  simp only [Routine.bind_eq, Routine.always_bind, Routine.always_get, hin, if_true,
    always_showProgress hw, signOut, always_remoteCall]
  intro r
  cases r with
  | error f =>
    intro h
    cases h
  | ok u =>
    simp only [Except.mapError, id_eq, navigatorPop, navigatorPushAndRemoveUntilFirst,
      Routine.bind_eq, Routine.always_bind, always_hideProgress, Routine.always_modify]
    apply always_anyContext
    · apply always_anyContext
      · intro _
        rw [(World.sameData_pushAndRemoveUntilFirst _ _).globals, (World.sameData_note _ _).globals,
          (World.sameData_pop _ _).globals]
        show Globals.loggedOut _ = _
        rw [(World.sameData_hideProgress _ _).globals]
        rfl
      · intro h
        cases h
    · intro h
      cases h

/-- The subscription is all that reading it changes. -/
theorem readSubscription_keeps {P : Globals → Prop} (email : String)
    (hP : ∀ g isSubscribed, P g → P { g with isSubscribed }) {h : List (Answered remote)} {s : World}
    (hs : P s.globals) :
    (readSubscription email).Always World.answered (fun _ _ s => P s.globals) h s := by
  unfold readSubscription
  simp only [getSubscription, Routine.bind_eq, Routine.always_tryCatch, Routine.always_bind,
    always_remoteCall]
  intro reply
  have hanswered : P (World.answered (.getSubscription email) reply s).globals := by
    cases reply <;> exact hs
  generalize World.answered _ reply _ = s at hanswered ⊢
  rcases reply with (code | _ | _) | _ | data
  -- an `Exception` is forgotten, an `Error` is passed on
  · exact hanswered
  · exact hanswered
  · exact hanswered
  · exact hanswered
  · show (storeSubscription data).Always _ _ _ s
    unfold storeSubscription
    cases hvalue : (data.get "subscribed").asString with
    | ok isSubscribed => exact hP _ isSubscribed hanswered
    | error e =>
      rw [Value.asString_error hvalue]
      exact hanswered

/-- The check at the start says whether somebody is logged in and leaves the flag false. -/
theorem isLoggedIn_flag {w : World} (h : w.globals.isMapDisplayed = false) :
    isLoggedIn.Always World.answered (fun _ r s => s.globals.isMapDisplayed = false ∧
      ∀ b, r = .ok b → s.globals.bLoggedIn = b) [] w := by
  unfold isLoggedIn
  simp only [Routine.bind_eq, Routine.always_bind, currentUser, always_remoteCall]
  intro r
  cases r with
  | error f =>
    refine ⟨h, ?_⟩
    intro b hb
    cases hb
  | ok curUser =>
    cases curUser with
    | none =>
      exact ⟨rfl, fun b hb => by rw [← Except.ok.inj hb]⟩
    | some user =>
      simp only [Except.mapError, id_eq, Routine.always_bind, Routine.always_modify]
      have hflag : (w.globals.withUser user).isMapDisplayed = false ∧
          (w.globals.withUser user).bLoggedIn = true := by
        rw [(w.globals.withUser_camera user).1]
        exact ⟨h, rfl⟩
      have hkeeps := @readSubscription_keeps (fun g => g.isMapDisplayed = false ∧ g.bLoggedIn = true)
        user.email (fun _ _ h => h) ([] ++ [⟨.currentUser, (.ok (some user) : Except Fault _)⟩])
        { w with globals := w.globals.withUser user } hflag
      apply hkeeps.mono
      intro h r s hs
      cases r with
      | error e =>
        refine ⟨hs.1, ?_⟩
        intro b hb
        cases hb
      | ok u => exact ⟨hs.1, fun b hb => hs.2.trans (Except.ok.inj hb)⟩
/-- The page just opened is the one on screen. -/
theorem shownAt_openMap (hr : r.Ordered) {P : LatLng → Prop} :
    r.openMap.ShownAt P ↔ P r.initialCamera := by
  constructor
  · rintro ⟨v, hv, hshown, hP⟩
    have hpage : some r.world.nextRoute = some v.page := hshown
    have hv : v ∈ r.views ++ [{ page := r.world.nextRoute, camera := r.initialCamera }] := hv
    rcases List.mem_append.mp hv with hv | hv
    · have := hr.fresh v hv
      rw [← Option.some.inj hpage] at this
      exact absurd this (lt_irrefl _)
    · rw [List.mem_singleton.mp hv] at hP
      exact hP
  · intro hP
    exact ⟨{ page := r.world.nextRoute, camera := r.initialCamera }, List.mem_append_right _ (.head _),
      rfl, hP⟩

/-- What says nothing new about the cameras leaves the meaning of the flag as it is. -/
theorem CameraRun.Kept.of_same (hr : r.Kept)
    (hflag : r'.world.globals.isMapDisplayed = r.world.globals.isMapDisplayed)
    (hcentred : r.Centred → r'.Centred) (hraised : r'.raised = r.raised) : r'.Kept where
  displayed h := by
    rw [hflag] at h
    exact hcentred (hr.displayed h)
  silent := by
    rw [hraised]
    exact hr.silent

theorem stepKept_iff (h : ∀ result, a ≠ .fix result) : StepKept r a r' ↔ r'.Kept := by
  constructor
  · intro hstep
    exact hstep.kept
  · intro hkept
    exact ⟨hkept, fun result ha => absurd ha (h result)⟩

theorem stepKept_openMap (hr : r.Ordered) (hkept : r.Kept) (entry : Entry) :
    StepKept r (.openMap entry) (r.setGlobals entry.apply).openMap ↔
      (CameraAction.openMap entry).Safe r := by
  obtain ⟨hflag, hlocation⟩ := entry.apply_camera r.world.globals
  have hcamera : (r.setGlobals entry.apply).initialCamera = r.initialCamera := by
    show r.kGooglePlex.getD (entry.apply r.world.globals).currentLocation = _
    rw [hlocation]
    rfl
  have hcentred : (r.setGlobals entry.apply).openMap.Centred ↔ r.initialCamera ∈ r.fixes := by
    rw [← hcamera]
    exact shownAt_openMap (hr.setGlobals entry.apply)
  rw [stepKept_iff (by simp)]
  constructor
  · intro hnew hset
    exact hcentred.mp (hnew.displayed (hflag.trans hset))
  · intro hsafe
    refine ⟨fun hset => hcentred.mpr (hsafe ?_), hkept.silent⟩
    exact hflag.symm.trans hset

theorem stepKept_mapCreated (hkept : r.Kept) (page : ℕ) :
    StepKept r (.mapCreated page) (r.mapCreated page) := by
  rw [stepKept_iff (by simp)]
  refine hkept.of_same rfl ?_ rfl
  rintro ⟨v, hv, hshown, hfix⟩
  refine ⟨_, List.mem_map_of_mem hv, ?_, ?_⟩
  · show r.shown = _
    by_cases h : v.page = page <;> simpa [h] using hshown
  · show _ ∈ r.fixes
    by_cases h : v.page = page <;> simpa [h] using hfix

/-- Logging out sets the flag, whatever the map shows. -/
theorem stepKept_logout (hkept : r.Kept) (h : cameraStep r .logout = some r') :
    StepKept r .logout r' ↔ CameraAction.logout.Safe r := by
  rw [stepKept_iff (by simp)]
  simp only [cameraStep] at h
  split at h
  · cases h
  · split at h
    case isTrue hin =>
      rw [← Option.some.inj h]
      constructor
      · intro hnew _
        exact hnew.displayed rfl
      · intro hsafe
        exact ⟨fun _ => hsafe hin, hkept.silent⟩
    case isFalse hout =>
      rw [← Option.some.inj h]
      exact iff_of_true (hkept.of_same rfl id rfl) fun hin => absurd hin hout

/-- While no Map page has been opened, nobody hears of a fix. -/
theorem stepKept_fix_nil (hkept : r.Kept) {result : LatLng} (hviews : r.views = []) :
    StepKept r (.fix result) (r.fix result) := by
  have hsame : r.fix result = r := by
    unfold CameraRun.fix
    rw [hviews]
  rw [hsame]
  refine ⟨hkept, fun _ _ _ v hv => ?_⟩
  rw [hviews] at hv
  simp at hv

/-- A fix that finds the flag set, or misses a coordinate, moves nothing. -/
theorem stepKept_fix_idle (hr : r.Ordered) (hkept : r.Kept) {result : LatLng}
    (hidle : ¬(result.Valid ∧ r.world.globals.isMapDisplayed = false)) :
    StepKept r (.fix result) (r.fix result) := by
  cases hviews : r.views with
  | nil => exact stepKept_fix_nil hkept hviews
  | cons oldest views =>
    obtain ⟨hflag, hrest⟩ := @deliver_idle result r.world.globals (oldest :: views) hidle
    rw [fix_eq hviews, hrest]
    constructor
    · refine hkept.of_same hflag ?_ (by simp)
      rintro ⟨v, hv, hshown, hfix⟩
      rw [hviews] at hv
      exact ⟨v, hv, hshown, List.mem_append_left _ hfix⟩
    · intro result' hresult hvalid v hv hshown _ haway
      obtain rfl : result = result' := CameraAction.fix.inj hresult
      -- a valid fix moves nothing only if the flag is set, and then the page stands at a fix
      have hset : r.world.globals.isMapDisplayed = true := by
        simpa using fun h => hidle ⟨hvalid, h⟩
      obtain ⟨v', hv', hshown', hfix⟩ := hkept.displayed hset
      rw [hr.eq_of_shown hv hv' hshown hshown'] at haway
      exact absurd hfix haway

/-- The oldest page is the one last on screen only if it is the only one. -/
theorem views_eq_nil (hr : r.Ordered) {oldest : MapView} {views : List MapView}
    (hviews : r.views = oldest :: views) (hshown : r.shown = some oldest.page) : views = [] := by
  by_contra hne
  obtain ⟨newest, hnewest⟩ : ∃ newest, views.getLast? = some newest :=
    ⟨views.getLast hne, List.getLast?_eq_some_getLast hne⟩
  have hmem : newest ∈ views := List.mem_of_getLast? hnewest
  have hlast : r.shown = some newest.page := by
    rw [hr.last, hviews, List.getLast?_cons, hnewest]
    rfl
  have hpage : oldest.page = newest.page := Option.some.inj (hshown.symm.trans hlast)
  have hnodup := hr.nodup
  rw [hviews, List.map_cons, List.nodup_cons] at hnodup
  -- the page last on screen is the newest, and no two pages have the same number
  exact hnodup.1 (hpage ▸ List.mem_map_of_mem hmem)

/-- A fix that finds the flag false is taken by the oldest page if that is ready. -/
theorem stepKept_fix_first (hr : r.Ordered) (hkept : r.Kept) {result : LatLng}
    (hvalid : result.Valid) (hflag : r.world.globals.isMapDisplayed = false) {oldest : MapView}
    {views : List MapView} (hviews : r.views = oldest :: views) :
    StepKept r (.fix result) (r.fix result) ↔ oldest.hasController = true ∧
      (views = [] ∨ r.ShownAt (· ∈ r.fixes ++ [result])) := by
  by_cases hready : oldest.hasController = true
  -- the oldest page takes the fix and sets the flag, whichever page is on screen
  · obtain ⟨hset, hrest⟩ := @deliver_ready result r.world.globals oldest views hvalid hflag hready
    rw [fix_eq hviews, hrest]
    constructor
    · intro hstep
      refine ⟨hready, ?_⟩
      obtain ⟨v, hv, hshown, hfix⟩ := hstep.kept.displayed hset
      rcases List.mem_cons.mp hv with rfl | hv
      · exact .inl (views_eq_nil hr hviews hshown)
      · exact .inr ⟨v, hviews ▸ List.mem_cons_of_mem oldest hv, hshown, hfix⟩
    · rintro ⟨-, hplace⟩
      constructor
      · refine ⟨fun _ => ?_, by simp [hkept.silent]⟩
        rcases hplace with rfl | ⟨v, hv, hshown, hfix⟩
        · -- the only page is the one on screen
          have hshown : r.shown = some oldest.page := by
            rw [hr.last, hviews]
            rfl
          exact ⟨{ oldest with camera := result }, .head _, hshown, by simp⟩
        · rw [hviews] at hv
          rcases List.mem_cons.mp hv with rfl | hv
          · exact ⟨{ v with camera := result }, .head _, hshown, by simp⟩
          · exact ⟨v, .tail _ hv, hshown, hfix⟩
      · intro result' hresult _ v hv hshown _ haway
        obtain rfl : result = result' := CameraAction.fix.inj hresult
        have hv' : v ∈ oldest :: views := hviews ▸ hv
        rcases List.mem_cons.mp hv' with rfl | hv'
        · exact .head _
        · rcases hplace with rfl | ⟨v', hmem, hshown', hfix⟩
          · simp at hv'
          · -- the page stands where the new fix would put it
            rw [← hr.eq_of_shown hv hmem hshown hshown'] at hfix
            have hthere : v.camera = result := by
              simpa [haway] using hfix
            rw [← hthere]
            exact .tail _ hv'
  -- its listener throws
  · have hunready : oldest.hasController = false := by simpa using hready
    refine iff_of_false ?_ fun h => hready h.1
    intro hstep
    have hraised := hstep.kept.silent
    rw [fix_eq hviews] at hraised
    have hmem := @deliver_unready result r.world.globals oldest views hvalid hflag hunready
    simp only [List.append_eq_nil_iff] at hraised
    rw [hraised.2] at hmem
    simp at hmem

/-- **One action keeps the meaning of the flag exactly if it is safe.** -/
theorem stepKept_safe_iff (hr : r.Ordered) (hkept : r.Kept) (h : cameraStep r a = some r') :
    a.Safe r ↔ StepKept r a r' := by
  cases a with
  | openMap entry =>
    rw [← Option.some.inj h]
    exact (stepKept_openMap hr hkept entry).symm
  | mapCreated page =>
    rw [← Option.some.inj h]
    exact iff_of_true trivial (stepKept_mapCreated hkept page)
  | fix result =>
    rw [← Option.some.inj h]
    show (result.Valid → r.world.globals.isMapDisplayed = false → _) ↔ _
    by_cases hidle : result.Valid ∧ r.world.globals.isMapDisplayed = false
    · cases hviews : r.views with
      | nil =>
        refine iff_of_true ?_ (stepKept_fix_nil hkept hviews)
        intro _ _ oldest views hnone
        cases hnone
      | cons oldest views =>
        rw [stepKept_fix_first hr hkept hidle.1 hidle.2 hviews]
        constructor
        · intro hsafe
          exact hsafe hidle.1 hidle.2 oldest views rfl
        · rintro hplace _ _ _ _ ⟨⟩
          exact hplace
    · refine iff_of_true ?_ (stepKept_fix_idle hr hkept hidle)
      intro hvalid hflag
      exact absurd ⟨hvalid, hflag⟩ hidle
  | located myLocation =>
    refine iff_of_true trivial ?_
    rw [stepKept_iff (by simp)]
    cases myLocation with
    | none =>
      rw [← Option.some.inj h]
      exact hkept
    | some p =>
      rw [← Option.some.inj h]
      exact hkept.of_same rfl id rfl
  | logout => exact (stepKept_logout hkept h).symm
  | addButton =>
    refine iff_of_true trivial ?_
    rw [stepKept_iff (by simp)]
    simp only [cameraStep] at h
    split at h
    · cases h
    · rw [← Option.some.inj h]
      exact hkept.of_same rfl id rfl

/-! ## Whole runs -/

theorem ordered_start {w : World} (hw : AppStart w) (loginStatus : Bool) :
    (CameraRun.start w loginStatus).Ordered := by
  have hbefore : ({ world := w } : CameraRun).Ordered := by
    refine ⟨by simp, by simp, rfl, fun page h => ?_⟩
    rw [World.mapOnScreen, hw.routes] at h
    cases h
  cases loginStatus with
  | true => exact hbefore.openMap
  -- the Login page: no Map page yet
  | false => exact ⟨by simp [CameraRun.start], by simp [CameraRun.start], rfl, fun page h => by cases h⟩

theorem kept_start {w : World} (hw : AppStart w) (loginStatus : Bool) :
    (CameraRun.start w loginStatus).Kept := by
  have hflag : (CameraRun.start w loginStatus).world.globals.isMapDisplayed = false := by
    cases loginStatus <;> exact hw.displayed
  refine ⟨fun h => ?_, ?_⟩
  · rw [hflag] at h
    cases h
  · cases loginStatus <;> rfl

/-- **The flag keeps its meaning along a run exactly if every action of the run is safe.** -/
theorem centring_kept_iff {w : World} {loginStatus : Bool} {as : List CameraAction} {r : CameraRun}
    (hw : AppStart w) (hrun : run cameraStep (.start w loginStatus) as = some r) :
    KeepsCentring (.start w loginStatus) as ↔
      Along cameraStep (fun r a => a.Safe r) (.start w loginStatus) as := by
  -- the invariant: the order of the pages, and the meaning of the flag so far
  have hiff : ∀ r a r', r.Ordered ∧ r.Kept → cameraStep r a = some r' →
      (a.Safe r ↔ ∀ r', cameraStep r a = some r' → StepKept r a r') := by
    rintro r a r' ⟨hordered, hkept⟩ hstep
    rw [stepKept_safe_iff hordered hkept hstep, hstep]
    simp
  have hinv : ∀ r a r', r.Ordered ∧ r.Kept → a.Safe r → cameraStep r a = some r' →
      r'.Ordered ∧ r'.Kept := by
    rintro r a r' ⟨hordered, hkept⟩ hsafe hstep
    exact ⟨hordered.step hstep, ((stepKept_safe_iff hordered hkept hstep).mp hsafe).kept⟩
  have hstart := kept_start hw loginStatus
  rw [KeepsCentring, and_iff_right hstart]
  exact (along_congr hiff hinv ⟨ordered_start hw loginStatus, hstart⟩ hrun).symm

/-- The app of a user who is logged in, before its first page is shown. -/
def World.loggedIn (date : DateTime) : World where
  globals := { bLoggedIn := true }
  publish _ := { createDate := date }

theorem appStart_loggedIn (date : DateTime) : AppStart (.loggedIn date) := ⟨rfl, rfl⟩

/-- The map becomes ready and is centred; then the user logs out. -/
theorem centring_kept_once :
    KeepsCentring (.start (.loggedIn ⟨2020, 1, 1⟩) true) [.mapCreated 0, .fix ⟨41, 2⟩, .logout] := by
  apply (@centring_kept_iff (.loggedIn ⟨2020, 1, 1⟩) true
    [.mapCreated 0, .fix ⟨41, 2⟩, .logout] _ (appStart_loggedIn ⟨2020, 1, 1⟩) rfl).mpr
  refine ⟨trivial, ?_, ?_, trivial⟩
  · rintro - - oldest views ⟨⟩
    exact ⟨rfl, .inl rfl⟩
  · intro _
    exact ⟨{ page := 0, hasController := true, camera := ⟨41, 2⟩ }, .head _, rfl, .head _⟩

/-- The user logs out before any fix has come: the flag is set, no map will be centred. -/
theorem logout_ends_centring :
    ¬∀ (w : World) (loginStatus : Bool) (as : List CameraAction) (r : CameraRun), AppStart w →
      run cameraStep (.start w loginStatus) as = some r →
      KeepsCentring (.start w loginStatus) as := by
  intro hall
  have hkeeps := hall (.loggedIn ⟨2020, 1, 1⟩) true [.logout] _ (appStart_loggedIn ⟨2020, 1, 1⟩) rfl
  -- no fix has been delivered, so no camera can stand at one
  obtain ⟨v, -, -, hfix⟩ := (hkeeps.2.1 _ rfl).kept.displayed rfl
  have hfix : v.camera ∈ ([] : List LatLng) := hfix
  simp at hfix

end FloodUp
