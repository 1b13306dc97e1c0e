import FloodUp.Account.Session
import FloodUp.Map.Theorems
import FloodUp.Publish.Outcome

/-!
# One `hideProgress` for each `showProgress`

Six operations put the modal progress dialog up. `progress_hidden_once` says when an undisturbed run of
one of them takes it away again, exactly once: if and only if every answer is one the operation
handles (`Handled`).
-/

namespace FloodUp

open Async

/-- The operations that call `showProgress`. -/
inductive Operation where
  | loadWeatherEvents (category : ℕ)
  | publishEvent
  | loginToFireBase (email password : String)
  | registerUserToFireBase (email password userName isSubscribed : String)
  | resetPassword (email : String)
  | logout
deriving DecidableEq, Repr

/-- The routine of an operation, on the page it is called from. -/
def Operation.routine (me : Caller) : Operation → Dart Unit
  | .loadWeatherEvents category => FloodUp.loadWeatherEvents me category
  | .publishEvent => FloodUp.publishEvent me
  | .loginToFireBase email password => FloodUp.loginToFireBase me email password
  | .registerUserToFireBase email password userName isSubscribed =>
    FloodUp.registerUserToFireBase me email password userName isSubscribed
  | .resetPassword email => FloodUp.resetPassword me email
  | .logout => FloodUp.logout me

/-- The answers after which an operation still comes to its `hideProgress`. -/
def Handled : Answered remote → Prop
  | ⟨.getEvents _, .ok documents⟩ => ∀ document ∈ documents, document.Readable
  | ⟨.getEvents _, .error _⟩ => False
  | ⟨.placemarkFromAddress _, .ok (some [])⟩ => False
  -- only a `PlatformException` is caught, here and below
  | ⟨.placemarkFromAddress _, .error f⟩ => ∃ code, f = .platformException code
  | ⟨.putFile _ _, .error _⟩ => False
  | ⟨.getDownloadURL _, .error _⟩ => False
  | ⟨.addEvent _, .error .error⟩ => False
  | ⟨.signInWithEmailAndPassword _ _, .error f⟩ => ∃ code, f = .platformException code
  | ⟨.createUserWithEmailAndPassword _ _, .error f⟩ => ∃ code, f = .platformException code
  | ⟨.sendPasswordResetEmail _, .error f⟩ => ∃ code, f = .platformException code
  -- a value that is no text is a failed cast, outside of what the handlers take
  | ⟨.getSubscription _, .ok (some data)⟩ => ∃ value, (data.get "subscribed").asString = .ok value
  | ⟨.getSubscription _, .error .error⟩ => False
  | ⟨.updateProfile _ _, .error _⟩ => False
  | ⟨.setSubscription _ _, .error .error⟩ => False
  | ⟨.signOut, .error _⟩ => False
  | _ => True

/-! ## Counting -/

/-- The entry is a `hideProgress` of the operation, whatever it has taken away. -/
def Ui.isHide (op : ℕ) : Ui → Bool
  | .hideProgress op' _ => op' = op
  | _ => false

/-- How often the operation has called `showProgress`. -/
def World.shows (op : ℕ) (w : World) : ℕ := w.log.count (.showProgress op)

/-- How often the operation has called `hideProgress`. -/
def World.hides (op : ℕ) (w : World) : ℕ := w.log.countP (Ui.isHide op)

/-- From `w` to `w'` the operation has put its progress dialog up and taken it away once, or has
done neither, and the dialog is gone. -/
structure HidesOnce (op : ℕ) (w w' : World) : Prop where
  once : w'.shows op = w.shows op ∧ w'.hides op = w.hides op ∨
    w'.shows op = w.shows op + 1 ∧ w'.hides op = w.hides op + 1
  gone : ∀ r ∈ w'.routes, r.kind ≠ .progress op

/-! ## The stages of an operation -/

/-- The progress dialog of the operation stands on the routes of `w`. -/
structure Showing (me : Caller) (w s : World) : Prop where
  routes : ∃ n, s.routes = ⟨n, .progress me.op⟩ :: w.routes
  mcontext : s.mcontext = some me.page
  shows : s.shows me.op = w.shows me.op + 1
  hides : s.hides me.op = w.hides me.op

/-- The operation has put its progress dialog up `n` times and taken it away as often. -/
structure Hidden (me : Caller) (n : ℕ) (w s : World) : Prop where
  shows : s.shows me.op = w.shows me.op + n
  hides : s.hides me.op = w.hides me.op + n
  gone : ∀ r ∈ s.routes, r.kind ≠ .progress me.op

/-- How a run ends: all its answers were handled and the dialog is gone, or one was not and the
dialog was never taken away. -/
inductive Verdict (me : Caller) (w : World) (h : List (Answered remote)) (s : World) : Prop where
  | hidden (hall : ∀ e ∈ h, Handled e) (n : ℕ) (hn : n ≤ 1) (hs : Hidden me n w s)
  | stuck (hnot : ∃ e ∈ h, ¬Handled e) (hs : Showing me w s)

/-- By either verdict a run ends well exactly if all its answers were handled. -/
theorem Verdict.hidesOnce {me : Caller} {w s : World} {h : List (Answered remote)}
    (hv : Verdict me w h s) : HidesOnce me.op w s ↔ ∀ e ∈ h, Handled e := by
  cases hv with
  | hidden hall n hn hs =>
    refine iff_of_true ⟨?_, hs.gone⟩ hall
    have hshows := hs.shows
    have hhides := hs.hides
    by_cases h0 : n = 0
    · left
      omega
    · right
      omega
  | stuck hnot hs =>
    obtain ⟨e, he, hunhandled⟩ := hnot
    have hshows := hs.shows
    have hhides := hs.hides
    -- one dialog has been put up and none taken away
    refine iff_of_false ?_ fun hall => hunhandled (hall e he)
    rintro ⟨honce, -⟩
    omega

namespace World

variable {w s : World} {op : ℕ}

/-- The counts depend on what is seen on the screen only. -/
theorem SameUi.shows (h : SameUi w s) : s.shows op = w.shows op := by
  rw [World.shows, World.shows, h.log]

theorem SameUi.hides (h : SameUi w s) : s.hides op = w.hides op := by
  rw [World.hides, World.hides, h.log]

/-- The lists of a Map page are not on the navigator's stack. -/
theorem SameButMap.sameUi (h : SameButMap w s) : SameUi w s := by
  rw [h.map]
  exact ⟨rfl, rfl, rfl, rfl, rfl⟩

/-- A new entry of the log adds to the count if it is a `showProgress` of the operation. -/
theorem shows_note (w : World) (e : Ui) :
    (w.note e).shows op = w.shows op + if e = .showProgress op then 1 else 0 := by
  simp [shows, note, List.count_append, List.count_singleton]

/-- It adds to the other count if it is a `hideProgress` of the operation. -/
theorem hides_note (w : World) (e : Ui) :
    (w.note e).hides op = w.hides op + if e.isHide op then 1 else 0 := by
  simp [hides, note, List.countP_append, List.countP_singleton]

theorem shows_pop (w : World) (result : Option Bool) : (w.pop result).shows op = w.shows op := by
  unfold pop
  split <;> rfl

theorem hides_pop (w : World) (result : Option Bool) : (w.pop result).hides op = w.hides op := by
  unfold pop
  split <;> rfl

/-- What a `pop` leaves was there before, if the closing of a drawer does not count. -/
theorem gone_pop (h : ∀ r ∈ w.routes, r.kind ≠ .progress op) (result : Option Bool) :
    ∀ r ∈ (w.pop result).routes, r.kind ≠ .progress op := by
  unfold pop
  split
  -- only the drawer is closed
  · rename_i id name rs hroutes
    intro r hr
    rcases List.mem_cons.mp hr with rfl | hr
    · simp
    · exact h r (hroutes ▸ .tail _ hr)
  · rename_i hroutes
    intro r hr
    exact h r (hroutes ▸ .tail _ hr)
  · exact h

end World

/-! ### Entering and leaving the stages -/

variable {me : Caller} {w s s' : World}

/-- `showProgress` puts the operation's dialog on top of what was there. -/
theorem showing_beginProgress (hs : w.SameUi s) (hmounted : w.mounted me.page = true) :
    Showing me w (s.beginProgress me) where
  routes := ⟨s.nextRoute, by simp [World.beginProgress, World.push, World.note, World.setContext, hs.routes]⟩
  mcontext := by
    have hpage : s.mounted me.page = true := by
      rw [World.mounted, hs.routes]
      exact hmounted
    simp [World.beginProgress, World.push, World.note, World.setContext, hpage]
  shows := by
    rw [World.beginProgress, World.shows_note, if_pos rfl]
    exact congrArg (· + 1) hs.shows
  hides := by
    rw [World.beginProgress, World.hides_note]
    exact congrArg (· + 0) hs.hides

/-- The dialog stays where it is while the screen stays the same. -/
theorem Showing.sameUi (h : Showing me w s) (hs : s.SameUi s') : Showing me w s' where
  routes := by
    obtain ⟨n, hn⟩ := h.routes
    exact ⟨n, hs.routes.trans hn⟩
  mcontext := hs.mcontext.trans h.mcontext
  shows := hs.shows.trans h.shows
  hides := hs.hides.trans h.hides

/-- The dialog does not take the page away. -/
theorem Showing.mounted (h : Showing me w s) (hmounted : w.mounted me.page = true) :
    s.mounted me.page = true := by
  obtain ⟨n, hn⟩ := h.routes
  rw [World.mounted, hn, List.any_cons]
  simp only [Bool.or_eq_true]
  exact .inr hmounted

/-- `hideProgress` takes the progress dialog away. -/
theorem Showing.hide (h : Showing me w s) (hmounted : w.mounted me.page = true)
    (hfresh : ∀ r ∈ w.routes, r.kind ≠ .progress me.op) : Hidden me 1 w (s.hideProgress me.op) := by
  obtain ⟨n, hn⟩ := h.routes
  obtain ⟨r, rs, hroutes⟩ : ∃ r rs, w.routes = r :: rs := by
    cases hw : w.routes with
    | nil => simp [World.mounted, hw] at hmounted
    | cons r rs => exact ⟨r, rs, rfl⟩
  have hpage := h.mounted hmounted
  -- the page is below the progress dialog, so there is something to pop
  have hcan : s.canPop = true := by simp [World.canPop, hn, hroutes]
  have hhide : s.hideProgress me.op = (s.pop none).note (.hideProgress me.op s.topmost) := by
    simp [World.hideProgress, h.mcontext, hpage, hcan]
  have hpop := @World.pop_of_routes _ _ _ _ none (hroutes ▸ hn) (by simp)
  rw [hhide]
  refine ⟨?_, ?_, ?_⟩
  · rw [World.shows_note, World.shows_pop]
    simpa using h.shows
  · rw [World.hides_note, World.hides_pop, h.hides]
    simp [Ui.isHide]
  · rw [World.note, hpop]
    exact hroutes ▸ hfresh

/-! ### After `hideProgress` -/

namespace Hidden

variable {n : ℕ} {h : List (Answered remote)}

theorem sameUi (hs : Hidden me n w s) (hui : s.SameUi s') : Hidden me n w s' where
  shows := hui.shows.trans hs.shows
  hides := hui.hides.trans hs.hides
  gone := by rw [hui.routes]; exact hs.gone

/-- Another route may come on top. -/
theorem push (hs : Hidden me n w s) {kind : RouteKind} (hkind : kind ≠ .progress me.op) :
    Hidden me n w (s.push kind) where
  shows := hs.shows
  hides := hs.hides
  gone r hr := by
    rcases List.mem_cons.mp hr with rfl | hr
    · exact hkind
    · exact hs.gone r hr

/-- Entries of the log that are no calls of the operation do not count. -/
theorem note (hs : Hidden me n w s) {e : Ui} (hshow : e ≠ .showProgress me.op)
    (hhide : e.isHide me.op = false) : Hidden me n w (s.note e) where
  shows := by rw [World.shows_note, if_neg hshow, hs.shows, Nat.add_zero]
  hides := by rw [World.hides_note, hhide, hs.hides]; rfl
  gone := hs.gone

theorem drop (hs : Hidden me n w s) (id : ℕ) : Hidden me n w (s.drop id) where
  shows := hs.shows
  hides := hs.hides
  gone r hr := hs.gone r (List.mem_filter.mp hr).1

/-- Whatever a `pop` takes, the dialog does not come back. -/
theorem pop (hs : Hidden me n w s) (result : Option Bool) : Hidden me n w (s.pop result) where
  shows := (s.shows_pop result).trans hs.shows
  hides := (s.hides_pop result).trans hs.hides
  gone := World.gone_pop hs.gone result

theorem pushAndRemoveUntilFirst (hs : Hidden me n w s) {kind : RouteKind}
    (hkind : kind ≠ .progress me.op) : Hidden me n w (s.pushAndRemoveUntilFirst kind) where
  shows := hs.shows
  hides := hs.hides
  gone r hr := by
    rcases List.mem_cons.mp hr with rfl | hr
    · exact hkind
    · exact hs.gone r (List.mem_of_getLast? (by simpa using hr))

/-! What follows `hideProgress` may use the context of the page, whether it is there or not. -/

/-- A dialog opened after `hideProgress` is no progress dialog. -/
theorem showDialog {Q : List (Answered remote) → Except Thrown ℕ → World → Prop} {message : String}
    (hs : Hidden me n w s) (hok : ∀ id s', Hidden me n w s' → Q h (.ok id) s')
    (hgone : Q h (.error .noSuchMethod) s) :
    (showDialog me message).Always World.answered Q h s := by
  unfold FloodUp.showDialog
  simp only [Routine.bind_eq, Routine.always_bind]
  exact always_anyContext (hok _ _ ((hs.push (by simp)).note (by simp) rfl)) hgone

/-- Nor is one that is awaited. -/
theorem awaitDialog {Q : List (Answered remote) → Except Thrown Unit → World → Prop}
    {message : String} (hs : Hidden me n w s)
    (hok : ∀ id s', Hidden me n w s' → Q (h ++ [⟨.dialog id, ()⟩]) (.ok ()) s')
    (hgone : Q h (.error .noSuchMethod) s) :
    (awaitDialog me message).Always World.answered Q h s := by
  unfold FloodUp.awaitDialog
  simp only [Routine.bind_eq, Routine.always_bind]
  exact hs.showDialog (fun id s' hs' _ => hok id _ (hs'.drop id)) hgone

theorem navigatorPush {Q : List (Answered remote) → Except Thrown ℕ → World → Prop}
    {kind : RouteKind} (hs : Hidden me n w s) (hkind : kind ≠ .progress me.op)
    (hok : ∀ id s', Hidden me n w s' → Q h (.ok id) s') (hgone : Q h (.error .noSuchMethod) s) :
    (navigatorPush me kind).Always World.answered Q h s := by
  unfold FloodUp.navigatorPush
  simp only [Routine.bind_eq, Routine.always_bind]
  exact always_anyContext (hok _ _ (hs.push hkind)) hgone

theorem navigatorPop {Q : List (Answered remote) → Except Thrown Unit → World → Prop}
    {result : Option Bool} (hs : Hidden me n w s) (hok : ∀ s', Hidden me n w s' → Q h (.ok ()) s')
    (hgone : Q h (.error .noSuchMethod) s) :
    (navigatorPop me result).Always World.answered Q h s := by
  unfold FloodUp.navigatorPop
  simp only [Routine.bind_eq, Routine.always_bind]
  exact always_anyContext (hok _ ((hs.pop result).note (by simp) rfl)) hgone

theorem navigatorPushAndRemoveUntilFirst
    {Q : List (Answered remote) → Except Thrown Unit → World → Prop} {kind : RouteKind}
    (hs : Hidden me n w s) (hkind : kind ≠ .progress me.op)
    (hok : ∀ s', Hidden me n w s' → Q h (.ok ()) s') (hgone : Q h (.error .noSuchMethod) s) :
    (navigatorPushAndRemoveUntilFirst me kind).Always World.answered Q h s := by
  unfold FloodUp.navigatorPushAndRemoveUntilFirst
  simp only [Routine.bind_eq, Routine.always_bind]
  exact always_anyContext (hok _ (hs.pushAndRemoveUntilFirst hkind)) hgone

end Hidden

/-! ## The operations, one by one -/

/-- An operation begins on a page that is there, and its number is new. -/
structure Begins (me : Caller) (w : World) : Prop where
  mounted : w.mounted me.page = true
  fresh : ∀ r ∈ w.routes, r.kind ≠ .progress me.op

variable {h : List (Answered remote)}

theorem Hidden.verdict {n : ℕ} (hs : Hidden me n w s) (hall : ∀ e ∈ h, Handled e)
    (hn : n ≤ 1) : Verdict me w h s :=
  .hidden hall n hn hs

theorem Showing.verdict (hs : Showing me w s) (hnot : ∃ e ∈ h, ¬Handled e) : Verdict me w h s :=
  .stuck hnot hs

/-- The `hideProgress` of an operation at work takes its dialog away. -/
theorem Showing.hideProgress {Q : List (Answered remote) → Except Thrown Unit → World → Prop}
    (hs : Showing me w s) (hw : Begins me w) (hQ : ∀ s', Hidden me 1 w s' → Q h (.ok ()) s') :
    (hideProgress me).Always World.answered Q h s :=
  hQ _ (hs.hide hw.mounted hw.fresh)

/-- A handler that reports its failure has taken the dialog away first. -/
theorem Showing.reportFailure {Q : List (Answered remote) → Except Thrown Unit → World → Prop}
    {message : String} (hs : Showing me w s) (hw : Begins me w)
    (hQ : ∀ r s', Hidden me 1 w s' → Q h r s') :
    (reportFailure me message).Always World.answered Q h s := by
  unfold FloodUp.reportFailure
  simp only [Routine.bind_eq, Routine.always_bind]
  refine hs.hideProgress hw fun s₁ hs₁ => always_anyContext ?_ (hQ _ s₁ hs₁)
  exact hs₁.showDialog (fun id s₂ hs₂ => hQ _ s₂ hs₂) (hQ _ s₁ hs₁)

/-- One more handled answer leaves all answers handled. -/
theorem handled_snoc {e : Answered remote} (hall : ∀ e ∈ h, Handled e) (he : Handled e) :
    ∀ e' ∈ h ++ [e], Handled e' := by
  intro e' he'
  rcases List.mem_append.mp he' with he' | he'
  · exact hall e' he'
  · exact List.mem_singleton.mp he' ▸ he

/-- One answer that is not handled is enough. -/
theorem unhandled_snoc {e : Answered remote} (he : ¬Handled e) : ∃ e' ∈ h ++ [e], ¬Handled e' :=
  ⟨e, by simp, he⟩

/-- A load takes its dialog away exactly if its reply has come and can be read to the end. -/
theorem loadWeatherEvents_verdict (hw : Begins me w) (category : ℕ) :
    (loadWeatherEvents me category).Always World.answered (fun h _ s => Verdict me w h s) [] w := by
  unfold loadWeatherEvents
  simp only [Routine.bind_eq, Routine.always_bind, Routine.always_modify]
  have hset := w.sameButMap_setMap me.page fun m => { m with eventDatas := [], allEventMarkers := [] }
  rw [always_showProgress ((hset.mounted _).trans hw.mounted)]
  have hshow := showing_beginProgress hset.sameUi hw.mounted
  simp only [getEvents, always_remoteCall]
  intro r
  have hanswered := hshow.sameUi (World.answered_sameUi (c := .getEvents (categoryFilter category))
    (by rintro ⟨⟩) r _)
  generalize World.answered _ r _ = s at hanswered ⊢
  rcases r with f | documents
  · exact hanswered.verdict (unhandled_snoc id)
  simp only [Except.mapError, id_eq]
  by_cases hreadable : ∀ document ∈ documents, document.Readable
  · have hhide : ∀ s', Showing me w s' → (hideProgress me).Always World.answered
        (fun h _ s => Verdict me w h s) ([] ++ [⟨.getEvents (categoryFilter category),
          (.ok documents : Except Fault (List Document))⟩]) s' := fun s' hs' =>
      hs'.hideProgress hw fun s'' hs'' => hs''.verdict (handled_snoc (by simp) hreadable) le_rfl
    -- an empty reply goes straight to `hideProgress`
    by_cases hempty : documents = []
    · rw [if_neg (not_not.mpr hempty)]
      exact hhide s hanswered
    · obtain ⟨markers, hmarkers⟩ := markers_ok_iff.mpr hreadable
      rw [if_pos hempty, Routine.always_bind,
        (processEvents_runs (hanswered.mounted hw.mounted) hmarkers).always]
      exact hhide _ (hanswered.sameUi (World.sameButMap_setMap _ _ _).sameUi)
  -- a document that cannot be read ends `ProcessEvents`, and the dialog stays
  · have hempty : documents ≠ [] := by
      rintro rfl
      exact hreadable (by simp)
    rw [if_pos hempty]
    cases hmarkers : documents.mapM eventMarker with
    | ok markers => exact absurd (markers_ok_iff.mp ⟨markers, hmarkers⟩) hreadable
    | error e =>
      obtain ⟨s', hruns, hsame⟩ := processEvents_fails (hanswered.mounted hw.mounted) hmarkers
      rw [Routine.always_bind, hruns.always]
      exact (hanswered.sameUi hsame.sameUi).verdict (unhandled_snoc hreadable)

/-- An `Error` of the subscription's read, or a value that is no text, leaves the dialog up. -/
theorem Showing.readSubscription {Q : List (Answered remote) → Except Thrown Unit → World → Prop}
    {email : String} (hs : Showing me w s)
    (hok : ∀ e s', Handled e → Showing me w s' → Q (h ++ [e]) (.ok ()) s')
    (herror : ∀ e r s', ¬Handled e → r.platformCode = none → Showing me w s' →
      Q (h ++ [e]) (.error r) s') :
    (readSubscription email).Always World.answered Q h s := by
  unfold FloodUp.readSubscription
  simp only [getSubscription, Routine.bind_eq, Routine.always_tryCatch, Routine.always_bind,
    always_remoteCall]
  intro reply
  have hanswered := hs.sameUi (World.answered_sameUi (c := .getSubscription email)
    (by rintro ⟨⟩) reply _)
  generalize World.answered _ reply _ = s at hanswered ⊢
  -- an `Exception` of either kind is printed and forgotten
  rcases reply with (code | _ | _) | _ | data
  · exact hok _ s trivial hanswered
  · exact hok _ s trivial hanswered
  · exact herror _ _ s id rfl hanswered
  · exact hok _ s trivial hanswered
  · show (storeSubscription data).Always _ _ _ s
    unfold storeSubscription
    cases hvalue : (data.get "subscribed").asString with
    | ok value => exact hok _ _ ⟨value, hvalue⟩ (hanswered.sameUi ⟨rfl, rfl, rfl, rfl, rfl⟩)
    | error e =>
      have htype := Value.asString_error hvalue
      subst htype
      refine herror _ _ s ?_ rfl hanswered
      rintro ⟨value, hok⟩
      rw [hvalue] at hok
      cases hok

/-- A failure of the first call: the handler takes a `PlatformException`. -/
theorem Showing.failed {Q : List (Answered remote) → Except Thrown Unit → World → Prop} {f : Fault}
    {message : String → String} (hs : Showing me w s) (hw : Begins me w)
    (hcaught : ∀ r s', (∃ code, f = .platformException code) → Hidden me 1 w s' → Q h r s')
    (hpassed : ∀ r, (¬∃ code, f = .platformException code) → Q h r s) :
    (((Thrown.fault f).platformCode.map fun code => FloodUp.reportFailure me (message code)).getD
      (.throw (.fault f))).Always World.answered Q h s := by
  rcases f with code | _ | _
  · exact hs.reportFailure hw fun r s' hs' => hcaught r s' ⟨code, rfl⟩ hs'
  · exact hpassed _ (by simp)
  · exact hpassed _ (by simp)

/-- A login does so if its first call succeeds or fails as foreseen and the subscription can be
read. -/
theorem loginToFireBase_verdict (hw : Begins me w) (email password : String) :
    (loginToFireBase me email password).Always World.answered (fun h _ s => Verdict me w h s)
      [] w := by
  unfold loginToFireBase
  simp only [Routine.bind_eq, Routine.always_bind]
  rw [always_showProgress hw.mounted]
  have hshow := showing_beginProgress (World.SameUi.refl w) hw.mounted
  simp only [signInWithEmailAndPassword, Routine.always_tryCatch, Routine.always_bind,
    always_remoteCall]
  intro r
  have hanswered := hshow.sameUi (World.answered_sameUi
    (c := .signInWithEmailAndPassword email password) (by rintro ⟨⟩) r _)
  generalize World.answered _ r _ = s at hanswered ⊢
  rcases r with f | user
  · exact hanswered.failed hw (fun _ s' hf hs' => hs'.verdict (handled_snoc (by simp) hf) le_rfl)
      fun _ hf => hanswered.verdict (unhandled_snoc hf)
  · simp only [Except.mapError, id_eq]
    refine hanswered.readSubscription (fun e s₁ he hs₁ => ?_) fun e r s₁ he hr hs₁ => ?_
    · simp only [Routine.always_modify]
      have hall := handled_snoc (handled_snoc (h := []) (by simp)
        (e := ⟨.signInWithEmailAndPassword email password, (.ok user : Except Fault FirebaseUser)⟩)
        trivial) he
      have hfilled : Showing me w { s₁ with globals := s₁.globals.withUser user } :=
        hs₁.sameUi ⟨rfl, rfl, rfl, rfl, rfl⟩
      refine hfilled.hideProgress hw fun s₂ hs₂ => ?_
      have hcleared : Hidden me 1 w
          (s₂.setLogin me.page fun p => { p with textEmail := "", textPassword := "" }) :=
        hs₂.sameUi ⟨rfl, rfl, rfl, rfl, rfl⟩
      exact hcleared.navigatorPush (by simp) (fun id s₃ hs₃ => hs₃.verdict hall le_rfl)
        (hcleared.verdict hall le_rfl)
    -- what the read throws is no `PlatformException`, so the login's handler passes it on
    · simp only [hr]
      exact hs₁.verdict (unhandled_snoc he)

/-- Only an `Error` of the write leaves the dialog up. -/
theorem Showing.saveSubscription {Q : List (Answered remote) → Except Thrown Unit → World → Prop}
    {email isSubscribed : String} (hs : Showing me w s)
    (hok : ∀ e s', Handled e → Showing me w s' → Q (h ++ [e]) (.ok ()) s')
    (herror : ∀ e r s', ¬Handled e → Showing me w s' → Q (h ++ [e]) (.error r) s') :
    (saveSubscription email isSubscribed).Always World.answered Q h s := by
  unfold FloodUp.saveSubscription
  simp only [setSubscription, Routine.bind_eq, Routine.always_tryCatch, Routine.always_bind,
    always_remoteCall]
  intro reply
  have hanswered := hs.sameUi (World.answered_sameUi (c := .setSubscription email isSubscribed)
    (by rintro ⟨⟩) reply _)
  generalize World.answered _ reply _ = s at hanswered ⊢
  rcases reply with (code | _ | _) | _
  · exact hok _ s trivial hanswered
  · exact hok _ s trivial hanswered
  · exact herror _ _ s id hanswered
  · exact hok _ _ trivial (hanswered.sameUi ⟨rfl, rfl, rfl, rfl, rfl⟩)

/-- The rest of a registration takes the dialog away once; nothing in it can fail before. -/
theorem Showing.enterRegistered {user : FirebaseUser} (hs : Showing me w s) (hw : Begins me w)
    (hall : ∀ e ∈ h, Handled e) :
    (enterRegistered me user).Always World.answered (fun h _ s => Verdict me w h s) h s := by
  unfold FloodUp.enterRegistered
  simp only [Routine.bind_eq, Routine.always_bind, Routine.always_modify]
  refine hs.hideProgress hw fun s₁ hs₁ => ?_
  have hfilled : Hidden me 1 w { s₁ with globals := s₁.globals.withUser user } :=
    hs₁.sameUi ⟨rfl, rfl, rfl, rfl, rfl⟩
  refine hfilled.awaitDialog (fun id s₂ hs₂ => ?_) (hfilled.verdict hall le_rfl)
  have hall' := handled_snoc hall (e := ⟨.dialog id, ()⟩) trivial
  exact hs₂.navigatorPush (by simp) (fun id s₃ hs₃ => hs₃.verdict hall' le_rfl)
    (hs₂.verdict hall' le_rfl)

/-- A registration leaves its dialog up if `updateProfile` fails: nobody awaits that in a `try`. -/
theorem registerUserToFireBase_verdict (hw : Begins me w)
    (email password userName isSubscribed : String) :
    (registerUserToFireBase me email password userName isSubscribed).Always World.answered
      (fun h _ s => Verdict me w h s) [] w := by
  unfold registerUserToFireBase
  simp only [Routine.bind_eq, Routine.always_bind]
  rw [always_showProgress hw.mounted]
  have hshow := showing_beginProgress (World.SameUi.refl w) hw.mounted
  simp only [createUserWithEmailAndPassword, Routine.always_tryCatch, Routine.always_bind,
    always_remoteCall]
  intro r
  have hanswered := hshow.sameUi (World.answered_sameUi
    (c := .createUserWithEmailAndPassword email password) (by rintro ⟨⟩) r _)
  generalize World.answered _ r _ = s at hanswered ⊢
  rcases r with (code | _ | _) | user
  · have hcaught : Handled ⟨.createUserWithEmailAndPassword email password,
        (.error (.platformException code) : Except Fault FirebaseUser)⟩ := ⟨code, rfl⟩
    have hall := handled_snoc (h := []) (by simp) hcaught
    show ((FloodUp.reportFailure me (registrationErrorMessage code)).bind fun _ =>
      .pure none).Always World.answered _ _ s
    rw [Routine.always_bind]
    exact hanswered.reportFailure hw fun r s' hs' => by
      cases r <;> exact hs'.verdict hall le_rfl
  · exact hanswered.verdict (unhandled_snoc fun ⟨_, hcode⟩ => Fault.noConfusion hcode)
  · exact hanswered.verdict (unhandled_snoc fun ⟨_, hcode⟩ => Fault.noConfusion hcode)
  · simp only [Except.mapError, id_eq, updateProfile, Routine.pure_eq, Routine.always_pure,
      Routine.always_bind, always_remoteCall]
    intro r
    have hupdated := hanswered.sameUi (World.answered_sameUi
      (c := .updateProfile user.uid userName) (by rintro ⟨⟩) r _)
    generalize World.answered _ r _ = s at hupdated ⊢
    have hall := handled_snoc (h := []) (by simp)
      (e := ⟨.createUserWithEmailAndPassword email password,
        (.ok user : Except Fault FirebaseUser)⟩) trivial
    rcases r with f | _
    · exact hupdated.verdict (unhandled_snoc id)
    · show (FloodUp.registered me user isSubscribed).Always World.answered
        (fun h _ s => Verdict me w h s) _ s
      unfold FloodUp.registered
      rw [Routine.bind_eq, Routine.always_bind]
      refine hupdated.saveSubscription (fun e s₁ he hs₁ => ?_)
        fun e r s₁ he hs₁ => hs₁.verdict (unhandled_snoc he)
      exact hs₁.enterRegistered hw (handled_snoc (handled_snoc hall trivial) he)

/-- A reset takes its dialog away on success and in its handler. -/
theorem resetPassword_verdict (hw : Begins me w) (email : String) :
    (resetPassword me email).Always World.answered (fun h _ s => Verdict me w h s) [] w := by
  unfold resetPassword
  simp only [Routine.bind_eq, Routine.always_bind]
  rw [always_showProgress hw.mounted]
  have hshow := showing_beginProgress (World.SameUi.refl w) hw.mounted
  simp only [sendPasswordResetEmail, Routine.always_tryCatch, Routine.always_bind,
    always_remoteCall]
  intro r
  have hanswered := hshow.sameUi (World.answered_sameUi (c := .sendPasswordResetEmail email)
    (by rintro ⟨⟩) r _)
  generalize World.answered _ r _ = s at hanswered ⊢
  rcases r with f | _
  · exact hanswered.failed hw (fun _ s' hf hs' => hs'.verdict (handled_snoc (by simp) hf) le_rfl)
      fun _ hf => hanswered.verdict (unhandled_snoc hf)
  · have hall := handled_snoc (h := []) (by simp)
      (e := ⟨.sendPasswordResetEmail email, (.ok () : Except Fault Unit)⟩) trivial
    refine hanswered.hideProgress hw fun s₁ hs₁ => ?_
    exact hs₁.showDialog (fun id s₂ hs₂ => hs₂.verdict hall le_rfl) (hs₁.verdict hall le_rfl)

/-- A logout has no handler: a failed `signOut` leaves the dialog up. -/
theorem logout_verdict (hw : Begins me w) :
    (logout me).Always World.answered (fun h _ s => Verdict me w h s) [] w := by
  unfold logout
  simp only [Routine.bind_eq, Routine.always_bind, Routine.always_get]
  by_cases hin : w.globals.bLoggedIn = true
  · rw [if_pos hin, Routine.always_bind, always_showProgress hw.mounted]
    have hshow := showing_beginProgress (World.SameUi.refl w) hw.mounted
    simp only [signOut, Routine.always_bind, always_remoteCall]
    intro r
    have hanswered := hshow.sameUi (World.answered_sameUi (c := .signOut) (by rintro ⟨⟩) r _)
    generalize World.answered _ r _ = s at hanswered ⊢
    rcases r with f | _
    · exact hanswered.verdict (unhandled_snoc id)
    · have hall := handled_snoc (h := []) (by simp)
        (e := ⟨.signOut, (.ok () : Except Fault Unit)⟩) trivial
      refine hanswered.hideProgress hw fun s₁ hs₁ => ?_
      have hcleared : Hidden me 1 w { s₁ with globals := s₁.globals.loggedOut } :=
        hs₁.sameUi ⟨rfl, rfl, rfl, rfl, rfl⟩
      refine hcleared.navigatorPop (fun s₂ hs₂ => ?_) (hcleared.verdict hall le_rfl)
      exact hs₂.navigatorPushAndRemoveUntilFirst (by simp) (fun s₃ hs₃ => hs₃.verdict hall le_rfl)
        (hs₂.verdict hall le_rfl)
  · rw [if_neg hin, Routine.always_bind]
    -- nothing is put up, so nothing has to be taken away
    have hidle : Hidden me 0 w w := ⟨rfl, rfl, hw.fresh⟩
    refine hidle.navigatorPop (fun s₁ hs₁ => ?_) (hidle.verdict (by simp) (Nat.zero_le 1))
    exact hs₁.navigatorPushAndRemoveUntilFirst (by simp)
      (fun s₂ hs₂ => hs₂.verdict (by simp) (Nat.zero_le 1)) (hs₁.verdict (by simp) (Nat.zero_le 1))

/-! ### Publishing -/

/-- The progress dialog stands while the uploads and the add go on. -/
theorem showing_of_sameScreen (hw : Begins me w)
    (hscreen : (w.beginProgress me).SameScreen me.page s) : Showing me w s :=
  (showing_beginProgress (World.SameUi.refl w) hw.mounted).sameUi
    ⟨hscreen.routes, hscreen.nextRoute, hscreen.popped, hscreen.mcontext, hscreen.log⟩

/-- The counts of a log that is known. -/
theorem hidden_of_log {l : List Ui} {n : ℕ} (hlog : s.log = w.log ++ l)
    (hshows : l.count (.showProgress me.op) = n) (hhides : l.countP (Ui.isHide me.op) = n)
    (hgone : ∀ r ∈ s.routes, r.kind ≠ .progress me.op) : Hidden me n w s where
  shows := by rw [World.shows, hlog, List.count_append, hshows]; rfl
  hides := by rw [World.hides, hlog, List.countP_append, hhides]; rfl
  gone := hgone

/-- Nothing handles a failed upload. -/
theorem UploadFailed.not_handled {e : Answered remote} (he : UploadFailed e) : ¬Handled e := by
  unfold UploadFailed at he
  split at he
  · exact id
  · exact id
  · exact he.elim

/-- A search for a place is handled if it leads to a location, be it the one that stands for none.
-/
theorem handled_placemark {address : String} {reply : Except Fault (Option (List Placemark))} :
    Handled ⟨.placemarkFromAddress address, reply⟩ ↔ ∃ loc, geocodeResult reply = .ok loc := by
  rcases reply with (code | _ | _) | _ | _ | ⟨p, ps⟩ <;> simp [Handled, geocodeResult]

theorem handled_uploads (done : List (Upload × String)) :
    ∀ e ∈ done.flatMap uploadAnswers, Handled e :=
  forall_uploads (fun _ _ => trivial) (fun _ _ => trivial) done

/-- The thanks of a publication begin with its `hideProgress`, the only one. -/
theorem Thanked.hidden {below : List Route} {n : ℕ} {s₁ : World} (hs : Showing me w s)
    (h : Thanked me below n s s₁) (hgone : ∀ r ∈ below, r.kind ≠ .progress me.op) :
    Hidden me 1 w s₁ := by
  obtain ⟨shared, hshared, hlog⟩ := h.log
  -- sharing neither puts a dialog up nor takes one away
  have hshares : shared.count (.showProgress me.op) = 0 ∧ shared.countP (Ui.isHide me.op) = 0 := by
    rw [List.count_eq_zero, List.countP_eq_zero]
    refine ⟨fun hmem => ?_, fun e he => ?_⟩
    · obtain ⟨text, htext⟩ := hshared _ hmem
      cases htext
    · obtain ⟨text, rfl⟩ := hshared e he
      simp [Ui.isHide]
  refine ⟨?_, ?_, h.routes ▸ hgone⟩
  · rw [World.shows, hlog]
    simp only [List.count_append, hshares.1]
    exact hs.shows
  · rw [World.hides, hlog]
    simp only [List.countP_append, hshares.2]
    simpa [Ui.isHide, World.hides] using hs.hides

/-- A publication takes its dialog away if the place, each upload and the add are answered as
foreseen. -/
theorem publishEvent_verdict {below : List Route} (hw : Begins me w) (htop : w.OnTop me.page below) :
    (publishEvent me).Always World.answered (fun h _ s => Verdict me w h s) [] w := by
  refine Routine.Always.mono (fun h r s hend => ?_) (publishEvent_always htop)
  have hgone : ∀ r ∈ below, r.kind ≠ .progress me.op := fun r hr =>
    hw.fresh r (htop.routes ▸ .tail _ hr)
  cases hend with
  | incomplete message hform =>
    have hidle : Hidden me 0 w w := ⟨rfl, rfl, hw.fresh⟩
    exact ((hidle.push (by simp)).note (by simp) rfl).verdict (by simp) (Nat.zero_le 1)
  | lost reply e hform hreply =>
    refine (showing_of_sameScreen hw (.refl _ _)).verdict ⟨_, List.mem_singleton_self _, ?_⟩
    rw [handled_placemark, hreply]
    simp
  | nowhere reply _ hform hreply hdata hroutes hpopped hlog =>
    refine (hidden_of_log hlog (by simp) (by simp [Ui.isHide])
      (hroutes ▸ hw.fresh)).verdict (n := 1) ?_ le_rfl
    exact handled_snoc (h := [_]) (handled_snoc (h := []) (by simp)
      (handled_placemark.mpr ⟨_, hreply⟩)) trivial
  | uploadFailed reply loc answers f _ hform hreply hplace huploads hfailed hscreen =>
    obtain ⟨a, ha, hfailed⟩ := hfailed
    exact (showing_of_sameScreen hw hscreen).verdict ⟨a, .tail _ ha, hfailed.not_handled⟩
  | addFailed reply loc done doc _ hform hbuilt hscreen =>
    exact (showing_of_sameScreen hw hscreen).verdict (unhandled_snoc id)
  | thanked reply loc done doc added pressed w₁ _ hform hbuilt hadded hscreen hthanked =>
    have hadd : w₁.SameUi (World.answered (.addEvent doc) added w₁) :=
      World.answered_sameUi (c := .addEvent doc) (by rintro ⟨⟩) added w₁
    refine (hthanked.hidden ((showing_of_sameScreen hw hscreen).sameUi hadd) hgone).verdict ?_ le_rfl
    intro e he
    simp only [List.cons_append, List.mem_cons, List.mem_append, List.not_mem_nil, or_false] at he
    rcases he with rfl | he | rfl | rfl
    · exact handled_placemark.mpr ⟨_, hbuilt.located⟩
    · exact handled_uploads done e he
    -- a failed add is forgotten, unless it is the `Error` that is excluded here
    · rcases added with (code | _ | _) | id
      · trivial
      · trivial
      · exact absurd rfl hadded
      · trivial
    · trivial

/-! ## Every operation -/

/-- Every operation ends in one of the two ways. -/
theorem Operation.verdict (o : Operation) (hw : Begins me w)
    (htop : o = .publishEvent → ∃ below, w.OnTop me.page below) :
    (o.routine me).Always World.answered (fun h _ s => Verdict me w h s) [] w := by
  cases o with
  | loadWeatherEvents category => exact loadWeatherEvents_verdict hw category
  | publishEvent =>
    obtain ⟨below, htop⟩ := htop rfl
    exact publishEvent_verdict hw htop
  | loginToFireBase email password => exact loginToFireBase_verdict hw email password
  | registerUserToFireBase email password userName isSubscribed =>
    exact registerUserToFireBase_verdict hw email password userName isSubscribed
  | resetPassword email => exact resetPassword_verdict hw email
  | logout => exact logout_verdict hw

/-- **An operation hides its progress dialog exactly once if and only if every answer it gets is
handled.** -/
theorem progress_hidden_once (o : Operation) (me : Caller) (w : World) (hw : Begins me w)
    (htop : o = .publishEvent → ∃ below, w.OnTop me.page below) (h : List (Answered remote))
    (r : Except Thrown Unit) (w' : World)
    (hplay : (o.routine me).play World.answered w h = some (r, w')) :
    HidesOnce me.op w w' ↔ ∀ e ∈ h, Handled e :=
  ((o.verdict hw htop).play hplay).hidesOnce

/-- The answer to a load: these documents. -/
def loaded (documents : List Document) : List (Answered remote) :=
  [⟨.getEvents none, (.ok documents : Except Fault (List Document))⟩]

theorem begins_mapOpened (op : ℕ) (date : DateTime) : Begins ⟨op, 0⟩ (.mapOpened date) where
  mounted := rfl
  fresh r hr := by
    rw [List.mem_singleton.mp hr]
    simp

/-- A document with images. -/
def photographed (id : String) (urls : List String) : Document :=
  ⟨id, [("category", .scalar (.string "1")), ("location", .scalar (.geoPoint ⟨1, 2⟩)),
    ("image_files", .array (urls.map .string))]⟩

theorem photographed_readable (id : String) (urls : List String) :
    (photographed id urls).Readable := by
  refine ⟨⟨urls.map .string, rfl, fun file hfile => ?_⟩, ⟨1, 2⟩, rfl⟩
  obtain ⟨url, -, rfl⟩ := List.mem_map.mp hfile
  exact ⟨some url, rfl⟩

/-- A load is answered by two documents, which become markers before the dialog is taken away. -/
theorem progress_hidden_once_loaded :
    ∃ w', ((Operation.loadWeatherEvents 0).routine ⟨7, 0⟩).play World.answered
      (.mapOpened ⟨2020, 1, 1⟩) (loaded [photographed "a" ["u", "v"], photographed "b" ["x"]]) =
        some (.ok (), w') ∧
      (w'.map 0).allEventMarkers.length = 2 ∧ HidesOnce 7 (.mapOpened ⟨2020, 1, 1⟩) w' := by
  refine ⟨_, rfl, rfl, (progress_hidden_once (.loadWeatherEvents 0) ⟨7, 0⟩
    (.mapOpened ⟨2020, 1, 1⟩) (begins_mapOpened 7 ⟨2020, 1, 1⟩) (by simp)
    (loaded [photographed "a" ["u", "v"], photographed "b" ["x"]]) (.ok ()) _ rfl).mpr ?_⟩
  intro e he
  obtain rfl := List.mem_singleton.mp he
  intro document hmem
  simp only [List.mem_cons, List.not_mem_nil, or_false] at hmem
  rcases hmem with rfl | rfl
  · exact photographed_readable "a" ["u", "v"]
  · exact photographed_readable "b" ["x"]

/-- A document without images is printed before it is tested: the load throws and its progress
dialog stays. -/
theorem imageless_progress_stays :
    ¬∀ (o : Operation) (me : Caller) (w : World), Begins me w →
      (o = .publishEvent → ∃ below, w.OnTop me.page below) →
      ∀ (h : List (Answered remote)) (r : Except Thrown Unit) (w' : World),
        (o.routine me).play World.answered w h = some (r, w') → HidesOnce me.op w w' := by
  intro hall
  have honce := hall (.loadWeatherEvents 0) ⟨7, 0⟩ (.mapOpened ⟨2020, 1, 1⟩)
    (begins_mapOpened 7 ⟨2020, 1, 1⟩) (by simp)
    (loaded [⟨"id", [("category", .scalar (.string "1")), ("location", .scalar (.geoPoint ⟨1, 2⟩))]⟩])
    _ _ rfl
  exact honce.gone ⟨1, .progress 7⟩ (by decide) rfl

end FloodUp
