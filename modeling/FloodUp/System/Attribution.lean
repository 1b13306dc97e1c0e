import FloodUp.Publish.Page
import FloodUp.System.Frames

/-!
# Who publishes

Publish pages, Map pages and the session live in one process: `PublishEvent` reads the publisher's name from the
globals when it adds its document, and logout, login and sign-up write the globals whenever their
answers arrive. `attributed` says that each document has the name of the user who pressed
Publish, and is added while that user is signed in, in every run in which nobody writes
the session under a `PublishEvent` that is on its way.
-/

namespace FloodUp

open Async

/-! ## The app -/

/-- The routines of all pages and of the session. -/
inductive AppRoutine where
  | publish (r : PublishRoutine)
  | map (o : MapOperation)
  | account (o : AccountOperation)
deriving DecidableEq, Repr

/-- The routines of this process, with the world they share. -/
abbrev AppPool : Type := Pool remote World Thrown AppRoutine

/-- The add of a `PublishEvent`: its document, and the globals when Publish was pressed and when
the document was added. -/
structure Added where
  pressed : Globals
  document : Data
  now : Globals

/-- The running app, and the adds so far. -/
structure App where
  pool : AppPool
  added : List Added

/-- What can happen in the app. -/
inductive AppAction where
  /-- The app is started, as a new process. -/
  | launch
  | operate (o : AccountOperation) (page : ℕ)
  /-- Something on a Map page, such as the add button. -/
  | onMap (o : MapOperation) (page : ℕ)
  /-- A Publish page that has been opened makes its state. -/
  | initState (page : ℕ) (date : DateTime)
  | edit (page : ℕ) (e : Edit)
  | pickLocation (page : ℕ) (result : String)
  | pickImage (page : ℕ)
  | press (page : ℕ)
  /-- Anything that happens on the screen. -/
  | around (routes : List Route)
  | setClock (millis : ℤ)
  | answer (i : ℕ) (e : Answered remote)

/-- `main` calls `isLoggedIn` before there is a page. -/
def startApp (w : World) : AppPool :=
  (⟨{ w with globals := {} }, []⟩ : AppPool).start (.account .isLoggedIn)
    (AccountOperation.isLoggedIn.routine ⟨0, 0⟩)

/-- A Publish page is open. -/
def World.ShowsPublish (w : World) (page : ℕ) : Prop := ⟨page, .page .publish false⟩ ∈ w.routes

instance (w : World) (page : ℕ) : Decidable (w.ShowsPublish page) := by
  unfold World.ShowsPublish
  infer_instance

/-- What an action does to the routines and the state. -/
def appPoolStep (p : AppPool) : AppAction → Option AppPool
  | .launch => some (startApp p.state)
  | .operate o page =>
    if o = .isLoggedIn then none else some (p.start (.account o) (o.routine ⟨p.threads.length, page⟩))
  | .onMap o page => some (p.start (.map o) (o.routine ⟨p.threads.length, page⟩))
  | .initState page date =>
    if p.state.ShowsPublish page then
      some ((p.update fun w => w.setPublish page fun _ => .opened date).start
        (.publish .getCurAddress) (getCurAddress ⟨p.threads.length, page⟩))
    else none
  | .edit page e => some (p.update fun w => w.setPublish page e.apply)
  | .pickLocation page result =>
    some (p.update fun w => w.setPublish page fun q => { q with textLocation := result })
  | .pickImage page => some (p.start (.publish .getImage) (getImage ⟨p.threads.length, page⟩))
  | .press page =>
    if p.state.ShowsPublish page then
      some (p.start (.publish .publishEvent) (publishEvent ⟨p.threads.length, page⟩))
    else none
  | .around routes => some (p.update fun w => { w with routes })
  | .setClock millis => some (p.update fun w => { w with clock := millis })
  | .answer i e => p.answer env i e

/-- The add that an action has led to: the thread that was answered has called it. -/
def AppAction.added (p : AppPool) : AppAction → List Added
  | .answer i _ =>
    match p.threads[i]? with
    | some th =>
      match th.now.awaiting with
      | some (.addEvent doc) => [⟨th.born.globals, doc, p.state.globals⟩]
      | _ => []
    | none => []
  | _ => []

/-- One action in the app; an add it leads to is recorded. -/
def appStep (app : App) (a : AppAction) : Option App :=
  (appPoolStep app.pool a).map fun p => ⟨p, app.added ++ a.added p⟩

/-- The app right after its first start. -/
def App.started (w : World) : App := ⟨startApp w, []⟩

/-! ## What is promised -/

/-- The document names the user who pressed Publish, and that user was signed in when it was
added. -/
structure Added.Attributed (a : Added) : Prop where
  publisher : a.document.get "publisher" = .scalar (.string a.pressed.userFullName)
  bLoggedIn : a.now.bLoggedIn = true
  firUserId : a.now.firUserId = a.pressed.firUserId

/-- The read of a subscription that lets a login go on. -/
def ReadGoesOn : Except Fault (Option Data) → Prop
  | .error f => f ≠ .error
  | .ok none => True
  | .ok (some data) => ∃ value, (data.get "subscribed").asString = .ok value

/-- After this answer the operation writes who is signed in into the globals. -/
def AccountOperation.Writes : AccountOperation → Answered remote → Prop
  | .isLoggedIn, ⟨.currentUser, .ok _⟩ => True
  | .login _ _, ⟨.getSubscription _, reply⟩ => ReadGoesOn reply
  | .signup _ _ _ _, ⟨.setSubscription _ _, .ok _⟩ => True
  | .signup _ _ _ _, ⟨.setSubscription _ _, .error f⟩ => f ≠ .error
  | .logout, ⟨.signOut, .ok _⟩ => True
  | _, _ => False

/-- Some `PublishEvent` is on its way from the check of the form to its add. -/
def Publishing (p : AppPool) : Prop :=
  p.Pending fun th (c : Call) => th.tag = .publish .publishEvent ∧ c.BeforeAdd

/-- Publish is pressed while somebody is signed in, and nobody writes the session while a
`PublishEvent` is on its way. -/
structure Unhurried (p : AppPool) (a : AppAction) : Prop where
  press : ∀ page, a = .press page → p.state.globals.bLoggedIn = true
  session : Publishing p → ∀ (i : ℕ) e th o, a = .answer i e → p.threads[i]? = some th →
    th.tag = .account o → ¬o.Writes e

/-! ## The contracts -/

/-- The same account is signed in, under the same name. -/
structure Globals.SameUser (g g' : Globals) : Prop where
  bLoggedIn : g'.bLoggedIn = g.bLoggedIn
  firUserId : g'.firUserId = g.firUserId
  userFullName : g'.userFullName = g.userFullName

theorem Globals.SameUser.refl (g : Globals) : g.SameUser g := ⟨rfl, rfl, rfl⟩

/-- Globals that have not been written are those of the same user. -/
theorem Globals.SameUser.of_eq {g g' : Globals} (h : g' = g) : g.SameUser g' := h ▸ .refl g

theorem Globals.SameUser.trans {g₁ g₂ g₃ : Globals} (h₁ : g₁.SameUser g₂) (h₂ : g₂.SameUser g₃) :
    g₁.SameUser g₃ :=
  ⟨h₂.bLoggedIn.trans h₁.bLoggedIn, h₂.firUserId.trans h₁.firUserId,
    h₂.userFullName.trans h₁.userFullName⟩

/-- The user of the globals `g` was signed in, and is still in `g'`. -/
structure StillSignedIn (g g' : Globals) : Prop where
  pressed : g.bLoggedIn = true
  same : g.SameUser g'

/-- On its way to the add `PublishEvent` relies on the user of its press being signed in; it writes
no globals, and the document has the name they hold. -/
def publisherContract (born : World) : Contract remote World Thrown Unit where
  holds _ c s := c.BeforeAdd → StillSignedIn born.globals s.globals
  moves _ s c s' := s'.globals = s.globals ∧ ∀ doc, c = some (.addEvent doc) →
    StillSignedIn born.globals s'.globals ∧
      doc.get "publisher" = .scalar (.string s'.globals.userFullName)
  ends _ _ := True

/-- An operation on the session writes it after the answers it `Writes` after, and then only. -/
def sessionContract (o : AccountOperation) : Contract remote World Thrown Unit where
  holds _ _ _ := True
  moves h s c s' := (s.globals.SameUser s'.globals ∨ ∃ e, h.getLast? = some e ∧ o.Writes e) ∧
    ∀ doc, c ≠ some (.addEvent doc)
  ends _ _ := True

/-- Every other routine leaves the globals alone. -/
def bystanderContract : Contract remote World Thrown Unit where
  holds _ _ _ := True
  moves _ s c s' := s'.globals = s.globals ∧ ∀ doc, c ≠ some (.addEvent doc)
  ends _ _ := True

/-- The contract of each routine. -/
def appContracts : AppRoutine → World → Contract remote World Thrown Unit
  | .publish .publishEvent, born => publisherContract born
  | .account o, _ => sessionContract o
  | _, _ => bystanderContract

/-! ## `PublishEvent` -/

/-- No answer writes the globals by itself; only the routine that gets it does. -/
theorem answered_globals (c : Call) (r : Reply c) (s : World) :
    (World.answered c r s).globals = s.globals := by
  unfold World.answered
  split <;> rfl

/-- The name in the document is the one the globals hold when it is made. -/
theorem publisher_document (page : ℕ) (loc : LatLng) (w : World) :
    (w.document page loc).get "publisher" = .scalar (.string w.globals.userFullName) := by
  simp [World.document, eventDocument, Data.get_cons]

/-- `PublishEvent` keeps its contract, rule by rule. -/
theorem publisher_rules {me : Caller} {born : World} (hin : born.globals.bLoggedIn = true) :
    PublishRules (fun _ _ _ => True) (publisherContract born) me born where
  refuse r s hs _ := ⟨⟨hs.globals, by simp⟩, trivial⟩
  locate s hs _ := ⟨⟨hs.globals, by simp⟩, fun _ => ⟨hin, .of_eq hs.globals⟩⟩
  notify h e c s s' hc _ _ hs := by
    refine ⟨⟨hs.globals.trans (answered_globals _ _ _), ?_⟩, ?_⟩
    · cases hc <;> simp
    · cases hc <;> exact False.elim
  quit h e r s s' _ _ hs _ := ⟨⟨hs.globals.trans (answered_globals _ _ _), by simp⟩, trivial⟩
  add_first t ht _ _ := by
    refine ⟨⟨rfl, ?_⟩, False.elim⟩
    rintro doc ⟨⟩
    exact ⟨ht.held trivial, publisher_document _ _ _⟩
  put_first t file ht _ _ := ⟨⟨rfl, by simp⟩, fun _ => ht.held trivial⟩
  link t u s _ _ hs := ⟨⟨rfl, by simp⟩, fun _ => hs trivial⟩
  put_next t u url file s _ _ hs _ _ _ := ⟨⟨rfl, by simp⟩, fun _ => hs trivial⟩
  add_last t u url s _ _ hs _ _ _ := by
    refine ⟨⟨rfl, ?_⟩, False.elim⟩
    rintro doc ⟨⟩
    exact ⟨hs trivial, publisher_document _ _ _⟩
  abort t u url s _ _ _ _ _ := ⟨⟨rfl, by simp⟩, trivial⟩

/-! ## Routines that leave the globals alone -/

/-- The globals have not been written. -/
def World.SameGlobals (w w' : World) : Prop := w'.globals = w.globals

theorem World.SameGlobals.trans (w₁ w₂ w₃ : World) (h₁ : w₁.SameGlobals w₂)
    (h₂ : w₂.SameGlobals w₃) : w₁.SameGlobals w₃ :=
  Eq.trans h₂ h₁

theorem sameData_globals (w w' : World) (h : w.SameData w') : w.SameGlobals w' := h.globals

/-- The call adds no document. -/
def Call.IsNoAdd (c : Call) : Prop := ∀ doc, c ≠ .addEvent doc

/-- A routine that writes no globals and adds nothing is a bystander. -/
theorem bystander_meets {t : Dart Unit} (ht : t.Within World.SameGlobals Call.IsNoAdd) (s : World) :
    t.Meets anyEnv bystanderContract bystanderContract.final [] s s :=
  ht.meets World.SameGlobals.trans (fun _ _ _ => trivial)
    (fun _ _ _ _ hs hc => ⟨hs, fun doc hadd => hc doc (Option.some.inj hadd)⟩) answered_globals rfl
    fun _ _ _ _ hs => ⟨⟨hs, by simp⟩, trivial⟩

/-- A Map page adds nothing. -/
theorem Call.OfMap.isNoAdd {c : Call} (hc : c.OfMap) : c.IsNoAdd := by
  rintro doc rfl
  exact hc

theorem getCurAddress_within (me : Caller) :
    (getCurAddress me).Within World.SameGlobals Call.IsNoAdd :=
  within_getCurAddress me (fun _ _ _ => rfl) (by simp [Call.IsNoAdd])

theorem getImage_within (me : Caller) : (getImage me).Within World.SameGlobals Call.IsNoAdd :=
  within_getImage me (fun _ _ _ => rfl) (by simp [Call.IsNoAdd])

/-- The operations of a Map page write no globals and add nothing. -/
theorem mapOperation_within (me : Caller) (o : MapOperation) :
    (o.routine me).Within World.SameGlobals Call.IsNoAdd :=
  o.within sameData_globals (fun _ _ _ => rfl) (fun _ hc => hc.isNoAdd) me

/-! ## The operations on the session -/

variable {o : AccountOperation} {h : List (Answered remote)} {s₀ s : World}

/-- A part of an operation that calls nothing and leaves the globals alone. -/
theorem session_part {α : Type} {t : Dart α}
    {Q : List (Answered remote) → World → Except Thrown α → World → Prop}
    (ht : t.Within World.SameGlobals fun _ => False) (hQ : ∀ r s', s.SameGlobals s' → Q h s₀ r s') :
    t.Meets anyEnv (sessionContract o) Q h s₀ s :=
  ht.meets_quiet (fun _ => rfl) World.SameGlobals.trans hQ

/-- Such a part may come last, after what was written. -/
theorem session_ends {t : Dart Unit} (ht : t.Within World.SameGlobals fun _ => False)
    (hmove : s₀.globals.SameUser s.globals ∨ ∃ e, h.getLast? = some e ∧ o.Writes e) :
    t.Meets anyEnv (sessionContract o) (sessionContract o).final h s₀ s :=
  session_part ht fun _ s' hs' => ⟨⟨hmove.imp_left fun h => h.trans (.of_eq hs'), by simp⟩, trivial⟩

/-- The read of the subscription writes nothing about the user. -/
theorem readSubscription_session {email : String}
    {Q : List (Answered remote) → World → Except Thrown Unit → World → Prop}
    (hmove : (sessionContract o).moves h s₀ (some (.getSubscription email)) s)
    (hok : ∀ reply s₁ s₂, s₁.globals.SameUser s₂.globals → ReadGoesOn reply →
      Q (h ++ [⟨.getSubscription email, reply⟩]) s₁ (.ok ()) s₂)
    (herror : ∀ reply s₁ e s₂, s₁.globals.SameUser s₂.globals →
      Q (h ++ [⟨.getSubscription email, reply⟩]) s₁ (.error e) s₂) :
    (readSubscription email).Meets anyEnv (sessionContract o) Q h s₀ s := by
  unfold readSubscription
  simp only [getSubscription, Routine.bind_eq, Routine.meets_tryCatch, Routine.meets_bind,
    meets_remoteCall]
  refine ⟨hmove, trivial, fun s₁ reply _ _ => ?_⟩
  rcases reply with (code | _ | _) | _ | data
  · exact hok _ s₁ _ (.refl _) (by simp [ReadGoesOn])
  · exact hok _ s₁ _ (.refl _) (by simp [ReadGoesOn])
  · exact herror _ s₁ _ _ (.refl _)
  · exact hok _ s₁ _ (.refl _) trivial
  · show (storeSubscription data).Meets _ _ _ _ _ _
    unfold storeSubscription
    cases hvalue : (data.get "subscribed").asString with
    | ok value => exact hok _ s₁ _ ⟨rfl, rfl, rfl⟩ ⟨value, hvalue⟩
    | error e =>
      obtain rfl := Value.asString_error hvalue
      exact herror _ s₁ _ _ (.refl _)

/-- The check at the start of the app writes the session after its first answer. -/
theorem isLoggedIn_session (me : Caller) :
    (AccountOperation.isLoggedIn.routine me).Meets anyEnv (sessionContract .isLoggedIn)
      (sessionContract .isLoggedIn).final [] s s := by
  show (FloodUp.isLoggedIn.bind fun _ => .pure ()).Meets _ _ _ _ _ _
  unfold FloodUp.isLoggedIn
  simp only [currentUser, Routine.bind_eq, Routine.meets_bind, meets_remoteCall]
  refine ⟨⟨.inl (.refl _), by simp⟩, trivial, fun s₁ reply _ _ => ?_⟩
  rcases reply with f | _ | user
  · exact ⟨⟨.inl (.refl _), by simp⟩, trivial⟩
  · exact ⟨⟨.inr ⟨_, rfl, trivial⟩, by simp⟩, trivial⟩
  · simp only [Except.mapError, id_eq, Routine.meets_bind, Routine.meets_modify]
    exact readSubscription_session ⟨.inr ⟨_, rfl, trivial⟩, by simp⟩
      (fun _ _ _ hsame _ => ⟨⟨.inl hsame, by simp⟩, trivial⟩)
      fun _ _ _ _ hsame => ⟨⟨.inl hsame, by simp⟩, trivial⟩

/-- A handler that reports a `PlatformException` and passes everything else on. -/
theorem handler_session {me : Caller} (message : String → String) (e : Thrown)
    (hmove : s₀.globals.SameUser s.globals ∨ ∃ e, h.getLast? = some e ∧ o.Writes e) :
    ((e.platformCode.map fun code => reportFailure me (message code)).getD (.throw e)).Meets
      anyEnv (sessionContract o) (sessionContract o).final h s₀ s := by
  cases e.platformCode with
  | none => exact ⟨⟨hmove, by simp⟩, trivial⟩
  | some code => exact session_ends (within_reportFailure sameData_globals me (message code)) hmove

/-- A login writes it after the subscription has been read. -/
theorem login_session {me : Caller} {email password : String} :
    (loginToFireBase me email password).Meets anyEnv (sessionContract (.login email password))
      (sessionContract (.login email password)).final [] s s := by
  unfold loginToFireBase
  rw [Routine.bind_eq, Routine.meets_bind]
  refine session_part (within_showProgress sameData_globals me) fun r s₁ hs₁ => ?_
  cases r with
  | error e => exact ⟨⟨.inl (.of_eq hs₁), by simp⟩, trivial⟩
  | ok _ =>
    rw [Routine.meets_tryCatch, Routine.bind_eq, Routine.meets_bind, signInWithEmailAndPassword,
      meets_remoteCall]
    refine ⟨⟨.inl (.of_eq hs₁), by simp⟩, trivial, fun s₂ reply _ _ => ?_⟩
    rcases reply with f | user
    · exact handler_session loginErrorMessage (.fault f) (.inl (.refl _))
    · simp only [Except.mapError, id_eq]
      rw [Routine.bind_eq, Routine.meets_bind]
      refine readSubscription_session ⟨.inl (.refl _), by simp⟩ (fun reply s₃ s₄ _ hgoes => ?_)
        fun reply s₃ e s₄ hsame => handler_session loginErrorMessage e (.inl hsame)
      -- the user is written and the Map page opened
      have htail : ((Routine.modify fun w => { w with globals := w.globals.withUser user }).bind
          fun _ => (hideProgress me).bind fun _ =>
          (Routine.modify fun w => w.setLogin me.page fun p =>
            { p with textEmail := "", textPassword := "" }).bind fun _ =>
          (navigatorPush me (.page .map false)).bind fun _ => (.pure () : Dart Unit)).Within
            (fun _ _ => True) fun _ => False :=
        .bind (by simp) fun _ => .bind (within_hideProgress (by simp) me) fun _ =>
          .bind (by simp) fun _ => .bind (within_navigatorPush (by simp) me _) fun _ => trivial
      refine htail.meets_quiet (by simp) (by simp) fun r s₅ _ => ?_
      have hwrites : ∃ e, ([⟨.signInWithEmailAndPassword email password,
          (.ok user : Except Fault FirebaseUser)⟩] ++ [⟨.getSubscription user.email, reply⟩] :
          List (Answered remote)).getLast? = some e ∧
          (AccountOperation.login email password).Writes e := ⟨_, rfl, hgoes⟩
      cases r with
      | ok _ => exact ⟨⟨.inr hwrites, by simp⟩, trivial⟩
      | error e => exact handler_session loginErrorMessage e (.inr hwrites)

/-- The callback of `updateProfile` writes the user after the answer to the subscription's. -/
theorem enterRegistered_session {me : Caller} {user : FirebaseUser} {e : Answered remote}
    (hwrites : o.Writes e) :
    (enterRegistered me user).Meets anyEnv (sessionContract o) (sessionContract o).final (h ++ [e])
      s₀ s := by
  have hmove : ∃ e', (h ++ [e]).getLast? = some e' ∧ o.Writes e' := ⟨e, by simp, hwrites⟩
  unfold enterRegistered
  rw [Routine.bind_eq, Routine.meets_bind]
  refine meets_hideProgress fun s₁ _ => ?_
  simp only [awaitDialog, Routine.bind_eq, Routine.meets_bind, Routine.meets_modify]
  refine meets_showDialog ⟨⟨.inr hmove, by simp⟩, trivial⟩ fun id s₂ _ => ?_
  refine (meets_dialogClosed _ _ _ _).mpr ⟨⟨.inr hmove, by simp⟩, trivial, fun s₃ r _ _ => ?_⟩
  rw [← Routine.meets_bind]
  exact session_ends (.bind (within_navigatorPush sameData_globals me _) fun _ => trivial) (.inl (.refl _))

/-- From `updateProfile` on. -/
theorem registered_session {me : Caller} {user : FirebaseUser}
    {email password userName isSubscribed : String} (hsame : s₀.globals.SameUser s.globals) :
    ((updateProfile user userName).bind fun _ => registered me user isSubscribed).Meets anyEnv
      (sessionContract (.signup email password userName isSubscribed))
      (sessionContract (.signup email password userName isSubscribed)).final h s₀ s := by
  simp only [updateProfile, registered, saveSubscription, setSubscription, Routine.bind_eq,
    Routine.meets_bind, Routine.meets_tryCatch, meets_remoteCall]
  refine ⟨⟨.inl hsame, by simp⟩, trivial, fun s₁ reply _ _ => ?_⟩
  rcases reply with f | _
  · exact ⟨⟨.inl (.refl _), by simp⟩, trivial⟩
  · refine ⟨⟨.inl (.refl _), by simp⟩, trivial, fun s₂ reply _ _ => ?_⟩
    rcases reply with (code | _ | _) | _
    · exact enterRegistered_session (by simp [AccountOperation.Writes])
    · exact enterRegistered_session (by simp [AccountOperation.Writes])
    · exact ⟨⟨.inl (.refl _), by simp⟩, trivial⟩
    · exact enterRegistered_session trivial

/-- A registration writes it after the subscription has been stored. -/
theorem signup_session {me : Caller} {email password userName isSubscribed : String} :
    (registerUserToFireBase me email password userName isSubscribed).Meets anyEnv
      (sessionContract (.signup email password userName isSubscribed))
      (sessionContract (.signup email password userName isSubscribed)).final [] s s := by
  unfold registerUserToFireBase
  rw [Routine.bind_eq, Routine.meets_bind]
  refine session_part (within_showProgress sameData_globals me) fun r s₁ hs₁ => ?_
  cases r with
  | error e => exact ⟨⟨.inl (.of_eq hs₁), by simp⟩, trivial⟩
  | ok _ =>
    simp only [createUserWithEmailAndPassword, Routine.bind_eq, Routine.meets_tryCatch,
      Routine.meets_bind, meets_remoteCall]
    refine ⟨⟨.inl (.of_eq hs₁), by simp⟩, trivial, fun s₂ reply _ _ => ?_⟩
    rcases reply with (code | _ | _) | user
    · show ((reportFailure me (registrationErrorMessage code)).bind fun _ => .pure none).Meets
        _ _ _ _ _ _
      refine session_part (.bind (within_reportFailure sameData_globals me _) fun _ => trivial) fun r s₃ hs₃ => ?_
      rcases r with e | _ | user
      · exact ⟨⟨.inl (.of_eq hs₃), by simp⟩, trivial⟩
      · exact ⟨⟨.inl (.of_eq hs₃), by simp⟩, trivial⟩
      · exact registered_session (.of_eq hs₃)
    · exact ⟨⟨.inl (.refl _), by simp⟩, trivial⟩
    · exact ⟨⟨.inl (.refl _), by simp⟩, trivial⟩
    · exact registered_session (.refl _)

/-- A logout writes it after the user has been signed out. -/
theorem logout_session {me : Caller} :
    (FloodUp.logout me).Meets anyEnv (sessionContract .logout) (sessionContract .logout).final
      [] s s := by
  have hleave : ((navigatorPop me none).bind fun _ =>
      navigatorPushAndRemoveUntilFirst me (.page .login false)).Within World.SameGlobals
        fun _ => False :=
    .bind (within_navigatorPop sameData_globals me none) fun _ =>
      within_navigatorPushAndRemoveUntilFirst sameData_globals me _
  unfold FloodUp.logout
  simp only [Routine.bind_eq, Routine.meets_bind, Routine.meets_get]
  by_cases hin : s.globals.bLoggedIn = true
  · rw [if_pos hin, Routine.meets_bind]
    refine session_part (within_showProgress sameData_globals me) fun r s₁ hs₁ => ?_
    cases r with
    | error e => exact ⟨⟨.inl (.of_eq hs₁), by simp⟩, trivial⟩
    | ok _ =>
      simp only [signOut, Routine.meets_bind, meets_remoteCall]
      refine ⟨⟨.inl (.of_eq hs₁), by simp⟩, trivial, fun s₂ reply _ _ => ?_⟩
      rcases reply with f | _
      · exact ⟨⟨.inl (.refl _), by simp⟩, trivial⟩
      · simp only [Except.mapError, id_eq]
        refine meets_hideProgress fun s₃ _ => ?_
        rw [Routine.meets_modify, ← Routine.meets_bind]
        exact session_ends hleave (.inr ⟨_, rfl, trivial⟩)
  · rw [if_neg hin]
    exact session_ends hleave (.inl (.refl _))

theorem operation_session (me : Caller) (o : AccountOperation) :
    (o.routine me).Meets anyEnv (sessionContract o) (sessionContract o).final [] s s := by
  cases o with
  | isLoggedIn => exact isLoggedIn_session me
  | login email password => exact login_session
  | signup email password userName isSubscribed => exact signup_session
  | logout => exact logout_session

/-! ## Runs -/

variable {p p' : AppPool} {app app' : App} {a : AppAction}

/-- The invariant: every routine keeps its contract, and each add so far names its user. -/
structure AppOk (app : App) : Prop where
  ok : app.pool.Ok anyEnv appContracts
  added : ∀ x ∈ app.added, x.Attributed

/-- Only a `PublishEvent` on its way minds who is signed in. -/
theorem undisturbed_of_sameUser {s' : World} {j : Option ℕ}
    (hs : Publishing p → p.state.globals.SameUser s'.globals) : p.Undisturbed appContracts s' j := by
  intro i th c _ hth hc hholds
  cases htag : th.tag with
  | publish r =>
    cases r with
    | publishEvent =>
      rw [htag] at hholds
      intro hbefore
      obtain ⟨hpressed, hsame⟩ := hholds hbefore
      exact ⟨hpressed, hsame.trans (hs ⟨th, List.mem_of_getElem? hth, c, hc, htag, hbefore⟩)⟩
    | _ => trivial
  | _ => trivial

/-- A change from outside. -/
theorem appOk_update {f : World → World} (hok : p.Ok anyEnv appContracts)
    (hf : (f p.state).globals = p.state.globals) : (p.update f).Ok anyEnv appContracts :=
  hok.update (undisturbed_of_sameUser fun _ => .of_eq hf)

/-- A routine is started that leaves the session as it is up to its first call. -/
theorem appOk_start {tag : AppRoutine} {t : Dart Unit} (hok : p.Ok anyEnv appContracts)
    (ht : t.Meets anyEnv (appContracts tag p.state) (appContracts tag p.state).final []
      p.state p.state)
    (hmoves : ∀ c s', (appContracts tag p.state).moves [] p.state c s' →
      p.state.globals.SameUser s'.globals) : (p.start tag t).Ok anyEnv appContracts :=
  hok.start ht (undisturbed_of_sameUser fun _ => hmoves _ _ ht.advance.1)

/-- It holds of the routines when the app has been started. -/
theorem startApp_ok (w : World) : (startApp w).Ok anyEnv appContracts :=
  Pool.Ok.start (Pool.ok_of_threads_nil rfl) (operation_session ⟨0, 0⟩ .isLoggedIn) fun i th c _ hth => by
    simp at hth

/-- What a segment of any routine does to the session, and which document it adds. -/
theorem answer_move {th : Thread remote World Thrown AppRoutine} {s' : World} {c : Option Call}
    {e : Answered remote} (hsession : Publishing p → ∀ o, th.tag = .account o → ¬o.Writes e)
    (hmove : (appContracts th.tag th.born).moves (th.past ++ [e]) p.state c s') :
    (Publishing p → p.state.globals.SameUser s'.globals) ∧
      ∀ doc, c = some (.addEvent doc) →
        (⟨th.born.globals, doc, s'.globals⟩ : Added).Attributed := by
  cases htag : th.tag with
  | publish r =>
    cases r with
    | publishEvent =>
      rw [htag] at hmove
      refine ⟨fun _ => .of_eq hmove.1, fun doc hdoc => ?_⟩
      -- the session is the one of the press up to the call that adds the document
      obtain ⟨⟨hpressed, hsame⟩, hpublisher⟩ := hmove.2 doc hdoc
      exact ⟨by rw [hpublisher, hsame.userFullName], hsame.bLoggedIn.trans hpressed, hsame.firUserId⟩
    | _ =>
      rw [htag] at hmove
      exact ⟨fun _ => .of_eq hmove.1, fun doc hdoc => absurd hdoc (hmove.2 doc)⟩
  | map o =>
    rw [htag] at hmove
    exact ⟨fun _ => .of_eq hmove.1, fun doc hdoc => absurd hdoc (hmove.2 doc)⟩
  | account o =>
    rw [htag] at hmove
    refine ⟨fun hpublishing => ?_, fun doc hdoc => absurd hdoc (hmove.2 doc)⟩
    -- an operation on the session writes it only with a reply that `hsession` excludes
    rcases hmove.1 with hsame | ⟨e', he', hwrites⟩
    · exact hsame
    · obtain rfl : e = e' := by simpa using he'
      exact absurd hwrites (hsession hpublishing o htag)

/-- An unhurried step keeps the contracts, and each add it leads to names its user. -/
theorem appPoolStep_ok (hok : p.Ok anyEnv appContracts) (ha : Unhurried p a)
    (hstep : appPoolStep p a = some p') :
    p'.Ok anyEnv appContracts ∧ ∀ x ∈ a.added p', x.Attributed := by
  cases a with
  | launch =>
    obtain rfl := Option.some.inj hstep
    exact ⟨startApp_ok _, by simp [AppAction.added]⟩
  | operate o page =>
    simp only [appPoolStep] at hstep
    split at hstep
    · cases hstep
    · obtain rfl := Option.some.inj hstep
      refine ⟨appOk_start hok (operation_session _ o) fun c s' hmove => ?_, by simp [AppAction.added]⟩
      rcases hmove.1 with hsame | ⟨e, he, -⟩
      · exact hsame
      · cases he
  | onMap o page =>
    obtain rfl := Option.some.inj hstep
    exact ⟨appOk_start hok (bystander_meets (mapOperation_within _ o) _)
      fun c s' hmove => .of_eq hmove.1, by simp [AppAction.added]⟩
  | initState page date =>
    simp only [appPoolStep] at hstep
    split at hstep
    · obtain rfl := Option.some.inj hstep
      have hset : (p.update fun w => w.setPublish page fun _ => .opened date).Ok anyEnv appContracts :=
        appOk_update hok rfl
      exact ⟨appOk_start hset (bystander_meets (getCurAddress_within _) _)
        fun c s' hmove => .of_eq hmove.1, by simp [AppAction.added]⟩
    · cases hstep
  | edit page e =>
    obtain rfl := Option.some.inj hstep
    exact ⟨appOk_update hok rfl, by simp [AppAction.added]⟩
  | pickLocation page result =>
    obtain rfl := Option.some.inj hstep
    exact ⟨appOk_update hok rfl, by simp [AppAction.added]⟩
  | pickImage page =>
    obtain rfl := Option.some.inj hstep
    exact ⟨appOk_start hok (bystander_meets (getImage_within _) _)
      fun c s' hmove => .of_eq hmove.1, by simp [AppAction.added]⟩
  | press page =>
    simp only [appPoolStep] at hstep
    split at hstep
    · obtain rfl := Option.some.inj hstep
      have hrules := @publisher_rules ⟨p.threads.length, page⟩ p.state (ha.press page rfl)
      exact ⟨appOk_start hok (publishEvent_meets hrules) fun c s' hmove => .of_eq hmove.1,
        by simp [AppAction.added]⟩
    · cases hstep
  | around routes =>
    obtain rfl := Option.some.inj hstep
    exact ⟨appOk_update hok rfl, by simp [AppAction.added]⟩
  | setClock millis =>
    obtain rfl := Option.some.inj hstep
    exact ⟨appOk_update hok rfl, by simp [AppAction.added]⟩
  | answer i e =>
    have hans : p.answer anyEnv i e = some p' := hstep
    obtain ⟨th, t, hth, hawait, -, hmove, -, hthreads⟩ := hok.answer_cases hans trivial
    obtain ⟨hsame, hadd⟩ := answer_move (ha.session · i e th · rfl hth) hmove
    refine ⟨hok.answer hans trivial (undisturbed_of_sameUser hsame), fun x hx => ?_⟩
    have hget : p'.threads[i]? = some { th with past := th.past ++ [e], now := t } := by
      rw [hthreads, List.getElem?_set_self (List.getElem?_eq_some_iff.mp hth).1]
    simp only [AppAction.added, hget] at hx
    split at hx
    · rename_i doc hdoc
      obtain rfl := List.mem_singleton.mp hx
      exact hadd doc hdoc
    · cases hx

/-- It keeps the invariant. -/
theorem AppOk.step (happ : AppOk app) (ha : Unhurried app.pool a) (hstep : appStep app a = some app') :
    AppOk app' := by
  obtain ⟨p, hp, rfl⟩ := Option.map_eq_some_iff.mp hstep
  obtain ⟨hok, hadded⟩ := appPoolStep_ok happ.ok ha hp
  refine ⟨hok, fun x hx => ?_⟩
  rcases List.mem_append.mp hx with hold | hnew
  · exact happ.added x hold
  · exact hadded x hnew

/-- **In every run in which Publish is pressed while somebody is signed in, and nobody writes the
session while a `PublishEvent` is on its way, every document is added under the name of the
user who pressed Publish, while that user is still signed in.** -/
theorem attributed {w : World} {as : List AppAction} {app : App}
    (ha : Along appStep (fun app a => Unhurried app.pool a) (.started w) as)
    (hrun : run appStep (.started w) as = some app) : ∀ x ∈ app.added, x.Attributed :=
  (run_invariant (fun _ _ _ happ ha hstep => happ.step ha hstep)
    (⟨startApp_ok w, fun x hx => by cases hx⟩ : AppOk (.started w)) ha hrun).added

instance : DecidablePred Publishing := fun p => by
  unfold Publishing
  infer_instance

/-- An action that is neither a press nor an answer is unhurried. -/
theorem Unhurried.of_ne (hpress : ∀ page, a ≠ .press page) (hanswer : ∀ i e, a ≠ .answer i e) :
    Unhurried p a where
  press page h := absurd h (hpress page)
  session _ i e _ _ h := absurd h (hanswer i e)

/-- So is an answer while no `PublishEvent` is on its way. -/
theorem Unhurried.of_not_publishing {i : ℕ} {e : Answered remote} (h : ¬Publishing p) :
    Unhurried p (.answer i e) where
  press _ h' := by cases h'
  session h' := absurd h' h

/-- So is the answer to a routine that is no operation on the session. -/
theorem Unhurried.of_tag {i : ℕ} {e : Answered remote} {th : Thread remote World Thrown AppRoutine}
    (hth : p.threads[i]? = some th) (htag : ∀ o, th.tag ≠ .account o) : Unhurried p (.answer i e) where
  press _ h := by cases h
  session _ j e' th' o h hth' htag' := by
    obtain ⟨rfl, -⟩ := AppAction.answer.inj h
    rw [hth] at hth'
    obtain rfl := Option.some.inj hth'
    exact absurd htag' (htag o)

/-- A phone with the Map page, number 0, open. -/
def World.mapOnly (date : DateTime) : World where
  routes := [⟨0, .page .map false⟩]
  nextRoute := 1
  publish _ := .opened date

/-- An account with a name. -/
def ann : FirebaseUser := ⟨"a", "ann@floodup.org", some "Ann"⟩

/-- Ann, who is signed in, opens a Publish page and presses Publish. -/
def annPublishes : List AppAction :=
  [.answer 0 ⟨.currentUser, (.ok (some ann) : Except Fault (Option FirebaseUser))⟩,
    .answer 0 ⟨.getSubscription "ann@floodup.org", (.ok none : Except Fault (Option Data))⟩,
    .onMap .addButton 0, .initState 1 ⟨2020, 1, 1⟩, .edit 1 (.location "Here"), .press 1]

/-- The address Ann entered is found. -/
def hereFound : AppAction :=
  .answer 3 ⟨.placemarkFromAddress "Here",
    (.ok (some [⟨⟨1, 2⟩⟩]) : Except Fault (Option (List Placemark)))⟩

/-- Ann's document has Ann's name. -/
theorem attributed_once :
    ∃ app, run appStep (.started (.mapOnly ⟨2020, 1, 1⟩)) (annPublishes ++ [hereFound]) = some app ∧
      app.added ≠ [] ∧ ∀ x ∈ app.added, x.Attributed := by
  refine ⟨_, rfl, List.cons_ne_nil _ _, @attributed (.mapOnly ⟨2020, 1, 1⟩) (annPublishes ++ [hereFound])
    _ ?_ rfl⟩
  exact ⟨.of_not_publishing (by decide), .of_not_publishing (by decide), .of_ne (by simp) (by simp),
    .of_ne (by simp) (by simp), .of_ne (by simp) (by simp), ⟨fun _ _ => rfl, by simp⟩,
    .of_tag rfl (by simp), trivial⟩

/-- Ann presses Publish, takes the progress dialog away, goes back to the map and logs out: her
document is added under no name. -/
theorem logout_takes_name :
    ¬∀ (w : World) (as : List AppAction) (app : App),
      run appStep (.started w) as = some app → ∀ x ∈ app.added, x.Attributed := by
  intro h
  have hadded := h (.mapOnly ⟨2020, 1, 1⟩)
    (annPublishes ++ [.around [⟨0, .page .map true⟩], .operate .logout 0,
      .answer 4 ⟨.signOut, (.ok () : Except Fault Unit)⟩, hereFound]) _ rfl _ (.head _)
  -- the document has the name of the user who is gone
  have hname : Value.scalar (.string "") = .scalar (.string "Ann") := hadded.publisher
  exact absurd hname (by decide)

end FloodUp
