import FloodUp.Account.Session
import FloodUp.App.Theorems
import FloodUp.Async.Run
import FloodUp.Map.Events

/-!
# The session over whole runs

The app is started, users log in, sign up and log out, and the remote calls of these are answered
in any order. `session_ok` says that the globals describe the current user of Firebase Auth
whenever no operation is pending, in every run whose steps are `Careful`.
-/

namespace FloodUp

open Async

/-! ## The system -/

/-- What signs a user in or out. -/
inductive AccountOperation where
  | isLoggedIn
  | login (email password : String)
  | signup (email password userName isSubscribed : String)
  | logout
deriving DecidableEq, Repr

def AccountOperation.routine (me : Caller) : AccountOperation → Dart Unit
  | .isLoggedIn => do
    let _ ← FloodUp.isLoggedIn
  | .login email password => loginToFireBase me email password
  | .signup email password userName isSubscribed =>
    registerUserToFireBase me email password userName isSubscribed
  | .logout => FloodUp.logout me

/-- The operations that have been started in this process, with the world they share. -/
abbrev AccountPool : Type := Pool remote World Thrown AccountOperation

inductive AccountAction where
  /-- The app is started, as a new process. -/
  | launch
  | start (o : AccountOperation) (page : ℕ)
  | answer (i : ℕ) (e : Answered remote)
  /-- Anything that happens on the screen. -/
  | around (routes : List Route)

/-- `main` calls `isLoggedIn` before there is a page. -/
def launched (w : World) : AccountPool :=
  (⟨{ w with globals := {} }, []⟩ : AccountPool).start .isLoggedIn
    (AccountOperation.isLoggedIn.routine ⟨0, 0⟩)

/-- One action: a launch forgets the process before it, an operation gets the next number. -/
def accountStep (p : AccountPool) : AccountAction → Option AccountPool
  | .launch => some (launched p.state)
  | .start o page =>
    if o = .isLoggedIn then none else some (p.start o (o.routine ⟨p.threads.length, page⟩))
  | .answer i e => p.answer env i e
  | .around routes => some (p.update fun w => { w with routes })

/-- Firebase answers as it should. -/
def AccountAction.Honest (p : AccountPool) : AccountAction → Prop
  | .answer _ e => World.admits e.call e.reply p.state
  | _ => True

/-! ## What is promised -/

/-- The display name registered for an account, empty if there is none. -/
def Auth.registeredName (a : Auth) (uid : String) : String := (a.displayName uid).getD ""

/-- The user's value in `subscriptions`, "No" if there is none or it could not be read. -/
def Auth.subscribed (a : Auth) (email : String) : Option String :=
  if a.readFailed then some "No"
  else match a.subscriptions email with
    | none => some "No"
    | some data => (data.get "subscribed").asString.toOption.join

/-- The globals describe the account `user`. -/
structure Describes (w : World) (user : FirebaseUser) : Prop where
  firUserId : w.globals.firUserId = user.uid
  userEmail : w.globals.userEmail = user.email
  userFullName : w.globals.userFullName = w.auth.registeredName user.uid
  isSubscribed : w.globals.isSubscribed = w.auth.subscribed user.email

/-- The globals describe the current user of Firebase Auth, if there is one. -/
structure SessionOk (w : World) : Prop where
  bLoggedIn : w.globals.bLoggedIn = true ↔ ∃ user, w.auth.current = some user
  user : ∀ user, w.auth.current = some user → Describes w user

/-- No operation waits for an answer. -/
def NonePending (p : AccountPool) : Prop := ¬p.Pending fun _ _ => True

instance (p : AccountPool) : Decidable (NonePending p) :=
  inferInstanceAs (Decidable ¬p.Pending fun _ _ => True)

/-- The answers after which the globals can still be kept right. -/
def CarefulAnswer : (c : Call) → Reply c → World → Prop
  -- the name is copied from a snapshot that does not have it yet
  | .createUserWithEmailAndPassword _ _, .ok _, _ => False
  -- the globals stay those of nobody
  | .currentUser, .error _, w => w.auth.current = none
  -- the handler passes a Dart `Error` on; a login is then left half done
  | .getSubscription _, .error .error, w => w.globals.bLoggedIn = true
  | .getSubscription _, .ok (some data), _ => ∃ value, (data.get "subscribed").asString = .ok value
  | _, _, _ => True

/-- One operation at a time, no login over another, and careful answers. -/
def AccountAction.Careful (p : AccountPool) : AccountAction → Prop
  | .start o _ => NonePending p ∧
    ((∃ email password, o = .login email password) → p.state.globals.bLoggedIn = false)
  | .answer _ e => CarefulAnswer e.call e.reply p.state
  | _ => True

/-! ## The states of a session -/

/-- Nobody is signed in, and the globals are those of nobody. -/
structure SignedOut (w : World) : Prop where
  bLoggedIn : w.globals.bLoggedIn = false
  current : w.auth.current = none
  userFullName : w.globals.userFullName = ""
  isSubscribed : w.globals.isSubscribed = some "No"

/-- The account is signed in, and the globals describe it. -/
structure SignedIn (user : FirebaseUser) (w : World) : Prop where
  bLoggedIn : w.globals.bLoggedIn = true
  current : w.auth.current = some user
  describes : Describes w user

def Settled (w : World) : Prop := SignedOut w ∨ ∃ user, SignedIn user w

/-- A settled session is one whose globals are right. -/
theorem Settled.sessionOk {w : World} (h : Settled w) : SessionOk w := by
  rcases h with h | ⟨user, h⟩
  · exact ⟨by simp [h.bLoggedIn, h.current], fun user huser => by simp [h.current] at huser⟩
  · refine ⟨by simp [h.bLoggedIn, h.current], fun user' huser => ?_⟩
    rw [h.current] at huser
    exact Option.some.inj huser ▸ h.describes

/-- The two worlds agree in the globals and in Firebase Auth. -/
structure World.SameSession (w w' : World) : Prop where
  globals : w'.globals = w.globals
  auth : w'.auth = w.auth

theorem sameData_session (w w' : World) (h : w.SameData w') : w.SameSession w' :=
  ⟨h.globals, h.auth⟩

variable {s s' s₀ : World} {user : FirebaseUser}

theorem SignedOut.congr (h : SignedOut s) (hs : s.SameSession s') : SignedOut s' := by
  obtain ⟨hglobals, hauth⟩ := hs
  exact ⟨hglobals ▸ h.bLoggedIn, hauth ▸ h.current, hglobals ▸ h.userFullName,
    hglobals ▸ h.isSubscribed⟩

theorem SignedIn.congr (h : SignedIn user s) (hs : s.SameSession s') : SignedIn user s' := by
  obtain ⟨hglobals, hauth⟩ := hs
  refine ⟨hglobals ▸ h.bLoggedIn, hauth ▸ h.current, ?_⟩
  obtain ⟨h₁, h₂, h₃, h₄⟩ := h.describes
  constructor <;> rw [hglobals] <;> (try rw [hauth]) <;> assumption

theorem Settled.congr (h : Settled s) (hs : s.SameSession s') : Settled s' :=
  h.imp (·.congr hs) fun ⟨user, h⟩ => ⟨user, h.congr hs⟩

/-- The name is taken over from the account if the globals had none. -/
theorem withUser_userFullName {g : Globals} (h : g.userFullName = "") (user : FirebaseUser) :
    (g.withUser user).userFullName = user.displayName.getD "" := by
  unfold Globals.withUser Globals.withName
  cases user.displayName with
  | none => exact h
  | some name =>
    by_cases hname : name = ""
    · simp [hname, h]
    · simp [hname]

/-- All but the name is copied from the snapshot, and the subscription is left alone. -/
theorem withUser_fields (g : Globals) (user : FirebaseUser) :
    (g.withUser user).bLoggedIn = true ∧ (g.withUser user).firUserId = user.uid ∧
      (g.withUser user).userEmail = user.email ∧
      (g.withUser user).isSubscribed = g.isSubscribed := by
  unfold Globals.withUser Globals.withName
  cases user.displayName with
  | none => exact ⟨rfl, rfl, rfl, rfl⟩
  | some name => by_cases hname : name = "" <;> simp [hname]

/-! ## Parts that only touch the screen -/

/-- A handler that reports a failure touches the screen only. -/
theorem within_reportFailure {R : World → World → Prop} {C : Call → Prop}
    (hR : ∀ w w', World.SameData w w' → R w w') (me : Caller) (message : String) :
    (reportFailure me message).Within R C :=
  .bind (within_hideProgress hR me) fun _ => .bind (within_withContext me) fun _ =>
    .bind (within_showDialog hR me message) fun _ => Routine.within_pure ()

/-- A part of an operation that calls nothing and leaves the session alone. -/
theorem screen_part {α γ : Type} {outside : Env remote World} {K : Contract remote World Thrown γ}
    {h : List (Answered remote)} {t : Dart α}
    {Q : List (Answered remote) → World → Except Thrown α → World → Prop}
    (ht : t.Within World.SameSession fun _ => False) (hQ : ∀ r s', s.SameSession s' → Q h s₀ r s') :
    t.Meets outside K Q h s₀ s :=
  ht.meets_quiet (fun _ => ⟨rfl, rfl⟩) (fun _ _ _ h₁ h₂ =>
    ⟨h₂.globals.trans h₁.globals, h₂.auth.trans h₁.auth⟩) hQ

/-! ## The contract of an operation -/

/-- The login has got its user from Firebase, the globals are still those of nobody. -/
structure Entering (user : FirebaseUser) (s : World) : Prop where
  bLoggedIn : s.globals.bLoggedIn = false
  current : s.auth.current = some user
  displayName : user.displayName = s.auth.displayName user.uid
  userFullName : s.globals.userFullName = ""
  isSubscribed : s.globals.isSubscribed = some "No"

/-- `isLoggedIn` has filled the new globals from the current user's snapshot `user`. -/
structure Entered (user : FirebaseUser) (s : World) : Prop where
  globals : s.globals = ({} : Globals).withUser user
  current : ∃ u, s.auth.current = some u ∧ user = { u with displayName := s.auth.displayName u.uid }

/-- Firebase answers as it should, and such that the globals can be kept right. -/
def accountEnv : Env remote World where
  effect := World.answered
  admits c r s := World.admits c r s ∧ CarefulAnswer c r s

/-- What an operation relies on at each of its calls; it ends in a settled session. -/
def accountContract (o : AccountOperation) : Contract remote World Thrown Unit where
  holds h c s := match o, c with
    | .isLoggedIn, .currentUser => s.globals = {}
    | .isLoggedIn, .getSubscription _ => ∃ user,
      h.getLast? = some ⟨.currentUser, (.ok (some user) : Except Fault (Option FirebaseUser))⟩ ∧
        Entered user s
    | .login _ _, .signInWithEmailAndPassword _ _ => SignedOut s
    | .login email password, .getSubscription _ => ∃ user,
      h.getLast? = some ⟨.signInWithEmailAndPassword email password,
        (.ok user : Except Fault FirebaseUser)⟩ ∧ Entering user s
    | .signup _ _ _ _, .createUserWithEmailAndPassword _ _ => Settled s
    | .logout, .signOut => Settled s
    | _, _ => False
  moves _ _ c s' := c = none → Settled s'
  ends _ _ := True

variable {o : AccountOperation} {h : List (Answered remote)}

/-- Such a part may come last in a settled session. -/
theorem screen_end {t : Dart Unit} (ht : t.Within World.SameSession fun _ => False) (hs : Settled s) :
    t.Meets accountEnv (accountContract o) (accountContract o).final h s₀ s :=
  screen_part ht fun _ _ hsame => ⟨fun _ => hs.congr hsame, trivial⟩

/-- The subscription of `email` has been read into the globals. -/
structure SubscriptionRead (email : String) (s s' : World) : Prop where
  globals : s'.globals = { s.globals with isSubscribed := s'.auth.subscribed email }
  current : s'.auth.current = s.auth.current
  displayName : s'.auth.displayName = s.auth.displayName

/-- Whatever the read answers, the globals hold the right value if they held "No". Only a Dart
`Error` is passed on. -/
theorem readSubscription_meets {email : String}
    {Q : List (Answered remote) → World → Except Thrown Unit → World → Prop}
    (hholds : (accountContract o).holds h (.getSubscription email) s)
    (hno : ∀ s', (accountContract o).holds h (.getSubscription email) s' →
      s'.globals.isSubscribed = some "No")
    (hok : ∀ h' s₁ s₂, (accountContract o).holds h (.getSubscription email) s₁ →
      SubscriptionRead email s₁ s₂ → Q h' s₁ (.ok ()) s₂)
    (herror : ∀ h' s₁ s₂, (accountContract o).holds h (.getSubscription email) s₁ →
      s₁.globals.bLoggedIn = true → SubscriptionRead email s₁ s₂ →
      Q h' s₁ (.error (.fault .error)) s₂) :
    (readSubscription email).Meets accountEnv (accountContract o) Q h s₀ s := by
  unfold readSubscription
  simp only [getSubscription, Routine.bind_eq, Routine.meets_tryCatch, Routine.meets_bind,
    meets_remoteCall]
  refine ⟨by rintro ⟨⟩, hholds, fun s₁ reply hs₁ hadmits => ?_⟩
  have hsub := hno s₁ hs₁
  -- a failed read, or one of no document, leaves "No" where it is
  have hkept : ∀ failed : Bool, (failed = true ∨ s₁.auth.subscriptions email = none) →
      SubscriptionRead email s₁ { s₁ with auth := { s₁.auth with readFailed := failed } } :=
    fun failed hfailed => by
      refine ⟨?_, rfl, rfl⟩
      have hvalue : ({ s₁.auth with readFailed := failed } : Auth).subscribed email = some "No" := by
        unfold Auth.subscribed
        rcases hfailed with rfl | hnone
        · rfl
        · simp [hnone]
      show s₁.globals = { s₁.globals with
        isSubscribed := ({ s₁.auth with readFailed := failed } : Auth).subscribed email }
      rw [hvalue, ← hsub]
  -- three failures, no document, a document
  rcases reply with (code | _ | _) | _ | data
  · exact hok _ s₁ _ hs₁ (hkept true (.inl rfl))
  · exact hok _ s₁ _ hs₁ (hkept true (.inl rfl))
  · exact herror _ s₁ _ hs₁ hadmits.2 (hkept true (.inl rfl))
  · exact hok _ s₁ _ hs₁ (hkept false (.inr (Eq.symm hadmits.1)))
  · obtain ⟨value, hvalue⟩ : ∃ value, (data.get "subscribed").asString = .ok value := hadmits.2
    have hstored : s₁.auth.subscriptions email = some data := Eq.symm hadmits.1
    show (storeSubscription data).Meets _ _ _ _ _ _
    unfold storeSubscription
    rw [hvalue]
    refine hok _ s₁ _ hs₁ ⟨?_, rfl, rfl⟩
    show ({ s₁.globals with isSubscribed := value } : Globals) = _
    have hread : ({ s₁.auth with readFailed := false } : Auth).subscribed email = value := by
      simp [Auth.subscribed, hstored, hvalue, Except.toOption]
    rw [← hread]
    rfl

/-- A login that has read the subscription fills the globals with the account's own values. -/
theorem settled_of_entering {user : FirebaseUser} (hs : Entering user s)
    (hread : SubscriptionRead user.email s s') :
    Settled { s' with globals := s'.globals.withUser user } := by
  obtain ⟨hin, huid, hemail, hsub⟩ := withUser_fields s'.globals user
  -- `withName` overwrites the name only with one that is there, so it has to be empty before
  have hname : s'.globals.userFullName = "" := by rw [hread.globals]; exact hs.userFullName
  refine .inr ⟨user, hin, hread.current.trans hs.current, huid, hemail, ?_, ?_⟩
  · show (s'.globals.withUser user).userFullName = s'.auth.registeredName user.uid
    rw [withUser_userFullName hname, hs.displayName, Auth.registeredName, hread.displayName]
  · show (s'.globals.withUser user).isSubscribed = s'.auth.subscribed user.email
    rw [hsub, hread.globals]

/-- At the start of the app they are filled first and the subscription is read then. -/
theorem settled_of_entered {user : FirebaseUser} (hs : Entered user s)
    (hread : SubscriptionRead user.email s s') : Settled s' := by
  obtain ⟨u, hu, rfl⟩ := hs.current
  obtain ⟨hin, huid, hemail, hsub⟩ := withUser_fields {}
    { u with displayName := s.auth.displayName u.uid }
  have hname := withUser_userFullName (g := {}) rfl { u with displayName := s.auth.displayName u.uid }
  refine .inr ⟨u, ?_, hread.current.trans hu, ?_, ?_, ?_, ?_⟩
  · rw [hread.globals, hs.globals]
    exact hin
  · rw [hread.globals, hs.globals]
    exact huid
  · rw [hread.globals, hs.globals]
    exact hemail
  · rw [hread.globals, hs.globals, Auth.registeredName, hread.displayName]
    exact hname
  · rw [hread.globals]

/-! ## The operations -/

/-- The check at the start of the app, from new globals, ends in a settled session. -/
theorem isLoggedIn_meets (hs : s.globals = {}) :
    (AccountOperation.isLoggedIn.routine ⟨0, 0⟩).Meets accountEnv (accountContract .isLoggedIn)
      (accountContract .isLoggedIn).final [] s s := by
  show (FloodUp.isLoggedIn.bind fun _ => .pure ()).Meets _ _ _ _ _ _
  unfold FloodUp.isLoggedIn
  simp only [currentUser, Routine.bind_eq, Routine.meets_bind, meets_remoteCall]
  refine ⟨by rintro ⟨⟩, hs, fun s₁ reply hs₁ hadmits => ?_⟩
  have hs₁ : s₁.globals = {} := hs₁
  rcases reply with f | _ | user
  -- the start fails with the new globals, which are those of nobody
  · refine ⟨fun _ => .inl ⟨?_, hadmits.2, ?_, ?_⟩, trivial⟩ <;> exact hs₁ ▸ rfl
  · have hnone : s₁.auth.current = none := by
      have hcurrent := hadmits.1
      exact Option.map_eq_none_iff.mp (Eq.symm hcurrent)
    refine ⟨fun _ => .inl ⟨rfl, hnone, rfl, ?_⟩, trivial⟩
    show s₁.globals.isSubscribed = _
    rw [hs₁]
  · obtain ⟨u, hu, huser⟩ := Option.map_eq_some_iff.mp (Eq.symm hadmits.1)
    have hentered : Entered user { s₁ with globals := s₁.globals.withUser user } :=
      ⟨by rw [hs₁], u, hu, huser.symm⟩
    simp only [Except.mapError, id_eq, Routine.meets_bind, Routine.meets_modify]
    refine readSubscription_meets ⟨user, by simp, hentered⟩ (fun s' hs' => ?_)
      (fun h' s₂ s₃ hs₂ hread => ?_) fun h' s₂ s₃ hs₂ _ hread => ?_
    · obtain ⟨user', -, hs'⟩ := hs'
      rw [hs'.globals]
      exact (withUser_fields {} user').2.2.2
    all_goals
      obtain ⟨user', hlast, hs₂⟩ := hs₂
      obtain rfl : user = user' := by simpa using hlast
      exact ⟨fun _ => settled_of_entered hs₂ hread, trivial⟩

/-- A handler that reports a `PlatformException` and passes everything else on. -/
theorem handler_meets {me : Caller} (message : String → String) (e : Thrown) (hs : Settled s) :
    ((e.platformCode.map fun code => reportFailure me (message code)).getD (.throw e)).Meets
      accountEnv (accountContract o) (accountContract o).final h s₀ s := by
  cases e.platformCode with
  | none => exact ⟨fun _ => hs, trivial⟩
  | some code => exact screen_end (within_reportFailure sameData_session me (message code)) hs

/-- A login over nobody ends in a settled session, failed or not. -/
theorem login_meets {me : Caller} {email password : String} (hs : SignedOut s) :
    (loginToFireBase me email password).Meets accountEnv (accountContract (.login email password))
      (accountContract (.login email password)).final [] s s := by
  unfold loginToFireBase
  rw [Routine.bind_eq, Routine.meets_bind]
  refine screen_part (within_showProgress sameData_session me) fun r s₁ hsame => ?_
  rcases r with e | _
  · exact ⟨fun _ => .inl (hs.congr hsame), trivial⟩
  rw [Routine.meets_tryCatch, Routine.bind_eq, Routine.meets_bind, signInWithEmailAndPassword,
    meets_remoteCall]
  refine ⟨by rintro ⟨⟩, hs.congr hsame, fun s₂ reply hs₂ hadmits => ?_⟩
  have hs₂ : SignedOut s₂ := hs₂
  rcases reply with f | user
  · exact handler_meets loginErrorMessage (.fault f) (.inl hs₂)
  · have hentering : Entering user { s₂ with auth := { s₂.auth with current := some user } } :=
      ⟨hs₂.bLoggedIn, rfl, hadmits.1, hs₂.userFullName, hs₂.isSubscribed⟩
    simp only [Except.mapError, id_eq]
    rw [Routine.bind_eq, Routine.meets_bind]
    refine readSubscription_meets ⟨user, by simp, hentering⟩ (fun s' hs' => ?_)
      (fun h' s₃ s₄ hs₃ hread => ?_) fun h' s₃ s₄ hs₃ hin _ => ?_
    · obtain ⟨user', -, hs'⟩ := hs'
      exact hs'.isSubscribed
    · obtain ⟨user', hlast, hs₃⟩ := hs₃
      obtain rfl : user = user' := by simpa using hlast
      have hsettled := settled_of_entering hs₃ hread
      rw [Routine.bind_eq, Routine.meets_bind, Routine.meets_modify]
      have htail : ((hideProgress me).bind fun _ =>
          (Routine.modify fun w => w.setLogin me.page fun p =>
            { p with textEmail := "", textPassword := "" }).bind fun _ =>
          (navigatorPush me (.page .map false)).bind fun _ => (.pure () : Dart Unit)).Within
            World.SameSession fun _ => False :=
        .bind (within_hideProgress sameData_session me) fun _ =>
          .bind ((Routine.within_modify _).mpr fun _ => ⟨rfl, rfl⟩) fun _ =>
            .bind (within_navigatorPush sameData_session me _) fun _ => Routine.within_pure ()
      -- the globals are complete now, and what is left to do only concerns the screen
      refine screen_part htail fun r s₅ hsame => ?_
      cases r with
      | ok _ => exact ⟨fun _ => hsettled.congr hsame, trivial⟩
      | error e => exact handler_meets loginErrorMessage e (hsettled.congr hsame)
    -- an `Error` cannot come here: the globals do not say yet that somebody is logged in
    · obtain ⟨user', -, hs₃⟩ := hs₃
      rw [hs₃.bLoggedIn] at hin
      cases hin

/-- A registration leaves a settled session settled: by a careful answer it fails. -/
theorem signup_meets {me : Caller} {email password userName isSubscribed : String}
    (hs : Settled s) :
    (registerUserToFireBase me email password userName isSubscribed).Meets accountEnv
      (accountContract (.signup email password userName isSubscribed))
      (accountContract (.signup email password userName isSubscribed)).final [] s s := by
  unfold registerUserToFireBase
  rw [Routine.bind_eq, Routine.meets_bind]
  refine screen_part (within_showProgress sameData_session me) fun r s₁ hsame => ?_
  rcases r with e | _
  · exact ⟨fun _ => hs.congr hsame, trivial⟩
  simp only [createUserWithEmailAndPassword, Routine.bind_eq, Routine.meets_tryCatch,
    Routine.meets_bind, meets_remoteCall]
  refine ⟨by rintro ⟨⟩, hs.congr hsame, fun s₂ reply hs₂ hadmits => ?_⟩
  have hs₂ : Settled s₂ := hs₂
  -- a `PlatformException` is reported, anything else passed on; no account is created
  rcases reply with (code | _ | _) | user
  · show ((reportFailure me (registrationErrorMessage code)).bind fun _ => .pure none).Meets
      _ _ _ _ _ _
    rw [Routine.meets_bind]
    refine screen_part (within_reportFailure sameData_session me _) fun r s₃ hsame => ?_
    rcases r with e | _
    · exact ⟨fun _ => hs₂.congr hsame, trivial⟩
    · exact ⟨fun _ => hs₂.congr hsame, trivial⟩
  · exact ⟨fun _ => hs₂, trivial⟩
  · exact ⟨fun _ => hs₂, trivial⟩
  · exact absurd hadmits.2 id

/-- A logout resets the globals with the very answer that signs the user out. -/
theorem logout_meets {me : Caller} (hs : Settled s) :
    (FloodUp.logout me).Meets accountEnv (accountContract .logout) (accountContract .logout).final
      [] s s := by
  have hleave : ((navigatorPop me none).bind fun _ =>
      navigatorPushAndRemoveUntilFirst me (.page .login false)).Within World.SameSession
        fun _ => False :=
    .bind (within_navigatorPop sameData_session me none) fun _ =>
      within_navigatorPushAndRemoveUntilFirst sameData_session me _
  unfold FloodUp.logout
  simp only [Routine.bind_eq, Routine.meets_bind, Routine.meets_get]
  by_cases hin : s.globals.bLoggedIn = true
  · rw [if_pos hin, Routine.meets_bind]
    refine screen_part (within_showProgress sameData_session me) fun r s₁ hsame => ?_
    rcases r with e | _
    · exact ⟨fun _ => hs.congr hsame, trivial⟩
    rw [Routine.meets_bind, signOut, meets_remoteCall]
    refine ⟨by rintro ⟨⟩, hs.congr hsame, fun s₂ reply hs₂ _ => ?_⟩
    have hs₂ : Settled s₂ := hs₂
    rcases reply with f | _
    · exact ⟨fun _ => hs₂, trivial⟩
    · simp only [Except.mapError, id_eq, Routine.meets_bind]
      refine meets_hideProgress fun s₃ hsame => ?_
      -- the globals are reset in the segment in which Firebase has signed out
      rw [Routine.meets_modify, ← Routine.meets_bind]
      refine screen_end hleave (.inl ⟨rfl, ?_, rfl, rfl⟩)
      exact congrArg Auth.current hsame.auth
  · rw [if_neg hin]
    exact screen_end hleave hs

/-! ## Runs -/

/-- The invariant: every operation keeps its contract, one is pending at most, and the session is
settled when none is. -/
structure AccountSound (p : AccountPool) : Prop where
  ok : p.Ok accountEnv fun o _ => accountContract o
  single : p.Single
  settled : p.Idle → Settled p.state

variable {p p' : AccountPool} {a : AccountAction}

theorem Entering.congr (h : Entering user s) (hs : s.SameSession s') : Entering user s' := by
  obtain ⟨hglobals, hauth⟩ := hs
  exact ⟨hglobals ▸ h.bLoggedIn, hauth ▸ h.current, hauth ▸ h.displayName,
    hglobals ▸ h.userFullName, hglobals ▸ h.isSubscribed⟩

theorem Entered.congr (h : Entered user s) (hs : s.SameSession s') : Entered user s' :=
  ⟨hs.globals.trans h.globals, hs.auth ▸ h.current⟩

/-- What an operation relies on during a call does not depend on the screen. -/
theorem accountContract_congr {c : Call} (hs : s.SameSession s')
    (hholds : (accountContract o).holds h c s) : (accountContract o).holds h c s' := by
  cases o with
  | isLoggedIn =>
    cases c with
    | currentUser => exact hs.globals.trans hholds
    | getSubscription _ => exact Exists.imp (fun _ h => ⟨h.1, h.2.congr hs⟩) hholds
    | _ => exact absurd hholds id
  | login _ _ =>
    cases c with
    | signInWithEmailAndPassword _ _ => exact SignedOut.congr hholds hs
    | getSubscription _ => exact Exists.imp (fun _ h => ⟨h.1, h.2.congr hs⟩) hholds
    | _ => exact absurd hholds id
  | signup _ _ _ _ =>
    cases c with
    | createUserWithEmailAndPassword _ _ => exact Settled.congr hholds hs
    | _ => exact absurd hholds id
  | logout =>
    cases c with
    | signOut => exact Settled.congr hholds hs
    | _ => exact absurd hholds id

/-- A start makes the operation the only one pending. -/
theorem accountSound_start (hok : p.Ok accountEnv fun o _ => accountContract o) (hidle : p.Idle)
    {t : Dart Unit} (ht : t.Meets accountEnv (accountContract o) (accountContract o).final []
      p.state p.state) : AccountSound (p.start o t) where
  ok := hok.start ht hidle.undisturbed
  single := hidle.single_start o t
  -- the new thread is the last one; if it is idle, it has already ended
  settled hstarted := ht.advance.1 (hstarted _ _ List.getElem?_concat_length)

/-- It holds when the app has been started. -/
theorem accountSound_launched (w : World) : AccountSound (launched w) :=
  accountSound_start (Pool.ok_of_threads_nil rfl) (fun i th hth => by simp at hth)
    (isLoggedIn_meets rfl)

/-- Every honest and careful step keeps it. -/
theorem accountSound_step (hs : AccountSound p) (hhonest : a.Honest p) (hcareful : a.Careful p)
    (hstep : accountStep p a = some p') : AccountSound p' := by
  cases a with
  | launch =>
    obtain rfl := Option.some.inj hstep
    exact accountSound_launched p.state
  | start o page =>
    simp only [accountStep] at hstep
    split at hstep
    · cases hstep
    · obtain rfl := Option.some.inj hstep
      obtain ⟨hnone, hlogin⟩ := hcareful
      have hidle := Pool.idle_of_not_pending hnone
      have hsettled := hs.settled hidle
      refine accountSound_start hs.ok hidle ?_
      cases o with
      | isLoggedIn => contradiction
      | login email password =>
        have hout := hlogin ⟨email, password, rfl⟩
        rcases hsettled with h | ⟨user, h⟩
        · exact login_meets h
        · rw [h.bLoggedIn] at hout
          cases hout
      | signup email password userName isSubscribed => exact signup_meets hsettled
      | logout => exact logout_meets hsettled
  | answer i e =>
    have hans : p.answer accountEnv i e = some p' := hstep
    have hadm : accountEnv.admits e.call e.reply p.state := ⟨hhonest, hcareful⟩
    obtain ⟨th, t, hth, hawait, -, hmove, -, hthreads⟩ := hs.ok.answer_cases hans hadm
    refine ⟨hs.ok.answer hans hadm (hs.single.undisturbed hth hawait),
      hs.single.answer hth hawait hthreads, fun hidle => hmove (hidle i
        { th with past := th.past ++ [e], now := t } ?_)⟩
    -- an idle pool means that the thread just answered has ended, and its last move has settled
    -- the session
    rw [hthreads, List.getElem?_set_self (List.getElem?_eq_some_iff.mp hth).1]
  | around routes =>
    obtain rfl := Option.some.inj hstep
    have hsame : p.state.SameSession { p.state with routes } := ⟨rfl, rfl⟩
    exact ⟨hs.ok.update fun i th c _ _ _ hholds => accountContract_congr hsame hholds, hs.single,
      fun hidle => (hs.settled hidle).congr hsame⟩

/-- **In every run whose steps are careful the globals describe the current user whenever no
operation is pending.** -/
theorem session_ok {w : World} {as : List AccountAction} {p : AccountPool}
    (hhonest : Along accountStep (fun p a => a.Honest p) (launched w) as)
    (hcareful : Along accountStep (fun p a => a.Careful p) (launched w) as)
    (hrun : run accountStep (launched w) as = some p) (hnone : NonePending p) :
    SessionOk p.state :=
  ((run_invariant (fun _ _ _ hs ha hstep => accountSound_step hs ha.1 ha.2 hstep)
    (accountSound_launched w) (hhonest.and hcareful) hrun).settled
      (Pool.idle_of_not_pending hnone)).sessionOk

/-- A member's account, with the name registered for it. -/
def member : FirebaseUser := ⟨"u1", "ann@floodup.org", some "Ann"⟩

/-- The app of a member who is not signed in, with the Login page, number 0, open. -/
def World.memberSignedOut (date : DateTime) : World where
  routes := [⟨0, .page .login false⟩]
  nextRoute := 1
  publish _ := { createDate := date }
  auth :=
    { displayName := Function.update (fun _ => none) member.uid member.displayName
      subscriptions := Function.update (fun _ => none) member.email
        (some [("subscribed", .scalar (.string "Yes"))]) }

/-- The app finds nobody signed in; a first login fails, the second one is answered by the account
and by its subscription. -/
def loginRetried : List AccountAction :=
  [.answer 0 ⟨.currentUser, (.ok none : Except Fault (Option FirebaseUser))⟩,
    .start (.login member.email "secrte") 0,
    .answer 1 ⟨.signInWithEmailAndPassword member.email "secrte",
      (.error (.platformException "ERROR_WRONG_PASSWORD") : Except Fault FirebaseUser)⟩,
    .start (.login member.email "secret") 0,
    .answer 2 ⟨.signInWithEmailAndPassword member.email "secret",
      (.ok member : Except Fault FirebaseUser)⟩,
    .answer 2 ⟨.getSubscription member.email,
      (.ok (some [("subscribed", .scalar (.string "Yes"))]) : Except Fault (Option Data))⟩]

/-- The second login has succeeded: the globals are those of the member. -/
theorem session_ok_login :
    ∃ p, run accountStep (launched (.memberSignedOut ⟨2020, 1, 1⟩)) loginRetried = some p ∧
      p.state.auth.current = some member ∧ SessionOk p.state := by
  refine ⟨_, rfl, rfl, ?_⟩
  refine @session_ok (.memberSignedOut ⟨2020, 1, 1⟩) loginRetried _ ?_ ?_ rfl (by decide)
  -- what Firebase answers is what it holds
  · exact ⟨rfl, trivial, trivial, trivial, rfl, rfl, trivial⟩
  -- each login starts when nothing is pending and nobody is logged in
  · exact ⟨trivial, ⟨by decide, fun _ => rfl⟩, trivial, ⟨by decide, fun _ => rfl⟩, trivial, ⟨_, rfl⟩,
      trivial⟩

/-- The account of a user who has just signed up. -/
def newcomer : FirebaseUser := ⟨"u1", "ann@floodup.org", none⟩

/-- The app of a user who is not signed in, with the Sign-up page, number 0, open. -/
def World.signupOpened (date : DateTime) : World where
  routes := [⟨0, .page .signup false⟩]
  nextRoute := 1
  publish _ := { createDate := date }

/-- A user signs up as "Ann": the name is taken from the snapshot made before it was set, so
`userFullName` stays empty. -/
theorem signup_leaves_name_empty :
    ¬∀ (w : World) (as : List AccountAction) (p : AccountPool),
      Along accountStep (fun p a => a.Honest p) (launched w) as →
      run accountStep (launched w) as = some p → NonePending p → SessionOk p.state := by
  intro hall
  have hok := hall (.signupOpened ⟨2020, 1, 1⟩)
    [.answer 0 ⟨.currentUser, (.ok none : Except Fault (Option FirebaseUser))⟩,
      .start (.signup "ann@floodup.org" "secret" "Ann" "Yes") 0,
      .answer 1 ⟨.createUserWithEmailAndPassword "ann@floodup.org" "secret",
        (.ok newcomer : Except Fault FirebaseUser)⟩,
      .answer 1 ⟨.updateProfile "u1" "Ann", (.ok () : Except Fault Unit)⟩,
      .answer 1 ⟨.setSubscription "ann@floodup.org" "Yes", (.ok () : Except Fault Unit)⟩,
      .answer 1 ⟨.dialog 2, ()⟩]
    _ ⟨rfl, trivial, ⟨rfl, rfl⟩, trivial, trivial, trivial, trivial⟩ rfl
    (by decide)
  have hname : "" = "Ann" := (hok.user newcomer rfl).userFullName
  exact absurd hname (by decide)

end FloodUp
