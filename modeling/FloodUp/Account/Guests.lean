import FloodUp.Account.Runs

/-!
# Nobody or one account

Operations on the session may overlap in any way: two logins, a sign-up after a logout that is
still waiting, answers in any order. Their writes to the globals are nevertheless whole: from the
moment the app has started, the globals are those of nobody, or uid and email are those of one
account that Firebase has handed to the app since (`nobody_or_one`). The name follows its own way:
it is the display name of some account handed out since, if it is there at all.
-/

namespace FloodUp

open Async

/-! ## What the globals say -/

/-- The globals of nobody. -/
structure Globals.Nobody (g : Globals) : Prop where
  firUserId : g.firUserId = ""
  userFullName : g.userFullName = ""
  userEmail : g.userEmail = ""
  isSubscribed : g.isSubscribed = some "No"
  bLoggedIn : g.bLoggedIn = false

/-- The globals name the account of the snapshot `user`. -/
structure Globals.Names (g : Globals) (user : FirebaseUser) : Prop where
  firUserId : g.firUserId = user.uid
  userEmail : g.userEmail = user.email
  bLoggedIn : g.bLoggedIn = true

/-- The answer hands out the snapshot `user`. -/
def Hands (user : FirebaseUser) : Answered remote → Prop
  | ⟨.signInWithEmailAndPassword _ _, reply⟩ => reply = .ok user
  | ⟨.createUserWithEmailAndPassword _ _, reply⟩ => reply = .ok user
  | ⟨.currentUser, reply⟩ => reply = .ok (some user)
  | _ => False

/-- Some operation of this start of the app has been handed the snapshot `user`. -/
def Handed (p : AccountPool) (user : FirebaseUser) : Prop :=
  ∃ th ∈ p.threads, ∃ e ∈ th.past, Hands user e

theorem nobody_empty : ({} : Globals).Nobody := ⟨rfl, rfl, rfl, rfl, rfl⟩

theorem nobody_loggedOut (g : Globals) : g.loggedOut.Nobody := ⟨rfl, rfl, rfl, rfl, rfl⟩

theorem names_withUser (g : Globals) (user : FirebaseUser) : (g.withUser user).Names user := by
  obtain ⟨hin, huid, hemail, -⟩ := withUser_fields g user
  exact ⟨huid, hemail, hin⟩

/-- The name stays, or it is the one of the account. -/
theorem userFullName_withUser (g : Globals) (user : FirebaseUser) :
    (g.withUser user).userFullName = g.userFullName ∨
      user.displayName = some (g.withUser user).userFullName := by
  unfold Globals.withUser Globals.withName
  cases user.displayName with
  | none => exact .inl rfl
  | some name =>
    by_cases hname : name = ""
    · simp [hname]
    · simp [hname]

/-! ## The contract of an operation -/

/-- What a segment after the answers `h` does to the globals. -/
inductive SessionMove (h : List (Answered remote)) (g g' : Globals) : Prop where
  | same (hsame : g' = g)
  | nobody (hnobody : g'.Nobody)
  | names (user : FirebaseUser) (hhands : ∃ e ∈ h, Hands user e) (hnames : g'.Names user)
    (hname : g'.userFullName = g.userFullName ∨ user.displayName = some g'.userFullName)

/-- Only the check at the start of the app relies on anything: that it is alone. -/
def guestContract (o : AccountOperation) : Contract remote World Thrown Unit where
  holds h c s := match o, c with
    | .isLoggedIn, .currentUser => s.globals = {}
    | .isLoggedIn, .getSubscription _ => ∃ user, (∃ e ∈ h, Hands user e) ∧ s.globals.Names user
    | _, _ => True
  moves h s _ s' := SessionMove h s.globals s'.globals
  ends _ _ := True

variable {o : AccountOperation} {h : List (Answered remote)} {s s' s₀ : World}

/-- A segment that ends without touching the globals. -/
theorem guest_same {r : Except Thrown Unit} (hs : s.globals = s₀.globals) :
    (guestContract o).final h s₀ r s := ⟨.same hs, trivial⟩

/-- A part that only touches the screen may come last. -/
theorem guest_screen {t : Dart Unit} (ht : t.Within World.SameSession fun _ => False)
    (hmove : SessionMove h s₀.globals s.globals) :
    t.Meets anyEnv (guestContract o) (guestContract o).final h s₀ s :=
  screen_part ht fun _ s' hsame => by
    have hmove' : SessionMove h s₀.globals s'.globals := by rwa [hsame.globals]
    exact ⟨hmove', trivial⟩

/-- A handler that reports a `PlatformException` and passes everything else on. -/
theorem guest_handler {me : Caller} (message : String → String) (e : Thrown)
    (hs : s.globals = s₀.globals) :
    ((e.platformCode.map fun code => reportFailure me (message code)).getD (.throw e)).Meets
      anyEnv (guestContract o) (guestContract o).final h s₀ s := by
  cases e.platformCode with
  | none => exact guest_same hs
  | some code => exact guest_screen (within_reportFailure sameData_session me _) (.same hs)

/-- Reading a subscription writes `isSubscribed` at most; what it passes on is no
`PlatformException`. -/
theorem guest_readSubscription {email : String}
    {Q : List (Answered remote) → World → Except Thrown Unit → World → Prop}
    (hs : SessionMove h s₀.globals s.globals)
    (hholds : (guestContract o).holds h (.getSubscription email) s)
    (hok : ∀ e s₁ s₂ isSubscribed, (guestContract o).holds h (.getSubscription email) s₁ →
      s₂.globals = { s₁.globals with isSubscribed } → Q (h ++ [e]) s₁ (.ok ()) s₂)
    (herror : ∀ e s₁ s₂ (thrown : Thrown), thrown.platformCode = none →
      s₂.globals = s₁.globals → Q (h ++ [e]) s₁ (.error thrown) s₂) :
    (readSubscription email).Meets anyEnv (guestContract o) Q h s₀ s := by
  unfold readSubscription
  simp only [getSubscription, Routine.bind_eq, Routine.meets_tryCatch, Routine.meets_bind,
    meets_remoteCall]
  refine ⟨hs, hholds, fun s₁ reply hs₁ _ => ?_⟩
  -- three failures, no document, a document
  rcases reply with (code | _ | _) | _ | data
  · exact hok _ s₁ _ s₁.globals.isSubscribed hs₁ rfl
  · exact hok _ s₁ _ s₁.globals.isSubscribed hs₁ rfl
  · exact herror _ s₁ _ _ rfl rfl
  · exact hok _ s₁ _ s₁.globals.isSubscribed hs₁ rfl
  · show (storeSubscription data).Meets _ _ _ _ _ _
    unfold storeSubscription
    cases hvalue : (data.get "subscribed").asString with
    | ok value => exact hok _ s₁ _ value hs₁ rfl
    | error e =>
      -- a value that is no text: the `TypeError` is passed on
      obtain rfl := Value.asString_error hvalue
      exact herror _ s₁ _ .typeError rfl rfl

/-! ## The operations -/

theorem guest_isLoggedIn (hs : s.globals = {}) :
    (AccountOperation.isLoggedIn.routine ⟨0, 0⟩).Meets anyEnv (guestContract .isLoggedIn)
      (guestContract .isLoggedIn).final [] s s := by
  show (FloodUp.isLoggedIn.bind fun _ => .pure ()).Meets _ _ _ _ _ _
  unfold FloodUp.isLoggedIn
  simp only [currentUser, Routine.bind_eq, Routine.meets_bind, meets_remoteCall]
  refine ⟨.same rfl, hs, fun s₁ reply hs₁ _ => ?_⟩
  have hs₁ : s₁.globals = {} := hs₁
  rcases reply with f | _ | user
  · exact guest_same rfl
  -- nothing has been written since the start, so `isSubscribed` need not be reset
  · refine ⟨.nobody ⟨rfl, rfl, rfl, ?_, rfl⟩, trivial⟩
    show s₁.globals.isSubscribed = _
    rw [hs₁]
  · have hhands : ∃ e ∈ ([⟨.currentUser,
        (.ok (some user) : Except Fault (Option FirebaseUser))⟩] : List (Answered remote)),
        Hands user e := ⟨_, .head _, rfl⟩
    have hnames := names_withUser s₁.globals user
    simp only [Except.mapError, id_eq, Routine.meets_bind, Routine.meets_modify]
    refine guest_readSubscription ?_ ⟨user, hhands, hnames⟩ (fun e s₂ s₃ value hs₂ hwrite => ?_)
      fun e s₂ s₃ thrown _ hwrite => guest_same hwrite
    · exact .names user hhands hnames (userFullName_withUser _ _)
    -- the subscription comes in a segment of its own, to the globals of the same account
    · obtain ⟨user', ⟨e', he', hhands'⟩, hnames'⟩ := hs₂
      refine ⟨.names user' ⟨e', List.mem_append_left _ he', hhands'⟩ ?_ (.inl ?_), trivial⟩
      · rw [hwrite]
        exact ⟨hnames'.firUserId, hnames'.userEmail, hnames'.bLoggedIn⟩
      · rw [hwrite]

/-- The assignments after a user has been obtained, in a segment that may have written
`isSubscribed` before. -/
theorem sessionMove_withUser {user : FirebaseUser} {g g' : Globals} {isSubscribed : Option String}
    (hhands : ∃ e ∈ h, Hands user e) (hg : g' = { g with isSubscribed }) :
    SessionMove h g (g'.withUser user) := by
  refine .names user hhands (names_withUser g' user) ?_
  have hname := userFullName_withUser g' user
  rwa [hg] at hname ⊢

theorem guest_login {me : Caller} {email password : String} (s : World) :
    (loginToFireBase me email password).Meets anyEnv (guestContract (.login email password))
      (guestContract (.login email password)).final [] s s := by
  unfold loginToFireBase
  rw [Routine.bind_eq, Routine.meets_bind]
  refine screen_part (within_showProgress sameData_session me) fun r s₁ hsame => ?_
  rcases r with e | _
  · exact guest_same hsame.globals
  rw [Routine.meets_tryCatch, Routine.bind_eq, Routine.meets_bind, signInWithEmailAndPassword,
    meets_remoteCall]
  refine ⟨.same hsame.globals, trivial, fun s₂ reply _ _ => ?_⟩
  rcases reply with f | user
  · exact guest_handler loginErrorMessage (.fault f) rfl
  · simp only [Except.mapError, id_eq]
    rw [Routine.bind_eq, Routine.meets_bind]
    refine guest_readSubscription (.same rfl) trivial (fun e s₃ s₄ value _ hwrite => ?_)
      fun e s₃ s₄ thrown hcode hwrite => ?_
    · rw [Routine.bind_eq, Routine.meets_bind, Routine.meets_modify]
      have htail : ((hideProgress me).bind fun _ =>
          (Routine.modify fun w => w.setLogin me.page fun p =>
            { p with textEmail := "", textPassword := "" }).bind fun _ =>
          (navigatorPush me (.page .map false)).bind fun _ => (.pure () : Dart Unit)).Within
            World.SameSession fun _ => False :=
        .bind (within_hideProgress sameData_session me) fun _ =>
          .bind ((Routine.within_modify _).mpr fun _ => ⟨rfl, rfl⟩) fun _ =>
            .bind (within_navigatorPush sameData_session me _) fun _ => Routine.within_pure ()
      -- `isSubscribed` and the user are written in one segment
      let signedIn : Answered remote :=
        ⟨.signInWithEmailAndPassword email password, (.ok user : Except Fault FirebaseUser)⟩
      have hmove : SessionMove ([signedIn] ++ [e]) s₃.globals (s₄.globals.withUser user) :=
        sessionMove_withUser ⟨signedIn, by simp, rfl⟩ hwrite
      refine screen_part htail fun r s₅ hsame => ?_
      have hmove' : SessionMove ([signedIn] ++ [e]) s₃.globals s₅.globals := by
        rwa [hsame.globals]
      cases r with
      | ok _ => exact ⟨hmove', trivial⟩
      | error thrown =>
        show ((thrown.platformCode.map fun code => reportFailure me (loginErrorMessage code)).getD
          (.throw thrown)).Meets _ _ _ _ _ _
        cases thrown.platformCode with
        | none => exact ⟨hmove', trivial⟩
        | some code => exact guest_screen (within_reportFailure sameData_session me _) hmove'
    · show ((thrown.platformCode.map fun code => reportFailure me (loginErrorMessage code)).getD
        (.throw thrown)).Meets _ _ _ _ _ _
      exact guest_handler loginErrorMessage thrown hwrite

theorem guest_signup {me : Caller} {email password userName isSubscribed : String} (s : World) :
    (registerUserToFireBase me email password userName isSubscribed).Meets anyEnv
      (guestContract (.signup email password userName isSubscribed))
      (guestContract (.signup email password userName isSubscribed)).final [] s s := by
  unfold registerUserToFireBase
  rw [Routine.bind_eq, Routine.meets_bind]
  refine screen_part (within_showProgress sameData_session me) fun r s₁ hsame => ?_
  rcases r with e | _
  · exact guest_same hsame.globals
  simp only [createUserWithEmailAndPassword, updateProfile, Routine.bind_eq, Routine.meets_tryCatch,
    Routine.meets_bind, meets_remoteCall]
  refine ⟨.same hsame.globals, trivial, fun s₂ reply _ _ => ?_⟩
  rcases reply with (code | _ | _) | user
  · show ((reportFailure me (registrationErrorMessage code)).bind fun _ => .pure none).Meets
      _ _ _ _ _ _
    rw [Routine.meets_bind]
    refine screen_part (within_reportFailure sameData_session me _) fun r s₃ hsame => ?_
    rcases r with e | _
    · exact guest_same hsame.globals
    · exact guest_same hsame.globals
  · exact guest_same rfl
  · exact guest_same rfl
  refine ⟨.same rfl, trivial, fun s₃ reply _ _ => ?_⟩
  rcases reply with f | _
  · exact guest_same rfl
  simp only [Except.mapError, id_eq, registered, saveSubscription, setSubscription, Routine.bind_eq,
    Routine.meets_bind, Routine.meets_tryCatch, meets_remoteCall]
  refine ⟨.same rfl, trivial, fun s₄ reply _ _ => ?_⟩
  let created : Answered remote := ⟨.createUserWithEmailAndPassword email password,
    (.ok user : Except Fault FirebaseUser)⟩
  -- whatever became of the subscription, the user is entered in the same segment
  have henter : ∀ (e₁ e₂ : Answered remote) (s₅ : World) (value : Option String),
      s₅.globals = { s₄.globals with isSubscribed := value } →
      (enterRegistered me user).Meets anyEnv
        (guestContract (.signup email password userName isSubscribed))
        (guestContract (.signup email password userName isSubscribed)).final
        ([created] ++ [e₁] ++ [e₂]) s₄ s₅ := by
    intro e₁ e₂ s₅ value hwrite
    unfold enterRegistered
    rw [Routine.bind_eq, Routine.meets_bind]
    refine meets_hideProgress fun s₆ hsame => ?_
    rw [Routine.bind_eq, Routine.meets_bind, Routine.meets_modify]
    have hmove : SessionMove ([created] ++ [e₁] ++ [e₂]) s₄.globals (s₆.globals.withUser user) :=
      sessionMove_withUser ⟨created, by simp, rfl⟩ (hsame.globals.trans hwrite)
    simp only [awaitDialog, Routine.bind_eq, Routine.meets_bind]
    refine screen_part (within_showDialog sameData_session me _) fun r s₇ hsame₇ => ?_
    have hmove' : SessionMove ([created] ++ [e₁] ++ [e₂]) s₄.globals s₇.globals := by
      rwa [hsame₇.globals]
    rcases r with e | id
    · exact ⟨hmove', trivial⟩
    · refine (meets_dialogClosed _ _ _ _).mpr ⟨hmove', trivial, fun s₈ y _ _ => ?_⟩
      rw [← Routine.meets_bind]
      exact guest_screen (.bind (within_navigatorPush sameData_session me _) fun _ =>
        Routine.within_pure ()) (.same rfl)
  rcases reply with (code | _ | _) | _
  · exact henter _ _ _ s₄.globals.isSubscribed rfl
  · exact henter _ _ _ s₄.globals.isSubscribed rfl
  · exact guest_same rfl
  · exact henter _ _ _ (some isSubscribed) rfl

theorem guest_logout {me : Caller} (s : World) :
    (FloodUp.logout me).Meets anyEnv (guestContract .logout) (guestContract .logout).final [] s s := by
  have hleave : ((navigatorPop me none).bind fun _ =>
      navigatorPushAndRemoveUntilFirst me (.page .login false)).Within World.SameSession
        fun _ => False :=
    .bind (within_navigatorPop sameData_session me none) fun _ =>
      within_navigatorPushAndRemoveUntilFirst sameData_session me _
  unfold FloodUp.logout
  simp only [Routine.bind_eq, Routine.meets_bind, Routine.meets_get]
  by_cases hin : s.globals.bLoggedIn = true
  · rw [if_pos hin, Routine.meets_bind]
    refine screen_part (within_showProgress sameData_session me) fun r s₁ hsame => ?_
    rcases r with e | _
    · exact guest_same hsame.globals
    rw [Routine.meets_bind, signOut, meets_remoteCall]
    refine ⟨.same hsame.globals, trivial, fun s₂ reply _ _ => ?_⟩
    rcases reply with f | _
    · exact guest_same rfl
    · simp only [Except.mapError, id_eq, Routine.meets_bind]
      refine meets_hideProgress fun s₃ _ => ?_
      rw [Routine.meets_modify, ← Routine.meets_bind]
      exact guest_screen hleave (.nobody (nobody_loggedOut _))
  · rw [if_neg hin]
    exact guest_screen hleave (.same rfl)

theorem guest_routine (ho : o ≠ .isLoggedIn) (me : Caller) (s : World) :
    (o.routine me).Meets anyEnv (guestContract o) (guestContract o).final [] s s := by
  cases o with
  | isLoggedIn => exact absurd rfl ho
  | login email password => exact guest_login s
  | signup email password userName isSubscribed => exact guest_signup s
  | logout => exact guest_logout s

/-! ## Runs -/

/-- `main` has got the answer of `isLoggedIn`, and the app is on the screen. -/
def Shown (p : AccountPool) : Prop :=
  ∃ th, p.threads[0]? = some th ∧ th.now.result = some (.ok ())

/-- `runApp` comes after `await isLoggedIn()`. -/
def AccountAction.AfterStart (p : AccountPool) : AccountAction → Prop
  | .start _ _ => Shown p
  | _ => True

/-- The globals are those of nobody or of one account handed out, and so is the name. -/
structure Accounted (p : AccountPool) : Prop where
  session : p.state.globals.Nobody ∨ ∃ user, Handed p user ∧ p.state.globals.Names user
  name : p.state.globals.userFullName = "" ∨
    ∃ user, Handed p user ∧ user.displayName = some p.state.globals.userFullName

structure GuestInv (p : AccountPool) : Prop where
  ok : p.Ok anyEnv fun o _ => guestContract o
  /-- Only the first thread is the check at the start, and nothing is started before its end. -/
  first : ∀ i th, p.threads[i]? = some th → th.tag = .isLoggedIn → i = 0
  later : ∀ i th, p.threads[i]? = some th → i ≠ 0 → Shown p
  accounted : Accounted p

variable {p p' : AccountPool} {a : AccountAction}

/-- The segment of a thread of `p'` that led there from `p`. -/
theorem Accounted.move {h : List (Answered remote)} (hp : Accounted p)
    (hmove : SessionMove h p.state.globals p'.state.globals)
    (hkeeps : ∀ user, Handed p user → Handed p' user)
    (hnew : ∀ user, (∃ e ∈ h, Hands user e) → Handed p' user) : Accounted p' := by
  cases hmove with
  | same hsame =>
    constructor
    · rw [hsame]
      exact hp.session.imp id fun ⟨user, hhanded, hnames⟩ => ⟨user, hkeeps user hhanded, hnames⟩
    · rw [hsame]
      exact hp.name.imp id fun ⟨user, hhanded, hname⟩ => ⟨user, hkeeps user hhanded, hname⟩
  | nobody hnobody => exact ⟨.inl hnobody, .inl hnobody.userFullName⟩
  | names user hhands hnames hname =>
    refine ⟨.inr ⟨user, hnew user hhands, hnames⟩, ?_⟩
    rcases hname with hold | hnew'
    -- the name of whoever was there before
    · rw [hold]
      exact hp.name.imp id fun ⟨user, hhanded, hname⟩ => ⟨user, hkeeps user hhanded, hname⟩
    · exact .inr ⟨user, hnew user hhands, hnew'⟩

theorem Shown.not_awaiting (h : Shown p) {th : Thread remote World Thrown AccountOperation}
    (hth : p.threads[0]? = some th) : th.now.awaiting = none := by
  obtain ⟨th', hth', hended⟩ := h
  obtain rfl := Option.some.inj (hth.symm.trans hth')
  cases hnow : th.now <;> simp [hnow, Routine.result, Routine.awaiting] at hended ⊢

/-- Nothing but the check at the start notices changes of the globals, and it is alone. -/
theorem GuestInv.undisturbed (hinv : GuestInv p) {s' : World} {j : Option ℕ}
    (h : s'.globals = p.state.globals ∨ j = some 0 ∨ Shown p) :
    p.Undisturbed (fun o _ => guestContract o) s' j := by
  intro i th c hij hth hc hholds
  by_cases htag : th.tag = .isLoggedIn
  · obtain rfl := hinv.first i th hth htag
    rcases h with hsame | hj | hshown
    · rw [htag] at hholds ⊢
      cases c with
      | currentUser => exact hsame.trans hholds
      | getSubscription email =>
        obtain ⟨user, hhands, hnames⟩ := hholds
        exact ⟨user, hhands, hsame ▸ hnames⟩
      | _ => trivial
    · exact absurd hj.symm hij
    · rw [hshown.not_awaiting hth] at hc
      cases hc
  · cases o : th.tag with
    | isLoggedIn => exact absurd o htag
    | _ => trivial

theorem GuestInv.launched (w : World) : GuestInv (launched w) where
  ok := Pool.Ok.start (Pool.ok_of_threads_nil rfl) (guest_isLoggedIn rfl)
    fun i th c _ hth => by simp at hth
  first i th hth _ := by
    have hlt := (List.getElem?_eq_some_iff.mp hth).1
    have hone : (FloodUp.launched w).threads.length = 1 := rfl
    omega
  later i th hth hi := by
    have hlt := (List.getElem?_eq_some_iff.mp hth).1
    have hone : (FloodUp.launched w).threads.length = 1 := rfl
    omega
  accounted := ⟨.inl nobody_empty, .inl rfl⟩

theorem handed_start {t : Dart Unit} {user : FirebaseUser} (h : Handed p user) :
    Handed (p.start o t) user := by
  obtain ⟨th, hth, he⟩ := h
  exact ⟨th, List.mem_append_left _ hth, he⟩

/-- After an answer the thread it was for has been handed what was handed to it before, and what the
answer hands out. -/
theorem handed_answer {i : ℕ} {e : Answered remote} {th : Thread remote World Thrown AccountOperation}
    {t : Dart Unit} (hth : p.threads[i]? = some th)
    (hthreads : p'.threads = p.threads.set i { th with past := th.past ++ [e], now := t }) :
    (∀ user, Handed p user → Handed p' user) ∧
      ∀ user, (∃ e' ∈ th.past ++ [e], Hands user e') → Handed p' user := by
  have hlt := (List.getElem?_eq_some_iff.mp hth).1
  have hmem : { th with past := th.past ++ [e], now := t } ∈ p'.threads := by
    rw [hthreads]
    exact List.mem_of_getElem? (List.getElem?_set_self hlt)
  refine ⟨fun user ⟨th', hth', e', he', hhands⟩ => ?_, fun user h => ⟨_, hmem, h⟩⟩
  obtain ⟨j, hj⟩ := List.mem_iff_getElem?.mp hth'
  by_cases hij : i = j
  · subst hij
    obtain rfl := Option.some.inj (hth.symm.trans hj)
    exact ⟨_, hmem, e', List.mem_append_left _ he', hhands⟩
  · refine ⟨th', ?_, e', he', hhands⟩
    rw [hthreads]
    exact List.mem_of_getElem? (by rw [List.getElem?_set_ne hij, hj])

theorem GuestInv.start (hinv : GuestInv p) (hshown : Shown p) (ho : o ≠ .isLoggedIn) (page : ℕ) :
    GuestInv (p.start o (o.routine ⟨p.threads.length, page⟩)) := by
  have hmeets := guest_routine ho ⟨p.threads.length, page⟩ p.state
  have hshown' : Shown (p.start o (o.routine ⟨p.threads.length, page⟩)) := by
    obtain ⟨th, hth, hended⟩ := hshown
    have hlt := (List.getElem?_eq_some_iff.mp hth).1
    exact ⟨th, by simp only [Pool.start, List.getElem?_append_left hlt, hth], hended⟩
  refine ⟨hinv.ok.start hmeets (hinv.undisturbed (.inr (.inr hshown))), fun i th hth htag => ?_,
    fun _ _ _ _ => hshown', ?_⟩
  · rcases Pool.threads_start hth with hold | ⟨-, rfl⟩
    · exact hinv.first i th hold htag
    · exact absurd htag ho
  -- the first segment of an operation has no answers to take a user from
  · exact hinv.accounted.move hmeets.advance.1 (fun _ => handed_start) fun user huser => by
      obtain ⟨e, he, -⟩ := huser
      cases he

theorem GuestInv.answer (hinv : GuestInv p) {i : ℕ} {e : Answered remote}
    (hans : p.answer anyEnv i e = some p') : GuestInv p' := by
  obtain ⟨th, t, hth, hawait, -, hmove, -, hthreads⟩ := hinv.ok.answer_cases hans trivial
  obtain ⟨hkeeps, hnew⟩ := handed_answer hth hthreads
  -- a thread other than the first can only go on after the first has ended
  have hdisturb : some i = some 0 ∨ Shown p := by
    by_cases hi : i = 0
    · exact .inl (by rw [hi])
    · exact .inr (hinv.later i th hth hi)
  refine ⟨hinv.ok.answer hans trivial (hinv.undisturbed (.inr hdisturb)), fun j th' hth' htag => ?_,
    fun j th' hth' hj => ?_, hinv.accounted.move hmove hkeeps hnew⟩
  · rcases Pool.threads_answer hthreads hth' with ⟨rfl, rfl⟩ | ⟨-, hold⟩
    · exact hinv.first j th hth htag
    · exact hinv.first j th' hold htag
  · have hshown : Shown p := by
      rcases Pool.threads_answer hthreads hth' with ⟨rfl, -⟩ | ⟨-, hold⟩
      · exact hinv.later j th hth hj
      · exact hinv.later j th' hold hj
    have hi : i ≠ 0 := by
      intro hi
      subst hi
      rw [hshown.not_awaiting hth] at hawait
      cases hawait
    obtain ⟨th₀, hth₀, hended⟩ := hshown
    exact ⟨th₀, by rw [hthreads, List.getElem?_set_ne hi, hth₀], hended⟩

theorem GuestInv.step (hinv : GuestInv p) (ha : a.AfterStart p) (hstep : accountStep p a = some p') :
    GuestInv p' := by
  cases a with
  | launch =>
    rw [← Option.some.inj hstep]
    exact .launched p.state
  | start o page =>
    simp only [accountStep] at hstep
    split at hstep
    · cases hstep
    · rename_i ho
      rw [← Option.some.inj hstep]
      exact hinv.start ha ho page
  | answer i e => exact hinv.answer hstep
  | around routes =>
    rw [← Option.some.inj hstep]
    exact ⟨hinv.ok.update (hinv.undisturbed (.inl rfl)), hinv.first, hinv.later,
      hinv.accounted.session, hinv.accounted.name⟩

/-- **Whatever operations overlap and whatever they are answered, the globals are those of nobody or
name one account that was handed out since the start, and the name is that of such an account or
empty.** -/
theorem nobody_or_one {w : World} {as : List AccountAction}
    (ha : Along accountStep (fun p a => a.AfterStart p) (launched w) as)
    (hrun : run accountStep (launched w) as = some p) : Accounted p :=
  (run_invariant (fun _ _ _ hinv ha hstep => GuestInv.step hinv ha hstep) (.launched w) ha hrun).accounted

/-- Two logins overlap, and the one that began first is answered last. -/
def twoLogins : List AccountAction :=
  [.answer 0 ⟨.currentUser, (.ok none : Except Fault (Option FirebaseUser))⟩,
    .start (.login "ann@floodup.org" "secret") 0, .start (.login "bob@floodup.org" "secret") 0,
    .answer 1 ⟨.signInWithEmailAndPassword "ann@floodup.org" "secret",
      (.ok ⟨"u1", "ann@floodup.org", some "Ann"⟩ : Except Fault FirebaseUser)⟩,
    .answer 2 ⟨.signInWithEmailAndPassword "bob@floodup.org" "secret",
      (.ok ⟨"u2", "bob@floodup.org", none⟩ : Except Fault FirebaseUser)⟩,
    .answer 2 ⟨.getSubscription "bob@floodup.org", (.ok none : Except Fault (Option Data))⟩,
    .answer 1 ⟨.getSubscription "ann@floodup.org", (.ok none : Except Fault (Option Data))⟩]

theorem nobody_or_one_twoLogins :
    ∃ p, run accountStep (launched (.signupOpened ⟨2020, 1, 1⟩)) twoLogins = some p ∧
      p.state.globals.firUserId = "u1" ∧ Accounted p := by
  refine ⟨_, rfl, rfl, ?_⟩
  refine @nobody_or_one _ (.signupOpened ⟨2020, 1, 1⟩) twoLogins ?_ rfl
  exact ⟨trivial, ⟨_, rfl, rfl⟩, ⟨_, rfl, rfl⟩, trivial, trivial, trivial, trivial, trivial⟩

end FloodUp
