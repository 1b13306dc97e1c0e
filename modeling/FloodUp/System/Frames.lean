import FloodUp.Account.Runs
import FloodUp.Map.Loads
import FloodUp.Publish.Event

/-!
# What the operations leave alone

The operations of the Map page write the screen and their page's lists, those on the session
the screen, the globals and the fields of the login form; the small routines of a Publish page
write its form. Any relation between states that allows these writes is a frame for them.
-/

namespace FloodUp

open Async

variable {R : World → World → Prop} {C : Call → Prop}

/-! ## The Map page -/

section Map

/-- The calls of a Map page. -/
def Call.OfMap : Call → Prop
  | .getEvents _ => True
  | .page _ => True
  | _ => False

variable (hR : ∀ w w', World.SameData w w' → R w w')
  (hset : ∀ (w : World) page f, R w (w.setMap page f))
  (hC : ∀ c, c.OfMap → C c)

include hset in
/-- The loop over the documents writes the lists of Map pages and asks nothing. -/
theorem within_processLoop (me : Caller) (documents : List Document) :
    (processLoop me documents).Within R C := by
  induction documents with
  | nil => trivial
  | cons document documents ih =>
    refine .bind (.bind (Routine.within_ofExcept _ _) fun images => ?_) fun _ => ih
    exact .bind ((Routine.within_modify _).mpr fun w => hset w _ _) fun _ =>
      .bind (Routine.within_ofExcept _ _) fun _ => (Routine.within_modify _).mpr fun w => hset w _ _

include hR hset hC

/-- A load writes the screen and these lists, and asks what a Map page asks. -/
theorem within_loadWeatherEvents (me : Caller) (category : ℕ) :
    (loadWeatherEvents me category).Within R C := by
  refine .bind ((Routine.within_modify _).mpr fun w => hset w _ _) fun _ =>
    .bind (within_showProgress hR me) fun _ =>
      .bind (within_remoteCall (hC _ trivial)) fun documents => ?_
  have hhide := within_hideProgress (C := C) hR me
  show Routine.Within _ _ (if documents ≠ [] then _ else _)
  by_cases hnone : documents ≠ []
  · rw [if_pos hnone]
    exact .bind (.bind (within_withContext me) fun _ => .bind (within_processLoop hset me documents)
      fun _ => within_withContext me) fun _ => hhide
  · rw [if_neg hnone]
    exact hhide

/-- **So does everything that is started on a Map page.** -/
theorem MapOperation.within (me : Caller) (o : MapOperation) : (o.routine me).Within R C := by
  cases o with
  | initialLoad => exact within_loadWeatherEvents hR hset hC me 0
  | selectFilter index =>
    exact .bind ((Routine.within_modify _).mpr fun w => hset w _ _) fun _ =>
      within_loadWeatherEvents hR hset hC me index
  | addButton =>
    refine .bind Routine.within_get fun w => ?_
    by_cases hin : w.globals.bLoggedIn = true
    · rw [if_pos hin]
      refine .bind (within_navigatorPush hR me _) fun route =>
        .bind ⟨hC _ trivial, fun _ => trivial⟩ fun result => ?_
      by_cases hresult : result ≠ (none : Option Bool)
      · rw [if_pos hresult]
        exact .bind Routine.within_get fun w => within_loadWeatherEvents hR hset hC me _
      · rw [if_neg hresult]
        trivial
    · rw [if_neg hin]
      exact within_navigatorPushAndRemoveUntilFirst hR me _

end Map

/-! ## The Publish page -/

section Publish

/-- `_getCurAddress` writes a location and asks for the addresses at a point. -/
theorem within_getCurAddress (me : Caller)
    (hset : ∀ (w : World) page text, R w (w.setPublish page fun p => { p with textLocation := text }))
    (hC : ∀ coordinates, C (.findAddressesFromCoordinates coordinates)) :
    (getCurAddress me).Within R C :=
  .bind Routine.within_get fun w => .bind (within_remoteCall (hC _)) fun addresses => by
    cases addresses with
    | nil => trivial
    | cons address rest => exact (Routine.within_modify _).mpr fun w => hset w _ _

/-- `_getImage` attaches an image and asks for it. -/
theorem within_getImage (me : Caller)
    (hset : ∀ (w : World) page image,
      R w (w.setPublish page fun p => { p with imageFiles := p.imageFiles ++ [image] }))
    (hC : C .pickImage) : (getImage me).Within R C :=
  .bind (within_remoteCall hC) fun image => by
    cases image with
    | none => trivial
    | some image =>
      exact .bind ((Routine.within_modify _).mpr fun w => hset w _ _) fun _ => within_withContext me

end Publish

/-! ## The session -/

section Account

/-- The calls of the operations on the session. -/
def Call.OfAccount : Call → Prop
  | .getSubscription _ => True
  | .setSubscription _ _ => True
  | .signInWithEmailAndPassword _ _ => True
  | .createUserWithEmailAndPassword _ _ => True
  | .updateProfile _ _ => True
  | .signOut => True
  | .currentUser => True
  | .dialog _ => True
  | _ => False

variable (hR : ∀ w w', World.SameData w w' → R w w')
  (hglobals : ∀ (w : World) globals, R w { w with globals })
  (hlogin : ∀ (w : World) page f, R w (w.setLogin page f))
  (hC : ∀ c, c.OfAccount → C c)

include hglobals in
theorem within_storeSubscription (data : Data) : (storeSubscription data).Within R C :=
  .bind (Routine.within_ofExcept _ _) fun _ => (Routine.within_modify _).mpr fun w => hglobals w _

include hglobals hC

/-- Reading a subscription writes the globals, whether the read succeeds or fails. -/
theorem within_readSubscription (email : String) : (readSubscription email).Within R C := by
  refine .tryCatch (.bind (within_remoteCall (hC _ trivial)) fun subVal => ?_) fun e t' ht' => ?_
  · cases subVal with
    | none => trivial
    | some data => exact within_storeSubscription hglobals data
  · split at ht'
    · obtain rfl := Option.some.inj ht'
      trivial
    · cases ht'

/-- The check at the start of the app writes the globals. -/
theorem within_isLoggedIn : isLoggedIn.Within R C := by
  refine .bind (within_remoteCall (hC _ trivial)) fun curUser => ?_
  cases curUser with
  | none => exact .bind ((Routine.within_modify _).mpr fun w => hglobals w _) fun _ => trivial
  | some user =>
    exact .bind ((Routine.within_modify _).mpr fun w => hglobals w _) fun _ =>
      .bind (within_readSubscription hglobals hC _) fun _ => trivial

include hR

theorem within_registered (me : Caller) (user : FirebaseUser) (isSubscribed : String) :
    (registered me user isSubscribed).Within R C := by
  refine .bind (.tryCatch (.bind (within_remoteCall (hC _ trivial)) fun _ =>
    (Routine.within_modify _).mpr fun w => hglobals w _) fun e t' ht' => ?_) fun _ => ?_
  · split at ht'
    · obtain rfl := Option.some.inj ht'
      trivial
    · cases ht'
  · refine .bind (within_hideProgress hR me) fun _ =>
      .bind ((Routine.within_modify _).mpr fun w => hglobals w _) fun _ => .bind ?_ fun _ =>
        .bind (within_navigatorPush hR me _) fun _ => trivial
    exact .bind (within_showDialog hR me _) fun id => ⟨hC _ trivial, fun _ => trivial⟩

/-- A registration writes the screen and the globals, in its callback and in its handlers. -/
theorem within_signup (me : Caller) (email password userName isSubscribed : String) :
    (registerUserToFireBase me email password userName isSubscribed).Within R C := by
  refine .bind (within_showProgress hR me) fun _ =>
    .bind (.tryCatch (.bind (within_remoteCall (hC _ trivial)) fun _ => trivial)
      fun e t' ht' => ?_) fun user => ?_
  · obtain ⟨code, -, rfl⟩ := Option.map_eq_some_iff.mp ht'
    exact .bind (within_reportFailure hR me _) fun _ => trivial
  · cases user with
    | none => trivial
    | some user =>
      exact .bind (within_remoteCall (hC _ trivial)) fun _ =>
        within_registered hR hglobals hC me user isSubscribed

/-- A logout writes the screen and the globals. -/
theorem within_logout (me : Caller) : (logout me).Within R C := by
  have hleave : ((navigatorPop me none).bind fun _ =>
      navigatorPushAndRemoveUntilFirst me (.page .login false)).Within R C :=
    .bind (within_navigatorPop hR me none) fun _ =>
      within_navigatorPushAndRemoveUntilFirst hR me _
  refine .bind Routine.within_get fun w => ?_
  by_cases hin : w.globals.bLoggedIn = true
  · rw [if_pos hin]
    exact .bind (within_showProgress hR me) fun _ => .bind (within_remoteCall (hC _ trivial)) fun _ =>
      .bind (within_hideProgress hR me) fun _ =>
        .bind ((Routine.within_modify _).mpr fun w => hglobals w _) fun _ => hleave
  · rw [if_neg hin]
    exact hleave

include hlogin

/-- A login empties the fields of its form besides. -/
theorem within_login (me : Caller) (email password : String) :
    (loginToFireBase me email password).Within R C := by
  refine .bind (within_showProgress hR me) fun _ => .tryCatch ?_ fun e t' ht' => ?_
  · exact .bind (within_remoteCall (hC _ trivial)) fun user =>
      .bind (within_readSubscription hglobals hC _) fun _ =>
        .bind ((Routine.within_modify _).mpr fun w => hglobals w _) fun _ =>
          .bind (within_hideProgress hR me) fun _ =>
            .bind ((Routine.within_modify _).mpr fun w => hlogin w _ _) fun _ =>
              .bind (within_navigatorPush hR me _) fun _ => trivial
  · obtain ⟨code, -, rfl⟩ := Option.map_eq_some_iff.mp ht'
    exact within_reportFailure hR me _

/-- **Every operation on the session writes the screen, the globals and the login form, and nothing
else.** -/
theorem AccountOperation.within (me : Caller) (o : AccountOperation) :
    (o.routine me).Within R C := by
  cases o with
  | isLoggedIn => exact .bind (within_isLoggedIn hglobals hC) fun _ => trivial
  | login email password => exact within_login hR hglobals hlogin hC me email password
  | signup email password userName isSubscribed =>
    exact within_signup hR hglobals hC me email password userName isSubscribed
  | logout => exact within_logout hR hglobals hC me

end Account

end FloodUp
