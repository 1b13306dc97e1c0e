import FloodUp.App.Primitives

/-!
# `main.dart`, `login.dart`, `signup.dart` and `forgot.dart`

The operations that sign a user in or out of the globals: the check at the start of the app, the
login, the registration, and the reset of a password, which only sends a mail. The logout is
in `map.dart`.
-/

namespace FloodUp

open Async

/-! ## Filling the globals -/

/-- `globals.userFullName` keeps its value if the account has no name. -/
def Globals.withName (displayName : Option String) (g : Globals) : Globals :=
  match displayName with
  | none => g
  | some name => if name = "" then g else { g with userFullName := name }

/-- The assignments after a user has been obtained. -/
def Globals.withUser (user : FirebaseUser) (g : Globals) : Globals :=
  { ({ g with firUserId := user.uid }.withName user.displayName) with
    userEmail := user.email
    bLoggedIn := true }

/-- `globals.isSubscribed = subVal["subscribed"]`. -/
def storeSubscription (data : Data) : Dart Unit := do
  let isSubscribed ← Routine.ofExcept id (data.get "subscribed").asString
  Routine.modify fun w => { w with globals := { w.globals with isSubscribed } }

/-- Read the subscription of an account; an `Exception` is printed and forgotten. -/
def readSubscription (email : String) : Dart Unit :=
  Routine.tryCatch
    (do
      let subVal ← getSubscription email
      match subVal with
      | some data => storeSubscription data
      | none => return)
    fun e => if e.isException then some (.pure ()) else none

/-! ## `isLoggedIn` -/

def isLoggedIn : Dart Bool := do
  let curUser ← currentUser
  match curUser with
  | none => do
    Routine.modify fun w => { w with globals := { w.globals with
      firUserId := "", userFullName := "", userEmail := "", bLoggedIn := false,
      isMapDisplayed := false } }
    return false
  | some curUser => do
    Routine.modify fun w => { w with globals := w.globals.withUser curUser }
    readSubscription curUser.email
    return true

/-! ## `LoginToFireBase` -/

/-- The handler of a failed login, registration or reset. -/
def reportFailure (me : Caller) (message : String) : Dart Unit := do
  hideProgress me
  withContext me
  let _ ← showDialog me message

def loginErrorMessage (code : String) : String :=
  if code = "ERROR_USER_NOT_FOUND" then "error_email_not_found"
  else if code = "ERROR_WRONG_PASSWORD" then "error_wrong_password"
  else "error_login"

def loginToFireBase (me : Caller) (email password : String) : Dart Unit := do
  showProgress me
  Routine.tryCatch
    (do
      let user ← signInWithEmailAndPassword email password
      readSubscription user.email
      Routine.modify fun w => { w with globals := w.globals.withUser user }
      hideProgress me
      Routine.modify fun w => w.setLogin me.page fun p => { p with textEmail := "", textPassword := "" }
      let _ ← navigatorPush me (.page .map false))
    fun e => e.platformCode.map fun code => reportFailure me (loginErrorMessage code)

/-! ## `RegisterUserToFireBase` -/

def registrationErrorMessage (code : String) : String :=
  if code = "ERROR_EMAIL_ALREADY_IN_USE" then "error_email_exist"
  else if code = "ERROR_WEAK_PASSWORD" then "error_password_weak"
  else "error_registration"

/-- Store the answer of the subscription box; an `Exception` is printed and forgotten. -/
def saveSubscription (email isSubscribed : String) : Dart Unit :=
  Routine.tryCatch
    (do
      setSubscription email isSubscribed
      Routine.modify fun w => { w with globals := { w.globals with isSubscribed := some isSubscribed } })
    fun e => if e.isException then some (.pure ()) else none

/-- The rest of the callback: the name stored is that of the snapshot `user`. -/
def enterRegistered (me : Caller) (user : FirebaseUser) : Dart Unit := do
  hideProgress me
  Routine.modify fun w => { w with globals := w.globals.withUser user }
  awaitDialog me "sucess_registration"
  let _ ← navigatorPush me (.page .map false)

/-- The callback of `updateProfile`. -/
def registered (me : Caller) (user : FirebaseUser) (isSubscribed : String) : Dart Unit := do
  saveSubscription user.email isSubscribed
  enterRegistered me user

/-- `updateProfile` is not awaited inside the `try`: its failure is nobody's. -/
def registerUserToFireBase (me : Caller) (email password userName isSubscribed : String) :
    Dart Unit := do
  showProgress me
  let user ← Routine.tryCatch
    (do
      let user ← createUserWithEmailAndPassword email password
      return some user)
    fun e => e.platformCode.map fun code => do
      reportFailure me (registrationErrorMessage code)
      return none
  match user with
  | none => return
  | some user => do
    updateProfile user userName
    registered me user isSubscribed

/-! ## `resetPassword` -/

def resetErrorMessage (code : String) : String :=
  if code = "ERROR_USER_NOT_FOUND" then "error_email_not_found" else "error_reset_password"

def resetPassword (me : Caller) (email : String) : Dart Unit := do
  showProgress me
  Routine.tryCatch
    (do
      sendPasswordResetEmail email
      hideProgress me
      let _ ← showDialog me "sucess_reset_password")
    fun e => e.platformCode.map fun code => reportFailure me (resetErrorMessage code)

end FloodUp
