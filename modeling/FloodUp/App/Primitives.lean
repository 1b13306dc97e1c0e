import FloodUp.App.World

/-!
# What routines do to the screen and ask of the outside

The library calls of the app's operations, as routines. Every use of `State.context` fails once
the page is gone (`withContext`); `hideProgress` is the exception, it goes through the static
`mcontext` and takes away whatever is on top.
-/

namespace FloodUp

open Async

/-- Await the answer to `c`. -/
def ask (c : Call) : Dart (Reply c) := .await c .pure

/-! ## Navigation -/

/-- Use the context of the caller's page. -/
def withContext (me : Caller) : Dart Unit :=
  .read fun w => if w.mounted me.page then .pure () else .throw .noSuchMethod

/-- `Navigator.push(context, ...)`; the result is the number of the new route. -/
def navigatorPush (me : Caller) (kind : RouteKind) : Dart ℕ := do
  withContext me
  let w ← Routine.get
  Routine.modify fun w => w.push kind
  return w.nextRoute

/-- `Navigator.pop(context, result)`. -/
def navigatorPop (me : Caller) (result : Option Bool) : Dart Unit := do
  withContext me
  Routine.modify fun w => (w.pop result).note (.pop me.op w.topmost result)

/-- `Navigator.pushAndRemoveUntil(context, ..., (r) => r.isFirst)`. -/
def navigatorPushAndRemoveUntilFirst (me : Caller) (kind : RouteKind) : Dart Unit := do
  withContext me
  Routine.modify fun w => w.pushAndRemoveUntilFirst kind

/-- Wait until the user has closed a dialog. -/
def dialogClosed (route : ℕ) : Dart Unit := ask (.dialog route)

/-- Wait until the user has closed an alert. -/
def alertClosed (route : ℕ) : Dart Bool := ask (.alert route)

/-- `showDialog(context, ...)` with an `AlertDialog` showing `message`. -/
def showDialog (me : Caller) (message : String) : Dart ℕ := do
  withContext me
  let w ← Routine.get
  Routine.modify fun w => (w.push (.dialog message)).note (.dialog me.op message)
  return w.nextRoute

/-- `await showDialog(...)`. -/
def awaitDialog (me : Caller) (message : String) : Dart Unit := do
  let id ← showDialog me message
  dialogClosed id

/-- `await Alert(...).show()`: whether the alert's button was pressed. -/
def awaitAlert (me : Caller) (title : String) : Dart Bool := do
  withContext me
  let w ← Routine.get
  Routine.modify fun w => (w.push (.alert title)).note (.alert me.op title)
  alertClosed w.nextRoute

/-! ## `HOWNDProgressIndicator` -/

/-- `mcontext = context`; the context of a page that is gone is `null`. -/
def World.setContext (page : ℕ) (w : World) : World :=
  { w with mcontext := if w.mounted page then some page else none }

/-- `showProgress(context)`: remember the context and push the progress dialog. -/
def showProgress (me : Caller) : Dart Unit := do
  Routine.modify fun w => w.setContext me.page
  withContext me
  Routine.modify fun w => (w.push (.progress me.op)).note (.showProgress me.op)

/-- `hideProgress()`: pop the top route of the navigator `mcontext` belongs to, if it has one
to pop. -/
def World.hideProgress (op : ℕ) (w : World) : World :=
  match w.mcontext with
  | none => w.note (.hideProgress op .nothing)
  | some page =>
    if w.mounted page ∧ w.canPop then (w.pop none).note (.hideProgress op w.topmost)
    else w.note (.hideProgress op .nothing)

def hideProgress (me : Caller) : Dart Unit := Routine.modify fun w => w.hideProgress me.op

/-! ## Remote calls -/

/-- Await a remote call; `outcome` reads its reply, and a failure is thrown. -/
def remoteCall {β : Type} (c : Call) (outcome : Reply c → Except Fault β) : Dart β := do
  let r ← ask c
  Routine.ofExcept .fault (outcome r)

def placemarkFromAddress (address : String) : Dart (Option (List Placemark)) :=
  remoteCall (.placemarkFromAddress address) id

def findAddressesFromCoordinates (coordinates : LatLng) : Dart (List String) :=
  remoteCall (.findAddressesFromCoordinates coordinates) id

def putFile (path : String) (file : File) : Dart Unit := remoteCall (.putFile path file) id

def getDownloadURL (path : String) : Dart String := remoteCall (.getDownloadURL path) id

def addEvent (data : Data) : Dart String := remoteCall (.addEvent data) id

def getEvents (category : Option String) : Dart (List Document) :=
  remoteCall (.getEvents category) id

def getSubscription (email : String) : Dart (Option Data) := remoteCall (.getSubscription email) id

def setSubscription (email subscribed : String) : Dart Unit :=
  remoteCall (.setSubscription email subscribed) id

def signInWithEmailAndPassword (email password : String) : Dart FirebaseUser :=
  remoteCall (.signInWithEmailAndPassword email password) id

def createUserWithEmailAndPassword (email password : String) : Dart FirebaseUser :=
  remoteCall (.createUserWithEmailAndPassword email password) id

def updateProfile (user : FirebaseUser) (displayName : String) : Dart Unit :=
  remoteCall (.updateProfile user.uid displayName) id

def sendPasswordResetEmail (email : String) : Dart Unit :=
  remoteCall (.sendPasswordResetEmail email) id

def signOut : Dart Unit := remoteCall .signOut id

def currentUser : Dart (Option FirebaseUser) := remoteCall .currentUser id

def pickImage : Dart (Option File) := remoteCall .pickImage id

end FloodUp
