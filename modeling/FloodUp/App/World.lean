import Mathlib.Logic.Function.Basic
import FloodUp.App.Values
import FloodUp.Async.Contract

/-!
# The state the app's routines share

One `World` is one running app: the variables of `globals.dart`, the navigator's stack of
routes, the fields of the open pages (by the number of their route), the part of Firebase
this app sees, and a log of what the user was shown. The log, `uploads`, `stored` and `links` are not
in the source; no routine reads them, they record what happened.
-/

namespace FloodUp

/-! ## `globals.dart` -/

structure Globals where
  firUserId : String := ""
  userFullName : String := ""
  userEmail : String := ""
  isSubscribed : Option String := some "No"
  bLoggedIn : Bool := false
  currentLocation : LatLng := ⟨41390205 / 1000000, 2154007 / 1000000⟩
  isMapDisplayed : Bool := false
deriving DecidableEq

/-! ## Routes -/

inductive PageName where
  | login
  | map
  | signup
  | forgot
  | publish
  | locationAdd
  | categories
  | categoryInfo
  | resources
  | resourceInfo
  | aboutUs
  | privacy
  | eventDetail
deriving DecidableEq, Repr

/-- Routes a page opens over itself without waiting for an operation. -/
inductive ModalName where
  | filterBy
  | chooseCategory
  | datePicker
  | imageSource
  | eventSheet
  | photoView
deriving DecidableEq, Repr

/-- What a route shows. Only Map pages have a drawer; `progress op` is the dialog pushed by
`showProgress` for the operation `op`. -/
inductive RouteKind where
  | page (name : PageName) (drawerOpen : Bool)
  | modal (name : ModalName)
  | dialog (message : String)
  | alert (title : String)
  | progress (op : ℕ)
deriving DecidableEq, Repr

structure Route where
  id : ℕ
  kind : RouteKind
deriving DecidableEq, Repr

/-- What a `Navigator.pop` took away. -/
inductive Removed where
  | nothing
  | drawer (page : ℕ)
  | route (r : Route)
deriving DecidableEq, Repr

/-! ## Pages -/

/-- The fields of `_PublishState`. `_images` always has the widgets of `imageFiles`, and
`_isHazardShow` only says what is visible. -/
structure PublishPage where
  category : ℕ := 0
  createDate : DateTime
  imageFiles : List File := []
  fileDownloadUrls : List String := []
  knowAlert : Bool := false
  climateRating : ℤ := -1
  uploadRating : ℤ := -1
  botherRating : ℤ := -1
  textHazard : String := ""
  textLocation : String := ""
  textAttention : String := ""
  textInformation : String := ""
  textClimatewhy : String := ""
  textReduceimpact : String := ""
deriving DecidableEq

/-- Which of the three marker images a marker is drawn with. -/
inductive MarkerIcon where
  | eventMarkerImage
  | eventMarkerImageGreen
  | eventMarkerImageOrange
deriving DecidableEq, Repr

/-- A marker with what its `onTap` closure has captured. -/
structure Marker where
  markerId : String
  position : LatLng
  icon : MarkerIcon
  data : Data
  imageFileArray : List (Option String)
  smallImageUrl : Option String
deriving DecidableEq

/-- The fields of `_MapState` that loading events uses. -/
structure MapPage where
  allEventMarkers : List Marker := []
  eventDatas : List Data := []
  selectedCategory : ℕ := 0
deriving DecidableEq

structure LoginPage where
  textEmail : String := ""
  textPassword : String := ""
deriving DecidableEq

/-! ## Firebase as this app changes it -/

/-- Firebase Auth with the `subscriptions` collection; display names by uid, subscriptions
by email. `readFailed` records that the latest read of a subscription failed. -/
structure Auth where
  current : Option FirebaseUser := none
  displayName : String → Option String := fun _ => none
  subscriptions : String → Option Data := fun _ => none
  readFailed : Bool := false

/-- One start of an image upload: the folder and the clock reading its path is made of. -/
structure Upload where
  categoryNo : String
  millis : ℤ
  file : File
deriving DecidableEq, Repr

/-! ## What the user sees happen -/

inductive Ui where
  | showProgress (op : ℕ)
  | hideProgress (op : ℕ) (removed : Removed)
  | dialog (op : ℕ) (message : String)
  | alert (op : ℕ) (title : String)
  | pop (op : ℕ) (removed : Removed) (result : Option Bool)
  | share (op : ℕ) (text : String)
deriving DecidableEq, Repr

inductive Locale where
  | en
  | fr
  | es
  | ca
deriving DecidableEq, Repr

structure World where
  globals : Globals := {}
  /-- The navigator's history, the route on top first. -/
  routes : List Route := []
  nextRoute : ℕ := 0
  /-- The routes popped so far, with the values their futures completed with. -/
  popped : List (ℕ × Option Bool) := []
  /-- `HOWNDProgressIndicator.mcontext`, by the page whose context it is. -/
  mcontext : Option ℕ := none
  publish : ℕ → PublishPage
  map : ℕ → MapPage := fun _ => {}
  login : ℕ → LoginPage := fun _ => {}
  /-- The reading `DateTime.now()` would give. -/
  clock : ℤ := 0
  locale : Locale := .en
  isAndroid : Bool := true
  auth : Auth := {}
  /-- The documents this app has added to `events`. -/
  events : List Data := []
  uploads : List Upload := []
  /-- The images stored for this app's uploads, with their paths. -/
  stored : List (String × File) := []
  /-- The download URLs this app was given, with the paths they were given for. -/
  links : List (String × String) := []
  log : List Ui := []

/-- The page whose `State` runs an operation, and the number that tells the operation from
all others. -/
structure Caller where
  op : ℕ
  page : ℕ
deriving DecidableEq, Repr

namespace World

/-! ## Updates of one page -/

def setPublish (w : World) (page : ℕ) (f : PublishPage → PublishPage) : World :=
  { w with publish := Function.update w.publish page (f (w.publish page)) }

def setMap (w : World) (page : ℕ) (f : MapPage → MapPage) : World :=
  { w with map := Function.update w.map page (f (w.map page)) }

def setLogin (w : World) (page : ℕ) (f : LoginPage → LoginPage) : World :=
  { w with login := Function.update w.login page (f (w.login page)) }

@[simp] theorem setPublish_publish (w : World) (page : ℕ) (f : PublishPage → PublishPage) :
    (w.setPublish page f).publish page = f (w.publish page) := by
  simp [setPublish]

@[simp] theorem setMap_map (w : World) (page : ℕ) (f : MapPage → MapPage) :
    (w.setMap page f).map page = f (w.map page) := by
  simp [setMap]

/-! ## The navigator -/

/-- The page is still in the widget tree, so its `State.context` can be used. -/
def mounted (w : World) (page : ℕ) : Bool := w.routes.any fun r => r.id == page

/-- `Navigator.canPop`: there is a route below, or the only route would close its drawer. -/
def canPop (w : World) : Bool :=
  match w.routes with
  | [] => false
  -- the open drawer is an entry of the page's own history
  | [⟨_, .page _ drawerOpen⟩] => drawerOpen
  | [_] => false
  | _ :: _ :: _ => true

/-- What `Navigator.pop` would take away. -/
def topmost (w : World) : Removed :=
  match w.routes with
  | ⟨id, .page _ true⟩ :: _ => .drawer id
  | r :: _ :: _ => .route r
  | _ => .nothing

/-- `Navigator.pop`: an open drawer goes first, the last route stays. -/
def pop (w : World) (result : Option Bool) : World :=
  match w.routes with
  | ⟨id, .page name true⟩ :: rs => { w with routes := ⟨id, .page name false⟩ :: rs }
  | r :: r' :: rs => { w with routes := r' :: rs, popped := w.popped ++ [(r.id, result)] }
  | _ => w

/-- `Navigator.push`. -/
def push (w : World) (kind : RouteKind) : World :=
  { w with routes := ⟨w.nextRoute, kind⟩ :: w.routes, nextRoute := w.nextRoute + 1 }

/-- `Navigator.pushAndRemoveUntil(..., (r) => r.isFirst)`: the futures of the routes removed
below the new one never complete. -/
def pushAndRemoveUntilFirst (w : World) (kind : RouteKind) : World :=
  { w with
    -- the first route is the last of the list
    routes := ⟨w.nextRoute, kind⟩ :: w.routes.getLast?.toList
    nextRoute := w.nextRoute + 1 }

/-- Take a route away once its future has completed. -/
def drop (w : World) (id : ℕ) : World :=
  { w with routes := w.routes.filter fun r => r.id != id }

def note (w : World) (e : Ui) : World := { w with log := w.log ++ [e] }

/-! ## Replies -/

/-- What the outside has done when it answers a call. -/
def answered : (c : Call) → Reply c → World → World
  -- the future of a dialog completes when the user has closed it
  | .dialog id, _, w => w.drop id
  | .alert id, _, w => w.drop id
  | .addEvent data, .ok _, w => { w with events := w.events ++ [data] }
  | .putFile path file, .ok _, w => { w with stored := w.stored ++ [(path, file)] }
  | .getDownloadURL path, .ok url, w => { w with links := w.links ++ [(path, url)] }
  | .signInWithEmailAndPassword _ _, .ok user, w =>
    { w with auth := { w.auth with current := some user } }
  -- a new account is signed in at once; its subscription has not been looked for yet
  | .createUserWithEmailAndPassword _ _, .ok user, w =>
    { w with auth := { w.auth with current := some user, readFailed := false } }
  | .getSubscription _, .ok _, w => { w with auth := { w.auth with readFailed := false } }
  | .getSubscription _, .error _, w => { w with auth := { w.auth with readFailed := true } }
  | .updateProfile uid name, .ok _, w =>
    { w with auth := { w.auth with
      displayName := Function.update w.auth.displayName uid (some name) } }
  | .setSubscription email subscribed, .ok _, w =>
    { w with auth := { w.auth with
      subscriptions := Function.update w.auth.subscriptions email
        (some [("subscribed", .scalar (.string subscribed))]) } }
  | .signOut, .ok _, w => { w with auth := { w.auth with current := none } }
  | _, _, w => w

/-- The replies Firebase Auth and the `subscriptions` collection can give: the snapshot of an
account has its display name, a new account has none yet. -/
def admits : (c : Call) → Reply c → World → Prop
  | .signInWithEmailAndPassword _ _, .ok user, w =>
    user.displayName = w.auth.displayName user.uid
  | .createUserWithEmailAndPassword _ _, .ok user, w =>
    user.displayName = none ∧ w.auth.displayName user.uid = none
  | .getSubscription email, .ok d, w => d = w.auth.subscriptions email
  | .currentUser, .ok user, w => user = w.auth.current.map fun u =>
    { u with displayName := w.auth.displayName u.uid }
  | _, _, _ => True

end World

/-- The outside of the app. -/
def env : Async.Env remote World := ⟨World.answered, World.admits⟩

/-- The outside, of which nothing is assumed. -/
def anyEnv : Async.Env remote World := ⟨World.answered, fun _ _ _ => True⟩

/-- The app's routines. -/
abbrev Dart (α : Type) : Type := Async.Routine remote World Thrown α

end FloodUp
