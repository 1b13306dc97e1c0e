import Mathlib.Data.Rat.Defs
import FloodUp.Async.Routine

/-!
# Values that cross the app's boundary

The data the app exchanges with Firebase and the geocoding plugins, the failures these can
answer with, and the calls the app awaits. A Firestore document is a map with dynamically
typed entries; reading it back is where a wrong or missing entry shows, so the entries keep
their runtime types here (`Value`) and the typed reads (`Value.asString` and the like) fail
as the Dart casts do.
-/

namespace FloodUp

/-! ## Plain data -/

structure LatLng where
  latitude : ℚ
  longitude : ℚ
deriving DecidableEq, Repr

/-- An image file on the device. -/
structure File where
  path : String
deriving DecidableEq, Repr

structure Placemark where
  position : LatLng
deriving DecidableEq, Repr

/-- The snapshot of an account that Firebase Auth hands out. -/
structure FirebaseUser where
  uid : String
  email : String
  displayName : Option String
deriving DecidableEq, Repr

/-- A calendar day; the app formats dates to days only. -/
structure DateTime where
  year : ℕ
  month : ℕ
  day : ℕ
deriving DecidableEq, Repr

/-- `width` digits at least, with zeros in front. -/
def padLeft (width n : ℕ) : String :=
  let digits := toString n
  String.ofList (List.replicate (width - digits.length) '0') ++ digits

/-- `DateFormat('dd-MM-yyyy').format`. -/
def DateTime.format (d : DateTime) : String :=
  padLeft 2 d.day ++ "-" ++ padLeft 2 d.month ++ "-" ++ padLeft 4 d.year

/-! ## Failures -/

/-- How a remote call fails: a `PlatformException`, another `Exception`, or an `Error`. -/
inductive Fault where
  | platformException (code : String)
  | exception
  | error
deriving DecidableEq, Repr

/-- What the app's own code can throw: a failure passed on, or a Dart `Error`. -/
inductive Thrown where
  | fault (f : Fault)
  | rangeError
  | stateError
  | concurrentModification
  | noSuchMethod
  | typeError
deriving DecidableEq, Repr

/-- `on PlatformException catch (error)`, with `error.code`. -/
def Thrown.platformCode : Thrown → Option String
  | .fault (.platformException code) => some code
  | _ => none

/-- `on Exception catch (error)`: a Dart `Error` is no `Exception`. -/
def Thrown.isException : Thrown → Bool
  | .fault (.platformException _) => true
  | .fault .exception => true
  | _ => false

/-! ## Firestore documents -/

inductive Datum where
  | null
  | bool (b : Bool)
  | int (n : ℤ)
  | string (s : String)
  | geoPoint (p : LatLng)
  | other (n : ℕ)
deriving DecidableEq, Repr

/-- A field of a document; Firestore arrays do not nest. -/
inductive Value where
  | scalar (d : Datum)
  | array (ds : List Datum)
deriving DecidableEq, Repr

/-- The fields of a document, in the order they were written. -/
abbrev Data := List (String × Value)

/-- `data[key]`: `null` when there is no such field. -/
def Data.get (data : Data) (key : String) : Value :=
  (data.lookup key).getD (.scalar .null)

theorem Data.get_cons (key key' : String) (value : Value) (data : Data) :
    Data.get ((key', value) :: data) key = if key = key' then value else data.get key := by
  unfold Data.get
  rw [List.lookup_cons]
  by_cases hkey : key = key'
  · simp [hkey]
  · rw [if_neg hkey, beq_eq_false_iff_ne.mpr hkey]

structure Document where
  documentID : String
  data : Data
deriving DecidableEq, Repr

/-- An implicit downcast to `String`; `null` passes. -/
def Datum.asString : Datum → Except Thrown (Option String)
  | .null => .ok none
  | .string s => .ok (some s)
  | _ => .error .typeError

def Value.asString : Value → Except Thrown (Option String)
  | .scalar d => d.asString
  | .array _ => .error .typeError

theorem Value.asString_error {v : Value} {e : Thrown} (h : v.asString = .error e) :
    e = .typeError := by
  rcases v with (_ | _ | _ | _ | _ | _) | _ <;> simp_all [Value.asString, Datum.asString]

def Value.asBool : Value → Except Thrown (Option Bool)
  | .scalar .null => .ok none
  | .scalar (.bool b) => .ok (some b)
  | _ => .error .typeError

def Value.asInt : Value → Except Thrown (Option ℤ)
  | .scalar .null => .ok none
  | .scalar (.int n) => .ok (some n)
  | _ => .error .typeError

/-- `List.from(value)`: `null` has no iterator, any other scalar is no iterable. -/
def Value.listFrom : Value → Except Thrown (List Datum)
  | .array ds => .ok ds
  | .scalar .null => .error .noSuchMethod
  | .scalar _ => .error .typeError

/-- `value.latitude` and `value.longitude` on a dynamic value. -/
def Value.asGeoPoint : Value → Except Thrown LatLng
  | .scalar (.geoPoint p) => .ok p
  | _ => .error .noSuchMethod

/-! ## The calls the app awaits -/

/-- A remote call, or the future of a route the app has pushed. -/
inductive Call where
  | placemarkFromAddress (address : String)
  | findAddressesFromCoordinates (coordinates : LatLng)
  | putFile (path : String) (file : File)
  | getDownloadURL (path : String)
  | addEvent (data : Data)
  | getEvents (category : Option String)
  | getSubscription (email : String)
  | setSubscription (email subscribed : String)
  | signInWithEmailAndPassword (email password : String)
  | createUserWithEmailAndPassword (email password : String)
  | updateProfile (uid displayName : String)
  | sendPasswordResetEmail (email : String)
  | signOut
  | currentUser
  | pickImage
  | dialog (route : ℕ)
  | alert (route : ℕ)
  | page (route : ℕ)
deriving DecidableEq, Repr

/-- The reply to each call. A closed dialog says nothing, an alert whether its button was
pressed, a page the value it was popped with. -/
@[reducible] def Reply : Call → Type
  | .placemarkFromAddress _ => Except Fault (Option (List Placemark))
  | .findAddressesFromCoordinates _ => Except Fault (List String)
  | .putFile _ _ => Except Fault Unit
  | .getDownloadURL _ => Except Fault String
  | .addEvent _ => Except Fault String
  | .getEvents _ => Except Fault (List Document)
  | .getSubscription _ => Except Fault (Option Data)
  | .setSubscription _ _ => Except Fault Unit
  | .signInWithEmailAndPassword _ _ => Except Fault FirebaseUser
  | .createUserWithEmailAndPassword _ _ => Except Fault FirebaseUser
  | .updateProfile _ _ => Except Fault Unit
  | .sendPasswordResetEmail _ => Except Fault Unit
  | .signOut => Except Fault Unit
  | .currentUser => Except Fault (Option FirebaseUser)
  | .pickImage => Except Fault (Option File)
  | .dialog _ => Unit
  | .alert _ => Bool
  | .page _ => Option Bool

/-- The app's calls as a signature of awaited calls. -/
abbrev remote : Async.Signature := ⟨Call, Reply⟩

instance : DecidableEq remote.Call := inferInstanceAs (DecidableEq Call)

end FloodUp
