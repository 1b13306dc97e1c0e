import FloodUp.App.Primitives

/-!
# `map.dart`

The operations of the Map page: loading the events and turning them into markers, the filter,
the add button, and logging out from the drawer.
-/

namespace FloodUp

open Async

/-! ## `ProcessEvents` -/

/-- The list of images of a marker and the URL of its preview. The `print` in front reads the
field unguarded; the test for `null` after it comes too late. -/
def markerImages (data : Data) : Except Thrown (List (Option String) × Option String) := do
  let _printed ← (data.get "image_files").listFrom
  if data.get "image_files" ≠ .scalar .null then
    let files ← (data.get "image_files").listFrom
    if files.length > 0 then
      let imageFileArray ← files.mapM Datum.asString
      return (imageFileArray, imageFileArray.head?.join)
  return ([], some "")

def markerIcon (data : Data) : MarkerIcon :=
  if data.get "category" = .scalar (.string "10") then .eventMarkerImageGreen
  else if data.get "category" = .scalar (.string "11") then .eventMarkerImageOrange
  else .eventMarkerImage

/-- One round of the loop: the document is listed before its marker is built. -/
def processEvent (me : Caller) (document : Document) : Dart Unit := do
  let (imageFileArray, smallImageUrl) ← Routine.ofExcept id (markerImages document.data)
  Routine.modify fun w => w.setMap me.page fun m =>
    { m with eventDatas := m.eventDatas ++ [document.data] }
  let position ← Routine.ofExcept id (document.data.get "location").asGeoPoint
  let marker : Marker :=
    { markerId := document.documentID
      position
      icon := markerIcon document.data
      data := document.data
      imageFileArray
      smallImageUrl }
  Routine.modify fun w => w.setMap me.page fun m =>
    { m with allEventMarkers := m.allEventMarkers ++ [marker] }

def processLoop (me : Caller) : List Document → Dart Unit
  | [] => .pure ()
  | document :: documents => do
    processEvent me document
    processLoop me documents

/-- `ProcessEvents`; both ends use the context of the page. -/
def processEvents (me : Caller) (documents : List Document) : Dart Unit := do
  withContext me
  processLoop me documents
  withContext me

/-! ## `LoadWeatherEvents` -/

/-- The `category` argument of the query: none for the entry "all". -/
def categoryFilter (category : ℕ) : Option String :=
  if category = 0 then none else some (toString category)

/-- `LoadWeatherEvents`: the lists are emptied when the query is issued and filled by whichever
reply arrives. Nothing handles a failed query. -/
def loadWeatherEvents (me : Caller) (category : ℕ) : Dart Unit := do
  Routine.modify fun w => w.setMap me.page fun m =>
    { m with eventDatas := [], allEventMarkers := [] }
  showProgress me
  let documents ← getEvents (categoryFilter category)
  if documents ≠ [] then
    processEvents me documents
  hideProgress me

/-- The `onSelect` of the filter dialog. -/
def selectFilter (me : Caller) (index : ℕ) : Dart Unit := do
  Routine.modify fun w => w.setMap me.page fun m => { m with selectedCategory := index }
  loadWeatherEvents me index

/-! ## The add button -/

/-- The `onPressed` of the add button: publish, and reload if the Publish page has returned a
value. -/
def addButton (me : Caller) : Dart Unit := do
  let w ← Routine.get
  if w.globals.bLoggedIn then
    let route ← navigatorPush me (.page .publish false)
    let result ← ask (.page route)
    if result ≠ (none : Option Bool) then
      let w ← Routine.get
      loadWeatherEvents me (w.map me.page).selectedCategory
  else
    navigatorPushAndRemoveUntilFirst me (.page .login false)

/-! ## Logging out -/

/-- What `logout` makes of the globals. -/
def Globals.loggedOut (g : Globals) : Globals :=
  { g with
    firUserId := ""
    userFullName := ""
    userEmail := ""
    isSubscribed := some "No"
    isMapDisplayed := true
    bLoggedIn := false }

/-- The `onTap` of the last entry of the drawer. -/
def logout (me : Caller) : Dart Unit := do
  let w ← Routine.get
  if w.globals.bLoggedIn then
    showProgress me
    signOut
    hideProgress me
    Routine.modify fun w => { w with globals := w.globals.loggedOut }
    navigatorPop me none
    navigatorPushAndRemoveUntilFirst me (.page .login false)
  else
    navigatorPop me none
    navigatorPushAndRemoveUntilFirst me (.page .login false)

end FloodUp
