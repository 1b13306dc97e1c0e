import FloodUp.App.Localizations
import FloodUp.App.Primitives

/-!
# `publish.dart`

The operations of the Publish page. `publishEvent` is what a press of Publish starts,
`getCurAddress` what `initState` starts, `getImage` what the picture buttons start.
-/

namespace FloodUp

open Async

/-! ## `initState` and the picture buttons -/

/-- `_getCurAddress`: fill the location field with the address of the current position. -/
def getCurAddress (me : Caller) : Dart Unit := do
  let w ← Routine.get
  let addresses ← findAddressesFromCoordinates w.globals.currentLocation
  match addresses with
  -- `addresses.first` of an empty list
  | [] => .throw .stateError
  | firstAddress :: _ =>
    Routine.modify fun w => w.setPublish me.page fun p => { p with textLocation := firstAddress }

/-- `_getImage`: attach the image picked, if any. -/
def getImage (me : Caller) : Dart Unit := do
  let image ← pickImage
  match image with
  | none => return
  | some image => do
    Routine.modify fun w => w.setPublish me.page fun p =>
      { p with imageFiles := p.imageFiles ++ [image] }
    -- `setState` runs its closure first and fails then if the page is gone
    withContext me

/-! ## `getLocationFromAddress` -/

/-- The coordinates that stand for "no such place". -/
def noLocation : LatLng := ⟨0, 0⟩

def getLocationFromAddress (eventAddress : String) : Dart LatLng :=
  Routine.tryCatch
    (do
      let placemark ← placemarkFromAddress eventAddress
      match placemark with
      | none => return noLocation
      -- `placemark[0]` of an empty list
      | some [] => .throw .rangeError
      | some (p :: _) => return p.position)
    -- only a `PlatformException` means that there is no such place
    fun e => e.platformCode.map fun _ => .pure noLocation

/-! ## `_uploadImages` -/

/-- The path below `event_images` an image is stored at. -/
def Upload.path (u : Upload) : String := u.categoryNo ++ toString u.millis

/-- The rest of `for (var _imageFile in _imageFiles)`: the iterator was made when the list had
`length` elements, `left` of them are still to come. Each step first compares the length of
the list with that of the iterator. -/
def uploadLoop (me : Caller) (categoryNo : String) (length : ℕ) : ℕ → Dart Unit
  | 0 => .read fun w =>
    if (w.publish me.page).imageFiles.length = length then .pure ()
    else .throw .concurrentModification
  | left + 1 => .read fun w =>
    if (w.publish me.page).imageFiles.length = length then
      match (w.publish me.page).imageFiles[length - (left + 1)]? with
      | none => .throw .rangeError
      | some imageFile => do
        let upload : Upload := ⟨categoryNo, w.clock, imageFile⟩
        Routine.modify fun w => { w with uploads := w.uploads ++ [upload] }
        putFile upload.path imageFile
        let fileDownloadUrl ← getDownloadURL upload.path
        Routine.modify fun w => w.setPublish me.page fun p =>
          { p with fileDownloadUrls := p.fileDownloadUrls ++ [fileDownloadUrl] }
        uploadLoop me categoryNo length left
    else .throw .concurrentModification

/-- `_uploadImages`: the URLs are collected in the field `_fileDownloadUrls`. -/
def uploadImages (me : Caller) (categoryNo : String) : Dart (List String) := do
  Routine.modify fun w => w.setPublish me.page fun p => { p with fileDownloadUrls := [] }
  let w ← Routine.get
  let length := (w.publish me.page).imageFiles.length
  uploadLoop me categoryNo length length
  let w ← Routine.get
  return (w.publish me.page).fileDownloadUrls

/-! ## `PublishEvent` -/

/-- The number under which the category at an index of the list is stored. -/
def categoryNumber (category : ℕ) : String := toString (category + 1)

/-- The document `PublishEvent` adds, from the fields of the page at that moment. -/
def eventDocument (globals : Globals) (p : PublishPage) (loc : LatLng) : Data :=
  [("category", .scalar (.string (categoryNumber p.category))),
   ("location", .scalar (.geoPoint loc)),
   ("hazard", .scalar (.string p.textHazard)),
   ("date", .scalar (.string p.createDate.format)),
   ("placename", .scalar (.string p.textLocation)),
   ("attention", .scalar (.string p.textAttention)),
   ("information", .scalar (.string p.textInformation)),
   ("uploadobservation", .scalar (.bool p.knowAlert)),
   ("rating_climate", .scalar (.int (p.climateRating + 1))),
   ("rating_climate_why", .scalar (.string p.textClimatewhy)),
   ("rating_upload", .scalar (.int (p.uploadRating + 1))),
   ("rating_bother", .scalar (.int (p.botherRating + 1))),
   ("reduce_impact", .scalar (.string p.textReduceimpact)),
   ("image_files", .array (p.fileDownloadUrls.map .string)),
   ("publisher", .scalar (.string globals.userFullName)),
   ("status", .scalar (.int 1))]

/-- `_db_instance.collection('events').add({...})` in its `try`: an `Exception` is printed and
forgotten. -/
def storeEvent (me : Caller) (loc : LatLng) : Dart Unit :=
  Routine.tryCatch
    (do
      let w ← Routine.get
      let _ ← addEvent (eventDocument w.globals (w.publish me.page) loc))
    fun e => if e.isException then some (.pure ()) else none

/-- What follows the `try`: the thank-you alert, sharing, and the return to the Map page. -/
def thankPublisher (me : Caller) : Dart Unit := do
  hideProgress me
  let isPublishClicked ← awaitAlert me "sucess_publish_title"
  if isPublishClicked then
    let shareText ← translated me "share_text"
    Routine.modify fun w => w.note (.share me.op (if w.isAndroid then
      shareText ++ "https://play.google.com/store/apps/details?id=edu.ub.floodup" else shareText))
  navigatorPop me (some true)

/-- The images are uploaded only if there are any. -/
def uploadAttached (me : Caller) : Dart (List String) := do
  let w ← Routine.get
  if (w.publish me.page).imageFiles.length > 0 then
    uploadImages me (categoryNumber (w.publish me.page).category ++ "/")
  else
    return []

/-- `PublishEvent` from the first `await` on. -/
def publishChecked (me : Caller) : Dart Unit := do
  showProgress me
  let w ← Routine.get
  let loc ← getLocationFromAddress (w.publish me.page).textLocation
  if loc = noLocation then
    awaitDialog me "error_location_invalid"
    hideProgress me
  else
    -- the list returned is not used, the document is built from the field
    let _fileArrays ← uploadAttached me
    storeEvent me loc
    thankPublisher me

/-- `PublishEvent`. -/
def publishEvent (me : Caller) : Dart Unit := do
  let w ← Routine.get
  if (w.publish me.page).category = 8 ∧ (w.publish me.page).textHazard = "" then
    let _ ← showDialog me "error_hazard_empty"
  else if (w.publish me.page).textLocation = "" then
    let _ ← showDialog me "error_location_empty"
  else
    publishChecked me

end FloodUp
