import FloodUp.Map.RoundTrip

/-!
# Replies with incomplete documents

`ProcessEvents` tests two fields of a document for `null`: `image_files` and `publisher`.
`ShowsReply` says that a reply in which any documents lack these is turned into markers without
loss. The test for `publisher` does its work; the one for `image_files` stands behind a `print` that has
already thrown, so one document without images hides itself and all documents after it
(`processEvents_stops`), and a reply is shown exactly if no document lacks the list
(`reply_shown_iff`).
-/

namespace FloodUp

open Async

/-! ## The documents -/

namespace Document

/-- The text in a field. -/
def text (document : Document) (key : String) : Option String :=
  match document.data.get key with
  | .scalar (.string text) => some text
  | _ => none

/-- The number in a field. -/
def number (document : Document) (key : String) : Option ℤ :=
  match document.data.get key with
  | .scalar (.int n) => some n
  | _ => none

/-- The truth value in a field. -/
def flag (document : Document) (key : String) : Option Bool :=
  match document.data.get key with
  | .scalar (.bool b) => some b
  | _ => none

/-- The URLs of the images, none if there is no list. -/
def images (document : Document) : List (Option String) :=
  match document.data.get "image_files" with
  | .array files => files.map fun
    | .string url => some url
    | _ => none
  | _ => []

def publisher (document : Document) : String := (document.text "publisher").getD "Unknown"

/-- The document has the fields `PublishEvent` writes, with values it can write, except that there
may be no `image_files` or no `publisher`. A field that is absent reads as `null`. -/
structure Published (document : Document) : Prop where
  category : ∃ category < 11,
    document.data.get "category" = .scalar (.string (categoryNumber category))
  location : ∃ p, document.data.get "location" = .scalar (.geoPoint p)
  texts : ∀ key ∈ ["hazard", "date", "placename", "attention", "information", "rating_climate_why",
    "reduce_impact"], ∃ text, document.data.get key = .scalar (.string text)
  answer : ∃ b, document.data.get "uploadobservation" = .scalar (.bool b)
  ratings : ∀ key ∈ ["rating_climate", "rating_upload", "rating_bother"],
    ∃ n, document.data.get key = .scalar (.int n)
  imageFiles : document.data.get "image_files" = .scalar .null ∨
    ∃ urls : List String, document.data.get "image_files" = .array (urls.map .string)
  publisher : document.data.get "publisher" = .scalar .null ∨
    ∃ name, document.data.get "publisher" = .scalar (.string name)

/-- The label of the category the document was stored under. -/
def HasLabel (locale : Locale) (document : Document) (label : String) : Prop :=
  ∃ category, document.data.get "category" = .scalar (.string (categoryNumber category)) ∧
    (categories locale)[category]? = some label

end Document

/-- Every document of `PublishEvent` is one. -/
theorem published_eventDocument (g : Globals) (p : PublishPage) (loc : LatLng) (id : String)
    (hcategory : p.category < 11) : Document.Published ⟨id, eventDocument g p loc⟩ where
  category := ⟨p.category, hcategory, by simp [eventDocument, Data.get_cons]⟩
  location := ⟨loc, by simp [eventDocument, Data.get_cons]⟩
  texts := by simp [eventDocument, Data.get_cons]
  answer := ⟨p.knowAlert, by simp [eventDocument, Data.get_cons]⟩
  ratings := by simp [eventDocument, Data.get_cons]
  imageFiles := .inr ⟨p.fileDownloadUrls, by simp [eventDocument, Data.get_cons]⟩
  publisher := .inr ⟨g.userFullName, by simp [eventDocument, Data.get_cons]⟩

/-- The document without a field. -/
def Document.without (key : String) (document : Document) : Document :=
  { document with data := document.data.filter (·.1 ≠ key) }

theorem Data.get_filter (data : Data) (key key' : String) :
    Data.get (data.filter (·.1 ≠ key)) key' = if key' = key then .scalar .null else data.get key' := by
  induction data with
  | nil => simp [Data.get]
  | cons field data ih =>
    obtain ⟨name, value⟩ := field
    by_cases hname : name = key
    -- the field itself is taken away
    · rw [List.filter_cons_of_neg (by simp [hname]), ih, Data.get_cons, hname]
      by_cases hkey : key' = key <;> simp [hkey]
    · rw [List.filter_cons_of_pos (by simp [hname]), Data.get_cons, Data.get_cons, ih]
      by_cases hkey : key' = key
      · rw [if_neg (by rw [hkey]; exact fun h => hname h.symm), if_pos hkey, if_pos hkey]
      · rw [if_neg hkey, if_neg hkey]

theorem Document.get_without (document : Document) (key key' : String) :
    (document.without key).data.get key' =
      if key' = key then .scalar .null else document.data.get key' :=
  Data.get_filter document.data key key'

/-- So is one that lacks the images or the publisher. -/
theorem published_without {document : Document} (h : document.Published) {key : String}
    (hkey : key = "image_files" ∨ key = "publisher") : (document.without key).Published := by
  have hget : ∀ key', key' ≠ "image_files" → key' ≠ "publisher" →
      (document.without key).data.get key' = document.data.get key' := by
    intro key' himages hpublisher
    rw [Document.get_without, if_neg]
    rcases hkey with rfl | rfl
    · exact himages
    · exact hpublisher
  have hoptional : ∀ key', (document.without key).data.get key' = .scalar .null ∨
      (document.without key).data.get key' = document.data.get key' := by
    intro key'
    rw [Document.get_without]
    by_cases hkey' : key' = key <;> simp [hkey']
  refine ⟨?_, ?_, ?_, ?_, ?_, ?_, ?_⟩
  · rw [hget _ (by simp) (by simp)]
    exact h.category
  · rw [hget _ (by simp) (by simp)]
    exact h.location
  · intro key' hmem
    rw [hget]
    · exact h.texts key' hmem
    · rintro rfl
      simp at hmem
    · rintro rfl
      simp at hmem
  · rw [hget _ (by simp) (by simp)]
    exact h.answer
  · intro key' hmem
    rw [hget]
    · exact h.ratings key' hmem
    · rintro rfl
      simp at hmem
    · rintro rfl
      simp at hmem
  -- the two fields that may be gone
  · rcases hoptional "image_files" with hnull | hsame
    · exact .inl hnull
    · rw [hsame]
      exact h.imageFiles
  · rcases hoptional "publisher" with hnull | hsame
    · exact .inl hnull
    · rw [hsame]
      exact h.publisher

/-! ## What should be shown -/

/-- The sheet has the fields of the document. -/
structure Sheet.Of (locale : Locale) (document : Document) (sheet : Sheet) : Prop where
  imageUrl : sheet.imageUrl = document.images.headD (some "")
  category : document.HasLabel locale sheet.category
  date : sheet.date = document.text "date"
  placename : sheet.placename = document.text "placename"
  categoryIcon : ∃ number, document.text "category" = some number ∧
    sheet.categoryIcon = "assets/category_icons/" ++ number ++ ".png"

/-- The detail page has been given the fields of the document. -/
structure EventDetail.Of (locale : Locale) (document : Document) (detail : EventDetail) : Prop where
  images : detail.images = document.images
  publisherName : detail.publisherName = some document.publisher
  eventCategory : document.HasLabel locale detail.eventCategory
  eventDate : detail.eventDate = document.text "date"
  eventLocation : detail.eventLocation = document.text "placename"
  caughtAttention : detail.caughtAttention = document.text "attention"
  informationData : detail.informationData = document.text "information"
  isUpload : detail.isUpload = document.flag "uploadobservation"
  climateRating : detail.climateRating = document.number "rating_climate"
  why : detail.why = document.text "rating_climate_why"
  uploadRating : detail.uploadRating = document.number "rating_upload"
  botherRating : detail.botherRating = document.number "rating_bother"
  reduceImpact : detail.reduceImpact = document.text "reduce_impact"

/-- A stored rating as it should be shown: zero stands for none. -/
def shownNumber (rating : ℤ) : String := if rating > 0 then toString rating else "-"

/-- The detail page shows the fields of the document: each text, date and name as it is stored, an
empty answer and a rating of zero as a dash. The one exception is the answer to the alert question,
for which the page shows the other of the two answers. -/
structure DetailPage.Of (locale : Locale) (document : Document) (shown : DetailPage) : Prop where
  images : shown.images = document.images
  publisherName : shown.publisherName = some document.publisher
  eventCategory : document.HasLabel locale shown.eventCategory
  eventDate : shown.eventDate = document.text "date"
  eventLocation : shown.eventLocation = document.text "placename"
  caughtAttention : shown.caughtAttention = (document.text "attention").map shownText
  informationData : shown.informationData = (document.text "information").map shownText
  isUploadText : ∃ answer, document.flag "uploadobservation" = some answer ∧
    shown.isUploadText = translate locale (if answer then "no_title" else "yes_title")
  climateRatingText : ∃ rating, document.number "rating_climate" = some rating ∧
    shown.climateRatingText = shownNumber rating
  why : shown.why = (document.text "rating_climate_why").map shownText
  uploadRatingText : ∃ rating, document.number "rating_upload" = some rating ∧
    shown.uploadRatingText = shownNumber rating
  botherRatingText : ∃ rating, document.number "rating_bother" = some rating ∧
    shown.botherRatingText = shownNumber rating
  reduceImpact : shown.reduceImpact = (document.text "reduce_impact").map shownText

/-- The marker stands for the document: it has its id and position, its sheet shows the document's
fields, and its detail page can be opened, is given these fields and shows them, the answer to the
alert question inverted. -/
structure Marker.Of (locale : Locale) (document : Document) (marker : Marker) : Prop where
  markerId : marker.markerId = document.documentID
  position : document.data.get "location" = .scalar (.geoPoint marker.position)
  sheet : ∃ sheet, marker.sheet locale = .ok sheet ∧ sheet.Of locale document
  detail : ∃ detail, marker.eventDetail locale = .ok detail ∧ detail.Of locale document ∧
    ∃ shown, detail.build locale = .ok shown ∧ shown.Of locale document

/-- `ProcessEvents` runs to its end and appends the documents and one marker for each, in order. -/
def ShowsReply (locale : Locale) (me : Caller) (w : World) (documents : List Document) : Prop :=
  ∃ w' markers, (processEvents me documents).play World.answered w [] = some (.ok (), w') ∧
    w'.map me.page = (w.map me.page).append (documents.map (·.data)) markers ∧
    List.Forall₂ (fun document marker => marker.Of locale document) documents markers

/-! ## The marker of a document -/

variable {document : Document}

theorem markerImages_null {data : Data} (h : data.get "image_files" = .scalar .null) :
    markerImages data = .error .noSuchMethod := by
  simp only [markerImages, h, Value.listFrom, bind, Except.bind]

/-- The page shows a free text, where there is one, as it should be shown. -/
theorem dashed_eq (text : Option String) : dashed text = text.map shownText := by
  cases text with
  | none => rfl
  | some text => exact dashed_some text

theorem images_of_urls {urls : List String}
    (h : document.data.get "image_files" = .array (urls.map .string)) :
    document.images = urls.map some := by
  simp [Document.images, h]

namespace Document.Published

variable (h : document.Published)
include h

/-- A text that `PublishEvent` has written is read as it is. -/
theorem asString (key : String) (hkey : key ∈ ["hazard", "date", "placename", "attention",
    "information", "rating_climate_why", "reduce_impact"]) :
    (document.data.get key).asString = .ok (document.text key) := by
  obtain ⟨text, htext⟩ := h.texts key hkey
  rw [Document.text, htext]
  rfl

theorem asInt (key : String) (hkey : key ∈ ["rating_climate", "rating_upload", "rating_bother"]) :
    ∃ n, document.number key = some n ∧ (document.data.get key).asInt = .ok (some n) := by
  obtain ⟨n, hn⟩ := h.ratings key hkey
  rw [Document.number, hn]
  exact ⟨n, rfl, rfl⟩

theorem asBool : ∃ b, document.flag "uploadobservation" = some b ∧
    (document.data.get "uploadobservation").asBool = .ok (some b) := by
  obtain ⟨b, hb⟩ := h.answer
  rw [Document.flag, hb]
  exact ⟨b, rfl, rfl⟩

/-- The guarded field: an absent publisher gets a name. -/
theorem publisherName_eq : publisherName document.data = .ok (some document.publisher) := by
  unfold publisherName Document.publisher Document.text
  rcases h.publisher with hnull | ⟨name, hname⟩
  -- "Unknown"
  · rw [if_pos hnull, hnull]
    rfl
  · rw [hname, if_neg (by simp)]
    rfl

/-- The stored number leads to a label, for the sheet and the detail page alike. -/
theorem eventCategory_eq (locale : Locale) : ∃ category label,
    document.data.get "category" = .scalar (.string (categoryNumber category)) ∧
      document.HasLabel locale label ∧ eventCategory locale document.data = .ok label := by
  obtain ⟨category, hlt, hnumber⟩ := h.category
  obtain ⟨label, hlabel, hcategory⟩ := eventCategory_number locale hlt hnumber
  exact ⟨category, label, hnumber, ⟨category, hnumber, hlabel⟩, hcategory⟩

theorem sheet_of (locale : Locale) {marker : Marker} (hdata : marker.data = document.data)
    (hpreview : marker.smallImageUrl = document.images.headD (some "")) :
    ∃ sheet, marker.sheet locale = .ok sheet ∧ sheet.Of locale document := by
  obtain ⟨category, label, hnumber, hlabel, hcategory⟩ := h.eventCategory_eq locale
  have hdate := h.asString "date" (by simp)
  have hplacename := h.asString "placename" (by simp)
  have htext : (document.data.get "category").asString = .ok (some (categoryNumber category)) := by
    rw [hnumber]
    rfl
  refine ⟨{ imageUrl := marker.smallImageUrl, category := label, date := document.text "date"
            placename := document.text "placename"
            categoryIcon := "assets/category_icons/" ++ categoryNumber category ++ ".png" }, ?_, ?_⟩
  · simp only [Marker.sheet, hdata, hcategory, hdate, hplacename, htext, bind, Except.bind, pure,
      Except.pure]
  · refine ⟨hpreview, hlabel, rfl, rfl, categoryNumber category, ?_, rfl⟩
    rw [Document.text, hnumber]

theorem detail_of (locale : Locale) {marker : Marker} (hdata : marker.data = document.data)
    (himages : marker.imageFileArray = document.images) :
    ∃ detail, marker.eventDetail locale = .ok detail ∧ detail.Of locale document ∧
      ∃ shown, detail.build locale = .ok shown ∧ shown.Of locale document := by
  obtain ⟨category, label, hnumber, hlabel, hcategory⟩ := h.eventCategory_eq locale
  obtain ⟨alert, halert, hbool⟩ := h.asBool
  obtain ⟨climate, hclimate, hclimate'⟩ := h.asInt "rating_climate" (by simp)
  obtain ⟨upload, hupload, hupload'⟩ := h.asInt "rating_upload" (by simp)
  obtain ⟨bother, hbother, hbother'⟩ := h.asInt "rating_bother" (by simp)
  let detail : EventDetail :=
    { images := marker.imageFileArray
      publisherName := some document.publisher
      eventCategory := label
      eventDate := document.text "date"
      eventLocation := document.text "placename"
      caughtAttention := document.text "attention"
      informationData := document.text "information"
      isUpload := some alert
      climateRating := some climate
      why := document.text "rating_climate_why"
      uploadRating := some upload
      botherRating := some bother
      reduceImpact := document.text "reduce_impact" }
  refine ⟨detail, ?_, ?_, ?_⟩
  · simp only [Marker.eventDetail, hdata, h.publisherName_eq, hcategory, h.asString "date" (by simp),
      h.asString "placename" (by simp), h.asString "attention" (by simp),
      h.asString "information" (by simp), h.asString "rating_climate_why" (by simp),
      h.asString "reduce_impact" (by simp), hbool, hclimate', hupload', hbother', bind, Except.bind,
      pure, Except.pure]
    rfl
  · exact ⟨himages, rfl, hlabel, rfl, rfl, rfl, rfl, halert.symm, hclimate.symm, rfl, hupload.symm,
      hbother.symm, rfl⟩
  · -- the page compares the ratings and tests the answer: none of them is `null` here
    refine ⟨_, rfl, ?_⟩
    exact ⟨himages, rfl, hlabel, rfl, rfl, dashed_eq _, dashed_eq _, ⟨alert, halert, rfl⟩,
      ⟨climate, hclimate, rfl⟩, dashed_eq _, ⟨upload, hupload, rfl⟩, ⟨bother, hbother, rfl⟩,
      dashed_eq _⟩

/-- A document with a list of images gives a marker that stands for it. -/
theorem eventMarker_of (locale : Locale)
    (himages : document.data.get "image_files" ≠ .scalar .null) :
    ∃ marker, eventMarker document = .ok marker ∧ marker.Of locale document := by
  obtain ⟨urls, hurls⟩ := h.imageFiles.resolve_left himages
  obtain ⟨position, hposition⟩ := h.location
  have hlist := images_of_urls hurls
  -- the preview is the first of the images
  refine ⟨{ markerId := document.documentID, position, icon := markerIcon document.data
            data := document.data, imageFileArray := urls.map some
            smallImageUrl := some (urls.headD "") }, ?_, ?_⟩
  · simp only [eventMarker, markerImages_urls hurls, hposition, Value.asGeoPoint, bind, Except.bind,
      pure, Except.pure]
  · refine ⟨rfl, hposition, h.sheet_of locale rfl ?_, h.detail_of locale rfl hlist.symm⟩
    rw [hlist]
    cases urls <;> rfl

end Document.Published

/-! ## The loop -/

variable {me : Caller} {w : World} {documents : List Document}

/-- The `print` throws before anything is listed. -/
theorem processEvent_null (h : document.data.get "image_files" = .scalar .null) :
    (processEvent me document).Runs w (.error .noSuchMethod) w := by
  unfold processEvent
  rw [markerImages_null h]
  rfl

theorem processLoop_append (before after : List Document) : processLoop me (before ++ after) =
    (processLoop me before).bind fun _ => processLoop me after := by
  induction before with
  | nil => rfl
  | cons document before ih =>
    show (processEvent me document).bind (fun _ => processLoop me (before ++ after)) =
      ((processEvent me document).bind fun _ => processLoop me before).bind _
    rw [ih, Routine.bind_assoc]

theorem processLoop_stops {before after : List Document} {markers : List Marker}
    (hbefore : before.mapM eventMarker = .ok markers)
    (h : document.data.get "image_files" = .scalar .null) :
    (processLoop me (before ++ document :: after)).Runs w (.error .noSuchMethod)
      (w.setMap me.page (MapPage.append (before.map (·.data)) markers)) := by
  rw [processLoop_append]
  exact (processLoop_runs hbefore).bind (processEvent_null h).bind_error

/-- **A document without images hides itself and all documents after it**: the events in front of
it are listed, then the load is over. -/
theorem processEvents_stops (hw : w.mounted me.page = true) {before after : List Document}
    {markers : List Marker} (hbefore : before.mapM eventMarker = .ok markers)
    (h : document.data.get "image_files" = .scalar .null) :
    (processEvents me (before ++ document :: after)).Runs w (.error .noSuchMethod)
      (w.setMap me.page (MapPage.append (before.map (·.data)) markers)) :=
  (withContext_runs hw).bind (processLoop_stops hbefore h).bind_error

/-! ## When a reply is shown -/

theorem showsReply_of_images (locale : Locale) (hw : w.mounted me.page = true)
    (hdocuments : ∀ document ∈ documents, document.Published)
    (himages : ∀ document ∈ documents, document.data.get "image_files" ≠ .scalar .null) :
    ShowsReply locale me w documents := by
  have heach : ∀ document ∈ documents, ∃ marker, eventMarker document = .ok marker ∧
      marker.Of locale document := by
    intro document hmem
    exact (hdocuments document hmem).eventMarker_of locale (himages document hmem)
  obtain ⟨markers, hmarkers, hof⟩ := mapM_forall₂ heach
  exact ⟨_, markers, (processEvents_runs hw hmarkers).play, World.setMap_map _ _ _, hof⟩

/-- One document without the list is enough: the first such one ends the loop. -/
theorem not_showsReply (locale : Locale) (hw : w.mounted me.page = true)
    (hdocuments : ∀ document ∈ documents, document.Published)
    (hmissing : ∃ document ∈ documents, document.data.get "image_files" = .scalar .null) :
    ¬ShowsReply locale me w documents := by
  rintro ⟨w', -, hplay, -⟩
  -- the first document without images: those in front of it can be read
  let missing : Document → Bool := fun d => d.data.get "image_files" = .scalar .null
  obtain ⟨document, hfind⟩ : ∃ document, documents.find? missing = some document := by
    rw [← Option.isSome_iff_exists, List.find?_isSome]
    simpa [missing] using hmissing
  rw [List.find?_eq_some_iff_append] at hfind
  obtain ⟨hnull, before, after, rfl, hbefore⟩ := hfind
  have hreadable : ∀ d ∈ before, ∃ marker, eventMarker d = .ok marker ∧ marker.Of locale d := by
    intro d hd
    apply (hdocuments d (by simp [hd])).eventMarker_of locale
    simpa [missing] using hbefore d hd
  obtain ⟨markers, hmarkers, -⟩ := mapM_forall₂ hreadable
  have hnull : document.data.get "image_files" = .scalar .null := by simpa [missing] using hnull
  have hend := (processEvents_stops hw hmarkers hnull).play_eq hplay
  simp at hend

/-- **A reply is shown without loss exactly if the page is there and no document lacks the list of
images.** -/
theorem reply_shown_iff (locale : Locale) (me : Caller) (w : World) (documents : List Document)
    (hdocuments : ∀ document ∈ documents, document.Published) :
    ShowsReply locale me w documents ↔ w.mounted me.page = true ∧
      ∀ document ∈ documents, document.data.get "image_files" ≠ .scalar .null := by
  by_cases hw : w.mounted me.page = true
  · constructor
    · intro hshows
      refine ⟨hw, fun document hmem hnull => ?_⟩
      exact not_showsReply locale hw hdocuments ⟨document, hmem, hnull⟩ hshows
    · intro h
      exact showsReply_of_images locale hw hdocuments h.2
  · refine iff_of_false ?_ fun h => hw h.1
    rintro ⟨w', -, hplay, -⟩
    -- the first use of the context fails
    have hgone : (processEvents me documents).Runs w (.error .noSuchMethod) w :=
      (withContext_runs_gone (by simpa using hw)).bind_error
    have hend := hgone.play_eq hplay
    simp at hend

/-- A report whose publisher is not known. -/
def anonymousReport : Document := Document.without "publisher" ⟨"a", pressDocument⟩

theorem published_pressDocument (id : String) : Document.Published ⟨id, pressDocument⟩ :=
  published_eventDocument _ _ _ id (by decide)

theorem reply_shown_iff_once :
    ShowsReply .en ⟨8, 0⟩ (.mapOpened ⟨2020, 1, 1⟩) [anonymousReport, ⟨"b", pressDocument⟩] := by
  have hpublished : ∀ document ∈ [anonymousReport, ⟨"b", pressDocument⟩], document.Published := by
    rw [List.forall_mem_cons, List.forall_mem_singleton]
    constructor
    · exact published_without (published_pressDocument "a") (.inr rfl)
    · exact published_pressDocument "b"
  apply (reply_shown_iff .en ⟨8, 0⟩ (.mapOpened ⟨2020, 1, 1⟩) _ hpublished).mpr
  exact ⟨rfl, by decide⟩

/-- The first report has no images; neither it nor the second one is shown. -/
theorem reply_without_images_lost :
    ¬∀ (locale : Locale) (me : Caller) (w : World) (documents : List Document),
      w.mounted me.page = true → (∀ document ∈ documents, document.Published) →
      ShowsReply locale me w documents := by
  intro hall
  have hpublished : ∀ document ∈ [Document.without "image_files" ⟨"a", pressDocument⟩,
      ⟨"b", pressDocument⟩], document.Published := by
    rw [List.forall_mem_cons, List.forall_mem_singleton]
    constructor
    · exact published_without (published_pressDocument "a") (.inl rfl)
    · exact published_pressDocument "b"
  have hshows := hall .en ⟨8, 0⟩ (.mapOpened ⟨2020, 1, 1⟩) _ rfl hpublished
  exact not_showsReply .en rfl hpublished ⟨_, .head _, by decide⟩ hshows

end FloodUp
