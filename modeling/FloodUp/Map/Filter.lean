import FloodUp.Map.Loads
import FloodUp.Map.Replies
import FloodUp.Publish.Paths

/-!
# Categories: from the form to the filter

A category is an index into the list of the Publish page, a decimal number from one on in the store,
an index into the filter list behind the entry "all", and an index again on the sheet. The three
lists of labels are written out separately. `ShowsSelection` says that a filtered load shows
exactly the events published under the label of the filter entry, with that label and the icon
of that label; all of it holds but for the icons of a load that is answered before the marker
images are there (`filtered_load_iff`).
-/

namespace FloodUp

open Async

/-! ## The lists of labels -/

/-- The list of `_PublishState.build`, from which a category is chosen. -/
def PublishPage.categories (locale : Locale) : List String :=
  ["category_floods", "category_storm", "category_landslide", "category_seastorm",
    "category_snowfalls", "category_droughts", "category_forestfire", "category_windstorm",
    "category_other", "category_adaptation", "category_badpractice"].map (translate locale)

/-- The list of `_MapState.build`. -/
def MapPage.categories (locale : Locale) : List String :=
  ["category_floods", "category_storm", "category_landslide", "category_seastorm",
    "category_snowfalls", "category_droughts", "category_forestfire", "category_windstorm",
    "category_other", "category_adaptation", "category_badpractice"].map (translate locale)

/-- The entries of the filter dialog. -/
def MapPage.filters (locale : Locale) : List String :=
  translate locale "category_all" :: MapPage.categories locale

/-- The three lists agree. -/
theorem publish_categories (locale : Locale) : PublishPage.categories locale = categories locale := rfl

theorem filters_eq (locale : Locale) :
    MapPage.filters locale = translate locale "category_all" :: categories locale := rfl

@[simp] theorem length_categories (locale : Locale) : (categories locale).length = 11 := rfl

/-- No two entries of the filter dialog read the same. -/
theorem nodup_filters (locale : Locale) : (MapPage.filters locale).Nodup := by
  cases locale <;> decide

/-! ## Events and queries -/

/-- An event that `PublishEvent` has written, with the status the moderators have given it since;
a status that was removed reads as `null`. -/
structure PublishedEvent where
  documentID : String
  globals : Globals
  form : PublishPage
  position : LatLng
  /-- The category was chosen from the list. -/
  chosen : ∀ locale, form.category < (PublishPage.categories locale).length
  status : Value

namespace PublishedEvent

def document (e : PublishedEvent) : Document where
  documentID := e.documentID
  data := (eventDocument e.globals e.form e.position).map fun field =>
    if field.1 = "status" then ("status", e.status) else field

/-- The label the publisher has selected. -/
def label (locale : Locale) (e : PublishedEvent) : Option String :=
  (PublishPage.categories locale)[e.form.category]?

end PublishedEvent

/-- The reply to a query: exactly the documents of the store that match it, with distinct ids. -/
structure QueryReply (store : List Document) (category : Option String) (reply : List Document) :
    Prop where
  nodup : (reply.map (·.documentID)).Nodup
  mem : ∀ document, document ∈ reply ↔ document ∈ store ∧ document.Matches category

/-! ## What a filtered load should show -/

/-- The event is to be shown under an entry of the filter dialog. -/
def PublishedEvent.Selected (locale : Locale) (index : ℕ) (e : PublishedEvent) : Prop :=
  e.status = .scalar (.int 1) ∧ (index = 0 ∨ e.label locale = (MapPage.filters locale)[index]?)

/-- The marker images that are there: the field of an image is `null` until `getBytesFromAsset` has
read it. -/
abbrev LoadedImages := MarkerIcon → Bool

/-- The image a marker was given when it was made; `null` is drawn as the default marker. -/
def Marker.image (loaded : LoadedImages) (marker : Marker) : Option MarkerIcon :=
  if loaded marker.icon then some marker.icon else none

/-- The marker shows the event under the label the publisher has selected, with its icon. -/
structure Marker.Agrees (locale : Locale) (loaded : LoadedImages) (e : PublishedEvent)
    (marker : Marker) : Prop where
  markerId : marker.markerId = e.documentID
  sheet : ∃ sheet, marker.sheet locale = .ok sheet ∧ e.label locale = some sheet.category
  detail : ∃ detail, marker.eventDetail locale = .ok detail ∧
    e.label locale = some detail.eventCategory
  green : marker.image loaded = some .eventMarkerImageGreen ↔
    e.label locale = some (translate locale "category_adaptation")
  orange : marker.image loaded = some .eventMarkerImageOrange ↔
    e.label locale = some (translate locale "category_badpractice")

/-- The markers are those of the selected events, one for each. -/
structure ShowsSelection (locale : Locale) (loaded : LoadedImages) (store : List PublishedEvent)
    (index : ℕ) (markers : List Marker) : Prop where
  once : (markers.map (·.markerId)).Nodup
  sound : ∀ marker ∈ markers, ∃ e ∈ store, e.Selected locale index ∧ marker.Agrees locale loaded e
  complete : ∀ e ∈ store, e.Selected locale index →
    ∃ marker ∈ markers, marker.Agrees locale loaded e

/-- A load with a filter that is answered by `reply` shows the selected events. -/
def FilteredLoad (locale : Locale) (loaded : LoadedImages) (me : Caller) (w : World)
    (store : List PublishedEvent) (index : ℕ) (reply : List Document) : Prop :=
  ∃ w', (loadWeatherEvents me index).play World.answered w
      [⟨.getEvents (categoryFilter index), (.ok reply : Except Fault (List Document))⟩] =
        some (.ok (), w') ∧
    ShowsSelection locale loaded store index (w'.map me.page).allEventMarkers

/-- Where a selected event has an icon of its own, that image is there. -/
def ImagesThere (locale : Locale) (loaded : LoadedImages) (store : List PublishedEvent)
    (index : ℕ) : Prop :=
  ∀ e ∈ store, e.Selected locale index →
    (e.label locale = some (translate locale "category_adaptation") →
      loaded .eventMarkerImageGreen = true) ∧
    (e.label locale = some (translate locale "category_badpractice") →
      loaded .eventMarkerImageOrange = true)

/-! ## Numbers and labels -/

variable {locale : Locale} {loaded : LoadedImages} {e : PublishedEvent} {index : ℕ}

/-- The filter list is shifted by the entry "all". -/
theorem label_eq_iff (hindex : index < (MapPage.filters locale).length) :
    e.label locale = (MapPage.filters locale)[index]? ↔ index = e.form.category + 1 := by
  have hchosen : e.form.category + 1 < (MapPage.filters locale).length :=
    Nat.succ_lt_succ (e.chosen locale)
  have hlabel : e.label locale = (MapPage.filters locale)[e.form.category + 1]? := rfl
  rw [hlabel, eq_comm]
  exact List.getElem?_inj hindex (nodup_filters locale)

theorem label_adaptation_iff :
    e.label locale = some (translate locale "category_adaptation") ↔ e.form.category = 9 := by
  have hentry : (MapPage.filters locale)[10]? = some (translate locale "category_adaptation") := rfl
  rw [← hentry, label_eq_iff (by simp [filters_eq])]
  omega

theorem label_badpractice_iff :
    e.label locale = some (translate locale "category_badpractice") ↔ e.form.category = 10 := by
  have hentry : (MapPage.filters locale)[11]? = some (translate locale "category_badpractice") := rfl
  rw [← hentry, label_eq_iff (by simp [filters_eq])]
  omega

/-! ## The document of an event -/

namespace PublishedEvent

variable (e)

@[simp] theorem get_category :
    e.document.data.get "category" = .scalar (.string (categoryNumber e.form.category)) := by
  simp [document, eventDocument, Data.get_cons]

@[simp] theorem get_status : e.document.data.get "status" = e.status := by
  simp [document, eventDocument, Data.get_cons]

theorem get_images : e.document.data.get "image_files" =
    .array (e.form.fileDownloadUrls.map .string) := by
  simp [document, eventDocument, Data.get_cons]

/-- A change of the status leaves the other fields as they were. -/
theorem published : e.document.Published where
  category := ⟨e.form.category, e.chosen .en, e.get_category⟩
  location := ⟨e.position, by simp [document, eventDocument, Data.get_cons]⟩
  texts := by simp [document, eventDocument, Data.get_cons]
  answer := ⟨e.form.knowAlert, by simp [document, eventDocument, Data.get_cons]⟩
  ratings := by simp [document, eventDocument, Data.get_cons]
  imageFiles := .inr ⟨e.form.fileDownloadUrls, e.get_images⟩
  publisher := .inr ⟨e.globals.userFullName, by simp [document, eventDocument, Data.get_cons]⟩

/-- The query for a filter entry asks for the events to be shown under it. -/
theorem matches_iff (hindex : index < (MapPage.filters locale).length) :
    e.document.Matches (categoryFilter index) ↔ e.Selected locale index := by
  unfold Document.Matches Selected categoryFilter
  rw [get_status, get_category, and_comm]
  apply and_congr Iff.rfl
  cases index with
  | zero => simp
  | succ category =>
    -- behind the entry "all" the decimal of an entry is the number of the category in front of it
    show (∀ c, some (categoryNumber category) = some c → _) ↔ _
    rw [label_eq_iff hindex, or_iff_right (Nat.succ_ne_zero category)]
    constructor
    · intro h
      have hnumber : categoryNumber e.form.category = categoryNumber category := by
        simpa using h _ rfl
      rw [categoryNumber_inj hnumber]
    · intro h c hc
      rw [← Option.some.inj hc, Nat.succ.inj h]

/-- Its marker shows the label that was selected, and is made with the icon of that label. -/
theorem marker (locale : Locale) : ∃ marker, eventMarker e.document = .ok marker ∧
    marker.Of locale e.document ∧ marker.icon = markerIcon e.document.data := by
  have himages : e.document.data.get "image_files" ≠ .scalar .null := by
    rw [e.get_images]
    simp
  obtain ⟨marker, hmarker, hof⟩ := e.published.eventMarker_of locale himages
  exact ⟨marker, hmarker, hof, (eventMarker_eq_ok hmarker).2.1⟩

theorem label_of {text : String} (h : e.document.HasLabel locale text) :
    e.label locale = some text := by
  obtain ⟨category, hcategory, hlabel⟩ := h
  rw [get_category] at hcategory
  simp only [Value.scalar.injEq, Datum.string.injEq] at hcategory
  rw [← categoryNumber_inj hcategory] at hlabel
  rw [label, publish_categories]
  exact hlabel

theorem get_category_iff (category : ℕ) :
    e.document.data.get "category" = .scalar (.string (categoryNumber category)) ↔
      e.form.category = category := by
  rw [get_category]
  simp only [Value.scalar.injEq, Datum.string.injEq]
  exact ⟨categoryNumber_inj, congrArg categoryNumber⟩

/-- The numbers "10" and "11" are those of the last two labels. -/
theorem markerIcon_document : markerIcon e.document.data =
    if e.form.category = 9 then .eventMarkerImageGreen
    else if e.form.category = 10 then .eventMarkerImageOrange else .eventMarkerImage := by
  have hgreen := e.get_category_iff 9
  have horange := e.get_category_iff 10
  unfold markerIcon
  simp only [← hgreen, ← horange]
  rfl

end PublishedEvent

theorem image_eq_some_iff {marker : Marker} {icon : MarkerIcon} :
    marker.image loaded = some icon ↔ marker.icon = icon ∧ loaded icon = true := by
  unfold Marker.image
  by_cases hicon : marker.icon = icon
  · subst hicon
    by_cases hloaded : loaded marker.icon = true <;> simp [hloaded]
  · by_cases hloaded : loaded marker.icon = true <;> simp [hloaded, hicon]

/-! ## The load -/

/-- A marker of an event agrees with it once the images it can need are there. -/
theorem Marker.Of.agrees {marker : Marker} (hof : marker.Of locale e.document)
    (hicon : marker.icon = markerIcon e.document.data)
    (hgreen : e.form.category = 9 → loaded .eventMarkerImageGreen = true)
    (horange : e.form.category = 10 → loaded .eventMarkerImageOrange = true) :
    marker.Agrees locale loaded e where
  markerId := hof.markerId
  sheet := by
    obtain ⟨sheet, hsheet, hfields⟩ := hof.sheet
    exact ⟨sheet, hsheet, e.label_of hfields.category⟩
  detail := by
    obtain ⟨detail, hdetail, hfields, -⟩ := hof.detail
    exact ⟨detail, hdetail, e.label_of hfields.eventCategory⟩
  green := by
    rw [image_eq_some_iff, hicon, e.markerIcon_document, label_adaptation_iff]
    by_cases h : e.form.category = 9
    · rw [if_pos h]
      exact iff_of_true ⟨rfl, hgreen h⟩ h
    · rw [if_neg h]
      refine iff_of_false ?_ h
      split <;> simp
  orange := by
    rw [image_eq_some_iff, hicon, e.markerIcon_document, label_badpractice_iff]
    by_cases h : e.form.category = 10
    · rw [if_neg (by omega), if_pos h]
      exact iff_of_true ⟨rfl, horange h⟩ h
    · rw [if_neg h]
      refine iff_of_false ?_ h
      split <;> simp

variable {me : Caller} {w : World} {store : List PublishedEvent} {reply : List Document}

/-- A load that is answered by documents that can be read puts their markers on the page. -/
theorem loadWeatherEvents_play (hw : w.mounted me.page = true) {markers : List Marker}
    (hmarkers : reply.mapM eventMarker = .ok markers) :
    ∃ w', (loadWeatherEvents me index).play World.answered w
        [⟨.getEvents (categoryFilter index), (.ok reply : Except Fault (List Document))⟩] =
          some (.ok (), w') ∧
      (w'.map me.page).allEventMarkers = markers := by
  -- the lists are emptied, then the progress covers the page until the answer is there
  let emptied := w.setMap me.page fun m => { m with eventDatas := [], allEventMarkers := [] }
  let waiting := emptied.beginProgress me
  have hempty : (Routine.modify fun w : World => w.setMap me.page fun m =>
      { m with eventDatas := [], allEventMarkers := [] } : Dart Unit).Runs w (.ok ()) emptied := rfl
  have hshow : (showProgress me).Runs emptied (.ok ()) waiting := showProgress_runs hw
  have hnone : (waiting.map me.page).allEventMarkers = [] := by
    simp [waiting, emptied, World.beginProgress, World.note, World.push, World.setContext,
      World.setMap]
  -- the progress on top does not take the page away
  have hmounted : waiting.mounted me.page = true := by
    have hroutes : waiting.routes = ⟨w.nextRoute, .progress me.op⟩ :: w.routes := rfl
    rw [World.mounted, hroutes, List.any_cons]
    exact Bool.or_eq_true_iff.mpr (.inr hw)
  refine ⟨(waiting.setMap me.page (MapPage.append (reply.map (·.data)) markers)).hideProgress me.op,
    ?_, ?_⟩
  · have hroutine : loadWeatherEvents me index = (Routine.modify fun w : World =>
        w.setMap me.page fun m => { m with eventDatas := [], allEventMarkers := [] }).bind fun _ =>
          (showProgress me).bind fun _ => (remoteCall (.getEvents (categoryFilter index)) id).bind
            fun documents => if documents ≠ [] then
              (processEvents me documents).bind fun _ => hideProgress me
            else hideProgress me := rfl
    have hanswer := fun k : List Document → Dart Unit => @play_remoteCall _ World.answered _
      (.getEvents (categoryFilter index)) id (.ok reply) reply rfl k [] waiting
    -- up to the answer the routine awaits nothing else
    rw [hroutine, hempty.play_bind, hshow.play_bind, hanswer]
    show (if reply ≠ [] then _ else _ : Dart Unit).play World.answered waiting [] = _
    by_cases hreply : reply = []
    -- an empty reply is not looked at, which is the same as having read no document
    · rw [if_neg (not_not.mpr hreply)]
      subst hreply
      obtain rfl : [] = markers := Except.ok.inj hmarkers
      have hsame : waiting.setMap me.page (MapPage.append [] []) = waiting := by
        simp [World.setMap]
      rw [List.map_nil, hsame]
      rfl
    · rw [if_pos hreply, (processEvents_runs hmounted hmarkers).play_bind]
      rfl
  · rw [(World.sameData_hideProgress _ me.op).map, World.setMap_map]
    simp [MapPage.append, hnone]

/-- Each reply to the query is a document of a selected event, so it can be read. -/
theorem markers_of_reply (hindex : index < (MapPage.filters locale).length)
    (hreply : QueryReply (store.map (·.document)) (categoryFilter index) reply) :
    ∃ markers, reply.mapM eventMarker = .ok markers ∧ List.Forall₂ (fun document marker =>
      ∃ e ∈ store, e.document = document ∧ e.Selected locale index ∧
        marker.Of locale document ∧ marker.icon = markerIcon document.data) reply markers := by
  apply mapM_forall₂
  intro document hmem
  obtain ⟨hstored, hmatches⟩ := (hreply.mem document).mp hmem
  -- a stored document is one that was published, so it has its list of images
  obtain ⟨e, he, rfl⟩ := List.mem_map.mp hstored
  obtain ⟨marker, hmarker, hof, hicon⟩ := e.marker locale
  exact ⟨marker, hmarker, e, he, rfl, (e.matches_iff hindex).mp hmatches, hof, hicon⟩

/-- **A filtered load shows the selected events, each once and under its label; with the right
icons exactly if the images they need are there.** -/
theorem filtered_load_iff (locale : Locale) (loaded : LoadedImages) {me : Caller} {w : World}
    (hw : w.mounted me.page = true) {store : List PublishedEvent} {index : ℕ}
    (hindex : index < (MapPage.filters locale).length) {reply : List Document}
    (hreply : QueryReply (store.map (·.document)) (categoryFilter index) reply) :
    FilteredLoad locale loaded me w store index reply ↔ ImagesThere locale loaded store index := by
  constructor
  · rintro ⟨w', -, hshows⟩ e he hselected
    obtain ⟨marker, -, hagrees⟩ := hshows.complete e he hselected
    constructor
    · intro hlabel
      exact (image_eq_some_iff.mp (hagrees.green.mpr hlabel)).2
    · intro hlabel
      exact (image_eq_some_iff.mp (hagrees.orange.mpr hlabel)).2
  · intro hthere
    obtain ⟨markers, hmarkers, hof⟩ := markers_of_reply hindex hreply
    obtain ⟨w', hplay, hpage⟩ := loadWeatherEvents_play hw hmarkers
    have hagrees : ∀ e ∈ store, e.Selected locale index → ∀ marker : Marker,
        marker.Of locale e.document → marker.icon = markerIcon e.document.data →
        marker.Agrees locale loaded e := by
      intro e he hselected marker hmarker hicon
      have himages := hthere e he hselected
      apply hmarker.agrees hicon
      · intro hcategory
        exact himages.1 (label_adaptation_iff.mpr hcategory)
      · intro hcategory
        exact himages.2 (label_badpractice_iff.mpr hcategory)
    refine ⟨w', hplay, ?_⟩
    rw [hpage]
    refine ⟨?_, ?_, ?_⟩
    -- the markers have the ids of the documents
    · rw [map_eq_of_forall₂ hof]
      · exact hreply.nodup
      · rintro document marker ⟨e, -, -, -, hmarker, -⟩
        exact hmarker.markerId
    -- and each comes from a document of the reply
    · intro marker hmem
      have hback : List.Forall₂ (flip fun document marker => ∃ e ∈ store, e.document = document ∧
        e.Selected locale index ∧ marker.Of locale document ∧
        marker.icon = markerIcon document.data) markers reply := hof.flip
      obtain ⟨_, -, e, he, rfl, hselected, hmarker, hicon⟩ := exists_of_forall₂ hback marker hmem
      exact ⟨e, he, hselected, hagrees e he hselected marker hmarker hicon⟩
    · intro e he hselected
      -- the query finds the event, so it is in the reply
      have hmem : e.document ∈ reply := (hreply.mem _).mpr
        ⟨List.mem_map_of_mem he, (e.matches_iff hindex).mpr hselected⟩
      obtain ⟨marker, hmarker, -, -, -, -, hof, hicon⟩ := exists_of_forall₂ hof _ hmem
      exact ⟨marker, hmarker, hagrees e he hselected marker hof hicon⟩

/-- An adaptation measure, as it was published. -/
def adaptationMeasure : PublishedEvent where
  documentID := "a"
  globals := {}
  form := { createDate := ⟨2020, 1, 1⟩, category := 9, textLocation := "Here" }
  position := ⟨1, 2⟩
  chosen _ := by
    show 9 < 11
    omega
  status := .scalar (.int 1)

theorem queryReply_adaptationMeasure (hindex : index < (MapPage.filters .en).length)
    (h : adaptationMeasure.Selected .en index) :
    QueryReply ([adaptationMeasure].map (·.document)) (categoryFilter index)
      [adaptationMeasure.document] where
  nodup := by simp
  mem document := by
    rw [List.map_singleton, List.mem_singleton, iff_self_and]
    rintro rfl
    exact (adaptationMeasure.matches_iff hindex).mpr h

theorem filtered_load_iff_once :
    FilteredLoad .en (fun _ => true) ⟨8, 0⟩ (.mapOpened ⟨2020, 1, 1⟩) [adaptationMeasure] 10
      [adaptationMeasure.document] := by
  apply (@filtered_load_iff .en (fun _ => true) ⟨8, 0⟩ (.mapOpened ⟨2020, 1, 1⟩) rfl
    [adaptationMeasure] 10 (by decide) _
    (queryReply_adaptationMeasure (by decide) ⟨rfl, .inr rfl⟩)).mpr
  intro e _ _
  exact ⟨fun _ => rfl, fun _ => rfl⟩

/-- The first load is answered before any image has been read: the measure gets the default marker. -/
theorem early_reply_without_icon :
    ¬∀ (locale : Locale) (loaded : LoadedImages) (me : Caller) (w : World)
      (store : List PublishedEvent) (index : ℕ) (reply : List Document),
      w.mounted me.page = true → (store.map (·.documentID)).Nodup →
      index < (MapPage.filters locale).length →
      QueryReply (store.map (·.document)) (categoryFilter index) reply →
      FilteredLoad locale loaded me w store index reply := by
  intro hall
  obtain ⟨w', -, hshows⟩ := hall .en (fun _ => false) ⟨8, 0⟩ (.mapOpened ⟨2020, 1, 1⟩)
    [adaptationMeasure] 0 _ rfl (by simp) (by decide)
    (queryReply_adaptationMeasure (by decide) ⟨rfl, .inl rfl⟩)
  obtain ⟨marker, -, hagrees⟩ := hshows.complete adaptationMeasure (.head _) ⟨rfl, .inl rfl⟩
  have himage := hagrees.green.mpr rfl
  simp [Marker.image] at himage

end FloodUp
