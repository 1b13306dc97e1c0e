import Mathlib.Tactic.IntervalCases
import FloodUp.Map.Detail
import FloodUp.Map.Theorems
import FloodUp.Publish.Images
import FloodUp.Publish.Report

/-!
# From the form to the detail page

`RoundTrip` says that a reader who loads a published document and opens its detail page sees
what the publisher entered. It never holds: the answer to the alert question is shown the other
way round (`alert_answer_inverted`). Everything else comes back (`other_answers_shown`).
-/

namespace FloodUp

open Async

/-! ## What should be shown -/

/-- A free text as it should be shown. -/
def shownText (text : String) : String := if text = "" then "-" else text

/-- A rating as it should be shown: the position tapped, from one on. -/
def shownRating (rating : ℤ) : String := if rating = -1 then "-" else toString (rating + 1)

/-- All that should be shown but for the answer to the alert question. -/
structure ShowsRest (locale : Locale) (form : PublishPage) (publisher : String)
    (urls : List String) (sheet : Sheet) (shown : DetailPage) : Prop where
  preview : sheet.imageUrl = some (urls.headD "")
  label : (categories locale)[form.category]? = some sheet.category
  images : shown.images = urls.map some
  publisherName : shown.publisherName = some publisher
  eventCategory : (categories locale)[form.category]? = some shown.eventCategory
  eventDate : shown.eventDate = some form.createDate.format
  eventLocation : shown.eventLocation = some form.textLocation
  caughtAttention : shown.caughtAttention = some (shownText form.textAttention)
  informationData : shown.informationData = some (shownText form.textInformation)
  climateRating : shown.climateRatingText = shownRating form.climateRating
  why : shown.why = some (shownText form.textClimatewhy)
  uploadRating : shown.uploadRatingText = shownRating form.uploadRating
  botherRating : shown.botherRatingText = shownRating form.botherRating
  reduceImpact : shown.reduceImpact = some (shownText form.textReduceimpact)

/-- The answer to the alert question is shown as it was given. -/
def ShowsAlert (locale : Locale) (form : PublishPage) (shown : DetailPage) : Prop :=
  shown.isUploadText = translate locale (if form.knowAlert then "yes_title" else "no_title")

/-- The reader's Map page turns the document into a marker, whose sheet and detail page these
are. -/
structure Opens (reader : World) (you : Caller) (document : Document) (sheet : Sheet)
    (shown : DetailPage) : Prop where
  marker : ∃ reader' marker,
    (processEvents you [document]).play World.answered reader [] = some (.ok (), reader') ∧
    (reader'.map you.page).allEventMarkers = (reader.map you.page).allEventMarkers ++ [marker] ∧
    marker.sheet reader.locale = .ok sheet ∧
    (marker.eventDetail reader.locale).bind (EventDetail.build reader.locale) = .ok shown

/-- The document shows the reader what was entered in the form. -/
def RoundTrip (reader : World) (you : Caller) (form : PublishPage) (publisher : String)
    (urls : List String) (document : Document) : Prop :=
  ∃ sheet shown, Opens reader you document sheet shown ∧
    ShowsRest reader.locale form publisher urls sheet shown ∧ ShowsAlert reader.locale form shown

/-! ## The marker of a document -/

/-- The marker a Map page appends for one document is its `eventMarker`. -/
theorem Opens.eventMarker {reader : World} {you : Caller} {document : Document} {sheet : Sheet}
    {shown : DetailPage} (h : Opens reader you document sheet shown) :
    ∃ marker, eventMarker document = .ok marker ∧ marker.sheet reader.locale = .ok sheet ∧
      (marker.eventDetail reader.locale).bind (EventDetail.build reader.locale) = .ok shown := by
  obtain ⟨reader', marker, hplay, hmarkers, hsheet, hshown⟩ := h.marker
  refine ⟨marker, ?_, hsheet, hshown⟩
  by_cases hmounted : reader.mounted you.page = true
  · cases hmarker : FloodUp.eventMarker document with
    | error e =>
      have hmap : [document].mapM FloodUp.eventMarker = .error e := by
        simp [hmarker, bind, Except.bind]
      obtain ⟨s', hruns, -⟩ := processEvents_fails hmounted hmap
      have hr := hruns.play_eq hplay
      simp at hr
    | ok marker' =>
      have hmap : [document].mapM FloodUp.eventMarker = .ok [marker'] := by
        simp [hmarker, bind, Except.bind, pure, Except.pure]
      have hr := (processEvents_runs hmounted hmap).play_eq hplay
      simp only [Prod.mk.injEq, true_and] at hr
      rw [hr, World.setMap_map] at hmarkers
      -- whatever was on the page before, exactly one marker has been added
      have hsame : [marker'] = [marker] := List.append_cancel_left hmarkers
      rw [List.singleton_inj.mp hsame]
  · have hgone : (processEvents you [document]).Runs reader (.error .noSuchMethod) reader :=
      (withContext_runs_gone (by simpa using hmounted)).bind_error
    have hr := hgone.play_eq hplay
    simp at hr

/-- The text a detail page shows for the alert question comes from `uploadobservation`. -/
theorem isUploadText_of_build {locale : Locale} {marker : Marker} {shown : DetailPage}
    (h : (marker.eventDetail locale).bind (EventDetail.build locale) = .ok shown) :
    ∃ answer, (marker.data.get "uploadobservation").asBool = .ok answer ∧
      isUploadText locale answer = .ok shown.isUploadText := by
  rw [except_bind_eq_ok] at h
  obtain ⟨detail, hdetail, hbuild⟩ := h
  simp only [Marker.eventDetail, bind, pure, except_bind_eq_ok, Except.pure, Except.ok.injEq] at hdetail
  obtain ⟨_, -, _, -, _, -, _, -, _, -, _, -, answer, hanswer, _, -, _, -, _, -, _, -, _, -, rfl⟩ :=
    hdetail
  simp only [EventDetail.build, bind, pure, except_bind_eq_ok, Except.pure, Except.ok.injEq] at hbuild
  obtain ⟨text, htext, _, -, _, -, _, -, rfl⟩ := hbuild
  exact ⟨answer, hanswer, htext⟩

/-! ## The document of a press -/

theorem isUpload_uploads (done : List (Upload × String)) :
    ∀ a ∈ done.flatMap uploadAnswers, Call.IsUpload a.call :=
  forall_uploads (fun _ _ => trivial) (fun _ _ => trivial) done

/-- A document an undisturbed press has added is the one `Built` describes, and its URLs are those
the press has got. -/
theorem built_of_play {me : Caller} {below : List Route} {w w' : World}
    {h : List (Answered remote)} {r : Except Thrown Unit} {doc : Data} {id : String}
    (hw : w.OnTop me.page below)
    (hplay : (publishEvent me).play World.answered w h = some (r, w'))
    (hadd : ⟨.addEvent doc, (.ok id : Except Fault String)⟩ ∈ h) :
    ∃ reply done loc, Built me.page w reply done loc doc ∧ receivedUrls h = done.map (·.2) := by
  have hend := (publishEvent_always hw).play hplay
  rw [List.nil_append] at hend
  cases hend with
  -- up to `addFailed` no add has been answered with an id
  | incomplete message hform => cases hadd
  | lost reply e hform hreply => simp at hadd
  | nowhere reply _ hform hreply hdata hroutes hpopped hlog => simp at hadd
  | uploadFailed reply loc answers f _ hform hreply hplace huploads hfailed hscreen =>
    rcases List.mem_cons.mp hadd with hadd | hadd
    · simp at hadd
    · exact (huploads _ hadd).elim
  | addFailed reply loc done doc' _ hform hbuilt hscreen =>
    simp only [List.cons_append, List.mem_cons, List.mem_append, List.not_mem_nil, or_false] at hadd
    rcases hadd with hadd | hadd | hadd
    · simp at hadd
    · exact (isUpload_uploads done _ hadd).elim
    · simp at hadd
  -- the add that was answered is the only one
  | thanked reply loc done doc' added pressed w₁ _ hform hbuilt hadded hscreen hthanked =>
    refine ⟨reply, done, loc, ?_, ?_⟩
    · simp only [List.cons_append, List.mem_cons, List.mem_append, List.not_mem_nil, or_false] at hadd
      rcases hadd with hadd | hadd | hadd | hadd
      · simp at hadd
      · exact (isUpload_uploads done _ hadd).elim
      · simp only [Answered.mk.injEq, Call.addEvent.injEq] at hadd
        rw [hadd.1]
        exact hbuilt
      · simp at hadd
    · have hurls := receivedUrls_history ⟨(w.publish me.page).textLocation, reply, loc, w, done⟩
      rw [← hurls]
      simp [receivedUrls, Trail.history, List.filterMap_append]

/-- A document that stores the answer of the form does not show it. -/
theorem not_roundTrip {reader : World} {you : Caller} {form : PublishPage} {publisher : String}
    {urls : List String} {document : Document}
    (hstored : document.data.get "uploadobservation" = .scalar (.bool form.knowAlert)) :
    ¬RoundTrip reader you form publisher urls document := by
  rintro ⟨sheet, shown, hopens, -, halert⟩
  obtain ⟨marker, hmarker, -, hbuild⟩ := hopens.eventMarker
  obtain ⟨answer, hanswer, htext⟩ := isUploadText_of_build hbuild
  -- the detail page reads the same field, so only the two texts can differ
  rw [eventMarker_data hmarker, hstored] at hanswer
  simp only [Value.asBool, Except.ok.injEq] at hanswer
  rw [← hanswer] at htext
  simp only [isUploadText, Except.ok.injEq] at htext
  rw [ShowsAlert, ← htext] at halert
  by_cases hknow : form.knowAlert = true
  · rw [if_pos hknow, if_pos hknow] at halert
    exact translate_yes_ne_no _ halert.symm
  · rw [if_neg hknow, if_neg hknow] at halert
    exact translate_yes_ne_no _ halert

/-- **No published event shows the reader what was entered**: the answer to the alert question is
shown the other way round. -/
theorem alert_answer_inverted {me : Caller} {below : List Route} {w w' : World}
    {h : List (Answered remote)} {r : Except Thrown Unit} {doc : Data} {id : String}
    (hw : w.OnTop me.page below)
    (hplay : (publishEvent me).play World.answered w h = some (r, w'))
    (hadd : ⟨.addEvent doc, (.ok id : Except Fault String)⟩ ∈ h) (reader : World) (you : Caller) :
    ¬RoundTrip reader you (w.publish me.page) w.globals.userFullName (receivedUrls h) ⟨id, doc⟩ := by
  obtain ⟨reply, done, loc, hbuilt, -⟩ := built_of_play hw hplay hadd
  obtain ⟨urls, -, hdoc⟩ := hbuilt.document
  refine not_roundTrip ?_
  rw [hdoc]
  simp [eventDocument, Data.get_cons]

theorem alert_answer_inverted_once :
    ∃ w', (publishEvent ⟨7, 1⟩).play World.answered (.readyToPublish ⟨2020, 1, 1⟩)
        (pressAnswers pressDocument (.ok "id")) = some (.ok (), w') ∧
      ¬RoundTrip w' ⟨8, 0⟩ ((World.readyToPublish ⟨2020, 1, 1⟩).publish 1) "Ann"
        (receivedUrls (pressAnswers pressDocument (.ok "id"))) ⟨"id", pressDocument⟩ := by
  refine ⟨_, rfl, ?_⟩
  exact @alert_answer_inverted ⟨7, 1⟩ _ (.readyToPublish ⟨2020, 1, 1⟩) _
    (pressAnswers pressDocument (.ok "id")) (.ok ()) pressDocument "id"
    (onTop_readyToPublish ⟨2020, 1, 1⟩) rfl (.tail _ (.head _)) _ ⟨8, 0⟩

/-- The alert question is left at "No"; the detail page says "Yes". -/
theorem alert_answer_lost :
    ¬∀ (me : Caller) (below : List Route) (w : World) (h : List (Answered remote))
      (r : Except Thrown Unit) (w' : World) (doc : Data) (id : String) (reader : World)
      (you : Caller), w.OnTop me.page below → NoStale me.page w →
      (w.publish me.page).category < 11 →
      (publishEvent me).play World.answered w h = some (r, w') →
      ⟨.addEvent doc, (.ok id : Except Fault String)⟩ ∈ h → reader.mounted you.page = true →
      RoundTrip reader you (w.publish me.page) w.globals.userFullName (receivedUrls h) ⟨id, doc⟩ := by
  intro hall
  have hround := hall ⟨7, 1⟩ _ (.readyToPublish ⟨2020, 1, 1⟩)
    (pressAnswers pressDocument (.ok "id")) _ _ pressDocument "id" (.publishing ⟨2020, 1, 1⟩) ⟨8, 0⟩
    (onTop_readyToPublish ⟨2020, 1, 1⟩) (fun _ => rfl) (by decide) rfl (.tail _ (.head _)) rfl
  exact not_roundTrip rfl hround

/-! ## Everything else comes back -/

theorem mapM_asString (urls : List String) :
    (urls.map Datum.string).mapM Datum.asString = .ok (urls.map some) := by
  induction urls with
  | nil => rfl
  | cons url urls ih => simp [List.mapM_cons, Datum.asString, ih, bind, Except.bind, pure, Except.pure]

/-- The images of a marker are those of its document, the first one the preview. -/
theorem markerImages_urls {data : Data} {urls : List String}
    (hfiles : data.get "image_files" = .array (urls.map .string)) :
    markerImages data = .ok (urls.map some, some (urls.headD "")) := by
  simp only [markerImages, hfiles, Value.listFrom, bind, Except.bind, ne_eq, reduceCtorEq,
    not_false_eq_true, if_true, mapM_asString, pure, Except.pure]
  cases urls <;> simp

theorem markerImages_eventDocument (g : Globals) (p : PublishPage) (loc : LatLng) :
    markerImages (eventDocument g p loc) =
      .ok (p.fileDownloadUrls.map some, some (p.fileDownloadUrls.headD "")) := by
  apply markerImages_urls
  simp [eventDocument, Data.get_cons]

/-- The number a category is stored under leads back to its label. -/
theorem eventCategory_categoryNumber (locale : Locale) {category : ℕ} (h : category < 11) :
    ∃ label, (categories locale)[category]? = some label ∧
      elementAt (categories locale) category = .ok label ∧
      intParse (categoryNumber category) = .ok (category + 1) := by
  have hlength : (categories locale).length = 11 := rfl
  refine ⟨(categories locale)[category], List.getElem?_eq_getElem (by omega), ?_, ?_⟩
  · have hnonneg : ¬((category : ℤ) < 0) := by omega
    simp only [elementAt, if_neg hnonneg, Int.toNat_natCast]
    rw [List.getElem?_eq_getElem (by omega)]
    rfl
  -- `int.parse` is evaluated on each of the eleven numbers
  · interval_cases category <;> rfl

theorem dashed_some (text : String) : dashed (some text) = some (shownText text) := by
  unfold dashed shownText
  by_cases h : text = "" <;> simp [h]

theorem ratingText_succ {rating : ℤ} (h : -1 ≤ rating) :
    ratingText (some (rating + 1)) = .ok (shownRating rating) := by
  show Except.ok (if rating + 1 > 0 then toString (rating + 1) else "-") = .ok (shownRating rating)
  unfold shownRating
  by_cases hunset : rating = -1
  · rw [if_neg (by omega), if_pos hunset]
  · rw [if_pos (by omega), if_neg hunset]

/-- A stored number is read back as its label. -/
theorem eventCategory_number (locale : Locale) {data : Data} {category : ℕ} (h : category < 11)
    (hnumber : data.get "category" = .scalar (.string (categoryNumber category))) :
    ∃ label, (categories locale)[category]? = some label ∧
      eventCategory locale data = .ok label := by
  obtain ⟨label, hlabel, helement, hparse⟩ := eventCategory_categoryNumber locale h
  refine ⟨label, hlabel, ?_⟩
  simp only [eventCategory, hnumber, Value.asString, Datum.asString, hparse, bind, Except.bind]
  rw [add_sub_cancel_right, helement]

/-- The label of a published event is the one that was selected. -/
theorem eventCategory_eventDocument (locale : Locale) (g : Globals) (p : PublishPage) (loc : LatLng)
    (h : p.category < 11) :
    ∃ label, (categories locale)[p.category]? = some label ∧
      eventCategory locale (eventDocument g p loc) = .ok label := by
  apply eventCategory_number locale h
  simp [eventDocument, Data.get]

/-- The marker of a published event. -/
def publishedMarker (g : Globals) (p : PublishPage) (loc : LatLng) (id : String) : Marker where
  markerId := id
  position := loc
  icon := markerIcon (eventDocument g p loc)
  data := eventDocument g p loc
  imageFileArray := p.fileDownloadUrls.map some
  smallImageUrl := some (p.fileDownloadUrls.headD "")

theorem eventMarker_eventDocument (g : Globals) (p : PublishPage) (loc : LatLng) (id : String) :
    eventMarker ⟨id, eventDocument g p loc⟩ = .ok (publishedMarker g p loc id) := by
  have hlocation : (eventDocument g p loc).get "location" = .scalar (.geoPoint loc) := by
    simp [eventDocument, Data.get_cons]
  simp only [eventMarker, markerImages_eventDocument, hlocation, Value.asGeoPoint, bind,
    Except.bind, pure, Except.pure]
  rfl

/-- The sheet of a published event. -/
theorem sheet_publishedMarker {locale : Locale} {g : Globals} {p : PublishPage} {loc : LatLng}
    {id label : String} (hevent : eventCategory locale (eventDocument g p loc) = .ok label) :
    (publishedMarker g p loc id).sheet locale =
      .ok ⟨some (p.fileDownloadUrls.headD ""), label, some p.createDate.format, some p.textLocation,
        "assets/category_icons/" ++ categoryNumber p.category ++ ".png"⟩ := by
  simp only [Marker.sheet, publishedMarker, hevent, bind, Except.bind]
  rfl

/-- The detail page of a published event. -/
theorem detail_publishedMarker {locale : Locale} {g : Globals} {p : PublishPage} {loc : LatLng}
    {id label : String} (hevent : eventCategory locale (eventDocument g p loc) = .ok label)
    (hclimate : -1 ≤ p.climateRating) (hupload : -1 ≤ p.uploadRating)
    (hbother : -1 ≤ p.botherRating) :
    ((publishedMarker g p loc id).eventDetail locale).bind (EventDetail.build locale) =
      .ok ⟨p.fileDownloadUrls.map some, some g.userFullName, label, some p.createDate.format,
        some p.textLocation, some (shownText p.textAttention), some (shownText p.textInformation),
        translate locale (if p.knowAlert then "no_title" else "yes_title"),
        shownRating p.climateRating, some (shownText p.textClimatewhy), shownRating p.uploadRating,
        shownRating p.botherRating, some (shownText p.textReduceimpact)⟩ := by
  simp only [Marker.eventDetail, publishedMarker, hevent, bind, Except.bind]
  simp [publisherName, eventDocument, Data.get_cons,
    Value.asString, Datum.asString, Value.asBool, Value.asInt, EventDetail.build, isUploadText,
    ratingText_succ hclimate, ratingText_succ hupload, ratingText_succ hbother, dashed_some, bind,
    Except.bind, pure, Except.pure]

/-- All that a reader sees of a document but the answer to the alert question is what was entered
in the form. -/
theorem eventDocument_shown (g : Globals) (p : PublishPage) (loc : LatLng)
    (hcategory : p.category < 11) (hclimate : -1 ≤ p.climateRating)
    (hupload : -1 ≤ p.uploadRating) (hbother : -1 ≤ p.botherRating) {reader : World} {you : Caller}
    (hreader : reader.mounted you.page = true) (id : String) :
    ∃ sheet shown, Opens reader you ⟨id, eventDocument g p loc⟩ sheet shown ∧
      ShowsRest reader.locale p g.userFullName p.fileDownloadUrls sheet shown := by
  obtain ⟨label, hlabel, hevent⟩ := eventCategory_eventDocument reader.locale g p loc hcategory
  have hmap : [(⟨id, eventDocument g p loc⟩ : Document)].mapM eventMarker =
      .ok [publishedMarker g p loc id] := by
    rw [List.mapM_cons, eventMarker_eventDocument]
    rfl
  refine ⟨_, _, ⟨_, publishedMarker g p loc id, (processEvents_runs hreader hmap).play, ?_,
    sheet_publishedMarker hevent, detail_publishedMarker hevent hclimate hupload hbother⟩, ?_⟩
  · rw [World.setMap_map]
    rfl
  · constructor <;> first | rfl | exact hlabel

/-- What a press has published is shown as it was entered, but for the answer to the alert
question. -/
theorem other_answers_shown {page : ℕ} {w : World}
    {reply : Except Fault (Option (List Placemark))} {done : List (Upload × String)} {loc : LatLng}
    {doc : Data} (hbuilt : Built page w reply done loc doc) (hstale : NoStale page w)
    (hcategory : (w.publish page).category < 11) (hclimate : -1 ≤ (w.publish page).climateRating)
    (hupload : -1 ≤ (w.publish page).uploadRating) (hbother : -1 ≤ (w.publish page).botherRating)
    {reader : World} {you : Caller} (hreader : reader.mounted you.page = true) (id : String) :
    ∃ sheet shown, Opens reader you ⟨id, doc⟩ sheet shown ∧
      ShowsRest reader.locale (w.publish page) w.globals.userFullName (done.map (·.2)) sheet shown := by
  obtain ⟨urls, hurls, rfl⟩ := hbuilt.document
  obtain rfl := hurls hstale
  obtain ⟨sheet, shown, hopens, hrest⟩ := eventDocument_shown w.globals
    { w.publish page with fileDownloadUrls := done.map (·.2) } loc hcategory hclimate hupload hbother
    hreader id
  exact ⟨sheet, shown, hopens, { hrest with }⟩

end FloodUp
