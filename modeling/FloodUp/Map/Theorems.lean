import Mathlib.Data.List.Forall2
import FloodUp.App.Theorems
import FloodUp.Map.Events

/-!
# What `ProcessEvents` does

`ProcessEvents` awaits nothing, so it is one run. `eventMarker` is the marker one document
gives if its fields can be read; if all can, the documents and their markers are appended in
order (`processEvents_runs`), else the loop stops at the first that cannot
(`processEvents_fails`).
-/

namespace FloodUp

open Async

/-! ## Chains and lists of reads -/

/-- A chain of reads succeeds if each of them does. -/
theorem except_bind_eq_ok {ε α β : Type} {x : Except ε α} {f : α → Except ε β} {b : β} :
    x.bind f = .ok b ↔ ∃ a, x = .ok a ∧ f a = .ok b := by
  cases x <;> simp [Except.bind]

/-- It fails with the first failure. -/
theorem except_bind_eq_error {ε α β : Type} {x : Except ε α} {f : α → Except ε β} {e : ε} :
    x.bind f = .error e ↔ x = .error e ∨ ∃ a, x = .ok a ∧ f a = .error e := by
  cases x <;> simp [Except.bind]

section Lists

variable {ε α β : Type} {f : α → Except ε β} {R : α → β → Prop} {as : List α} {bs : List β}

/-- A list is decoded element by element. -/
theorem mapM_eq_ok_iff : as.mapM f = .ok bs ↔ List.Forall₂ (fun a b => f a = .ok b) as bs := by
  induction as generalizing bs with
  | nil =>
    rw [List.forall₂_nil_left_iff]
    constructor
    · intro h
      exact (Except.ok.inj h).symm
    · rintro rfl
      rfl
  | cons a as ih =>
    rw [List.mapM_cons, List.forall₂_cons_left_iff]
    show (f a).bind (fun b => (as.mapM f).bind fun bs => .ok (b :: bs)) = _ ↔ _
    simp only [except_bind_eq_ok, Except.ok.injEq, ih]
    constructor
    · rintro ⟨b, hb, bs, hbs, rfl⟩
      exact ⟨b, bs, hb, hbs, rfl⟩
    · rintro ⟨b, bs, hb, hbs, rfl⟩
      exact ⟨b, hb, bs, hbs, rfl⟩

/-- If each element can be read as it should, so can the list. -/
theorem mapM_forall₂ (h : ∀ a ∈ as, ∃ b, f a = .ok b ∧ R a b) :
    ∃ bs, as.mapM f = .ok bs ∧ List.Forall₂ R as bs := by
  induction as with
  | nil => exact ⟨[], rfl, .nil⟩
  | cons a as ih =>
    rw [List.forall_mem_cons] at h
    obtain ⟨b, hb, hR⟩ := h.1
    obtain ⟨bs, hbs, hRs⟩ := ih h.2
    refine ⟨b :: bs, ?_, .cons hR hRs⟩
    rw [List.mapM_cons, hb, hbs]
    rfl

theorem exists_of_forall₂ (h : List.Forall₂ R as bs) : ∀ a ∈ as, ∃ b ∈ bs, R a b := by
  induction h with
  | nil => simp
  | cons hhead _ ih =>
    intro a ha
    rcases List.mem_cons.mp ha with rfl | ha
    · exact ⟨_, .head _, hhead⟩
    · obtain ⟨b, hb, hR⟩ := ih a ha
      exact ⟨b, .tail _ hb, hR⟩

theorem map_eq_of_forall₂ {γ : Type} {g : α → γ} {g' : β → γ} (h : List.Forall₂ R as bs)
    (hR : ∀ a b, R a b → g' b = g a) : bs.map g' = as.map g := by
  induction h with
  | nil => rfl
  | cons hhead _ ih =>
    rw [List.map_cons, List.map_cons, ih, hR _ _ hhead]

/-- A list is decoded as a whole if and only if each element can be. -/
theorem mapM_ok_iff : (∃ bs, as.mapM f = .ok bs) ↔ ∀ a ∈ as, ∃ b, f a = .ok b := by
  constructor
  · rintro ⟨bs, hbs⟩ a ha
    obtain ⟨b, -, hb⟩ := exists_of_forall₂ (mapM_eq_ok_iff.mp hbs) a ha
    exact ⟨b, hb⟩
  · intro h
    have heach : ∀ a ∈ as, ∃ b, f a = .ok b ∧ True := by simpa using h
    obtain ⟨bs, hbs, -⟩ := mapM_forall₂ heach
    exact ⟨bs, hbs⟩

end Lists

/-! ## The marker of a document -/

/-- The marker of a document, if the fields it is built from can be read. -/
def eventMarker (document : Document) : Except Thrown Marker := do
  let (imageFileArray, smallImageUrl) ← markerImages document.data
  let position ← (document.data.get "location").asGeoPoint
  return {
    markerId := document.documentID
    position
    icon := markerIcon document.data
    data := document.data
    imageFileArray
    smallImageUrl }

/-- The fields a marker is built from can be read: the images are a list of texts, the location
is a point. -/
def Document.Readable (document : Document) : Prop :=
  (∃ files, document.data.get "image_files" = .array files ∧
    ∀ file ∈ files, ∃ url, file.asString = .ok url) ∧
  ∃ p, document.data.get "location" = .scalar (.geoPoint p)

theorem asGeoPoint_ok_iff {v : Value} : (∃ p, v.asGeoPoint = .ok p) ↔ ∃ p, v = .scalar (.geoPoint p) := by
  rcases v with (_ | _ | _ | _ | _ | _) | _ <;> simp [Value.asGeoPoint]

theorem listFrom_ok_iff {v : Value} {ds : List Datum} : v.listFrom = .ok ds ↔ v = .array ds := by
  rcases v with (_ | _ | _ | _ | _ | _) | _ <;> simp [Value.listFrom]

theorem markerImages_ok_iff {data : Data} :
    (∃ images, markerImages data = .ok images) ↔
      ∃ files, data.get "image_files" = .array files ∧
        ∀ file ∈ files, ∃ url, file.asString = .ok url := by
  unfold markerImages
  cases hfiles : (data.get "image_files").listFrom with
  | error e =>
    refine iff_of_false (by simp [bind, Except.bind]) ?_
    rintro ⟨files, harray, -⟩
    simp [harray, Value.listFrom] at hfiles
  | ok files =>
    rw [listFrom_ok_iff] at hfiles
    simp only [hfiles, bind, Except.bind, pure, Except.pure, Value.array.injEq]
    rw [exists_eq_left', ← mapM_ok_iff, if_pos (by simp)]
    by_cases hempty : files.length > 0
    · rw [if_pos hempty]
      cases files.mapM Datum.asString <;> simp
    · have hnil : files = [] := List.length_eq_zero_iff.mp (by omega)
      simp [hnil, pure, Except.pure]

/-- A document gives a marker if and only if it can be read. -/
theorem eventMarker_ok_iff {document : Document} :
    (∃ marker, eventMarker document = .ok marker) ↔ document.Readable := by
  rw [Document.Readable, ← markerImages_ok_iff, ← asGeoPoint_ok_iff]
  unfold eventMarker
  cases markerImages document.data with
  | error e => simp [bind, Except.bind]
  | ok images =>
    cases (document.data.get "location").asGeoPoint <;> simp [bind, Except.bind, pure, Except.pure]

theorem markers_ok_iff {documents : List Document} :
    (∃ markers, documents.mapM eventMarker = .ok markers) ↔
      ∀ document ∈ documents, document.Readable := by
  rw [mapM_ok_iff]
  exact forall₂_congr fun _ _ => eventMarker_ok_iff

/-- A marker is made of the document's own values. -/
theorem eventMarker_eq_ok {document : Document} {marker : Marker}
    (h : eventMarker document = .ok marker) : marker.markerId = document.documentID ∧
      marker.icon = markerIcon document.data ∧ marker.data = document.data := by
  simp only [eventMarker, bind, pure, except_bind_eq_ok, Except.pure, Except.ok.injEq] at h
  obtain ⟨_, -, _, -, rfl⟩ := h
  exact ⟨rfl, rfl, rfl⟩

theorem eventMarker_data {document : Document} {marker : Marker}
    (h : eventMarker document = .ok marker) : marker.data = document.data :=
  (eventMarker_eq_ok h).2.2

/-- The page with more events. -/
def MapPage.append (datas : List Data) (markers : List Marker) (m : MapPage) : MapPage :=
  { m with
    eventDatas := m.eventDatas ++ datas
    allEventMarkers := m.allEventMarkers ++ markers }

@[simp] theorem MapPage.append_nil (m : MapPage) : m.append [] [] = m := by
  simp [MapPage.append]

theorem MapPage.append_append (m : MapPage) (d₁ d₂ : List Data) (l₁ l₂ : List Marker) :
    (m.append d₁ l₁).append d₂ l₂ = m.append (d₁ ++ d₂) (l₁ ++ l₂) := by
  simp [MapPage.append]

/-- `w'` differs from `w` in the Map pages at most. -/
structure World.SameButMap (w w' : World) : Prop where
  map : w' = { w with map := w'.map }

namespace World

theorem SameButMap.refl (w : World) : SameButMap w w := ⟨rfl⟩

theorem sameButMap_setMap (w : World) (page : ℕ) (f : MapPage → MapPage) :
    SameButMap w (w.setMap page f) := ⟨rfl⟩

theorem SameButMap.trans {w₁ w₂ w₃ : World} (h₁ : SameButMap w₁ w₂) (h₂ : SameButMap w₂ w₃) :
    SameButMap w₁ w₃ := by
  refine ⟨?_⟩
  rw [h₂.map, h₁.map]

theorem SameButMap.mounted {w w' : World} (h : SameButMap w w') (page : ℕ) :
    w'.mounted page = w.mounted page := by
  rw [h.map]
  rfl

theorem setMap_setMap (w : World) (page : ℕ) (f g : MapPage → MapPage) :
    (w.setMap page f).setMap page g = w.setMap page fun m => g (f m) := by
  simp [setMap]

end World

/-- A Map page, number 0, just opened. -/
def World.mapOpened (date : DateTime) : World where
  routes := [⟨0, .page .map false⟩]
  nextRoute := 1
  publish _ := { createDate := date }

/-! ## Running it -/

variable {me : Caller} {s : World}

/-- A document whose fields can be read gives its marker. -/
theorem processEvent_runs {document : Document} {marker : Marker}
    (h : eventMarker document = .ok marker) :
    (processEvent me document).Runs s (.ok ())
      (s.setMap me.page (MapPage.append [document.data] [marker])) := by
  simp only [eventMarker, bind, pure, except_bind_eq_ok, Except.pure, Except.ok.injEq] at h
  obtain ⟨⟨imageFileArray, smallImageUrl⟩, himages, position, hposition, rfl⟩ := h
  -- the document is listed first, then its marker
  have hset := s.setMap_setMap me.page
    (fun m => { m with eventDatas := m.eventDatas ++ [document.data] })
    (fun m => { m with allEventMarkers := m.allEventMarkers ++ [
      { markerId := document.documentID, position, icon := markerIcon document.data,
        data := document.data, imageFileArray, smallImageUrl }] })
  unfold processEvent
  show _ = (_, _)
  simp only [himages, hposition, Routine.ofExcept, Routine.bind_eq, Routine.bind, Routine.modify,
    Routine.advance]
  rw [hset]
  rfl

/-- A document with a field that cannot be read stops the loop. -/
theorem processEvent_fails {document : Document} {e : Thrown}
    (h : eventMarker document = .error e) :
    ∃ s', (processEvent me document).Runs s (.error e) s' ∧ s.SameButMap s' := by
  simp only [eventMarker, bind, pure, except_bind_eq_error, Except.pure, reduceCtorEq, and_false,
    exists_false, or_false] at h
  unfold processEvent
  rcases h with himages | ⟨⟨imageFileArray, smallImageUrl⟩, himages, hposition⟩
  · rw [himages]
    exact ⟨s, rfl, .refl s⟩
  · -- without a position the document stays listed, without a marker
    rw [himages, hposition]
    exact ⟨_, rfl, s.sameButMap_setMap me.page _⟩

theorem processLoop_runs {documents : List Document} {markers : List Marker}
    (h : documents.mapM eventMarker = .ok markers) :
    (processLoop me documents).Runs s (.ok ())
      (s.setMap me.page (MapPage.append (documents.map (·.data)) markers)) := by
  induction documents generalizing s markers with
  | nil =>
    simp only [List.mapM_nil, pure, Except.pure, Except.ok.injEq] at h
    subst h
    show _ = (_, _)
    simp [processLoop, Routine.advance, World.setMap]
  | cons document documents ih =>
    simp only [List.mapM_cons, bind, pure, except_bind_eq_ok, Except.pure, Except.ok.injEq] at h
    obtain ⟨marker, hmarker, rest, hmarkers, rfl⟩ := h
    have hrest := (processEvent_runs hmarker).bind
      (k := fun _ => processLoop me documents) (ih (s := s.setMap me.page _) hmarkers)
    rw [World.setMap_setMap] at hrest
    simp only [MapPage.append_append] at hrest
    exact hrest

theorem processLoop_fails {documents : List Document} {e : Thrown}
    (h : documents.mapM eventMarker = .error e) :
    ∃ s', (processLoop me documents).Runs s (.error e) s' ∧ s.SameButMap s' := by
  induction documents generalizing s with
  | nil => simp [pure, Except.pure] at h
  | cons document documents ih =>
    simp only [List.mapM_cons, bind, pure, except_bind_eq_error, Except.pure, reduceCtorEq, and_false,
      exists_false, or_false] at h
    rcases h with hmarker | ⟨marker, hmarker, hmarkers⟩
    · obtain ⟨s', hruns, hsame⟩ := @processEvent_fails me s _ _ hmarker
      exact ⟨s', hruns.bind_error, hsame⟩
    · obtain ⟨s', hruns, hsame⟩ := ih (s := s.setMap me.page (MapPage.append [document.data] [marker]))
        hmarkers
      exact ⟨s', (processEvent_runs hmarker).bind hruns, (s.sameButMap_setMap _ _).trans hsame⟩

/-- If all documents can be read, they and their markers are appended in order. -/
theorem processEvents_runs (hs : s.mounted me.page = true) {documents : List Document}
    {markers : List Marker} (h : documents.mapM eventMarker = .ok markers) :
    (processEvents me documents).Runs s (.ok ())
      (s.setMap me.page (MapPage.append (documents.map (·.data)) markers)) := by
  have hmounted : (s.setMap me.page (MapPage.append (documents.map (·.data)) markers)).mounted
      me.page = true := hs
  exact (withContext_runs hs).bind ((processLoop_runs h).bind (withContext_runs hmounted))

/-- If one cannot, `ProcessEvents` throws. -/
theorem processEvents_fails (hs : s.mounted me.page = true) {documents : List Document} {e : Thrown}
    (h : documents.mapM eventMarker = .error e) :
    ∃ s', (processEvents me documents).Runs s (.error e) s' ∧ s.SameButMap s' := by
  obtain ⟨s', hruns, hsame⟩ := @processLoop_fails me s _ _ h
  exact ⟨s', (withContext_runs hs).bind hruns.bind_error, hsame⟩

end FloodUp
