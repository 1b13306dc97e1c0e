import FloodUp.Publish.Page
import FloodUp.Publish.Paths

/-!
# Coherence of the published document

`PublishEvent` checks the form once and reads it again after each `await`. The document it adds
is coherent as long as the form is left alone while a call is on its way: the location text
from the press to the add, the category while images are uploaded, and the hazard text where
the category needs one. `_getCurAddress` alone can break this, by answering late.
-/

namespace FloodUp

open Async

/-- `doc` agrees with itself: the coordinates are those its own place name was geocoded to by
the call with the answers `past`, the required texts are there, and its images are in the folder
of its category. -/
structure Coherent (w : World) (past : List (Answered remote)) (doc : Data) : Prop where
  located : ∃ address reply loc, ⟨.placemarkFromAddress address, reply⟩ ∈ past ∧
    geocodeResult reply = .ok loc ∧ doc.get "placename" = .scalar (.string address) ∧
    doc.get "location" = .scalar (.geoPoint loc)
  place : doc.get "placename" ≠ .scalar (.string "")
  hazard : doc.get "category" = .scalar (.string "9") → doc.get "hazard" ≠ .scalar (.string "")
  folder : ∃ (category : String) (urls : List String), doc.get "category" = .scalar (.string category) ∧
    doc.get "image_files" = .array (urls.map .string) ∧
    ∀ url ∈ urls, ∃ u : Upload, u.categoryNo = category ++ "/" ∧ (u.path, url) ∈ w.links

/-! ## When the form is left alone -/

/-- The hazard text is missing where the category needs one. -/
def PublishPage.NoHazard (q : PublishPage) : Prop := q.category = 8 ∧ q.textHazard = ""

/-- The action leaves alone what a `PublishEvent` on its way still reads. -/
structure Calm (page : ℕ) (p : PublishPool) (a : PublishAction) : Prop where
  location : Busy p →
    (a.onForm (p.state.publish page)).textLocation = (p.state.publish page).textLocation
  hazard : Busy p → ¬(a.onForm (p.state.publish page)).NoHazard
  category : Uploading p →
    (a.onForm (p.state.publish page)).category = (p.state.publish page).category

/-! ## The contract of `PublishEvent` -/

/-- The URLs collected belong to images in the folder of the category now chosen. -/
def Linked (page : ℕ) (s : World) : Prop :=
  ∀ url ∈ (s.publish page).fileDownloadUrls, ∃ u : Upload,
    u.categoryNo = categoryFolder (s.publish page).category ∧ (u.path, url) ∈ s.links

/-- The form is complete, and its location is the one Publish was pressed with. -/
structure Kept (page : ℕ) (born s : World) : Prop where
  location : (s.publish page).textLocation = (born.publish page).textLocation
  place : (s.publish page).textLocation ≠ ""
  hazard : ¬(s.publish page).NoHazard

/-- An image is being uploaded to `path`, in the folder of the category now chosen. -/
structure UploadsTo (page : ℕ) (path : String) (s : World) : Prop where
  images : (s.publish page).imageFiles ≠ []
  path : ∃ u : Upload, u.categoryNo = categoryFolder (s.publish page).category ∧ u.path = path
  linked : Linked page s

/-- What a segment of `PublishEvent` leaves as it is on its page. -/
structure Quiet (page : ℕ) (s s' : World) : Prop where
  location : (s'.publish page).textLocation = (s.publish page).textLocation
  hazard : (s'.publish page).textHazard = (s.publish page).textHazard
  category : (s'.publish page).category = (s.publish page).category
  images : (s'.publish page).imageFiles = (s.publish page).imageFiles
  links : s.links ⊆ s'.links
  linked : Linked page s → Linked page s'
  noStale : NoStale page s → NoStale page s'

def coherenceContract (page : ℕ) (born : World) : Contract remote World Thrown Unit where
  holds h c s :=
    match c with
    | .placemarkFromAddress address =>
      Kept page born s ∧ address = (born.publish page).textLocation ∧ NoStale page s
    | .putFile path _ => Kept page born s ∧ UploadsTo page path s
    | .getDownloadURL path => Kept page born s ∧ UploadsTo page path s
    -- the document is on its way: the form no longer matters
    | .addEvent doc => Coherent s h doc
    | _ => True
  moves _ s _ s' := Quiet page s s'
  ends _ _ := True

/-! ## What keeps it -/

theorem Linked.mono {page : ℕ} {s s' : World} (h : Linked page s)
    (hcategory : (s'.publish page).category = (s.publish page).category)
    (hurls : (s'.publish page).fileDownloadUrls = (s.publish page).fileDownloadUrls)
    (hlinks : s.links ⊆ s'.links) : Linked page s' := by
  intro url hurl
  rw [hurls] at hurl
  obtain ⟨u, hu, hlink⟩ := h url hurl
  exact ⟨u, hcategory ▸ hu, hlinks hlink⟩

theorem Quiet.of_publish {page : ℕ} {s s' : World} (hpublish : s'.publish = s.publish)
    (hlinks : s.links ⊆ s'.links) : Quiet page s s' where
  location := by rw [hpublish]
  hazard := by rw [hpublish]
  category := by rw [hpublish]
  images := by rw [hpublish]
  links := hlinks
  linked h := h.mono (by rw [hpublish]) (by rw [hpublish]) hlinks
  noStale h := by simpa only [NoStale, hpublish] using h

/-- An answer after which only the screen changes is quiet. -/
theorem Quiet.answered {page : ℕ} {s s' : World} (e : Answered remote)
    (h : World.SameData (World.answered e.call e.reply s) s') : Quiet page s s' :=
  .of_publish (h.publish.trans (World.answered_publish _ _ _))
    (by rw [h.links]; exact World.answered_links _ _ _)

theorem Coherent.mono {s s' : World} {past : List (Answered remote)} {doc : Data}
    (h : Coherent s past doc) (hlinks : s.links ⊆ s'.links) : Coherent s' past doc where
  located := h.located
  place := h.place
  hazard := h.hazard
  folder := by
    obtain ⟨category, urls, hcategory, hfiles, hlink⟩ := h.folder
    refine ⟨category, urls, hcategory, hfiles, fun url hurl => ?_⟩
    obtain ⟨u, hu, hlink⟩ := hlink url hurl
    exact ⟨u, hu, hlinks hlink⟩

/-- What a change may do while a `PublishEvent` is suspended at `c`. -/
structure Harmless (page : ℕ) (c : Call) (s s' : World) : Prop where
  location : c.BeforeAdd → (s'.publish page).textLocation = (s.publish page).textLocation
  hazard : c.BeforeAdd → ¬(s.publish page).NoHazard → ¬(s'.publish page).NoHazard
  category : c.IsUpload → (s'.publish page).category = (s.publish page).category
  images : (s'.publish page).imageFiles = [] → (s.publish page).imageFiles = []
  links : s.links ⊆ s'.links
  linked : (s'.publish page).category = (s.publish page).category → Linked page s → Linked page s'
  noStale : NoStale page s → NoStale page s'

theorem Quiet.harmless {page : ℕ} {s s' : World} (h : Quiet page s s') (c : Call) :
    Harmless page c s s' where
  location _ := h.location
  hazard _ hs := by
    simp only [PublishPage.NoHazard, h.category, h.hazard]
    exact hs
  -- the category matters during uploads only, but a segment never changes it
  category _ := h.category
  images hs := h.images ▸ hs
  links := h.links
  linked _ := h.linked
  noStale := h.noStale

theorem Kept.harmless {page : ℕ} {born s s' : World} {c : Call} (h : Kept page born s)
    (hs : Harmless page c s s') (hc : c.BeforeAdd) : Kept page born s' where
  location := (hs.location hc).trans h.location
  place := by rw [hs.location hc]; exact h.place
  hazard := hs.hazard hc h.hazard

theorem UploadsTo.harmless {page : ℕ} {path : String} {s s' : World} {c : Call}
    (h : UploadsTo page path s) (hs : Harmless page c s s') (hc : c.IsUpload) :
    UploadsTo page path s' where
  images hnil := h.images (hs.images hnil)
  path := by rw [hs.category hc]; exact h.path
  linked := hs.linked (hs.category hc) h.linked

/-- A suspended `PublishEvent` does not notice a harmless change. -/
theorem coherence_stable {page : ℕ} {born s s' : World} {h : List (Answered remote)} {c : Call}
    (hc : (coherenceContract page born).holds h c s) (hs : Harmless page c s s') :
    (coherenceContract page born).holds h c s' := by
  cases c with
  | placemarkFromAddress address =>
    obtain ⟨hkept, haddress, hstale⟩ := hc
    exact ⟨hkept.harmless hs trivial, haddress, hs.noStale hstale⟩
  | putFile path file => exact ⟨hc.1.harmless hs trivial, hc.2.harmless hs trivial⟩
  | getDownloadURL path => exact ⟨hc.1.harmless hs trivial, hc.2.harmless hs trivial⟩
  | addEvent doc => exact Coherent.mono hc hs.links
  | _ => trivial

/-! ## `PublishEvent` keeps its contract -/

theorem categoryNumber_eq_nine {category : ℕ} (h : categoryNumber category = "9") :
    category = 8 := by
  -- "9" is the decimal of no other number
  have hsucc : category + 1 = 9 := Nat.repr_injective h
  omega

/-- A document built from a form that was kept is coherent. -/
theorem coherent_document {page : ℕ} {born s : World} {t : Trail} (hs : Kept page born s)
    (haddress : t.address = (born.publish page).textLocation)
    (hloc : geocodeResult t.reply = .ok t.loc) (hlinked : Linked page s) :
    Coherent s t.history (s.document page t.loc) where
  located := ⟨t.address, t.reply, t.loc, by simp [Trail.history], hloc,
    by simp [World.document, eventDocument, Data.get_cons, haddress, hs.location],
    by simp [World.document, eventDocument, Data.get_cons]⟩
  place := by
    simpa [World.document, eventDocument, Data.get_cons] using hs.place
  hazard hnine := by
    simp only [World.document, eventDocument, Data.get_cons] at hnine
    have h8 := categoryNumber_eq_nine (by simpa using hnine)
    have htext : (s.publish page).textHazard ≠ "" := fun htext => hs.hazard ⟨h8, htext⟩
    simpa [World.document, eventDocument, Data.get_cons] using htext
  folder := ⟨categoryNumber (s.publish page).category, (s.publish page).fileDownloadUrls,
    by simp [World.document, eventDocument, Data.get],
    by simp [World.document, eventDocument, Data.get_cons], hlinked⟩

/-- Appending the URL of an image in the folder of the category keeps the page linked. -/
theorem Linked.addUrl {page : ℕ} {s : World} {u : Upload} (h : Linked page s)
    (hu : u.categoryNo = categoryFolder (s.publish page).category) (url : String) :
    Linked page (s.addUrl page u.path url) := by
  intro url' hurl'
  have hlinks : (s.addUrl page u.path url).links = s.links ++ [(u.path, url)] := rfl
  simp only [World.addUrl_publish, List.mem_append, List.mem_singleton] at hurl' ⊢
  rw [hlinks]
  rcases hurl' with hurl' | rfl
  · obtain ⟨u', hu', hlink⟩ := h url' hurl'
    exact ⟨u', hu', List.mem_append_left _ hlink⟩
  · exact ⟨u, hu, by simp⟩

theorem Linked.clearUrls (page : ℕ) (s : World) : Linked page (s.clearUrls page) := by
  intro url hurl
  simp at hurl

theorem Quiet.addUrl {page : ℕ} {s : World} {u : Upload} (himages : (s.publish page).imageFiles ≠ [])
    (hu : u.categoryNo = categoryFolder (s.publish page).category) (url : String) :
    Quiet page s (s.addUrl page u.path url) where
  location := by simp
  hazard := by simp
  category := by simp
  images := by simp
  links := List.subset_append_left _ _
  linked h := h.addUrl hu url
  noStale _ hnil := absurd (by simpa using hnil) himages

theorem Quiet.trans {page : ℕ} {s₁ s₂ s₃ : World} (h₁ : Quiet page s₁ s₂) (h₂ : Quiet page s₂ s₃) :
    Quiet page s₁ s₃ where
  location := h₂.location.trans h₁.location
  hazard := h₂.hazard.trans h₁.hazard
  category := h₂.category.trans h₁.category
  images := h₂.images.trans h₁.images
  links := List.Subset.trans h₁.links h₂.links
  linked h := h₂.linked (h₁.linked h)
  noStale h := h₂.noStale (h₁.noStale h)

theorem Quiet.startUpload (page : ℕ) (s : World) (u : Upload) : Quiet page s (s.startUpload u) :=
  .of_publish rfl (List.Subset.refl _)

theorem Quiet.clearUrls (page : ℕ) (s : World) : Quiet page s (s.clearUrls page) where
  location := by simp
  hazard := by simp
  category := by simp
  images := by simp
  links := List.Subset.refl _
  linked _ := Linked.clearUrls page s
  noStale _ _ := by simp

theorem Kept.quiet {page : ℕ} {born s s' : World} (h : Kept page born s) (hs : Quiet page s s') :
    Kept page born s' :=
  h.harmless (hs.harmless (.placemarkFromAddress "")) trivial

/-- What is known when the URL of an image has just come. -/
theorem uploaded {page : ℕ} {born s : World} {t : Trail} {u : Upload} {h : List (Answered remote)}
    (hu : u.categoryNo = t.folder page)
    (hs : (coherenceContract page born).holds h (.getDownloadURL u.path) s) (url : String) :
    t.folder page = categoryFolder (s.publish page).category ∧
      Quiet page s (s.addUrl page u.path url) ∧ Kept page born (s.addUrl page u.path url) ∧
      Linked page (s.addUrl page u.path url) := by
  obtain ⟨hkept, himages, ⟨u', hu', hpath⟩, hlinked⟩ := hs
  -- the folder is read off the path, which has not changed since the upload began
  have hcategory := (@path_inj (t.start.publish page).category _ u u' hu hu' hpath.symm).1
  have hfolder : u.categoryNo = categoryFolder (s.publish page).category := hcategory ▸ hu
  have hquiet := Quiet.addUrl himages hfolder url
  exact ⟨hu ▸ hfolder, hquiet, hkept.quiet hquiet, hquiet.linked hlinked⟩

theorem coherence_rules {me : Caller} {born : World} (hstale : NoStale me.page born) :
    PublishRules (fun _ _ _ => True) (coherenceContract me.page born) me born where
  refuse r s hs _ := ⟨.of_publish hs.publish (by rw [hs.links]; exact List.Subset.refl _), trivial⟩
  locate s hs hcomplete := by
    have hquiet : Quiet me.page born s :=
      .of_publish hs.publish (by rw [hs.links]; exact List.Subset.refl _)
    exact ⟨hquiet, ⟨hquiet.location, hquiet.location ▸ hcomplete.2,
      by simpa only [PublishPage.NoHazard, hs.publish] using hcomplete.1⟩, rfl, hquiet.noStale hstale⟩
  notify h e c s s' hc _ _ hs := by
    refine ⟨.answered e hs, ?_⟩
    cases hc <;> trivial
  quit h e r s s' _ _ hs _ := ⟨.answered e hs, trivial⟩
  add_first t ht hdone hnil := by
    obtain ⟨hkept, haddress, hstale⟩ := ht.held
    refine ⟨.of_publish rfl (List.Subset.refl _), coherent_document hkept haddress ht.located ?_⟩
    intro url hurl
    -- without images the field was not emptied, but it had no URLs left over
    simp [hstale hnil] at hurl
  put_first t file ht hdone hfile := by
    obtain ⟨hkept, -, hstale⟩ := ht.held
    have hquiet := (Quiet.clearUrls me.page t.start).trans (.startUpload me.page _
      ⟨t.folder me.page, t.start.clock, file⟩)
    refine ⟨hquiet, hkept.quiet hquiet, ?_, ?_, ?_⟩
    · intro hnil
      rw [hquiet.images] at hnil
      simp [hnil] at hfile
    · exact ⟨_, by rw [hquiet.category]; rfl, rfl⟩
    · exact (Linked.clearUrls me.page t.start).mono rfl rfl (List.Subset.refl _)
  link t u s ht hu hs := by
    have hquiet : Quiet me.page s { s with stored := s.stored ++ [(u.path, u.file)] } :=
      .of_publish rfl (List.Subset.refl _)
    exact ⟨hquiet, hs.1.quiet hquiet, hs.2.harmless (hquiet.harmless (.putFile "" ⟨""⟩)) trivial⟩
  put_next t u url file s ht hu hs _ _ _ := by
    obtain ⟨hfolder, hquiet, hkept, hlinked⟩ := uploaded hu hs url
    have hquiet' := hquiet.trans (.startUpload me.page _ ⟨t.folder me.page, s.clock, file⟩)
    refine ⟨hquiet', hs.1.quiet hquiet', ?_, ?_, hlinked.mono rfl rfl (List.Subset.refl _)⟩
    · rw [hquiet'.images]
      exact hs.2.images
    · exact ⟨_, by rw [hquiet'.category]; exact hfolder, rfl⟩
  add_last t u url s ht hu hs _ _ _ := by
    obtain ⟨-, hquiet, hkept, hlinked⟩ := uploaded hu hs url
    exact ⟨hquiet, coherent_document hkept ht.held.2.1 ht.located hlinked⟩
  abort t u url s ht hu hs _ _ := ⟨(uploaded hu hs url).2.1, trivial⟩

/-! ## The page keeps it -/

abbrev coherenceContracts (page : ℕ) : PublishRoutine → World → Contract remote World Thrown Unit :=
  pageContracts page (coherenceContract page)

/-- What a step of the page may do to the state, as far as some call is on its way. -/
structure Allowed (page : ℕ) (p : PublishPool) (s' : World) : Prop where
  location : Busy p → (s'.publish page).textLocation = (p.state.publish page).textLocation
  hazard : Busy p → ¬(p.state.publish page).NoHazard → ¬(s'.publish page).NoHazard
  category : Uploading p → (s'.publish page).category = (p.state.publish page).category
  images : (s'.publish page).imageFiles = [] → (p.state.publish page).imageFiles = []
  links : p.state.links ⊆ s'.links
  linked : (s'.publish page).category = (p.state.publish page).category →
    Linked page p.state → Linked page s'
  noStale : NoStale page p.state → NoStale page s'

/-- No suspended routine notices a step that is allowed. -/
theorem Allowed.undisturbed {page : ℕ} {p : PublishPool} {s' : World} (h : Allowed page p s')
    (j : Option ℕ) : p.Undisturbed (coherenceContracts page) s' j := by
  intro i th c _ hth hc hholds
  have hmem : th ∈ p.threads := List.mem_of_getElem? hth
  cases htag : th.tag with
  | publishEvent =>
    rw [htag] at hholds
    refine coherence_stable hholds ⟨fun hb => ?_, fun hb => ?_, fun hu => ?_, h.images, h.links,
      h.linked, h.noStale⟩
    · exact h.location ⟨th, hmem, c, hc, htag, hb⟩
    · exact h.hazard ⟨th, hmem, c, hc, htag, hb⟩
    · exact h.category ⟨th, hmem, c, hc, htag, hu⟩
  -- the other two routines of the page rely on nothing
  | getCurAddress => trivial
  | getImage => trivial

theorem Quiet.allowed {page : ℕ} {p : PublishPool} {s' : World} (h : Quiet page p.state s') :
    Allowed page p s' where
  location _ := h.location
  hazard _ := (h.harmless (.placemarkFromAddress "")).hazard trivial
  category _ := h.category
  images hnil := h.images ▸ hnil
  links := h.links
  linked _ := h.linked
  noStale := h.noStale

/-- A calm change of the form is allowed. -/
theorem Calm.allowed {page : ℕ} {p : PublishPool} {a : PublishAction} (h : Calm page p a) :
    Allowed page p (p.state.setPublish page a.onForm) where
  location hb := by simpa using h.location hb
  hazard hb _ := by simpa using h.hazard hb
  category hu := by simpa using h.category hu
  images hnil := by simpa using hnil
  links := List.Subset.refl _
  linked hcategory hlinked :=
    hlinked.mono hcategory (by simp) (List.Subset.refl _)
  noStale hstale := by
    simpa [NoStale] using hstale

/-- Appending an image is allowed. -/
theorem allowed_image (page : ℕ) (p : PublishPool) (image : File) :
    Allowed page p (p.state.setPublish page fun q => { q with imageFiles := q.imageFiles ++ [image] }) where
  location _ := by simp
  hazard _ h := by simpa [PublishPage.NoHazard] using h
  category _ := by simp
  images hnil := by simp at hnil
  links := List.Subset.refl _
  -- one image more, no URL more
  linked _ hlinked := hlinked.mono (by simp) (by simp) (List.Subset.refl _)
  noStale _ hnil := by simp at hnil

/-- What holds of a page along a run that leaves the form alone. -/
structure CoherenceInv (page : ℕ) (p : PublishPool) : Prop where
  ok : p.Ok anyEnv (coherenceContracts page)
  noStale : NoStale page p.state

/-- Whatever a calm action changes is allowed. -/
theorem PageChange.allowed {page : ℕ} {p : PublishPool} {a : PublishAction} {j : Option ℕ}
    {s' : World} {c : Option Call} (h : PageChange page (coherenceContract page) p a j s' c)
    (hcalm : Calm page p a) : Allowed page p s' := by
  cases h with
  | form _ _ => exact hcalm.allowed
  | still _ _ _ hpublish hlinks =>
    exact (Quiet.of_publish hpublish (by rw [hlinks]; exact List.Subset.refl _)).allowed
  | image i image => exact allowed_image page p image
  | press _ _ hmove => exact Quiet.allowed hmove
  | segment i e th _ _ hth htag hawait hmove => exact Quiet.allowed hmove

/-- Every calm action keeps the invariant. -/
theorem CoherenceInv.step {page : ℕ} {p p' : PublishPool} {a : PublishAction}
    (hinv : CoherenceInv page p) (hcalm : Calm page p a) (hstep : publishStep page p a = some p') :
    CoherenceInv page p' := by
  obtain ⟨j, c, hchange, -, hok⟩ := publishStep_changes hinv.ok
    (fun _ => publishEvent_meets (@coherence_rules ⟨p.threads.length, page⟩ _ hinv.noStale)) hstep
  have hallowed := hchange.allowed hcalm
  exact ⟨hok (hallowed.undisturbed j), hallowed.noStale hinv.noStale⟩

/-- A page just opened has neither images nor URLs. -/
theorem CoherenceInv.opened {page : ℕ} {w : World} {date : DateTime}
    (hw : w.publish page = .opened date) : CoherenceInv page (openPublish page w) where
  ok := openPublish_ok page _ w
  noStale _ := by
    have hstate : (openPublish page w).state = w := rfl
    rw [hstate, hw]
    rfl

/-- Every document a call is about to add is coherent. -/
def AddsCoherent (p : PublishPool) : Prop :=
  ∀ th ∈ p.threads, ∀ doc, th.tag = .publishEvent → th.now.awaiting = some (.addEvent doc) →
    Coherent p.state th.past doc

/-- As long as no step changes the part of the form that a call on its way still reads, only
coherent documents are added. -/
theorem publish_coherent {page : ℕ} {w : World} {date : DateTime} {as : List PublishAction}
    {p : PublishPool} (hw : w.publish page = .opened date)
    (hcalm : Along (publishStep page) (Calm page) (openPublish page w) as)
    (hrun : run (publishStep page) (openPublish page w) as = some p) : AddsCoherent p := by
  have hinv : CoherenceInv page p :=
    run_invariant (fun _ _ _ hinv hcalm hstep => hinv.step hcalm hstep) (.opened hw) hcalm hrun
  intro th hth doc htag hdoc
  obtain ⟨i, hi⟩ := List.mem_iff_getElem?.mp hth
  -- what a call waiting for the add relies on is that its document is coherent
  have hrests := hinv.ok i th hi
  rw [htag] at hrests
  exact hrests.holds hdoc

/-- An action that does not touch the form is calm. -/
theorem Calm.of_onForm {page : ℕ} {p : PublishPool} {a : PublishAction}
    (h : a.onForm (p.state.publish page) = p.state.publish page)
    (hhazard : ¬(p.state.publish page).NoHazard) : Calm page p a where
  location _ := by rw [h]
  hazard _ := by rwa [h]
  category _ := by rw [h]

/-- The user enters a location, presses Publish and waits. -/
def publishAndWait : List PublishAction :=
  [.edit (.location "Here"), .press,
    .answer 1 ⟨.placemarkFromAddress "Here",
      (.ok (some [⟨⟨1, 2⟩⟩]) : Except Fault (Option (List Placemark)))⟩]

theorem publish_coherent_undisturbed :
    ∃ p, run (publishStep 1) (openPublish 1 (.publishing ⟨2020, 1, 1⟩)) publishAndWait = some p ∧
      AddsCoherent p ∧ ∃ th ∈ p.threads, ∃ doc, th.now.awaiting = some (.addEvent doc) := by
  refine ⟨_, rfl, ?_, _, .tail _ (.head _), _, rfl⟩
  refine @publish_coherent 1 (.publishing ⟨2020, 1, 1⟩) ⟨2020, 1, 1⟩ publishAndWait _ rfl ?_ rfl
  refine ⟨?_, ?_, ?_, trivial⟩
  · -- the only thread so far is the one of `_getCurAddress`
    have hidle : ¬Busy (openPublish 1 (.publishing ⟨2020, 1, 1⟩)) := by decide
    exact ⟨fun hb => absurd hb hidle, fun hb => absurd hb hidle, fun _ => rfl⟩
  · exact .of_onForm rfl fun h => absurd h.1 (by decide)
  · exact .of_onForm rfl fun h => absurd h.1 (by decide)

/-- The user enters a location and presses Publish; the address of the current position
arrives between the geocoding and the add, and is stored with the coordinates of the other. -/
theorem late_address_incoherent :
    ¬∀ (page : ℕ) (w : World) (date : DateTime) (as : List PublishAction) (p : PublishPool),
      w.publish page = .opened date → run (publishStep page) (openPublish page w) as = some p →
      AddsCoherent p := by
  intro h
  have hcoherent := h 1 (.publishing ⟨2020, 1, 1⟩) ⟨2020, 1, 1⟩
    [.edit (.location "Here"), .press,
      .answer 0 ⟨.findAddressesFromCoordinates ⟨1, 2⟩, (.ok ["There"] : Except Fault (List String))⟩,
      .answer 1 ⟨.placemarkFromAddress "Here",
        (.ok (some [⟨⟨1, 2⟩⟩]) : Except Fault (Option (List Placemark)))⟩] _ rfl rfl
    _ (.tail _ (.head _)) _ rfl rfl
  obtain ⟨address, reply, loc, hpast, -, hplace, -⟩ := hcoherent.located
  -- the only place that was geocoded is the one of the form at the press
  have hasked : address = "Here" := by
    have hpast := List.mem_singleton.mp hpast
    simp only [Answered.mk.injEq, Call.placemarkFromAddress.injEq] at hpast
    exact hpast.1
  have hstored : Value.scalar (.string "There") = .scalar (.string address) := hplace
  rw [hasked] at hstored
  exact absurd hstored (by decide)

end FloodUp
