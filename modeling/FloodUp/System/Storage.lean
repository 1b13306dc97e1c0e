import FloodUp.Publish.Page
import FloodUp.Publish.Paths

/-!
# The images in the storage

Any number of devices publish into one storage. A file goes under the number of its category and
the clock reading of its device, so files from all devices share one space of names: a put
replaces what was stored under the same path. `no_collision_iff` says that the published
URLs denote the images they were published with exactly as long as no two uploads have the
same category and the same reading.
-/

namespace FloodUp

open Async

/-! ## Devices and the storage -/

/-- All devices, and what the storage has received, the newest file first. -/
structure Fleet where
  device : ℕ → PublishPool
  storage : List (String × File)

inductive FleetAction where
  /-- A Publish page is opened on a device. -/
  | openPage (device : ℕ) (date : DateTime)
  | act (device page : ℕ) (a : PublishAction)
  /-- The storage receives the file a routine of the device is sending. -/
  | put (device i : ℕ)

/-- Open a Publish page over the others; a page nobody has used yet has its initial fields. -/
def openPage (date : DateTime) (p : PublishPool) : PublishPool :=
  (p.update fun w => (w.push (.page .publish false)).setPublish w.nextRoute fun q =>
      { q with createDate := date }).start
    .getCurAddress (getCurAddress ⟨p.threads.length, p.state.nextRoute⟩)

variable (pathOf : String → String)

/-- A download URL stands for the path it was asked for. -/
def Denoting : Answered remote → Prop
  | ⟨.getDownloadURL path, .ok url⟩ => pathOf url = path
  | _ => True

/-- The file an answer says has been stored. -/
def putOf : Answered remote → List (String × File)
  | ⟨.putFile path file, .ok _⟩ => [(path, file)]
  | _ => []

/-- Answers are given as the storage gives them: a file has arrived when its put is answered. -/
def PublishAction.Possible (storage : List (String × File)) : PublishAction → Prop
  | .answer _ e => Denoting pathOf e ∧ putOf e ⊆ storage
  | _ => True

instance : DecidablePred (Denoting pathOf) := fun e => by
  unfold Denoting
  split <;> infer_instance

instance (storage : List (String × File)) : DecidablePred (PublishAction.Possible pathOf storage) :=
  fun a => by
    unfold PublishAction.Possible
    split <;> infer_instance

def fleetStep (f : Fleet) : FleetAction → Option Fleet
  | .openPage d date =>
    some { f with device := Function.update f.device d (openPage date (f.device d)) }
  | .act d page a =>
    if a.Possible pathOf f.storage then
      (publishStep page (f.device d) a).map fun p =>
        { f with device := Function.update f.device d p }
    else none
  | .put d i =>
    match (f.device d).threads[i]?.bind (·.now.awaiting) with
    | some (.putFile path file) => some { f with storage := (path, file) :: f.storage }
    | _ => none

/-- The app has published nothing yet. -/
structure World.Unpublished (w : World) : Prop where
  uploads : w.uploads = []
  stored : w.stored = []
  links : w.links = []
  events : w.events = []
  urls : ∀ page, (w.publish page).fileDownloadUrls = []

/-- Nothing has happened on any device. -/
structure Fleet.Fresh (f : Fleet) : Prop where
  threads : ∀ d, (f.device d).threads = []
  state : ∀ d, (f.device d).state.Unpublished
  storage : f.storage = []

/-! ## What is promised -/

/-- The uploads a device has begun. -/
def Fleet.uploads (f : Fleet) (d : ℕ) : List Upload := (f.device d).state.uploads

/-- No two uploads, of one device or of two, agree in what `same` compares. -/
def Fleet.Distinct (f : Fleet) (same : Upload → Upload → Prop) : Prop :=
  ∀ (d d' i j : ℕ) (u u' : Upload), (f.uploads d)[i]? = some u → (f.uploads d')[j]? = some u' →
    same u u' → d = d' ∧ i = j

/-- What `url` denotes is the image the device uploaded to its path: there was such an upload, of
a file attached on that device, and the storage has the file of each such upload. -/
structure Fleet.Denotes (f : Fleet) (d : ℕ) (url : String) : Prop where
  uploaded : ∃ u ∈ f.uploads d, u.path = pathOf url ∧
    ∃ page, u.file ∈ ((f.device d).state.publish page).imageFiles
  content : ∀ u ∈ f.uploads d, u.path = pathOf url → f.storage.lookup (pathOf url) = some u.file

/-- The document's `image_files` has `url`. -/
def Data.HasImage (doc : Data) (url : String) : Prop :=
  ∃ urls, doc.get "image_files" = .array urls ∧ Datum.string url ∈ urls

/-- No two images are put at the same path, and each URL of each stored event denotes the image
its publisher attached. -/
structure NoCollision (f : Fleet) : Prop where
  paths : f.Distinct fun u u' => u.path = u'.path
  events : ∀ d, ∀ doc ∈ (f.device d).state.events, ∀ url, doc.HasImage url → f.Denotes pathOf d url

/-- No two uploads have the same category and the same clock reading. -/
def ClocksDistinct (f : Fleet) : Prop :=
  f.Distinct fun u u' => u.categoryNo = u'.categoryNo ∧ u.millis = u'.millis

/-! ## One device -/

/-- The device was given `url` for a path it has stored a file at. -/
def World.Given (w : World) (url : String) : Prop := ∃ path, (path, url) ∈ w.links

/-- The URLs of a device lead back to its uploads. -/
structure World.Linked (w : World) : Prop where
  folder : ∀ u ∈ w.uploads, ∃ category, u.categoryNo = categoryFolder category
  attached : ∀ u ∈ w.uploads, ∃ page, u.file ∈ (w.publish page).imageFiles
  links : ∀ l ∈ w.links, pathOf l.2 = l.1 ∧ ∃ u ∈ w.uploads, u.path = l.1 ∧ (l.1, u.file) ∈ w.stored
  urls : ∀ page, ∀ url ∈ (w.publish page).fileDownloadUrls, w.Given url
  events : ∀ doc ∈ w.events, ∀ url, doc.HasImage url → w.Given url

/-- Nothing recorded about the uploads is lost. -/
structure World.Grows (w w' : World) : Prop where
  uploads : w.uploads ⊆ w'.uploads
  stored : w.stored ⊆ w'.stored
  links : w.links ⊆ w'.links

/-- The step from `w` to `w'` keeps the links, and stores what the last of the answers `h` says
has been stored. -/
structure World.Advances (h : List (Answered remote)) (w w' : World) : Prop where
  linked : w'.Linked pathOf
  grows : w.Grows w'
  stored : w'.stored ⊆ w.stored ++ h.getLast?.toList.flatMap putOf

variable {pathOf}

theorem World.Given.mono {w w' : World} {url : String} (h : w.Given url)
    (hgrows : w.links ⊆ w'.links) : w'.Given url :=
  h.imp fun _ hmem => hgrows hmem

theorem World.Grows.refl (w : World) : w.Grows w :=
  ⟨List.Subset.refl _, List.Subset.refl _, List.Subset.refl _⟩

theorem World.Grows.trans {w₁ w₂ w₃ : World} (h₁ : w₁.Grows w₂) (h₂ : w₂.Grows w₃) :
    w₁.Grows w₃ :=
  ⟨List.Subset.trans h₁.uploads h₂.uploads, List.Subset.trans h₁.stored h₂.stored,
    List.Subset.trans h₁.links h₂.links⟩

theorem hasImage_document {page : ℕ} {loc : LatLng} {w : World} {url : String}
    (h : (w.document page loc).HasImage url) : url ∈ (w.publish page).fileDownloadUrls := by
  obtain ⟨urls, hget, hmem⟩ := h
  have hurls : (w.document page loc).get "image_files" =
      .array ((w.publish page).fileDownloadUrls.map .string) := by
    simp [World.document, eventDocument, Data.get_cons]
  rw [hurls] at hget
  rw [← Value.array.inj hget] at hmem
  simpa using hmem

/-! ### Steps of a device -/

/-- Nothing but pages changes; no image is taken away, and no URL comes from elsewhere. -/
structure World.Kept (w w' : World) : Prop where
  uploads : w'.uploads = w.uploads
  stored : w'.stored = w.stored
  links : w'.links = w.links
  events : w'.events = w.events
  images : ∀ page, (w.publish page).imageFiles ⊆ (w'.publish page).imageFiles
  urls : ∀ page, ∀ url ∈ (w'.publish page).fileDownloadUrls,
    url ∈ (w.publish page).fileDownloadUrls ∨ w.Given url

variable {w w₁ w' : World} {h : List (Answered remote)}

theorem World.SameData.kept (h : w.SameData w') : w.Kept w' where
  uploads := h.uploads
  stored := h.stored
  links := h.links
  events := h.events
  images page := by rw [h.publish]; exact List.Subset.refl _
  urls page url hurl := .inl (by rwa [h.publish] at hurl)

/-- A change of one page. -/
theorem World.kept_setPublish (page : ℕ) (f : PublishPage → PublishPage)
    (himages : ∀ q, q.imageFiles ⊆ (f q).imageFiles)
    (hurls : ∀ url ∈ (f (w.publish page)).fileDownloadUrls,
      url ∈ (w.publish page).fileDownloadUrls ∨ w.Given url) : w.Kept (w.setPublish page f) where
  uploads := rfl
  stored := rfl
  links := rfl
  events := rfl
  images page' := by
    by_cases hpage : page' = page
    · subst hpage
      simpa using himages _
    · simp [setPublish, hpage]
  urls page' url hurl := by
    by_cases hpage : page' = page
    · subst hpage
      exact hurls url (by simpa using hurl)
    · exact .inl (by simpa [setPublish, hpage] using hurl)

theorem World.Kept.trans (h₁ : w.Kept w₁) (h₂ : w₁.Kept w') : w.Kept w' where
  uploads := h₂.uploads.trans h₁.uploads
  stored := h₂.stored.trans h₁.stored
  links := h₂.links.trans h₁.links
  events := h₂.events.trans h₁.events
  images page := List.Subset.trans (h₁.images page) (h₂.images page)
  urls page url hurl := by
    rcases h₂.urls page url hurl with hold | hgiven
    · exact h₁.urls page url hold
    · exact .inr (hgiven.mono (by rw [h₁.links]; exact List.Subset.refl _))

theorem World.Linked.kept (hw : w.Linked pathOf) (hkept : w.Kept w') : w'.Linked pathOf := by
  have hgiven : ∀ url, w.Given url → w'.Given url := fun url hurl =>
    hurl.mono (by rw [hkept.links]; exact List.Subset.refl _)
  constructor
  · rw [hkept.uploads]
    exact hw.folder
  · rw [hkept.uploads]
    intro u hu
    obtain ⟨page, hpage⟩ := hw.attached u hu
    exact ⟨page, hkept.images page hpage⟩
  · rw [hkept.links, hkept.uploads, hkept.stored]
    exact hw.links
  · intro page url hurl
    rcases hkept.urls page url hurl with hold | hnew
    · exact hgiven url (hw.urls page url hold)
    · exact hgiven url hnew
  · rw [hkept.events]
    exact fun doc hdoc url hurl => hgiven url (hw.events doc hdoc url hurl)

namespace World.Advances

theorem refl (hw : w.Linked pathOf) : w.Advances pathOf h w :=
  ⟨hw, .refl w, by simp⟩

theorem kept (hw : w.Advances pathOf h w₁) (hkept : w₁.Kept w') : w.Advances pathOf h w' where
  linked := hw.linked.kept hkept
  grows := by
    obtain ⟨huploads, hstored, hlinks⟩ := hw.grows
    constructor
    · rwa [hkept.uploads]
    · rwa [hkept.stored]
    · rwa [hkept.links]
  stored := by
    rw [hkept.stored]
    exact hw.stored

/-- An upload begins. -/
theorem startUpload (hw : w.Advances pathOf h w₁) {u : Upload}
    (hfolder : ∃ category, u.categoryNo = categoryFolder category)
    (hfile : ∃ page, u.file ∈ (w₁.publish page).imageFiles) :
    w.Advances pathOf h (w₁.startUpload u) where
  linked := by
    obtain ⟨hfolders, hattached, hlinks, hurls, hevents⟩ := hw.linked
    have hmem : ∀ u' ∈ (w₁.startUpload u).uploads, u' ∈ w₁.uploads ∨ u' = u := by
      simp [World.startUpload]
    refine ⟨fun u' hu' => ?_, fun u' hu' => ?_, fun l hl => ?_, hurls, hevents⟩
    · rcases hmem u' hu' with hold | rfl
      · exact hfolders u' hold
      · exact hfolder
    · rcases hmem u' hu' with hold | rfl
      · exact hattached u' hold
      · exact hfile
    · obtain ⟨hpath, u', hu', hstored⟩ := hlinks l hl
      exact ⟨hpath, u', List.mem_append_left _ hu', hstored⟩
  grows := ⟨List.Subset.trans hw.grows.uploads (List.subset_append_left _ _), hw.grows.stored,
    hw.grows.links⟩
  stored := hw.stored

end World.Advances

/-! ## The contract of a routine -/

/-- What the links need at each call. -/
def LinkedAt (c : Call) (s : World) : Prop :=
  match c with
  | .putFile path file => ∃ u ∈ s.uploads, u.path = path ∧ u.file = file
  | .getDownloadURL path => ∃ u ∈ s.uploads, u.path = path ∧ (path, u.file) ∈ s.stored
  | .addEvent doc => ∀ url, Data.HasImage doc url → s.Given url
  | _ => True

theorem LinkedAt.mono {c : Call} (hc : LinkedAt c w) (hgrows : w.Grows w') : LinkedAt c w' := by
  cases c with
  | putFile path file => exact hc.imp fun u hu => ⟨hgrows.uploads hu.1, hu.2⟩
  | getDownloadURL path =>
    exact hc.imp fun u hu => ⟨hgrows.uploads hu.1, hu.2.1, hgrows.stored hu.2.2⟩
  | addEvent doc => exact fun url hurl => (hc url hurl).mono hgrows.links
  | _ => trivial

variable (pathOf) in
def linksContract : Contract remote World Thrown Unit where
  holds _ c s := s.Linked pathOf ∧ LinkedAt c s
  moves h s _ s' := s.Advances pathOf h s'
  ends _ _ := True

/-- The answer to a call keeps the links. -/
theorem World.Advances.answered {c : Call} {r : Reply c} (hw : w.Linked pathOf)
    (hc : LinkedAt c w) (hdenotes : Denoting pathOf ⟨c, r⟩) :
    w.Advances pathOf (h ++ [⟨c, r⟩]) (World.answered c r w) := by
  have hkept : ∀ w' : World, w.Kept w' → w.Advances pathOf (h ++ [⟨c, r⟩]) w' := fun w' hw' =>
    (World.Advances.refl hw).kept hw'
  obtain ⟨hfolder, hattached, hlinks, hurls, hevents⟩ := hw
  unfold World.answered
  split
  · exact hkept _ (World.sameData_drop _ _).kept
  · exact hkept _ (World.sameData_drop _ _).kept
  · -- the document's URLs had been given when it was sent
    refine ⟨⟨hfolder, hattached, hlinks, hurls, fun doc hdoc => ?_⟩,
      ⟨List.Subset.refl _, List.Subset.refl _, List.Subset.refl _⟩, by simp⟩
    rcases List.mem_append.mp hdoc with hold | hnew
    · exact hevents doc hold
    · rw [List.mem_singleton] at hnew
      subst hnew
      exact hc
  · refine ⟨⟨hfolder, hattached, fun l hl => ?_, hurls, hevents⟩,
      ⟨List.Subset.refl _, List.subset_append_left _ _, List.Subset.refl _⟩, by simp [putOf]⟩
    obtain ⟨hpath, u, hu, hup, hstored⟩ := hlinks l hl
    exact ⟨hpath, u, hu, hup, List.mem_append_left _ hstored⟩
  · refine ⟨⟨hfolder, hattached, fun l hl => ?_,
        fun page url hurl => (hurls page url hurl).mono (List.subset_append_left _ _),
        fun doc hdoc url hurl => (hevents doc hdoc url hurl).mono (List.subset_append_left _ _)⟩,
      ⟨List.Subset.refl _, List.Subset.refl _, List.subset_append_left _ _⟩, by simp⟩
    rcases List.mem_append.mp hl with hold | hnew
    · exact hlinks l hold
    · rw [List.mem_singleton] at hnew
      subst hnew
      exact ⟨hdenotes, hc⟩
  all_goals
    exact hkept _ ⟨rfl, rfl, rfl, rfl, fun _ => List.Subset.refl _, fun _ _ hurl => .inl hurl⟩

variable (pathOf) in
/-- The storage as the routines of one device see it. -/
def linksEnv : Env remote World := ⟨World.answered, fun c r _ => Denoting pathOf ⟨c, r⟩⟩

/-! ## The routines keep the links -/

/-- A URL that has come for an upload of the device is appended to the page's. -/
theorem World.Advances.addUrl (page : ℕ) {u : Upload} {url : String} (hw : w.Linked pathOf)
    (hc : LinkedAt (.getDownloadURL u.path) w) (hurl : pathOf url = u.path) (t : Trail) :
    w.Advances pathOf (t.snoc u url).history (w.addUrl page u.path url) := by
  have hlink := World.Advances.answered (c := .getDownloadURL u.path) (r := .ok url)
    (h := t.history ++ [⟨.putFile u.path u.file, (.ok () : Except Fault Unit)⟩]) hw hc hurl
  have hset : (World.answered (.getDownloadURL u.path) (.ok url) w).Kept
      (w.addUrl page u.path url) := by
    refine World.kept_setPublish _ _ (fun q => List.Subset.refl _) fun url' hurl' => ?_
    rcases List.mem_append.mp hurl' with hold | hnew
    · exact .inl hold
    · rw [List.mem_singleton] at hnew
      subst hnew
      exact .inr ⟨u.path, by simp [World.answered]⟩
  rw [List.append_assoc] at hlink
  rw [Trail.history_snoc]
  exact hlink.kept hset

theorem given_of_document {page : ℕ} {loc : LatLng} (hw : w.Linked pathOf) :
    LinkedAt (.addEvent (w.document page loc)) w :=
  fun url hurl => hw.urls page url (hasImage_document hurl)

theorem links_rules {me : Caller} {born : World} (hborn : born.Linked pathOf) :
    PublishRules (linksEnv pathOf).admits (linksContract pathOf) me born where
  refuse r s hs _ := ⟨(World.Advances.refl hborn).kept hs.kept, trivial⟩
  locate s hs _ := ⟨(World.Advances.refl hborn).kept hs.kept, hborn.kept hs.kept, trivial⟩
  notify h e c s s' hc hheld hadm hs := by
    have hanswer := (World.Advances.answered hheld.1 hheld.2 hadm (h := h)).kept hs.kept
    refine ⟨hanswer, hanswer.linked, ?_⟩
    cases hc <;> trivial
  quit h e r s s' hheld hadm hs _ :=
    ⟨(World.Advances.answered hheld.1 hheld.2 hadm).kept hs.kept, trivial⟩
  add_first t ht _ _ := ⟨.refl ht.held.1, ht.held.1, given_of_document ht.held.1⟩
  put_first t file ht _ hfile := by
    -- the URLs of an earlier press are dropped before the first upload
    have hclear : t.start.Kept (t.start.clearUrls me.page) :=
      World.kept_setPublish _ _ (fun _ => List.Subset.refl _) (by simp)
    have hbegun := ((World.Advances.refl ht.held.1).kept hclear (h := t.history)).startUpload
      (u := ⟨t.folder me.page, t.start.clock, file⟩) ⟨_, rfl⟩
      ⟨me.page, by simpa using List.mem_of_getElem? hfile⟩
    exact ⟨hbegun, hbegun.linked, _, List.mem_append_right _ (List.mem_singleton_self _), rfl, rfl⟩
  link t u s ht hu hheld := by
    obtain ⟨hlinked, u', hu', hpath, hfile⟩ := hheld
    have hanswer := World.Advances.answered (h := t.history) (c := .putFile u.path u.file)
      (r := .ok ()) hlinked ⟨u', hu', hpath, hfile⟩ trivial
    refine ⟨hanswer, hanswer.linked, u', hanswer.grows.uploads hu', hpath, ?_⟩
    simp [hfile]
  put_next t u url file s ht hu hheld hadm _ hfile := by
    have hlink := (World.Advances.addUrl me.page hheld.1 hheld.2 hadm t).startUpload
      (u := ⟨t.folder me.page, s.clock, file⟩) ⟨_, rfl⟩
      ⟨me.page, by simpa using List.mem_of_getElem? hfile⟩
    exact ⟨hlink, hlink.linked, _, List.mem_append_right _ (List.mem_singleton_self _), rfl, rfl⟩
  add_last t u url s ht hu hheld hadm _ _ := by
    have hlink := World.Advances.addUrl me.page hheld.1 hheld.2 hadm t
    exact ⟨hlink, hlink.linked, given_of_document hlink.linked⟩
  abort t u url s ht hu hheld hadm _ := ⟨.addUrl _ hheld.1 hheld.2 hadm t, trivial⟩

theorem getCurAddress_keeps_links (me : Caller) (hw : w.Linked pathOf) :
    (getCurAddress me).Meets (linksEnv pathOf) (linksContract pathOf) (linksContract pathOf).final
      [] w w := by
  simp only [getCurAddress, findAddressesFromCoordinates, Routine.bind_eq, Routine.meets_bind,
    Routine.meets_get, meets_remoteCall]
  refine ⟨.refl hw, ⟨hw, trivial⟩, fun s r hs hadm => ?_⟩
  rcases r with f | _ | ⟨address, rest⟩
  · exact ⟨.answered hs.1 hs.2 hadm, trivial⟩
  · exact ⟨.answered hs.1 hs.2 hadm, trivial⟩
  · refine ⟨(World.Advances.answered hs.1 hs.2 hadm).kept ?_, trivial⟩
    exact World.kept_setPublish _ _ (fun _ => List.Subset.refl _) fun _ hurl => .inl hurl

theorem getImage_keeps_links (me : Caller) (hw : w.Linked pathOf) :
    (getImage me).Meets (linksEnv pathOf) (linksContract pathOf) (linksContract pathOf).final
      [] w w := by
  simp only [getImage, pickImage, Routine.bind_eq, Routine.meets_bind, meets_remoteCall]
  refine ⟨.refl hw, ⟨hw, trivial⟩, fun s r hs hadm => ?_⟩
  rcases r with f | _ | image
  · exact ⟨.answered hs.1 hs.2 hadm, trivial⟩
  · exact ⟨.answered hs.1 hs.2 hadm, trivial⟩
  · -- the image is attached whether or not the page is still there
    have hanswer : s.Advances pathOf [⟨.pickImage, (.ok (some image) : Except Fault (Option File))⟩] s :=
      World.Advances.answered (h := []) hs.1 hs.2 hadm
    have hset := hanswer.kept (World.kept_setPublish me.page
      (fun q => { q with imageFiles := q.imageFiles ++ [image] })
      (fun _ => List.subset_append_left _ _) fun _ hurl => .inl hurl)
    simp only [Except.mapError, id_eq, Routine.meets_bind, Routine.meets_modify,
      meets_withContext]
    split
    · exact ⟨hset, trivial⟩
    · exact ⟨hset, trivial⟩

/-! ## The steps of a device -/

variable {p p' : PublishPool} {storage : List (String × File)} {page : ℕ} {a : PublishAction}

variable (pathOf) in
/-- What holds of a device at any time. -/
structure DeviceOk (storage : List (String × File)) (p : PublishPool) : Prop where
  ok : p.Ok (linksEnv pathOf) fun _ _ => linksContract pathOf
  linked : p.state.Linked pathOf
  stored : p.state.stored ⊆ storage

/-- No routine minds the progress of another. -/
theorem World.Advances.undisturbed {j : Option ℕ} (h : p.state.Advances pathOf h w') :
    p.Undisturbed (fun _ _ => linksContract pathOf) w' j :=
  fun _ _ _ _ _ _ hc => ⟨h.linked, hc.2.mono h.grows⟩

theorem DeviceOk.advance (hp : DeviceOk pathOf storage p)
    (hadvances : p.state.Advances pathOf h p'.state)
    (hputs : h.getLast?.toList.flatMap putOf ⊆ storage)
    (hok : p'.Ok (linksEnv pathOf) fun _ _ => linksContract pathOf) :
    DeviceOk pathOf storage p' ∧ p.state.Grows p'.state := by
  refine ⟨⟨hok, hadvances.linked, fun put hput => ?_⟩, hadvances.grows⟩
  rcases List.mem_append.mp (hadvances.stored hput) with hold | hnew
  · exact hp.stored hold
  · exact hputs hnew

/-- A change from outside. -/
theorem DeviceOk.update (hp : DeviceOk pathOf storage p) {f : World → World}
    (hf : p.state.Kept (f p.state)) :
    DeviceOk pathOf storage (p.update f) ∧ p.state.Grows (f p.state) :=
  have hadvances : p.state.Advances pathOf [] (p.update f).state := (World.Advances.refl hp.linked).kept hf
  hp.advance hadvances (by simp) (hp.ok.update hadvances.undisturbed)

/-- A routine is started. -/
theorem DeviceOk.start (hp : DeviceOk pathOf storage p) {tag : PublishRoutine} {t : Dart Unit}
    (ht : t.Meets (linksEnv pathOf) (linksContract pathOf) (linksContract pathOf).final []
      p.state p.state) :
    DeviceOk pathOf storage (p.start tag t) ∧ p.state.Grows (p.start tag t).state :=
  have hadvances : p.state.Advances pathOf [] (p.start tag t).state := ht.advance.1
  hp.advance hadvances (by simp) (hp.ok.start ht hadvances.undisturbed)

theorem DeviceOk.step (hp : DeviceOk pathOf storage p) (ha : a.Possible pathOf storage)
    (hstep : publishStep page p a = some p') :
    DeviceOk pathOf storage p' ∧ p.state.Grows p'.state := by
  cases a with
  | edit e =>
    obtain rfl := Option.some.inj hstep
    exact hp.update (World.kept_setPublish _ _ (by simp) fun _ hurl => .inl (by simpa using hurl))
  | pickLocation result =>
    obtain rfl := Option.some.inj hstep
    exact hp.update (World.kept_setPublish _ _ (fun _ => List.Subset.refl _) fun _ hurl => .inl hurl)
  | pickImage =>
    obtain rfl := Option.some.inj hstep
    exact hp.start (getImage_keeps_links _ hp.linked)
  | press =>
    obtain rfl := Option.some.inj hstep
    exact hp.start (publishEvent_meets (@links_rules pathOf ⟨_, page⟩ _ hp.linked))
  | back =>
    simp only [publishStep] at hstep
    split at hstep
    · obtain rfl := Option.some.inj hstep
      exact hp.update (World.sameData_pop _ _).kept
    · cases hstep
  | setClock millis =>
    obtain rfl := Option.some.inj hstep
    exact hp.update ⟨rfl, rfl, rfl, rfl, fun _ => List.Subset.refl _, fun _ _ hurl => .inl hurl⟩
  | answer i e =>
    have hans : p.answer (linksEnv pathOf) i e = some p' := hstep
    obtain ⟨hdenotes, hputs⟩ : Denoting pathOf e ∧ putOf e ⊆ storage := ha
    obtain ⟨th, t, hth, hawait, -, hmove, -, -⟩ := hp.ok.answer_cases hans hdenotes
    have hadvances : p.state.Advances pathOf (th.past ++ [e]) p'.state := hmove
    exact hp.advance hadvances (by simpa using hputs)
      (hp.ok.answer hans hdenotes hadvances.undisturbed)

theorem DeviceOk.openPage (hp : DeviceOk pathOf storage p) (date : DateTime) :
    DeviceOk pathOf storage (FloodUp.openPage date p) ∧
      p.state.Grows (FloodUp.openPage date p).state := by
  have hpushed : p.state.Kept ((p.state.push (.page .publish false)).setPublish p.state.nextRoute
      fun q => { q with createDate := date }) :=
    (World.sameData_push _ _).kept.trans
      (World.kept_setPublish _ _ (fun _ => List.Subset.refl _) fun _ hurl => .inl hurl)
  obtain ⟨hopened, hgrows⟩ := hp.update (f := fun w =>
    (w.push (.page .publish false)).setPublish w.nextRoute fun q => { q with createDate := date }) hpushed
  obtain ⟨hstarted, hgrows'⟩ := @DeviceOk.start pathOf _ storage hopened .getCurAddress _
    (getCurAddress_keeps_links ⟨p.threads.length, p.state.nextRoute⟩ hopened.linked)
  exact ⟨hstarted, hgrows.trans hgrows'⟩

/-! ## The fleet -/

variable {f f' : Fleet} {b : FleetAction}

variable (pathOf) in
/-- What holds of all devices and their storage at any time. -/
structure FleetOk (f : Fleet) : Prop where
  device : ∀ d, DeviceOk pathOf f.storage (f.device d)
  puts : ∀ put ∈ f.storage, ∃ d, ∃ u ∈ f.uploads d, u.path = put.1 ∧ u.file = put.2

theorem Fleet.Fresh.ok (hf : f.Fresh) : FleetOk pathOf f where
  device d := by
    obtain ⟨huploads, hstored, hlinks, hevents, hurls⟩ := hf.state d
    refine ⟨Pool.ok_of_threads_nil (hf.threads d), ⟨?_, ?_, ?_, ?_, ?_⟩, ?_⟩
    · simp [huploads]
    · simp [huploads]
    · simp [hlinks]
    · simp [hurls]
    · simp [hevents]
    · simp [hstored]
  puts := by simp [hf.storage]

/-- One device moves on. -/
theorem FleetOk.device_step (hf : FleetOk pathOf f) {d : ℕ}
    (hp : DeviceOk pathOf f.storage p ∧ (f.device d).state.Grows p.state) :
    FleetOk pathOf { f with device := Function.update f.device d p } where
  device d' := by
    show DeviceOk pathOf f.storage (Function.update f.device d p d')
    by_cases hd : d' = d
    · subst hd
      rw [Function.update_self]
      exact hp.1
    · rw [Function.update_of_ne hd]
      exact hf.device d'
  puts put hput := by
    obtain ⟨d', u, hu, hpath, hfile⟩ := hf.puts put hput
    refine ⟨d', u, ?_, hpath, hfile⟩
    show u ∈ (Function.update f.device d p d').state.uploads
    by_cases hd : d' = d
    · subst hd
      rw [Function.update_self]
      exact hp.2.uploads hu
    · rw [Function.update_of_ne hd]
      exact hu

theorem FleetOk.step (hf : FleetOk pathOf f) (hstep : fleetStep pathOf f b = some f') :
    FleetOk pathOf f' := by
  cases b with
  | openPage d date =>
    obtain rfl := Option.some.inj hstep
    exact hf.device_step ((hf.device d).openPage date)
  | act d page a =>
    simp only [fleetStep] at hstep
    split at hstep
    · rename_i ha
      obtain ⟨p, hp, rfl⟩ := Option.map_eq_some_iff.mp hstep
      exact hf.device_step ((hf.device d).step ha hp)
    · cases hstep
  | put d i =>
    simp only [fleetStep] at hstep
    split at hstep
    · rename_i path file hawait
      obtain ⟨th, hth, hc⟩ := Option.bind_eq_some_iff.mp hawait
      obtain rfl := Option.some.inj hstep
      -- the file is that of an upload of the device that is sending it
      have hsent : LinkedAt (.putFile path file) (f.device d).state :=
        (((hf.device d).ok i th hth).holds hc).2
      obtain ⟨u, hu, hpath, hfile⟩ := hsent
      refine ⟨fun d' => ?_, fun put hput => ?_⟩
      · obtain ⟨hok, hlinked, hstored⟩ := hf.device d'
        exact ⟨hok, hlinked, fun put hput => List.mem_cons_of_mem _ (hstored hput)⟩
      · rcases List.mem_cons.mp hput with rfl | hold
        · exact ⟨d, u, hu, hpath, hfile⟩
        · exact hf.puts put hold
    · cases hstep

/-! ## Collisions -/

/-- Of uploads whose paths are distinct, the storage has the file it was sent last under a path. -/
theorem FleetOk.content (hf : FleetOk pathOf f) (hpaths : f.Distinct fun u u' => u.path = u'.path)
    {d : ℕ} {u : Upload} (hu : u ∈ f.uploads d) {file : File} (hstored : (u.path, file) ∈ f.storage) :
    f.storage.lookup u.path = some u.file := by
  have hsome : (f.storage.lookup u.path).isSome := by
    rw [List.lookup_isSome_iff]
    exact ⟨(u.path, file), hstored, by simp⟩
  obtain ⟨last, hlast⟩ := Option.isSome_iff_exists.mp hsome
  obtain ⟨l₁, l₂, hstorage, -⟩ := List.lookup_eq_some_iff.mp hlast
  obtain ⟨d', u', hu', hpath, hfile⟩ := hf.puts (u.path, last) (by simp [hstorage])
  obtain ⟨i, hi⟩ := List.mem_iff_getElem?.mp hu
  obtain ⟨j, hj⟩ := List.mem_iff_getElem?.mp hu'
  -- that file came from an upload to this path, and there is only one
  obtain ⟨rfl, rfl⟩ := hpaths d d' i j u u' hi hj hpath.symm
  rw [hi] at hj
  obtain rfl := Option.some.inj hj
  rw [hlast]
  exact congrArg some hfile.symm

theorem FleetOk.noCollision_iff (hf : FleetOk pathOf f) : NoCollision pathOf f ↔ ClocksDistinct f := by
  constructor
  · intro h d d' i j u u' hu hu' hsame
    refine h.paths d d' i j u u' hu hu' ?_
    show u.categoryNo ++ toString u.millis = u'.categoryNo ++ toString u'.millis
    rw [hsame.1, hsame.2]
  · intro h
    have hpaths : f.Distinct fun u u' => u.path = u'.path := fun d d' i j u u' hu hu' hpath => by
      obtain ⟨category, hcategory⟩ := (hf.device d).linked.folder u (List.mem_of_getElem? hu)
      obtain ⟨category', hcategory'⟩ := (hf.device d').linked.folder u' (List.mem_of_getElem? hu')
      obtain ⟨rfl, hmillis⟩ := path_inj hcategory hcategory' hpath
      exact h d d' i j u u' hu hu' ⟨hcategory.trans hcategory'.symm, hmillis⟩
    refine ⟨hpaths, fun d doc hdoc url hurl => ?_⟩
    obtain ⟨-, hlinked, hstored⟩ := hf.device d
    -- the URL in the document came for an upload, whose file the storage still has
    obtain ⟨path, hlink⟩ := hlinked.events doc hdoc url hurl
    obtain ⟨hdenotes, u, hu, hup, hput⟩ := hlinked.links (path, url) hlink
    obtain rfl : pathOf url = path := hdenotes
    refine ⟨⟨u, hu, hup, hlinked.attached u hu⟩, fun u' hu' hup' => ?_⟩
    rw [← hup']
    exact hf.content hpaths hu' (hup' ▸ hstored hput)

/-- **In every reachable state of the devices and their storage, no two images have been put at the
same path and all published URLs denote the images they were published with, if and only if no
two uploads have the same category and the same clock reading.** -/
theorem no_collision_iff {pathOf : String → String} {f₀ f : Fleet} {bs : List FleetAction}
    (h₀ : f₀.Fresh) (hrun : run (fleetStep pathOf) f₀ bs = some f) :
    NoCollision pathOf f ↔ ClocksDistinct f :=
  FleetOk.noCollision_iff (run_keeps (fun _ _ _ hf hstep => hf.step hstep) h₀.ok hrun)

/-- Devices with the Map page, number 0, open, and an empty storage. -/
def Fleet.idle (date : DateTime) : Fleet where
  device _ := ⟨{ routes := [⟨0, .page .map false⟩], nextRoute := 1, publish := fun _ => .opened date }, []⟩
  storage := []

theorem Fleet.idle_fresh (date : DateTime) : (Fleet.idle date).Fresh :=
  ⟨fun _ => rfl, fun _ => ⟨rfl, rfl, rfl, rfl, fun _ => rfl⟩, rfl⟩

/-- On the device `d` a Publish page, number 1, is opened and an image attached and sent, all at
the reading `millis` of its clock. -/
def sendImage (d : ℕ) (millis : ℤ) (name : String) : List FleetAction :=
  [.openPage d ⟨2020, 1, 1⟩, .act d 1 (.setClock millis), .act d 1 (.edit (.location "Here")),
    .act d 1 .pickImage,
    .act d 1 (.answer 1 ⟨.pickImage, (.ok (some ⟨name⟩) : Except Fault (Option File))⟩),
    .act d 1 .press,
    .act d 1 (.answer 2 ⟨.placemarkFromAddress "Here",
      (.ok (some [⟨⟨1, 2⟩⟩]) : Except Fault (Option (List Placemark)))⟩),
    .put d 2]

/-- The event of the image is stored. -/
def storeSent (d : ℕ) (path name url : String) (doc : Data) : List FleetAction :=
  [.act d 1 (.answer 2 ⟨.putFile path ⟨name⟩, (.ok () : Except Fault Unit)⟩),
    .act d 1 (.answer 2 ⟨.getDownloadURL path, (.ok url : Except Fault String)⟩),
    .act d 1 (.answer 2 ⟨.addEvent doc, (.ok "e" : Except Fault String)⟩)]

/-- The document of an event with one image and nothing else entered. -/
def oneImage (url : String) : Data :=
  eventDocument {} { PublishPage.opened ⟨2020, 1, 1⟩ with
    textLocation := "Here", fileDownloadUrls := [url] } ⟨1, 2⟩

/-- The paths behind the URLs of the files with numbers 0 and 5 of the first category. -/
def pathOfUrl (url : String) : String :=
  if url = "https://storage/event_images%2F1%2F0" then "1/0"
  else if url = "https://storage/event_images%2F1%2F5" then "1/5"
  else ""

/-- One image is published from one device. -/
def publishOne : List FleetAction :=
  sendImage 0 0 "a.jpg" ++ storeSent 0 "1/0" "a.jpg" "https://storage/event_images%2F1%2F0"
    (oneImage "https://storage/event_images%2F1%2F0")

/-- Two devices publish in the same category, five milliseconds apart; both images are on their way
before the first one is stored. -/
def publishApart : List FleetAction :=
  sendImage 0 0 "a.jpg" ++ sendImage 1 5 "b.jpg" ++
    storeSent 0 "1/0" "a.jpg" "https://storage/event_images%2F1%2F0"
      (oneImage "https://storage/event_images%2F1%2F0") ++
    storeSent 1 "1/5" "b.jpg" "https://storage/event_images%2F1%2F5"
      (oneImage "https://storage/event_images%2F1%2F5")

/-- The uploads of that run. -/
def uploadsApart : ℕ → List Upload
  | 0 => [⟨"1/", 0, ⟨"a.jpg"⟩⟩]
  | 1 => [⟨"1/", 5, ⟨"b.jpg"⟩⟩]
  | _ => []

theorem uploads_publishApart {f : Fleet}
    (hrun : run (fleetStep pathOfUrl) (.idle ⟨2020, 1, 1⟩) publishApart = some f) (d : ℕ) :
    f.uploads d = uploadsApart d := by
  obtain rfl := Option.some.inj hrun
  match d with
  | 0 => rfl
  | 1 => rfl
  -- the other devices have done nothing
  | _ + 2 => rfl

theorem uploadsApart_eq {d i : ℕ} {u : Upload} (hu : (uploadsApart d)[i]? = some u) :
    i = 0 ∧ u.millis = 5 * d := by
  match d with
  | 0 =>
    obtain ⟨hi, rfl⟩ := List.getElem?_eq_some_iff.mp hu
    obtain rfl : i = 0 := Nat.lt_one_iff.mp hi
    exact ⟨rfl, rfl⟩
  | 1 =>
    obtain ⟨hi, rfl⟩ := List.getElem?_eq_some_iff.mp hu
    obtain rfl : i = 0 := Nat.lt_one_iff.mp hi
    exact ⟨rfl, rfl⟩
  | _ + 2 => cases hu

theorem no_collision_apart :
    ∃ f, run (fleetStep pathOfUrl) (.idle ⟨2020, 1, 1⟩) publishApart = some f ∧
      (f.device 0).state.events = [oneImage "https://storage/event_images%2F1%2F0"] ∧
      (f.device 1).state.events = [oneImage "https://storage/event_images%2F1%2F5"] ∧
      NoCollision pathOfUrl f := by
  refine ⟨_, rfl, rfl, rfl, (@no_collision_iff pathOfUrl _ _ publishApart
    (Fleet.idle_fresh ⟨2020, 1, 1⟩) rfl).mpr ?_⟩
  intro d d' i j u u' hu hu' hsame
  rw [uploads_publishApart rfl] at hu hu'
  obtain ⟨rfl, hmillis⟩ := uploadsApart_eq hu
  obtain ⟨rfl, hmillis'⟩ := uploadsApart_eq hu'
  have hreading := hsame.2
  exact ⟨by omega, rfl⟩

/-- Another device publishes in the same category at the same clock reading: its image takes the
place of the one already published. -/
theorem same_millisecond_replaces_image :
    ¬∀ (pathOf : String → String) (f₀ f : Fleet) (bs : List FleetAction), f₀.Fresh →
      run (fleetStep pathOf) f₀ bs = some f → NoCollision pathOf f := by
  intro h
  have hnone := h pathOfUrl (.idle ⟨2020, 1, 1⟩) _ (publishOne ++ sendImage 1 0 "b.jpg")
    (Fleet.idle_fresh ⟨2020, 1, 1⟩) rfl
  have hshown := (hnone.events 0 _ (.head _) "https://storage/event_images%2F1%2F0"
    ⟨_, rfl, .head _⟩).content ⟨"1/", 0, ⟨"a.jpg"⟩⟩ (.head _) rfl
  -- under the path of `a.jpg` the storage now has `b.jpg`
  have hreplaced : some (⟨"b.jpg"⟩ : File) = some ⟨"a.jpg"⟩ := hshown
  exact absurd hreplaced (by decide)

end FloodUp
