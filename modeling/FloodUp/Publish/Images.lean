import FloodUp.Publish.Page

/-!
# The images of the published document

`_uploadImages` collects its URLs in a field of the page and iterates over a list of the page,
both shared with the other calls. As long as one call at a time uploads and no image is
attached meanwhile, the document of a call has the URLs of the images that were attached
when Publish was pressed, one for each and in their order. The contract follows the collected
URLs through the answers the call has got; that uploads exclude each other is an invariant of
the page.
-/

namespace FloodUp

open Async

/-- The document has the URLs of the images attached when the call was started, as this very
call uploaded them one after the other. -/
def OwnImages (files : List File) (past : List (Answered remote)) (doc : Data) : Prop :=
  ∃ address reply, ∃ done : List (Upload × String),
    past = ⟨.placemarkFromAddress address, reply⟩ :: done.flatMap uploadAnswers ∧
    done.map (fun d => d.1.file) = files ∧
    doc.get "image_files" = .array (done.map fun d => .string d.2)

/-! ## One call at a time -/

/-- After this answer a call with images starts to upload them. -/
def StartsUpload : Answered remote → Prop
  | ⟨.placemarkFromAddress _, reply⟩ => ∃ loc, geocodeResult reply = .ok loc ∧ loc ≠ noLocation
  | _ => False

/-- No image is attached while a call is on its way to its add, and no call starts to upload
while another is at it. -/
structure Undivided (p : PublishPool) (a : PublishAction) : Prop where
  images : Busy p → ∀ i image,
    a ≠ .answer i ⟨.pickImage, (.ok (some image) : Except Fault (Option File))⟩
  upload : Uploading p → ∀ i e, a = .answer i e → ¬StartsUpload e

/-! ## The contract of `PublishEvent` -/

/-- The files uploaded so far, by the answers a call has got. -/
def uploadedFiles (h : List (Answered remote)) : List File :=
  h.filterMap fun
    | ⟨.putFile _ file, .ok _⟩ => some file
    | _ => none

/-- The URLs received so far, by the answers a call has got. -/
def receivedUrls (h : List (Answered remote)) : List String :=
  h.filterMap fun
    | ⟨.getDownloadURL _, .ok url⟩ => some url
    | _ => none

theorem uploadedFiles_history (t : Trail) :
    uploadedFiles t.history = t.done.map fun d => d.1.file := by
  have hdone : ∀ done : List (Upload × String),
      uploadedFiles (done.flatMap uploadAnswers) = done.map fun d => d.1.file := by
    intro done
    induction done with
    | nil => rfl
    | cons d done ih => simpa [uploadedFiles, uploadAnswers] using ih
  exact hdone t.done

theorem receivedUrls_history (t : Trail) : receivedUrls t.history = t.done.map (·.2) := by
  have hdone : ∀ done : List (Upload × String),
      receivedUrls (done.flatMap uploadAnswers) = done.map (·.2) := by
    intro done
    induction done with
    | nil => rfl
    | cons d done ih => simpa [receivedUrls, uploadAnswers] using ih
  exact hdone t.done

theorem uploadedFiles_put (t : Trail) (u : Upload) :
    uploadedFiles (t.history ++ [⟨.putFile u.path u.file, (.ok () : Except Fault Unit)⟩]) =
      (t.done.map fun d => d.1.file) ++ [u.file] := by
  rw [← uploadedFiles_history]
  simp [uploadedFiles, List.filterMap_append]

theorem receivedUrls_put (t : Trail) (u : Upload) :
    receivedUrls (t.history ++ [⟨.putFile u.path u.file, (.ok () : Except Fault Unit)⟩]) =
      t.done.map (·.2) := by
  rw [← receivedUrls_history]
  simp [receivedUrls, List.filterMap_append]

/-- The last answer belongs to the upload of images. -/
def Touches (h : List (Answered remote)) : Prop :=
  ∃ e, h.getLast? = some e ∧ (StartsUpload e ∨ Call.IsUpload e.call)

/-- What one segment of `PublishEvent` does to the images of its page. -/
structure Segment (page : ℕ) (h : List (Answered remote)) (s : World) (c : Option Call)
    (s' : World) : Prop where
  images : (s'.publish page).imageFiles = (s.publish page).imageFiles
  noStale : NoStale page s → NoStale page s'
  urls : ¬Touches h → (s'.publish page).fileDownloadUrls = (s.publish page).fileDownloadUrls
  call : ¬Touches h → ∀ c', c = some c' → ¬c'.IsUpload

/-- The call works on the images it was started with; those in `begun` have been sent. -/
structure Working (page : ℕ) (born : World) (begun : List File) (urls : List String) (s : World) :
    Prop where
  images : (s.publish page).imageFiles = (born.publish page).imageFiles
  files : begun <+: (born.publish page).imageFiles
  nonempty : begun ≠ []
  urls : (s.publish page).fileDownloadUrls = urls

def imagesContract (page : ℕ) (born : World) : Contract remote World Thrown Unit where
  holds h c s :=
    match c with
    | .placemarkFromAddress _ =>
      (s.publish page).imageFiles = (born.publish page).imageFiles ∧ NoStale page s
    | .putFile _ file => Working page born (uploadedFiles h ++ [file]) (receivedUrls h) s
    | .getDownloadURL _ => Working page born (uploadedFiles h) (receivedUrls h) s
    | .addEvent doc => OwnImages (born.publish page).imageFiles h doc
    | _ => True
  moves h s c s' := Segment page h s c s'
  ends _ r := r ≠ .error .concurrentModification

/-! ## `PublishEvent` keeps its contract -/

/-- A segment that leaves the page alone and does not stop at an upload. -/
theorem Segment.of_publish {page : ℕ} {h : List (Answered remote)} {s s' : World} {c : Option Call}
    (hpublish : s'.publish = s.publish) (hcall : ∀ c', c = some c' → ¬c'.IsUpload) :
    Segment page h s c s' where
  images := by rw [hpublish]
  noStale hs := by simpa only [NoStale, hpublish] using hs
  urls _ := by rw [hpublish]
  call _ := hcall

theorem touches_put (h : List (Answered remote)) (path : String) (file : File) :
    Touches (h ++ [⟨.putFile path file, (.ok () : Except Fault Unit)⟩]) :=
  ⟨_, List.getLast?_concat, .inr trivial⟩

theorem touches_snoc (t : Trail) (u : Upload) (url : String) : Touches (t.snoc u url).history := by
  rw [Trail.history_snoc]
  exact ⟨⟨.getDownloadURL u.path, (.ok url : Except Fault String)⟩, by simp [uploadAnswers],
    .inr trivial⟩

theorem Trail.Valid.touches {K : Contract remote World Thrown Unit} {page : ℕ} {t : Trail}
    (ht : t.Valid K page) (hdone : t.done = []) : Touches t.history := by
  rw [Trail.history_of_nil hdone]
  exact ⟨_, rfl, .inl ⟨t.loc, ht.located, ht.place⟩⟩

/-- The next file extends what has been uploaded. -/
theorem prefix_next {files done : List File} {file : File} (hdone : done <+: files)
    (hfile : files[done.length]? = some file) : done ++ [file] <+: files := by
  obtain ⟨rest, rfl⟩ := hdone
  cases rest with
  -- there is no next file
  | nil => simp at hfile
  | cons f rest =>
    simp only [List.getElem?_append_right (le_refl _), Nat.sub_self, List.getElem?_cons_zero,
      Option.some.injEq] at hfile
    exact ⟨rest, by simp [hfile]⟩

/-- What is known when the URL of an image has just come. -/
theorem collected {page : ℕ} {born s : World} {t : Trail} {u : Upload}
    (hs : (imagesContract page born).holds
      (t.history ++ [⟨.putFile u.path u.file, (.ok () : Except Fault Unit)⟩])
      (.getDownloadURL u.path) s) (url : String) :
    (s.publish page).imageFiles = (born.publish page).imageFiles ∧
      ((t.snoc u url).done.map fun d => d.1.file) <+: (born.publish page).imageFiles ∧
      (s.publish page).fileDownloadUrls ++ [url] = (t.snoc u url).done.map (·.2) ∧
      (s.publish page).imageFiles ≠ [] := by
  -- the file just stored is the last of those that were sent
  obtain ⟨himages, hfiles, hne, hurls⟩ := hs
  rw [uploadedFiles_put] at hfiles hne
  rw [receivedUrls_put] at hurls
  refine ⟨himages, by simpa using hfiles, by simp [hurls], fun hnil => ?_⟩
  rw [← himages, hnil] at hfiles
  exact hne (List.prefix_nil.mp hfiles)

/-- A segment in which the URL of an image is appended. -/
theorem segment_addUrl {page : ℕ} {s s' : World} {t : Trail} {u : Upload} {url : String}
    {c : Option Call} (himages : (s.publish page).imageFiles ≠ [])
    (hs' : s'.publish = (s.addUrl page u.path url).publish) :
    Segment page (t.snoc u url).history s c s' where
  images := by simp [hs']
  noStale _ hnil := absurd (by simpa [hs'] using hnil) himages
  urls h := absurd (touches_snoc t u url) h
  call h := absurd (touches_snoc t u url) h

theorem images_rules {me : Caller} {born : World} (hstale : NoStale me.page born) :
    PublishRules (fun _ _ _ => True) (imagesContract me.page born) me born where
  refuse r s hs hr := ⟨.of_publish hs.publish (by simp), hr⟩
  locate s hs _ := by
    refine ⟨.of_publish hs.publish (by rintro _ ⟨⟩ ⟨⟩), by rw [hs.publish], ?_⟩
    simpa only [NoStale, hs.publish] using hstale
  notify h e c s s' hc _ _ hs := by
    have hpublish := hs.publish.trans (World.answered_publish _ _ _)
    cases hc
    · exact ⟨.of_publish hpublish (by rintro _ ⟨⟩ ⟨⟩), trivial⟩
    · exact ⟨.of_publish hpublish (by rintro _ ⟨⟩ ⟨⟩), trivial⟩
  quit h e r s s' _ _ hs hr :=
    ⟨.of_publish (hs.publish.trans (World.answered_publish _ _ _)) (by simp), hr⟩
  add_first t ht hdone hnil := by
    obtain ⟨himages, hstale⟩ := ht.held
    refine ⟨.of_publish rfl (by rintro _ ⟨⟩ ⟨⟩), t.address, t.reply, [], ?_, ?_, ?_⟩
    · rw [Trail.history_of_nil hdone]
      rfl
    · rw [← himages, hnil]
      rfl
    -- the field is not emptied here, so it must have been empty
    · simp [World.document, eventDocument, Data.get_cons, hstale hnil]
  put_first t file ht hdone hfile := by
    obtain ⟨himages, -⟩ := ht.held
    -- this segment empties the URLs, as one that starts an upload may
    refine ⟨⟨by simp, fun _ _ => by simp, fun h => absurd (ht.touches hdone) h,
      fun h => absurd (ht.touches hdone) h⟩, ?_⟩
    have hpast : uploadedFiles t.history = [] ∧ receivedUrls t.history = [] := by
      simp [uploadedFiles_history, receivedUrls_history, hdone]
    refine ⟨by simpa using himages, ?_, by simp, by simp [hpast.2]⟩
    rw [hpast.1, ← himages]
    exact prefix_next List.nil_prefix hfile
  link t u s ht hu hs := by
    obtain ⟨himages, hfiles, -, hurls⟩ := hs
    refine ⟨⟨rfl, id, fun _ => rfl, fun h => absurd (touches_put _ _ _) h⟩, himages, ?_, ?_, ?_⟩
    · rw [uploadedFiles_put, ← uploadedFiles_history]
      exact hfiles
    · simp [uploadedFiles_put]
    · rw [receivedUrls_put, ← receivedUrls_history]
      exact hurls
  put_next t u url file s ht hu hs _ hlen hfile := by
    obtain ⟨himages, hfiles, hurls, hne⟩ := collected hs url
    refine ⟨segment_addUrl hne rfl, by simpa using himages, ?_, by simp, ?_⟩
    · rw [uploadedFiles_history]
      refine prefix_next hfiles ?_
      rw [← himages]
      simpa using hfile
    · simpa [receivedUrls_history] using hurls
  add_last t u url s ht hu hs _ hlen hdone := by
    obtain ⟨himages, hfiles, hurls, hne⟩ := collected hs url
    refine ⟨segment_addUrl hne rfl, t.address, t.reply, (t.snoc u url).done, rfl, ?_, ?_⟩
    -- what was sent is a beginning of the list and as long as it
    · refine hfiles.eq_of_length ?_
      rw [← himages, hlen, ← hdone]
      simp
    · simp [World.document, eventDocument, Data.get_cons, hurls]
  abort t u url s ht hu hs _ hlen := by
    -- the list has the length it had when the loop began
    have hheld : (t.start.publish me.page).imageFiles = (born.publish me.page).imageFiles := ht.held.1
    obtain ⟨himages, -⟩ := hs
    exact absurd (by rw [himages, Trail.length, hheld]) hlen

/-! ## The page keeps it -/

variable {page : ℕ} {p p' : PublishPool} {a : PublishAction}

abbrev imagesContracts (page : ℕ) : PublishRoutine → World → Contract remote World Thrown Unit :=
  pageContracts page (imagesContract page)

/-- Thread `i` is a `PublishEvent` that is uploading. -/
def UploadsAt (p : PublishPool) (i : ℕ) : Prop :=
  ∃ th c, p.threads[i]? = some th ∧ th.tag = .publishEvent ∧ th.now.awaiting = some c ∧
    Call.IsUpload c

theorem UploadsAt.uploading {i : ℕ} (h : UploadsAt p i) : Uploading p := by
  obtain ⟨th, c, hth, htag, hc, hupload⟩ := h
  exact ⟨th, List.mem_of_getElem? hth, c, hc, htag, hupload⟩

theorem Uploading.busy (h : Uploading p) : Busy p := by
  obtain ⟨th, hth, c, hc, htag, hupload⟩ := h
  exact ⟨th, hth, c, hc, htag, hupload.beforeAdd⟩

/-- What holds of a page along a run in which uploads do not overlap. -/
structure ImagesInv (page : ℕ) (p : PublishPool) : Prop where
  ok : p.Ok anyEnv (imagesContracts page)
  noStale : NoStale page p.state
  exclusive : ∀ i j, UploadsAt p i → UploadsAt p j → i = j

/-- What a step does to the page as the threads see it that did not move. -/
structure Unshared (page : ℕ) (p : PublishPool) (j : Option ℕ) (s' : World) (c : Option Call) :
    Prop where
  images : Busy p → (s'.publish page).imageFiles = (p.state.publish page).imageFiles
  noStale : NoStale page p.state → NoStale page s'
  /-- If another thread is uploading, the one that moved has nothing to do with images. -/
  urls : ∀ k, UploadsAt p k → some k ≠ j →
    (s'.publish page).fileDownloadUrls = (p.state.publish page).fileDownloadUrls
  call : ∀ k, UploadsAt p k → some k ≠ j → ∀ c', c = some c' → ¬c'.IsUpload

theorem PageChange.unshared {j : Option ℕ} {s' : World} {c : Option Call}
    (h : PageChange page (imagesContract page) p a j s' c) (hinv : ImagesInv page p)
    (ha : Undivided p a) : Unshared page p j s' c := by
  cases h with
  | form _ _ =>
    exact ⟨fun _ => by simp, fun h => by simpa [NoStale] using h, fun _ _ _ => by simp, by simp⟩
  | still _ _ _ hpublish _ =>
    exact ⟨fun _ => by rw [hpublish], fun h => by simpa only [NoStale, hpublish] using h,
      fun _ _ _ => by rw [hpublish], by simp⟩
  | image i image =>
    -- an image is attached only while nothing is on its way
    refine ⟨fun hb => absurd rfl (ha.images hb i image), fun _ hnil => ?_,
      fun k hk _ => absurd rfl (ha.images hk.uploading.busy i image), by simp⟩
    simp at hnil
  | press _ _ hmove =>
    have hstart : ¬Touches [] := by
      rintro ⟨e, he, -⟩
      cases he
    exact ⟨fun _ => hmove.images, hmove.noStale, fun _ _ _ => hmove.urls hstart,
      fun _ _ _ => hmove.call hstart⟩
  | segment i e th _ _ hth htag hawait hmove =>
    -- a thread that touches the images is uploading or starts to, and then no other does
    have hother : ∀ k, UploadsAt p k → some k ≠ some i → ¬Touches (th.past ++ [e]) := by
      rintro k hk hki ⟨e', he', htouch⟩
      obtain rfl : e = e' := by simpa using he'
      rcases htouch with hstarts | hupload
      · exact ha.upload hk.uploading i e rfl hstarts
      · exact hki (congrArg some (hinv.exclusive k i hk ⟨th, _, hth, htag, hawait, hupload⟩))
    exact ⟨fun _ => hmove.images, hmove.noStale, fun k hk hki => hmove.urls (hother k hk hki),
      fun k hk hki => hmove.call (hother k hk hki)⟩

/-- No suspended routine notices such a step. -/
theorem Unshared.undisturbed {j : Option ℕ} {s' : World} {c : Option Call}
    (h : Unshared page p j s' c) : p.Undisturbed (imagesContracts page) s' j := by
  intro i th c' hij hth hc' hholds
  have hmem : th ∈ p.threads := List.mem_of_getElem? hth
  cases htag : th.tag with
  | getCurAddress => trivial
  | getImage => trivial
  | publishEvent =>
    rw [htag] at hholds
    have hbusy : Call.BeforeAdd c' → Busy p := fun hb => ⟨th, hmem, c', hc', htag, hb⟩
    have hat : Call.IsUpload c' → UploadsAt p i := fun hu => ⟨th, c', hth, htag, hc', hu⟩
    cases c' with
    | placemarkFromAddress address =>
      exact ⟨(h.images (hbusy trivial)).trans hholds.1, h.noStale hholds.2⟩
    | putFile path file =>
      exact ⟨(h.images (hbusy trivial)).trans hholds.images, hholds.files, hholds.nonempty,
        (h.urls i (hat trivial) hij).trans hholds.urls⟩
    | getDownloadURL path =>
      exact ⟨(h.images (hbusy trivial)).trans hholds.images, hholds.files, hholds.nonempty,
        (h.urls i (hat trivial) hij).trans hholds.urls⟩
    | addEvent doc => exact hholds
    | _ => trivial

/-- After the step at most one thread is uploading. -/
theorem Unshared.exclusive {j : Option ℕ} {c : Option Call} (h : Unshared page p j p'.state c)
    (hinv : ImagesInv page p) (hmoved : OneMoved p p' j c) :
    ∀ i i', UploadsAt p' i → UploadsAt p' i' → i = i' := by
  have hold : ∀ i, UploadsAt p' i →
      UploadsAt p i ∧ some i ≠ j ∨ some i = j ∧ ∃ c', c = some c' ∧ Call.IsUpload c' := by
    rintro i ⟨th, c', hth, htag, hc', hupload⟩
    -- an uploading thread is an old one, or the one that moved and now stops at an upload
    rcases hmoved i th hth htag with ⟨hth', hij⟩ | ⟨hij, hc⟩
    · exact .inl ⟨⟨th, c', hth', htag, hc', hupload⟩, hij⟩
    · exact .inr ⟨hij, c', hc ▸ hc', hupload⟩
  intro i i' hi hi'
  rcases hold i hi with ⟨hi, hij⟩ | ⟨hij, c₁, hc₁, hu₁⟩ <;>
    rcases hold i' hi' with ⟨hi', hij'⟩ | ⟨hij', c₂, hc₂, hu₂⟩
  · exact hinv.exclusive i i' hi hi'
  · exact absurd hu₂ (h.call i hi hij c₂ hc₂)
  · exact absurd hu₁ (h.call i' hi' hij' c₁ hc₁)
  · exact Option.some.inj (hij.trans hij'.symm)

/-- Every undivided action keeps the invariant. -/
theorem ImagesInv.step (hinv : ImagesInv page p) (ha : Undivided p a)
    (hstep : publishStep page p a = some p') : ImagesInv page p' := by
  obtain ⟨j, c, hchange, hmoved, hok⟩ := publishStep_changes hinv.ok
    (fun _ => publishEvent_meets (@images_rules ⟨p.threads.length, page⟩ _ hinv.noStale)) hstep
  have hunshared := hchange.unshared hinv ha
  exact ⟨hok hunshared.undisturbed, hunshared.noStale hinv.noStale,
    hunshared.exclusive hinv hmoved⟩

theorem ImagesInv.opened {w : World} {date : DateTime} (hw : w.publish page = .opened date) :
    ImagesInv page (openPublish page w) where
  ok := openPublish_ok page _ w
  noStale _ := by
    have hstate : (openPublish page w).state = w := rfl
    rw [hstate, hw]
    rfl
  exclusive i j hi := by
    obtain ⟨th, c, hth, htag, -⟩ := hi
    obtain rfl := List.mem_singleton.mp (List.mem_of_getElem? hth)
    cases htag

/-- Each `PublishEvent` adds the images it was started with, and none fails because the list it
iterates over has changed. -/
def KeepsImages (page : ℕ) (p : PublishPool) : Prop :=
  ∀ th ∈ p.threads, th.tag = .publishEvent →
    (∀ doc, th.now.awaiting = some (.addEvent doc) →
      OwnImages (th.born.publish page).imageFiles th.past doc) ∧
    th.now.result ≠ some (.error .concurrentModification)

/-- As long as no image is attached while a call is on its way and no two calls upload at the
same time, each call publishes exactly the images it was started with. -/
theorem publish_keeps_images {w : World} {date : DateTime} {as : List PublishAction}
    (hw : w.publish page = .opened date)
    (ha : Along (publishStep page) Undivided (openPublish page w) as)
    (hrun : run (publishStep page) (openPublish page w) as = some p) : KeepsImages page p := by
  have hinv : ImagesInv page p :=
    run_invariant (fun _ _ _ hinv ha hstep => hinv.step ha hstep) (.opened hw) ha hrun
  intro th hth htag
  obtain ⟨i, hi⟩ := List.mem_iff_getElem?.mp hth
  have hrests := hinv.ok i th hi
  rw [htag] at hrests
  exact ⟨fun doc hdoc => hrests.holds hdoc, fun hr => hrests.ends hr rfl⟩

/-- An action that answers no call is undivided. -/
theorem Undivided.of_ne_answer (h : ∀ i e, a ≠ .answer i e) : Undivided p a where
  images _ i _ := h i _
  upload _ i e ha := absurd ha (h i e)

/-- So is an answer that neither brings an image nor starts an upload. -/
theorem Undivided.of_answer {i : ℕ} {e : Answered remote} (himage : e.call ≠ .pickImage)
    (hstart : Uploading p → ¬StartsUpload e) : Undivided p (.answer i e) where
  images _ j image ha := by
    obtain ⟨-, rfl⟩ := PublishAction.answer.inj ha
    exact himage rfl
  upload hp j e' ha := by
    obtain ⟨-, rfl⟩ := PublishAction.answer.inj ha
    exact hstart hp

/-- Two images are picked, then the event is published; while its place is looked for, the address
of the user arrives. -/
def pickTwoThenPublish : List PublishAction :=
  [.edit (.location "Here"), .pickImage, .pickImage,
    .answer 1 ⟨.pickImage, (.ok (some ⟨"1.jpg"⟩) : Except Fault (Option File))⟩,
    .answer 2 ⟨.pickImage, (.ok (some ⟨"2.jpg"⟩) : Except Fault (Option File))⟩, .press,
    .answer 0 ⟨.findAddressesFromCoordinates ⟨1, 2⟩, (.ok ["There"] : Except Fault (List String))⟩,
    .answer 3 ⟨.placemarkFromAddress "Here",
      (.ok (some [⟨⟨1, 2⟩⟩]) : Except Fault (Option (List Placemark)))⟩,
    .answer 3 ⟨.putFile "1/0" ⟨"1.jpg"⟩, (.ok () : Except Fault Unit)⟩, .setClock 7,
    .answer 3 ⟨.getDownloadURL "1/0", (.ok "u" : Except Fault String)⟩,
    .answer 3 ⟨.putFile "1/7" ⟨"2.jpg"⟩, (.ok () : Except Fault Unit)⟩,
    .answer 3 ⟨.getDownloadURL "1/7", (.ok "v" : Except Fault String)⟩]

theorem publish_keeps_two_images :
    ∃ p, run (publishStep 1) (openPublish 1 (.publishing ⟨2020, 1, 1⟩)) pickTwoThenPublish = some p ∧
      KeepsImages 1 p ∧ ∃ th ∈ p.threads, ∃ doc, th.now.awaiting = some (.addEvent doc) ∧
        doc.get "image_files" = .array [.string "u", .string "v"] := by
  refine ⟨_, rfl, ?_, _, .tail _ (.tail _ (.tail _ (.head _))), _, rfl, rfl⟩
  refine @publish_keeps_images 1 _ (.publishing ⟨2020, 1, 1⟩) ⟨2020, 1, 1⟩ pickTwoThenPublish rfl ?_ rfl
  refine ⟨.of_ne_answer (by simp), .of_ne_answer (by simp), .of_ne_answer (by simp), ⟨?_, ?_⟩,
    ⟨?_, ?_⟩, .of_ne_answer (by simp), .of_answer (by simp) fun _ => id, .of_answer (by simp) ?_,
    .of_answer (by simp) fun _ => id, .of_ne_answer (by simp), .of_answer (by simp) fun _ => id,
    .of_answer (by simp) fun _ => id, .of_answer (by simp) fun _ => id, trivial⟩
  -- both images come before the press
  · exact fun hb => absurd hb (by decide)
  · exact fun hp => absurd hp (by decide)
  · exact fun hb => absurd hb (by decide)
  · exact fun hp => absurd hp (by decide)
  -- the upload begins while no other call is at one
  · exact fun hp => absurd hp (by decide)

/-- The user takes the progress dialog of a `PublishEvent` away and presses Publish again. -/
def publishTwice : List PublishAction :=
  [.edit (.location "Here"), .pickImage,
    .answer 1 ⟨.pickImage, (.ok (some ⟨"1.jpg"⟩) : Except Fault (Option File))⟩, .press,
    .answer 2 ⟨.placemarkFromAddress "Here",
      (.ok (some [⟨⟨1, 2⟩⟩]) : Except Fault (Option (List Placemark)))⟩,
    .back, .setClock 7, .press,
    .answer 3 ⟨.placemarkFromAddress "Here",
      (.ok (some [⟨⟨1, 2⟩⟩]) : Except Fault (Option (List Placemark)))⟩,
    .answer 2 ⟨.putFile "1/0" ⟨"1.jpg"⟩, (.ok () : Except Fault Unit)⟩,
    .answer 2 ⟨.getDownloadURL "1/0", (.ok "u" : Except Fault String)⟩,
    .answer 3 ⟨.putFile "1/7" ⟨"1.jpg"⟩, (.ok () : Except Fault Unit)⟩,
    .answer 3 ⟨.getDownloadURL "1/7", (.ok "v" : Except Fault String)⟩]

/-- The document of the second call has the URL of the first one's image as well. -/
theorem overlapping_uploads_mix :
    ¬∀ (page : ℕ) (w : World) (date : DateTime) (as : List PublishAction) (p : PublishPool),
      w.publish page = .opened date → run (publishStep page) (openPublish page w) as = some p →
      KeepsImages page p := by
  intro h
  have hkeeps := (h 1 (.publishing ⟨2020, 1, 1⟩) ⟨2020, 1, 1⟩ publishTwice _ rfl rfl
    _ (.tail _ (.tail _ (.tail _ (.head _)))) rfl).1 _ rfl
  -- one image was sent, two URLs are in the document
  obtain ⟨address, reply, done, -, hfiles, hurls⟩ := hkeeps
  have hone : done.length = 1 := by
    have hfiles : done.map (fun d => d.1.file) = [⟨"1.jpg"⟩] := hfiles
    simpa using congrArg List.length hfiles
  have htwo : done.length = 2 := by
    have hurls : Value.array [.string "u", .string "v"] = .array (done.map fun d => .string d.2) := hurls
    simpa using congrArg List.length (Value.array.inj hurls).symm
  omega

end FloodUp
