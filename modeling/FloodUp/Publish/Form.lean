import FloodUp.Map.Filter
import FloodUp.Publish.Page

/-!
# The form on the screen

What `_PublishState.build` makes of the fields of a page (`FormView`), and the page as a state
machine whose user can only use what is on the screen. The rating bars draw the rating they are
given, the hazard field is there exactly for the category that needs it, and as long as pictures
are picked one after the other there are never more than the grid has cells for: each image that
will be published is on the screen.
-/

namespace FloodUp

open Async

/-! ## What can be chosen -/

/-- A rating is unset or a position of its bar. -/
def Rated (rating : ℤ) : Prop := -1 ≤ rating ∧ rating ≤ 4

instance (rating : ℤ) : Decidable (Rated rating) := inferInstanceAs (Decidable (_ ∧ _))

/-- What was chosen on the form is something that can be chosen there. -/
structure PublishPage.Chosen (q : PublishPage) : Prop where
  category : q.category < 11
  climate : Rated q.climateRating
  upload : Rated q.uploadRating
  bother : Rated q.botherRating

instance (q : PublishPage) : Decidable q.Chosen :=
  decidable_of_iff (q.category < 11 ∧ Rated q.climateRating ∧ Rated q.uploadRating ∧
    Rated q.botherRating)
    ⟨fun h => ⟨h.1, h.2.1, h.2.2.1, h.2.2.2⟩, fun h => ⟨h.category, h.climate, h.upload, h.bother⟩⟩

theorem rated_fin (rating : Fin 5) : Rated (rating : ℕ) := by
  constructor <;> omega

theorem chosen_apply {q : PublishPage} (h : q.Chosen) (e : Edit) : (e.apply q).Chosen := by
  cases e with
  | category index => exact { h with category := index.isLt }
  | climateRating rating => exact { h with climate := rated_fin rating }
  | uploadRating rating => exact { h with upload := rated_fin rating }
  | botherRating rating => exact { h with bother := rated_fin rating }
  | _ => exact { h with }

theorem chosen_opened (date : DateTime) : (PublishPage.opened date).Chosen where
  category := show 0 < 11 by omega
  climate := show Rated (-1) by decide
  upload := show Rated (-1) by decide
  bother := show Rated (-1) by decide

/-! ## `_ratingBar` -/

/-- A widget of a rating bar: a circle with the position a tap on it reports, or the line in
front of one. -/
inductive BarWidget where
  | circle (asset : String) (position : ℕ)
  | line (color : ℕ)
deriving DecidableEq

/-- `_ratingBar`. -/
def ratingBar (rating : ℤ) : List BarWidget :=
  .circle (if rating ≥ 0 then "assets/images/Oval4.png" else "assets/images/Oval5.png") 0 ::
    [1, 2, 3, 4].flatMap fun i : ℕ =>
      [.line (if rating ≥ i then 0xff267CC8 else 0xffDFDFE4),
        .circle (if rating ≥ i then "assets/images/Oval4.png" else "assets/images/Oval5.png") i]

/-- The circle is drawn with the image of a reached position. -/
def BarWidget.isReached : BarWidget → Bool
  | .circle asset _ => asset = "assets/images/Oval4.png"
  | .line _ => false

/-- The number of positions a bar shows as reached. -/
def reached (bar : List BarWidget) : ℕ := bar.countP BarWidget.isReached

/-- A bar shows a rating as the number of its circles up to it. -/
theorem reached_ratingBar {rating : ℤ} (h : Rated rating) :
    (reached (ratingBar rating) : ℤ) = rating + 1 := by
  obtain ⟨hlow, hhigh⟩ := h
  interval_cases rating <;> decide

/-! ## The photo grid -/

/-- A cell of the photo grid. -/
inductive PhotoCell where
  | image (file : File)
  | add
deriving DecidableEq

/-- The cell at `index`. -/
def photoCell (images : List File) (index : ℕ) : PhotoCell :=
  match images[index]? with
  | some image => .image image
  | none => .add

/-- `List.generate(min(_images.length + 1, 4), ...)`. -/
def photoGrid (images : List File) : List PhotoCell :=
  (List.range (min (images.length + 1) 4)).map (photoCell images)

/-- There is a cell for another photo as long as there are less than four. -/
theorem add_mem_photoGrid {images : List File} : .add ∈ photoGrid images ↔ images.length < 4 := by
  simp only [photoGrid, List.mem_map, List.mem_range]
  constructor
  · intro ⟨index, hindex, hcell⟩
    by_cases hlt : index < images.length
    · simp [photoCell, List.getElem?_eq_getElem hlt] at hcell
    · omega
  · intro hlt
    refine ⟨images.length, by omega, ?_⟩
    simp [photoCell]

/-- The cells of the images, one after the other. -/
theorem map_photoCell (images : List File) :
    (List.range images.length).map (photoCell images) = images.map .image := by
  apply List.ext_getElem (by simp)
  intro index hindex hindex'
  have hlt : index < images.length := by simpa using hindex
  simp [photoCell, List.getElem?_eq_getElem hlt]

/-- Up to four images are all there, in their order, before the cell for another one. -/
theorem photoGrid_eq {images : List File} (h : images.length ≤ 4) :
    photoGrid images = images.map .image ++ if images.length < 4 then [.add] else [] := by
  unfold photoGrid
  by_cases hlt : images.length < 4
  · rw [Nat.min_eq_left (by omega), List.range_succ, List.map_append, map_photoCell, if_pos hlt]
    simp [photoCell]
  · rw [Nat.min_eq_right (by omega), if_neg hlt, ← map_photoCell, List.append_nil]
    congr 2
    omega

/-- What a Publish page shows; the fixed texts are left out. -/
structure FormView where
  category : String
  /-- The hazard field, while it is visible. -/
  hazard : Option String
  date : String
  location : String
  photos : List PhotoCell
  attention : String
  information : String
  /-- The two radio buttons. -/
  yesChecked : Bool
  noChecked : Bool
  climateRating : List BarWidget
  climatewhy : String
  uploadRating : List BarWidget
  botherRating : List BarWidget
  reduceimpact : String
deriving DecidableEq

/-- The page with the label `category`. -/
def PublishPage.view (p : PublishPage) (isHazardShow : Bool) (category : String) : FormView where
  category := category
  hazard := if isHazardShow then some p.textHazard else none
  date := p.createDate.format
  location := p.textLocation
  photos := photoGrid p.imageFiles
  attention := p.textAttention
  information := p.textInformation
  yesChecked := p.knowAlert
  noChecked := !p.knowAlert
  climateRating := ratingBar p.climateRating
  climatewhy := p.textClimatewhy
  uploadRating := ratingBar p.uploadRating
  botherRating := ratingBar p.botherRating
  reduceimpact := p.textReduceimpact

/-- `_PublishState.build`. -/
def PublishPage.build (locale : Locale) (isHazardShow : Bool) (p : PublishPage) :
    Except Thrown FormView := do
  let category ← elementAt (PublishPage.categories locale) p.category
  return p.view isHazardShow category

/-- With a category of the list, `build` does not fail. -/
theorem PublishPage.build_eq (locale : Locale) (isHazardShow : Bool) {p : PublishPage}
    (h : p.category < 11) : ∃ label, (FloodUp.categories locale)[p.category]? = some label ∧
      p.build locale isHazardShow = .ok (p.view isHazardShow label) := by
  obtain ⟨label, hlabel, helement, -⟩ := eventCategory_categoryNumber locale h
  refine ⟨label, hlabel, ?_⟩
  rw [PublishPage.build, publish_categories, helement]
  rfl

/-! ## The page and its user -/

/-- A page with `_isHazardShow`, which the choice of a category sets. -/
structure Form where
  pool : PublishPool
  isHazardShow : Bool := false

/-- The fields of the page. -/
def Form.fields (page : ℕ) (f : Form) : PublishPage := f.pool.state.publish page

/-- What the action does to `_isHazardShow`. -/
def PublishAction.onHazardShow : PublishAction → Bool → Bool
  | .edit (.category index), _ => index = 8
  | _, isHazardShow => isHazardShow

def formStep (page : ℕ) (f : Form) (a : PublishAction) : Option Form :=
  (publishStep page f.pool a).map fun p => ⟨p, a.onHazardShow f.isHazardShow⟩

/-- A picture is being picked. -/
def Picking (p : PublishPool) : Prop := p.Pending fun _ (c : Call) => c = .pickImage

instance : DecidablePred Picking := fun p => by
  unfold Picking
  infer_instance

/-- A picture is picked from the cell for another one, and while no other is being picked. -/
structure FromGrid (page : ℕ) (f : Form) (a : PublishAction) : Prop where
  add : a = .pickImage → .add ∈ photoGrid (f.fields page).imageFiles
  picking : a = .pickImage → ¬Picking f.pool

/-- The form right after `initState`. -/
def openForm (page : ℕ) (w : World) : Form := ⟨openPublish page w, false⟩

theorem formStep_eq_some {page : ℕ} {f f' : Form} {a : PublishAction}
    (h : formStep page f a = some f') :
    publishStep page f.pool a = some f'.pool ∧ f'.isHazardShow = a.onHazardShow f.isHazardShow := by
  obtain ⟨p, hp, rfl⟩ := Option.map_eq_some_iff.mp h
  exact ⟨hp, rfl⟩

/-! ## One picture at a time -/

/-- A picture is asked for in the first segment of `_getImage` only. -/
def pickContract (tag : PublishRoutine) : Contract remote World Thrown Unit where
  holds h c _ := c = .pickImage → tag = .getImage ∧ h = []
  moves h _ c _ := c = some .pickImage → tag = .getImage ∧ h = []
  ends _ _ := True

abbrev pickContracts : PublishRoutine → World → Contract remote World Thrown Unit :=
  fun tag _ => pickContract tag

/-- Any other call may be made at any time. -/
theorem suspends_pick {tag : PublishRoutine} {h : List (Answered remote)} {s s' : World} {c : Call}
    (hc : c ≠ .pickImage) : Suspends (pickContract tag) h s c s' :=
  ⟨fun hpick => absurd (Option.some.inj hpick) hc, fun hpick => absurd hpick hc⟩

theorem final_pick {tag : PublishRoutine} {h : List (Answered remote)} {s s' : World}
    {r : Except Thrown Unit} : (pickContract tag).final h s r s' :=
  ⟨fun hpick => (Option.some_ne_none _ hpick.symm).elim, trivial⟩

theorem pick_rules (me : Caller) (s₀ : World) :
    PublishRules (fun _ _ _ => True) (pickContract .publishEvent) me s₀ where
  refuse _ _ _ _ := final_pick
  locate _ _ _ := suspends_pick (by simp)
  notify _ _ c _ _ hc _ _ _ := suspends_pick (by cases hc <;> simp)
  quit _ _ _ _ _ _ _ _ _ := final_pick
  add_first _ _ _ _ := suspends_pick (by simp)
  put_first _ _ _ _ _ := suspends_pick (by simp)
  link _ _ _ _ _ _ := suspends_pick (by simp)
  put_next _ _ _ _ _ _ _ _ _ _ _ := suspends_pick (by simp)
  add_last _ _ _ _ _ _ _ _ _ _ := suspends_pick (by simp)
  abort _ _ _ _ _ _ _ _ _ := final_pick

theorem getCurAddress_picks (me : Caller) (s : World) :
    (getCurAddress me).Meets anyEnv (pickContract .getCurAddress)
      (pickContract .getCurAddress).final [] s s := by
  simp only [getCurAddress, findAddressesFromCoordinates, Routine.bind_eq, Routine.meets_bind,
    Routine.meets_get, meets_remoteCall]
  have hask := @suspends_pick .getCurAddress [] s s
    (.findAddressesFromCoordinates s.globals.currentLocation) (by simp)
  refine ⟨hask.1, hask.2, fun s' r _ _ => ?_⟩
  rcases r with f | _ | ⟨address, rest⟩ <;> exact final_pick

theorem getImage_picks (me : Caller) (s : World) :
    (getImage me).Meets anyEnv (pickContract .getImage) (pickContract .getImage).final [] s s := by
  simp only [getImage, pickImage, Routine.bind_eq, Routine.meets_bind, meets_remoteCall]
  refine ⟨fun _ => ⟨rfl, rfl⟩, fun _ => ⟨rfl, rfl⟩, fun s' r _ _ => ?_⟩
  rcases r with f | _ | image
  · exact final_pick
  · exact final_pick
  · simp only [Except.mapError, id_eq, Routine.meets_bind, Routine.meets_modify,
      meets_withContext]
    split <;> exact final_pick

/-- Thread `i` is picking a picture. -/
def PicksAt (p : PublishPool) (i : ℕ) : Prop :=
  ∃ th, p.threads[i]? = some th ∧ th.now.awaiting = some (.pickImage : Call)

theorem PicksAt.picking {p : PublishPool} {i : ℕ} (h : PicksAt p i) : Picking p := by
  obtain ⟨th, hth, hpick⟩ := h
  exact ⟨th, List.mem_of_getElem? hth, _, hpick, rfl⟩

variable {page : ℕ} {p p' : PublishPool} {a : PublishAction}

theorem undisturbed_picks (s' : World) (j : Option ℕ) :
    p.Undisturbed pickContracts s' j := fun _ _ _ _ _ _ h => h

/-- After a start at most the new thread picks a picture that did not before. -/
theorem picksAt_start {tag : PublishRoutine} {t : Dart Unit} {i : ℕ}
    (h : PicksAt (p.start tag t) i) : PicksAt p i ∨ i = p.threads.length ∧
      (t.advance p.state).2.awaiting = some (.pickImage : Call) := by
  obtain ⟨th, hth, hpick⟩ := h
  rcases Pool.threads_start hth with hold | ⟨hi, rfl⟩
  · exact .inl ⟨th, hold, hpick⟩
  · exact .inr ⟨hi, hpick⟩

/-- The pictures that are being picked after a step were so before, or the step was the start of
picking one; what was answered is no longer being picked. -/
theorem publishStep_picks (hok : p.Ok anyEnv pickContracts)
    (hstep : publishStep page p a = some p') : p'.Ok anyEnv pickContracts ∧
      ∀ i, PicksAt p' i → PicksAt p i ∧ (∀ e, a ≠ .answer i e) ∨ a = .pickImage ∧ i = p.threads.length := by
  cases a with
  | edit e =>
    obtain rfl := Option.some.inj hstep
    exact ⟨hok.stable (undisturbed_picks _ _), fun i hi => .inl ⟨hi, by simp⟩⟩
  | pickLocation result =>
    obtain rfl := Option.some.inj hstep
    exact ⟨hok.stable (undisturbed_picks _ _), fun i hi => .inl ⟨hi, by simp⟩⟩
  | setClock millis =>
    obtain rfl := Option.some.inj hstep
    exact ⟨hok.stable (undisturbed_picks _ _), fun i hi => .inl ⟨hi, by simp⟩⟩
  | back =>
    simp only [publishStep] at hstep
    split at hstep
    · obtain rfl := Option.some.inj hstep
      exact ⟨hok.stable (undisturbed_picks _ _), fun i hi => .inl ⟨hi, by simp⟩⟩
    · cases hstep
  | pickImage =>
    obtain rfl := Option.some.inj hstep
    refine ⟨hok.start (getImage_picks _ _) (undisturbed_picks _ _), fun i hi => ?_⟩
    rcases picksAt_start hi with hold | ⟨hnew, -⟩
    · exact .inl ⟨hold, by simp⟩
    · exact .inr ⟨rfl, hnew⟩
  | press =>
    obtain rfl := Option.some.inj hstep
    have hmeets := publishEvent_meets (pick_rules ⟨p.threads.length, page⟩ p.state)
    refine ⟨hok.start hmeets (undisturbed_picks _ _), fun i hi => ?_⟩
    rcases picksAt_start hi with hold | ⟨-, hpick⟩
    · exact .inl ⟨hold, by simp⟩
    -- `PublishEvent` asks for no picture
    · have htag := (hmeets.advance.1 hpick).1
      cases htag
  | answer j e =>
    have hans : p.answer anyEnv j e = some p' := hstep
    refine ⟨hok.answer hans trivial (undisturbed_picks _ _), fun i hpicks => ?_⟩
    obtain ⟨th', hth', hpick⟩ := hpicks
    obtain ⟨th, t, hth, -, -, hmove, -, hthreads⟩ := hok.answer_cases hans trivial
    rcases Pool.threads_answer hthreads hth' with ⟨-, rfl⟩ | ⟨hij, hold⟩
    -- the thread that went on is no longer in its first segment
    · have hpast := (hmove hpick).2
      simp at hpast
    · refine .inl ⟨⟨th', hold, hpick⟩, fun e' he' => ?_⟩
      injection he' with hji
      exact hij hji.symm

/-! ## What `PublishEvent` does to the form -/

/-- A segment of `PublishEvent` leaves the form as it is. -/
def formContract (page : ℕ) : Contract remote World Thrown Unit where
  holds _ _ _ := True
  moves _ s _ s' := (s'.publish page).form = (s.publish page).form
  ends _ _ := True

theorem form_rules (me : Caller) (s₀ : World) :
    PublishRules (fun _ _ _ => True) (formContract me.page) me s₀ where
  refuse r s hs _ := ⟨by simp [formContract, hs.publish], trivial⟩
  locate s hs _ := ⟨by simp [formContract, hs.publish], trivial⟩
  notify h e c s s' _ _ _ hs := ⟨by simp [formContract, hs.publish, World.answered_publish], trivial⟩
  quit h e r s s' _ _ hs _ := ⟨by simp [formContract, hs.publish, World.answered_publish], trivial⟩
  add_first t _ _ _ := ⟨rfl, trivial⟩
  put_first t file _ _ _ := ⟨by simp [formContract, PublishPage.form], trivial⟩
  link t u s _ _ _ := ⟨rfl, trivial⟩
  put_next t u url file s _ _ _ _ _ _ := ⟨by simp [formContract, PublishPage.form], trivial⟩
  add_last t u url s _ _ _ _ _ _ := ⟨by simp [formContract, PublishPage.form], trivial⟩
  abort t u url s _ _ _ _ _ := ⟨by simp [formContract, PublishPage.form], trivial⟩

abbrev formContracts (page : ℕ) : PublishRoutine → World → Contract remote World Thrown Unit :=
  pageContracts page fun _ => formContract page

/-- None of the contracts relies on anything. -/
theorem undisturbed_form (s' : World) (j : Option ℕ) :
    p.Undisturbed (formContracts page) s' j := by
  intro i th c _ _ _ _
  cases th.tag <;> trivial

/-- The ways the fields of a page change. -/
inductive FieldsChange (q : PublishPage) (a : PublishAction) (q' : PublishPage) : Prop where
  | same (hform : q'.form = q.form)
  | entered (hform : q'.form = (a.onForm q).form)
  | picked (i : ℕ) (image : File)
    (ha : a = .answer i ⟨.pickImage, (.ok (some image) : Except Fault (Option File))⟩)
    (hform : q'.form = ({ q with imageFiles := q.imageFiles ++ [image] } : PublishPage).form)

theorem publishStep_fields (hok : p.Ok anyEnv (formContracts page))
    (hstep : publishStep page p a = some p') : p'.Ok anyEnv (formContracts page) ∧
      FieldsChange (p.state.publish page) a (p'.state.publish page) := by
  obtain ⟨j, c, hchange, -, hok'⟩ := publishStep_changes hok
    (fun _ => publishEvent_meets (form_rules ⟨p.threads.length, page⟩ p.state)) hstep
  refine ⟨hok' (undisturbed_form _ _), ?_⟩
  generalize p'.state = s' at hchange
  cases hchange with
  | form _ _ => exact .entered (by simp)
  | still _ _ _ hpublish _ => exact .same (by rw [hpublish])
  | image i image => exact .picked i image rfl (by simp)
  | press _ _ hmove => exact .same hmove
  | segment i e th _ _ _ _ _ hmove => exact .same hmove

/-! ## Entries that fit the form -/

/-- The entries can be shown, and the hazard field is visible if the category needs it. -/
structure PublishPage.Fits (q : PublishPage) (isHazardShow : Bool) : Prop where
  chosen : q.Chosen
  hazard : isHazardShow = decide (q.category = 8)

/-- The URLs do not matter. -/
theorem PublishPage.fits_form {q : PublishPage} {isHazardShow : Bool} :
    q.form.Fits isHazardShow ↔ q.Fits isHazardShow :=
  ⟨fun h => ⟨{ h.chosen with }, h.hazard⟩, fun h => ⟨{ h.chosen with }, h.hazard⟩⟩

theorem PublishPage.Fits.of_form {q q' : PublishPage} {isHazardShow : Bool}
    (h : q.Fits isHazardShow) (hform : q'.form = q.form) : q'.Fits isHazardShow := by
  rw [← PublishPage.fits_form, hform]
  exact PublishPage.fits_form.mpr h

theorem PublishPage.Fits.edit {q : PublishPage} {isHazardShow : Bool} (h : q.Fits isHazardShow)
    (e : Edit) : (e.apply q).Fits ((PublishAction.edit e).onHazardShow isHazardShow) := by
  refine ⟨chosen_apply h.chosen e, ?_⟩
  cases e with
  -- the flag is set together with the category
  | category index => exact decide_eq_decide.mpr Fin.ext_iff
  | _ => exact h.hazard

/-- An answer writes the location at most. -/
theorem PublishAction.onForm_answer (i : ℕ) (e : Answered remote) (q : PublishPage) :
    ∃ text, (PublishAction.answer i e).onForm q = { q with textLocation := text } := by
  unfold PublishAction.onForm
  split
  · rename_i h
    cases h
  · rename_i h
    cases h
  · exact ⟨_, rfl⟩
  · exact ⟨_, rfl⟩

theorem PublishPage.Fits.onForm {q : PublishPage} {isHazardShow : Bool} (h : q.Fits isHazardShow)
    (a : PublishAction) : (a.onForm q).Fits (a.onHazardShow isHazardShow) := by
  cases a with
  | edit e => exact h.edit e
  | pickLocation result => exact ⟨{ h.chosen with }, h.hazard⟩
  | answer i e =>
    obtain ⟨text, htext⟩ := PublishAction.onForm_answer i e q
    rw [htext]
    exact ⟨{ h.chosen with }, h.hazard⟩
  | _ => exact h

/-- Only the choice of a category changes the flag, and it does so where it is entered. -/
theorem PublishPage.Fits.change {q q' : PublishPage} {a : PublishAction} {isHazardShow : Bool}
    (h : q.Fits isHazardShow) (hchange : FieldsChange q a q')
    (hedit : ∀ e, a = .edit e → q'.form = (a.onForm q).form) :
    q'.Fits (a.onHazardShow isHazardShow) := by
  by_cases ha : ∃ e, a = .edit e
  · obtain ⟨e, he⟩ := ha
    exact (h.onForm a).of_form (hedit e he)
  · have hflag : a.onHazardShow isHazardShow = isHazardShow := by
      cases a with
      | edit e => exact absurd ⟨e, rfl⟩ ha
      | _ => rfl
    cases hchange with
    | same hform =>
      rw [hflag]
      exact h.of_form hform
    | entered hform => exact (h.onForm a).of_form hform
    | picked i image _ hform =>
      rw [hflag]
      have hmore : ({ q with imageFiles := q.imageFiles ++ [image] } : PublishPage).Fits isHazardShow :=
        ⟨{ h.chosen with }, h.hazard⟩
      exact hmore.of_form hform

/-! ## Photos that fit the grid -/

/-- What holds of the images as long as pictures are picked from the grid, one at a time. -/
structure GridInv (page : ℕ) (p : PublishPool) : Prop where
  images : (p.state.publish page).imageFiles.length ≤ 4
  /-- There is room for the picture that is being picked. -/
  room : Picking p → (p.state.publish page).imageFiles.length < 4
  single : ∀ i j, PicksAt p i → PicksAt p j → i = j

theorem picksAt_of_answer {i : ℕ} {reply : Except Fault (Option File)}
    (h : publishStep page p (.answer i ⟨.pickImage, reply⟩) = some p') : PicksAt p i := by
  obtain ⟨th, k, hth, hnow, -⟩ := Pool.answer_eq_some h
  exact ⟨th, hth, by rw [hnow]; rfl⟩

theorem FieldsChange.images {q q' : PublishPage} (h : FieldsChange q a q') :
    q'.imageFiles = q.imageFiles ∨ ∃ i image,
      a = .answer i ⟨.pickImage, (.ok (some image) : Except Fault (Option File))⟩ ∧
      q'.imageFiles = q.imageFiles ++ [image] := by
  have hfiles : ∀ q₁ q₂ : PublishPage, q₁.form = q₂.form → q₁.imageFiles = q₂.imageFiles :=
    fun q₁ q₂ hform => (PublishPage.mk.inj hform).2.2.1
  cases h with
  | same hform => exact .inl (hfiles _ _ hform)
  | entered hform =>
    have := hfiles _ _ hform
    rw [PublishAction.onForm_imageFiles] at this
    exact .inl this
  | picked i image ha hform => exact .inr ⟨i, image, ha, hfiles _ _ hform⟩

theorem GridInv.step (hinv : GridInv page p)
    (hgrid : a = .pickImage → (p.state.publish page).imageFiles.length < 4 ∧ ¬Picking p)
    (hstep : publishStep page p a = some p')
    (hchange : FieldsChange (p.state.publish page) a (p'.state.publish page))
    (hpicks : ∀ i, PicksAt p' i →
      PicksAt p i ∧ (∀ e, a ≠ .answer i e) ∨ a = .pickImage ∧ i = p.threads.length) :
    GridInv page p' := by
  have hfiles := hchange.images
  refine ⟨?_, fun hpicking => ?_, fun i j hi hj => ?_⟩
  · rcases hfiles with hsame | ⟨i, image, rfl, hmore⟩
    · rw [hsame]
      exact hinv.images
    · have hroom := hinv.room (picksAt_of_answer hstep).picking
      rw [hmore, List.length_append, List.length_singleton]
      omega
  · obtain ⟨th, hth, c, hc, rfl⟩ := hpicking
    obtain ⟨i, hi⟩ := List.mem_iff_getElem?.mp hth
    rcases hfiles with hsame | ⟨j, image, rfl, hmore⟩
    · rw [hsame]
      rcases hpicks i ⟨th, hi, hc⟩ with ⟨hold, -⟩ | ⟨ha, -⟩
      · exact hinv.room hold.picking
      · exact (hgrid ha).1
    -- the picture that came was the only one being picked
    · rcases hpicks i ⟨th, hi, hc⟩ with ⟨hold, hne⟩ | ⟨ha, -⟩
      · obtain rfl := hinv.single i j hold (picksAt_of_answer hstep)
        exact absurd rfl (hne _)
      · cases ha
  · rcases hpicks i hi with ⟨hi, -⟩ | ⟨ha, hi⟩ <;> rcases hpicks j hj with ⟨hj, -⟩ | ⟨ha', hj⟩
    · exact hinv.single i j hi hj
    · exact absurd hi.picking (hgrid ha').2
    · exact absurd hj.picking (hgrid ha).2
    · rw [hi, hj]

/-! ## The form in a run -/

variable {f f' : Form}

/-- What holds of a form along every run. -/
structure FormInv (page : ℕ) (f : Form) : Prop where
  ok : f.pool.Ok anyEnv (formContracts page)
  fits : (f.fields page).Fits f.isHazardShow

theorem FormInv.step (hinv : FormInv page f) (hstep : formStep page f a = some f') :
    FormInv page f' := by
  obtain ⟨hpool, hflag⟩ := formStep_eq_some hstep
  obtain ⟨hok, hchange⟩ := publishStep_fields hinv.ok hpool
  refine ⟨hok, ?_⟩
  rw [hflag]
  apply hinv.fits.change hchange
  intro e he
  subst he
  -- an edit is there at once
  have hedited : f'.pool = f.pool.update fun w => w.setPublish page e.apply :=
    (Option.some.inj hpool).symm
  simp [hedited, Pool.update, PublishAction.onForm, Form.fields]

/-- Along a run in which pictures are picked from the grid, the images fit it. -/
structure PhotosInv (page : ℕ) (f : Form) : Prop where
  form : FormInv page f
  picks : f.pool.Ok anyEnv pickContracts
  grid : GridInv page f.pool

theorem PhotosInv.step (hinv : PhotosInv page f) (ha : FromGrid page f a)
    (hstep : formStep page f a = some f') : PhotosInv page f' := by
  obtain ⟨hpool, -⟩ := formStep_eq_some hstep
  obtain ⟨-, hchange⟩ := publishStep_fields hinv.form.ok hpool
  obtain ⟨hok, hpicks⟩ := publishStep_picks hinv.picks hpool
  refine ⟨hinv.form.step hstep, hok, hinv.grid.step (fun hpick => ?_) hpool hchange hpicks⟩
  exact ⟨add_mem_photoGrid.mp (ha.add hpick), ha.picking hpick⟩

theorem PublishPage.fits_opened (date : DateTime) : (PublishPage.opened date).Fits false :=
  ⟨chosen_opened date, rfl⟩

theorem PhotosInv.opened {w : World} {date : DateTime} (hw : w.publish page = .opened date) :
    PhotosInv page (openForm page w) := by
  have hfields : (openForm page w).fields page = .opened date := hw
  have hnone : ∀ i, ¬PicksAt (openPublish page w) i := by
    intro i ⟨th, hth, hpick⟩
    obtain rfl := List.mem_singleton.mp (List.mem_of_getElem? hth)
    cases hpick
  refine ⟨⟨openPublish_ok page _ w, ?_⟩, ?_, ⟨?_, fun hpicking => ?_, fun i j hi => ?_⟩⟩
  · rw [hfields]
    exact PublishPage.fits_opened date
  · exact Pool.Ok.start (Pool.ok_of_threads_nil rfl) (getCurAddress_picks _ _) (undisturbed_picks _ _)
  · have himages : ((openForm page w).fields page).imageFiles = [] := by
      rw [hfields]
      rfl
    show ((openForm page w).fields page).imageFiles.length ≤ 4
    rw [himages]
    exact Nat.zero_le 4
  · obtain ⟨th, hth, c, hc, rfl⟩ := hpicking
    obtain ⟨i, hi⟩ := List.mem_iff_getElem?.mp hth
    exact absurd ⟨th, hi, hc⟩ (hnone i)
  · exact absurd hi (hnone i)

/-- What the page shows are the entries: the label of the category, the hazard text where it is
needed, each rating as so many circles, and all images in their order. -/
structure FormView.Shows (view : FormView) (locale : Locale) (q : PublishPage) : Prop where
  category : (categories locale)[q.category]? = some view.category
  hazard : view.hazard = if q.category = 8 then some q.textHazard else none
  climate : (reached view.climateRating : ℤ) = q.climateRating + 1
  upload : (reached view.uploadRating : ℤ) = q.uploadRating + 1
  bother : (reached view.botherRating : ℤ) = q.botherRating + 1
  photos : view.photos =
    q.imageFiles.map .image ++ if q.imageFiles.length < 4 then [.add] else []

theorem PublishPage.Fits.shows {q : PublishPage} {isHazardShow : Bool} (h : q.Fits isHazardShow)
    (hfit : q.imageFiles.length ≤ 4) (locale : Locale) :
    ∃ view, q.build locale isHazardShow = .ok view ∧ view.Shows locale q := by
  obtain ⟨label, hlabel, hbuild⟩ := PublishPage.build_eq locale isHazardShow h.chosen.category
  refine ⟨_, hbuild, hlabel, ?_, reached_ratingBar h.chosen.climate, reached_ratingBar h.chosen.upload,
    reached_ratingBar h.chosen.bother, photoGrid_eq hfit⟩
  simp [PublishPage.view, h.hazard]

/-- **The form never fails to build and shows what is entered**, in every run in which pictures are
picked from the grid, one after the other; there are at most four of them then. -/
theorem form_shows_entries {w : World} {date : DateTime} {as : List PublishAction}
    (hw : w.publish page = .opened date)
    (ha : Along (formStep page) (FromGrid page) (openForm page w) as)
    (hrun : run (formStep page) (openForm page w) as = some f) (locale : Locale) :
    (f.fields page).imageFiles.length ≤ 4 ∧
      ∃ view, (f.fields page).build locale f.isHazardShow = .ok view ∧
        view.Shows locale (f.fields page) := by
  have hinv : PhotosInv page f :=
    run_invariant (fun _ _ _ hinv ha hstep => hinv.step ha hstep) (.opened hw) ha hrun
  exact ⟨hinv.grid.images, hinv.form.fits.shows hinv.grid.images locale⟩

theorem FromGrid.of_ne (h : a ≠ .pickImage) : FromGrid page f a where
  add ha := absurd ha h
  picking ha := absurd ha h

/-- A picture of a fog is picked and rated. -/
def reportFog : List PublishAction :=
  [.edit (.category 8), .edit (.hazard "Fog"), .pickImage,
    .answer 1 ⟨.pickImage, (.ok (some ⟨"1.jpg"⟩) : Except Fault (Option File))⟩,
    .edit (.climateRating 3)]

theorem form_shows_fog :
    ∃ f, run (formStep 1) (openForm 1 (.publishing ⟨2020, 1, 1⟩)) reportFog = some f ∧
      (f.fields 1).imageFiles = [⟨"1.jpg"⟩] ∧ ∃ view,
        (f.fields 1).build .en f.isHazardShow = .ok view ∧ view.Shows .en (f.fields 1) := by
  refine ⟨_, rfl, rfl, ?_⟩
  refine (@form_shows_entries 1 _ (.publishing ⟨2020, 1, 1⟩) ⟨2020, 1, 1⟩ reportFog rfl ?_ rfl .en).2
  refine ⟨.of_ne (by simp), .of_ne (by simp), ⟨fun _ => ?_, fun _ => ?_⟩, .of_ne (by simp),
    .of_ne (by simp), trivial⟩
  · exact add_mem_photoGrid.mpr (Nat.zero_lt_succ 3)
  · decide

end FloodUp
