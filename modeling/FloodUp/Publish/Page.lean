import FloodUp.Async.Run
import FloodUp.Publish.Segments

/-!
# The Publish page as a state machine

One Publish page with everything that can happen to it: the user changes the form, picks
images, presses Publish, takes the progress dialog away with the back button; the clock goes
on; and the calls its routines are suspended at are answered, in any order.

The contracts of the two routines besides `PublishEvent` are here as well: `_getCurAddress`
changes the location text only, `_getImage` appends to the images only.
-/

namespace FloodUp

open Async

/-! ## Actions -/

/-- One change of the form by the user. -/
inductive Edit where
  | hazard (text : String)
  | location (text : String)
  | attention (text : String)
  | information (text : String)
  | climatewhy (text : String)
  | reduceimpact (text : String)
  | category (index : Fin 11)
  | createDate (date : DateTime)
  | knowAlert (answer : Bool)
  | climateRating (rating : Fin 5)
  | uploadRating (rating : Fin 5)
  | botherRating (rating : Fin 5)
deriving DecidableEq

def Edit.apply : Edit → PublishPage → PublishPage
  | .hazard text, p => { p with textHazard := text }
  | .location text, p => { p with textLocation := text }
  | .attention text, p => { p with textAttention := text }
  | .information text, p => { p with textInformation := text }
  | .climatewhy text, p => { p with textClimatewhy := text }
  | .reduceimpact text, p => { p with textReduceimpact := text }
  | .category index, p => { p with category := index }
  | .createDate date, p => { p with createDate := date }
  | .knowAlert answer, p => { p with knowAlert := answer }
  | .climateRating rating, p => { p with climateRating := (rating : ℕ) }
  | .uploadRating rating, p => { p with uploadRating := (rating : ℕ) }
  | .botherRating rating, p => { p with botherRating := (rating : ℕ) }

@[simp] theorem Edit.apply_imageFiles (e : Edit) (p : PublishPage) :
    (e.apply p).imageFiles = p.imageFiles := by
  cases e <;> rfl

@[simp] theorem Edit.apply_fileDownloadUrls (e : Edit) (p : PublishPage) :
    (e.apply p).fileDownloadUrls = p.fileDownloadUrls := by
  cases e <;> rfl

/-- The routines of the page. -/
inductive PublishRoutine where
  | publishEvent
  | getCurAddress
  | getImage
deriving DecidableEq, Repr

abbrev PublishPool : Type := Pool remote World Thrown PublishRoutine

inductive PublishAction where
  | edit (e : Edit)
  /-- A suggestion of `LocationAdd` is chosen. -/
  | pickLocation (result : String)
  | pickImage
  | press
  /-- The back button while a progress dialog is on top. -/
  | back
  | setClock (millis : ℤ)
  | answer (i : ℕ) (e : Answered remote)

/-- One action on the page with route number `page`. -/
def publishStep (page : ℕ) (p : PublishPool) : PublishAction → Option PublishPool
  | .edit e => some (p.update fun w => w.setPublish page e.apply)
  | .pickLocation result =>
    some (p.update fun w => w.setPublish page fun q => { q with textLocation := result })
  | .pickImage => some (p.start .getImage (getImage ⟨p.threads.length, page⟩))
  | .press => some (p.start .publishEvent (publishEvent ⟨p.threads.length, page⟩))
  | .back =>
    match p.state.routes with
    | ⟨_, .progress _⟩ :: _ :: _ => some (p.update fun w => w.pop none)
    | _ => none
  | .setClock millis => some (p.update fun w => { w with clock := millis })
  | .answer i e => p.answer env i e

/-- The page right after `initState`. -/
def openPublish (page : ℕ) (w : World) : PublishPool :=
  (⟨w, []⟩ : PublishPool).start .getCurAddress (getCurAddress ⟨0, page⟩)

/-- A page on which nothing has been entered yet. -/
def PublishPage.opened (date : DateTime) : PublishPage := { createDate := date }

/-- A Publish page, number 1, just opened over a Map page. -/
def World.publishing (date : DateTime) : World where
  globals := { currentLocation := ⟨1, 2⟩, userFullName := "Ann", firUserId := "a", bLoggedIn := true }
  routes := [⟨1, .page .publish false⟩, ⟨0, .page .map false⟩]
  nextRoute := 2
  publish _ := .opened date

/-- The same page once a location has been entered. -/
def World.readyToPublish (date : DateTime) : World :=
  (World.publishing date).setPublish 1 (Edit.location "Here").apply

/-! ## `_getCurAddress` and `_getImage` -/

/-- `_getCurAddress` leaves everything as it is, or puts the address it got into the location
field. -/
def addressContract (page : ℕ) : Contract remote World Thrown Unit where
  holds _ _ _ := True
  moves h s _ s' := s' = s ∨ ∃ coordinates address rest,
    h = [⟨.findAddressesFromCoordinates coordinates,
      (.ok (address :: rest) : Except Fault (List String))⟩] ∧
    s' = s.setPublish page fun q => { q with textLocation := address }
  ends _ _ := True

theorem getCurAddress_meets (me : Caller) (adm : (c : Call) → Reply c → World → Prop)
    (s : World) :
    (getCurAddress me).Meets ⟨World.answered, adm⟩ (addressContract me.page)
      (addressContract me.page).final [] s s := by
  simp only [getCurAddress, findAddressesFromCoordinates, Routine.bind_eq, Routine.meets_bind,
    Routine.meets_get, meets_remoteCall]
  refine ⟨.inl rfl, trivial, fun s' r _ _ => ?_⟩
  rcases r with f | _ | ⟨address, rest⟩
  · exact ⟨.inl rfl, trivial⟩
  · exact ⟨.inl rfl, trivial⟩
  · exact ⟨.inr ⟨_, address, rest, rfl, rfl⟩, trivial⟩

/-- `_getImage` leaves everything as it is, or appends the image picked. -/
def imageContract (page : ℕ) : Contract remote World Thrown Unit where
  holds _ _ _ := True
  moves h s _ s' := s' = s ∨ ∃ image,
    h = [⟨.pickImage, (.ok (some image) : Except Fault (Option File))⟩] ∧
    s' = s.setPublish page fun q => { q with imageFiles := q.imageFiles ++ [image] }
  ends _ _ := True

theorem getImage_meets (me : Caller) (adm : (c : Call) → Reply c → World → Prop) (s : World) :
    (getImage me).Meets ⟨World.answered, adm⟩ (imageContract me.page)
      (imageContract me.page).final [] s s := by
  simp only [getImage, pickImage, Routine.bind_eq, Routine.meets_bind, meets_remoteCall]
  refine ⟨.inl rfl, trivial, fun s' r _ _ => ?_⟩
  rcases r with f | _ | image
  · exact ⟨.inl rfl, trivial⟩
  · exact ⟨.inl rfl, trivial⟩
  · simp only [Except.mapError, id_eq, Routine.meets_bind, Routine.meets_modify,
      meets_withContext]
    split <;> exact ⟨.inr ⟨image, rfl, rfl⟩, trivial⟩

/-- The contracts of a page's routines, given one for `PublishEvent`. -/
def pageContracts (page : ℕ) (K : World → Contract remote World Thrown Unit) :
    PublishRoutine → World → Contract remote World Thrown Unit
  | .publishEvent, born => K born
  | .getCurAddress, _ => addressContract page
  | .getImage, _ => imageContract page

/-- A page just opened keeps any contracts. -/
theorem openPublish_ok (page : ℕ) (K : World → Contract remote World Thrown Unit) (w : World) :
    (openPublish page w).Ok anyEnv (pageContracts page K) := by
  refine Pool.Ok.start (Pool.ok_of_threads_nil rfl) (getCurAddress_meets ⟨0, page⟩ _ _) ?_
  intro i th c _ hth
  simp at hth

/-! ## On the way to the add -/

/-- While a thread is suspended there, its `PublishEvent` still reads the form before it adds its
document. -/
def Call.BeforeAdd : Call → Prop
  | .placemarkFromAddress _ => True
  | .putFile _ _ => True
  | .getDownloadURL _ => True
  | _ => False

def Call.IsUpload : Call → Prop
  | .putFile _ _ => True
  | .getDownloadURL _ => True
  | _ => False

instance : DecidablePred Call.BeforeAdd := fun c => by
  unfold Call.BeforeAdd
  split <;> infer_instance

instance : DecidablePred Call.IsUpload := fun c => by
  unfold Call.IsUpload
  split <;> infer_instance

theorem Call.IsUpload.beforeAdd {c : Call} (h : c.IsUpload) : c.BeforeAdd := by
  cases c <;> trivial

/-- Some `PublishEvent` is on its way from the check of the form to its add. -/
def Busy (p : PublishPool) : Prop :=
  p.Pending fun th (c : Call) => th.tag = .publishEvent ∧ c.BeforeAdd

/-- Some `PublishEvent` is uploading images. -/
def Uploading (p : PublishPool) : Prop :=
  p.Pending fun th (c : Call) => th.tag = .publishEvent ∧ c.IsUpload

instance : DecidablePred Busy := fun p => by
  unfold Busy
  infer_instance

instance : DecidablePred Uploading := fun p => by
  unfold Uploading
  infer_instance

/-- A page to which no image has been attached has no URL either. -/
def NoStale (page : ℕ) (s : World) : Prop :=
  (s.publish page).imageFiles = [] → (s.publish page).fileDownloadUrls = []

/-! ## What an action does -/

/-- What the action does to the texts and the category of the form. -/
def PublishAction.onForm : PublishAction → PublishPage → PublishPage
  | .edit e, q => e.apply q
  | .pickLocation result, q => { q with textLocation := result }
  | .answer _ ⟨.findAddressesFromCoordinates _, .ok (address :: _)⟩, q =>
    { q with textLocation := address }
  | _, q => q

@[simp] theorem PublishAction.onForm_imageFiles (a : PublishAction) (q : PublishPage) :
    (a.onForm q).imageFiles = q.imageFiles := by
  unfold PublishAction.onForm
  split <;> simp

@[simp] theorem PublishAction.onForm_fileDownloadUrls (a : PublishAction) (q : PublishPage) :
    (a.onForm q).fileDownloadUrls = q.fileDownloadUrls := by
  unfold PublishAction.onForm
  split <;> simp

variable {page : ℕ} {K : World → Contract remote World Thrown Unit} {p p' : PublishPool}
  {a : PublishAction}

/-- The ways an action changes the state, with the thread that moves and the call a moving
`PublishEvent` stops at. -/
inductive PageChange (page : ℕ) (K : World → Contract remote World Thrown Unit)
    (p : PublishPool) : PublishAction → Option ℕ → World → Option Call → Prop where
  /-- The form alone. -/
  | form (a : PublishAction) (j : Option ℕ) :
    PageChange page K p a j (p.state.setPublish page a.onForm) none
  /-- Nothing on the page. -/
  | still (a : PublishAction) (j : Option ℕ) (s' : World) (hpublish : s'.publish = p.state.publish)
    (hlinks : s'.links = p.state.links) : PageChange page K p a j s' none
  | image (i : ℕ) (image : File) :
    PageChange page K p (.answer i ⟨.pickImage, (.ok (some image) : Except Fault (Option File))⟩)
      (some i)
      (p.state.setPublish page fun q => { q with imageFiles := q.imageFiles ++ [image] }) none
  | press (s' : World) (c : Option Call) (hmove : (K p.state).moves [] p.state c s') :
    PageChange page K p .press (some p.threads.length) s' c
  /-- One segment of a `PublishEvent`. -/
  | segment (i : ℕ) (e : Answered remote) (th) (s' : World) (c : Option Call)
    (hth : p.threads[i]? = some th) (htag : th.tag = .publishEvent)
    (hawait : th.now.awaiting = some e.call)
    (hmove : (K th.born).moves (th.past ++ [e]) p.state c s') :
    PageChange page K p (.answer i e) (some i) s' c

/-- Each `PublishEvent` of the pool `p'` is one of `p` that did not move, or it is thread `j`,
suspended at `c` if at all. -/
def OneMoved (p p' : PublishPool) (j : Option ℕ) (c : Option Call) : Prop :=
  ∀ i th, p'.threads[i]? = some th → th.tag = .publishEvent →
    p.threads[i]? = some th ∧ some i ≠ j ∨ some i = j ∧ th.now.awaiting = c

theorem oneMoved_none (p : PublishPool) (s' : World) (c : Option Call) :
    OneMoved p ⟨s', p.threads⟩ none c := fun _ _ hth _ => .inl ⟨hth, by simp⟩

/-- After a start only the new thread has moved. -/
theorem oneMoved_start (p : PublishPool) (tag : PublishRoutine) (t : Dart Unit) :
    OneMoved p (p.start tag t) (some p.threads.length) (t.advance p.state).2.awaiting := by
  intro i th hth _
  rcases Pool.threads_start hth with hold | ⟨rfl, rfl⟩
  · have hlt := (List.getElem?_eq_some_iff.mp hold).1
    exact .inl ⟨hold, by simp; omega⟩
  · exact .inr ⟨rfl, rfl⟩

/-- After an answer only the thread it was for has moved. -/
theorem oneMoved_answer {i : ℕ} {th' : Thread remote World Thrown PublishRoutine}
    (hthreads : p'.threads = p.threads.set i th') : OneMoved p p' (some i) th'.now.awaiting := by
  intro j th₁ hj _
  rcases Pool.threads_answer hthreads hj with ⟨rfl, rfl⟩ | ⟨hij, hold⟩
  · exact .inr ⟨rfl, rfl⟩
  · exact .inl ⟨hold, by simpa using hij⟩

/-- If the thread that moved is no `PublishEvent`, none has moved. -/
theorem OneMoved.of_tag {i : ℕ} {th' : Thread remote World Thrown PublishRoutine}
    (hthreads : p'.threads = p.threads.set i th') (htag : th'.tag ≠ .publishEvent) :
    OneMoved p p' (some i) none := by
  intro j th₁ hj htag₁
  rcases Pool.threads_answer hthreads hj with ⟨-, rfl⟩ | ⟨hij, hold⟩
  · exact absurd htag₁ htag
  · exact .inl ⟨hold, by simpa using hij⟩

/-- What an action does to a page that keeps its contracts; they are kept again if no suspended
routine notices. -/
theorem publishStep_changes (hok : p.Ok anyEnv (pageContracts page K))
    (hmeets : a = .press → (publishEvent ⟨p.threads.length, page⟩).Meets anyEnv (K p.state)
      (K p.state).final [] p.state p.state)
    (hstep : publishStep page p a = some p') :
    ∃ j c, PageChange page K p a j p'.state c ∧ OneMoved p p' j c ∧
      (p.Undisturbed (pageContracts page K) p'.state j → p'.Ok anyEnv (pageContracts page K)) := by
  cases a with
  | edit e =>
    obtain rfl := Option.some.inj hstep
    exact ⟨none, none, .form (.edit e) none, oneMoved_none p _ none, hok.stable⟩
  | pickLocation result =>
    obtain rfl := Option.some.inj hstep
    exact ⟨none, none, .form (.pickLocation result) none, oneMoved_none p _ none, hok.stable⟩
  | pickImage =>
    obtain rfl := Option.some.inj hstep
    refine ⟨none, none, .still .pickImage none _ rfl rfl, ?_, hok.start (getImage_meets ⟨_, page⟩ _ _)⟩
    intro i th hth htag
    rcases oneMoved_start p .getImage _ i th hth htag with ⟨h, -⟩ | ⟨hlast, -⟩
    · exact .inl ⟨h, by simp⟩
    · -- the new thread is no `PublishEvent`
      obtain rfl := Option.some.inj hlast
      simp only [Pool.start, List.getElem?_concat_length, Option.some.injEq] at hth
      subst hth
      cases htag
  | press =>
    obtain rfl := Option.some.inj hstep
    -- the new thread is not among those that must not notice
    refine ⟨_, _, .press _ _ (hmeets rfl).advance.1, oneMoved_start p .publishEvent _, fun hund =>
      hok.start (hmeets rfl) fun i th c _ hth => hund i th c ?_ hth⟩
    have hlt := (List.getElem?_eq_some_iff.mp hth).1
    simp only [ne_eq, Option.some.injEq]
    omega
  | back =>
    simp only [publishStep] at hstep
    split at hstep
    · obtain rfl := Option.some.inj hstep
      have hsame := World.sameData_pop p.state none
      exact ⟨none, none, .still .back none _ hsame.publish hsame.links, oneMoved_none p _ none,
        hok.stable⟩
    · cases hstep
  | setClock millis =>
    obtain rfl := Option.some.inj hstep
    exact ⟨none, none, .still (.setClock millis) none _ rfl rfl, oneMoved_none p _ none, hok.stable⟩
  | answer i e =>
    have hans : p.answer anyEnv i e = some p' := hstep
    obtain ⟨th, t, hth, hawait, -, hmove, -, hthreads⟩ := hok.answer_cases hans trivial
    cases htag : th.tag with
    | publishEvent =>
      rw [htag] at hmove
      exact ⟨some i, _, .segment i e th _ _ hth htag hawait hmove, oneMoved_answer hthreads,
        hok.answer hans trivial⟩
    | getCurAddress =>
      rw [htag] at hmove
      have hother := OneMoved.of_tag hthreads (by simp [htag])
      -- `_getCurAddress` has failed, or it writes the location of the form
      rcases hmove with hsame | ⟨coordinates, address, rest, hpast, hset⟩
      · exact ⟨some i, none, .still _ _ _ (by rw [hsame]) (by rw [hsame]), hother,
          hok.answer hans trivial⟩
      · obtain ⟨-, he⟩ := (List.append_eq_singleton_iff.mp hpast).resolve_right (by simp)
        obtain rfl := List.singleton_inj.mp he
        exact ⟨some i, none, hset ▸ .form _ _, hother, hok.answer hans trivial⟩
    | getImage =>
      rw [htag] at hmove
      have hother := OneMoved.of_tag hthreads (by simp [htag])
      -- `_getImage` has got no image, or it attaches one
      rcases hmove with hsame | ⟨image, hpast, hset⟩
      · exact ⟨some i, none, .still _ _ _ (by rw [hsame]) (by rw [hsame]), hother,
          hok.answer hans trivial⟩
      · obtain ⟨-, he⟩ := (List.append_eq_singleton_iff.mp hpast).resolve_right (by simp)
        obtain rfl := List.singleton_inj.mp he
        exact ⟨some i, none, hset ▸ .image i image, hother, hok.answer hans trivial⟩

end FloodUp
