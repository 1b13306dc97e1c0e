import FloodUp.App.Theorems
import FloodUp.Publish.Event

/-!
# The segments of `PublishEvent`

`PublishEvent` runs from one suspension point to the next in a fixed set of ways. This file
executes it once, symbolically: `PublishRules` lists for a contract what each segment owes,
and `publishEvent_meets` says that a contract which pays is kept. What is proved about
`PublishEvent` among other steps of the app goes through this rule and never unfolds the
routine again.
-/

namespace FloodUp

open Async

/-! ## Geocoding -/

/-- What `getLocationFromAddress` makes of the reply to its call. -/
def geocodeResult : Except Fault (Option (List Placemark)) → Except Thrown LatLng
  | .ok none => .ok noLocation
  | .ok (some []) => .error .rangeError
  | .ok (some (p :: _)) => .ok p.position
  | .error (.platformException _) => .ok noLocation
  | .error .exception => .error (.fault .exception)
  | .error .error => .error (.fault .error)

/-- `getLocationFromAddress` makes one call and computes its result from the reply. -/
theorem getLocationFromAddress_eq (address : String) :
    getLocationFromAddress address =
      .await (.placemarkFromAddress address) fun r =>
        match geocodeResult r with
        | .ok loc => .pure loc
        | .error e => .throw e := by
  simp only [getLocationFromAddress, placemarkFromAddress, remoteCall, ask, Routine.bind_eq,
    Routine.bind, Routine.tryCatch]
  congr 1
  funext r
  rcases r with (code | _ | _) | _ | _ | ⟨p, ps⟩ <;> rfl

/-! ## The history of a call -/

/-- What a call of `PublishEvent` that uploads images has behind it: the geocoding, the state
in which the upload began, and the uploads completed with their URLs. -/
structure Trail where
  address : String
  reply : Except Fault (Option (List Placemark))
  loc : LatLng
  start : World
  done : List (Upload × String)

/-- The two answers of one upload. -/
def uploadAnswers (d : Upload × String) : List (Answered remote) :=
  [⟨.putFile d.1.path d.1.file, (.ok () : Except Fault Unit)⟩,
   ⟨.getDownloadURL d.1.path, (.ok d.2 : Except Fault String)⟩]

/-- What holds of both answers of an upload holds of all answers of several. -/
theorem forall_uploads {P : Answered remote → Prop}
    (hput : ∀ path file, P ⟨.putFile path file, (.ok () : Except Fault Unit)⟩)
    (hurl : ∀ path url, P ⟨.getDownloadURL path, (.ok url : Except Fault String)⟩)
    (done : List (Upload × String)) : ∀ e ∈ done.flatMap uploadAnswers, P e := by
  intro e he
  obtain ⟨d, -, he⟩ := List.mem_flatMap.mp he
  simp only [uploadAnswers, List.mem_cons, List.not_mem_nil, or_false] at he
  rcases he with rfl | rfl
  · exact hput _ _
  · exact hurl _ _

namespace Trail

/-- All answers the call has got. -/
def history (t : Trail) : List (Answered remote) :=
  ⟨.placemarkFromAddress t.address, t.reply⟩ :: t.done.flatMap uploadAnswers

def snoc (t : Trail) (u : Upload) (url : String) : Trail := { t with done := t.done ++ [(u, url)] }

theorem history_of_nil {t : Trail} (h : t.done = []) :
    t.history = [⟨.placemarkFromAddress t.address, t.reply⟩] := by
  simp [history, h]

@[simp] theorem done_snoc (t : Trail) (u : Upload) (url : String) :
    (t.snoc u url).done = t.done ++ [(u, url)] := rfl

theorem history_snoc (t : Trail) (u : Upload) (url : String) :
    (t.snoc u url).history = t.history ++ uploadAnswers (u, url) := by
  simp [history, snoc]

/-- The folder the images of this call go to. -/
def folder (page : ℕ) (t : Trail) : String :=
  categoryNumber (t.start.publish page).category ++ "/"

/-- The number of images the iterator was made for. -/
def length (page : ℕ) (t : Trail) : ℕ := (t.start.publish page).imageFiles.length

@[simp] theorem length_snoc (page : ℕ) (t : Trail) (u : Upload) (url : String) :
    (t.snoc u url).length page = t.length page := rfl

end Trail

/-- The geocoding of the trail gave its coordinates, the contract held when the upload began,
and all uploads went to the trail's folder. -/
structure Trail.Valid (K : Contract remote World Thrown Unit) (page : ℕ) (t : Trail) : Prop where
  located : geocodeResult t.reply = .ok t.loc
  place : t.loc ≠ noLocation
  held : K.holds [] (.placemarkFromAddress t.address) t.start
  folder : ∀ d ∈ t.done, d.1.categoryNo = t.folder page

theorem Trail.Valid.snoc {K : Contract remote World Thrown Unit} {page : ℕ} {t : Trail}
    (ht : t.Valid K page) {u : Upload} (hu : u.categoryNo = t.folder page) (url : String) :
    (t.snoc u url).Valid K page where
  located := ht.located
  place := ht.place
  held := ht.held
  folder d hd := by
    rcases List.mem_append.mp hd with hd | hd
    -- an earlier upload
    · exact ht.folder d hd
    · simp only [List.mem_singleton] at hd
      subst hd
      exact hu

/-! ## What each segment owes -/

namespace World

/-- The URL for `path` has come and is appended to the page's `_fileDownloadUrls`. -/
def addUrl (page : ℕ) (path url : String) (w : World) : World :=
  ({ w with links := w.links ++ [(path, url)] } : World).setPublish page fun p =>
    { p with fileDownloadUrls := p.fileDownloadUrls ++ [url] }

/-- The page's `_fileDownloadUrls` emptied. -/
def clearUrls (page : ℕ) (w : World) : World :=
  w.setPublish page fun p => { p with fileDownloadUrls := [] }

def startUpload (u : Upload) (w : World) : World := { w with uploads := w.uploads ++ [u] }

@[simp] theorem addUrl_publish (page : ℕ) (path url : String) (w : World) :
    (w.addUrl page path url).publish page =
      { w.publish page with fileDownloadUrls := (w.publish page).fileDownloadUrls ++ [url] } := by
  simp [addUrl]

@[simp] theorem clearUrls_publish (page : ℕ) (w : World) :
    (w.clearUrls page).publish page = { w.publish page with fileDownloadUrls := [] } := by
  simp [clearUrls]

@[simp] theorem startUpload_publish (u : Upload) (w : World) :
    (w.startUpload u).publish = w.publish := rfl

/-- The document `PublishEvent` adds when it comes to it in state `w`. -/
def document (page : ℕ) (loc : LatLng) (w : World) : Data :=
  eventDocument w.globals (w.publish page) loc

end World

/-- A segment after the answers `h` that leads from `s` to `s'` and stops at `c`. -/
def Suspends (K : Contract remote World Thrown Unit) (h : List (Answered remote)) (s : World)
    (c : Call) (s' : World) : Prop :=
  K.moves h s (some c) s' ∧ K.holds h c s'

/-- The form is complete enough for `PublishEvent` to go on. -/
def PublishPage.Complete (p : PublishPage) : Prop :=
  ¬ (p.category = 8 ∧ p.textHazard = "") ∧ p.textLocation ≠ ""

/-- The obligations of a contract for a `PublishEvent` started in `s₀`, one for each kind of
segment. -/
structure PublishRules (adm : (c : Call) → Reply c → World → Prop)
    (K : Contract remote World Thrown Unit) (me : Caller) (s₀ : World) : Prop where
  /-- The form is not complete, or the page is gone. -/
  refuse : ∀ r s, World.SameData s₀ s → r ≠ .error .concurrentModification → K.final [] s₀ r s
  locate : ∀ s, World.SameData s₀ s → (s₀.publish me.page).Complete →
    Suspends K [] s₀ (.placemarkFromAddress (s₀.publish me.page).textLocation) s
  /-- After an answer the call only shows something to the user. -/
  notify : ∀ h (e : Answered remote) c s s', c.IsNotice → K.holds h e.call s →
    adm e.call e.reply s →
    World.SameData (World.answered e.call e.reply s) s' → Suspends K (h ++ [e]) s c s'
  /-- After an answer the call ends. -/
  quit : ∀ h (e : Answered remote) r s s', K.holds h e.call s → adm e.call e.reply s →
    World.SameData (World.answered e.call e.reply s) s' → r ≠ .error .concurrentModification →
    K.final (h ++ [e]) s r s'
  add_first : ∀ t : Trail, t.Valid K me.page → t.done = [] →
    (t.start.publish me.page).imageFiles = [] →
    Suspends K t.history t.start (.addEvent (t.start.document me.page t.loc)) t.start
  put_first : ∀ (t : Trail) file, t.Valid K me.page → t.done = [] →
    (t.start.publish me.page).imageFiles[0]? = some file →
    let u : Upload := ⟨t.folder me.page, t.start.clock, file⟩
    Suspends K t.history t.start (.putFile u.path u.file)
      ((t.start.clearUrls me.page).startUpload u)
  link : ∀ (t : Trail) (u : Upload) s, t.Valid K me.page → u.categoryNo = t.folder me.page →
    K.holds t.history (.putFile u.path u.file) s →
    Suspends K (t.history ++ [⟨.putFile u.path u.file, (.ok () : Except Fault Unit)⟩]) s
      (.getDownloadURL u.path) { s with stored := s.stored ++ [(u.path, u.file)] }
  /-- After an upload the list still has its length, and this is the next image. -/
  put_next : ∀ (t : Trail) (u : Upload) url file s, t.Valid K me.page →
    u.categoryNo = t.folder me.page →
    K.holds (t.history ++ [⟨.putFile u.path u.file, (.ok () : Except Fault Unit)⟩])
      (.getDownloadURL u.path) s →
    adm (.getDownloadURL u.path) (.ok url) s →
    (s.publish me.page).imageFiles.length = t.length me.page →
    (s.publish me.page).imageFiles[t.done.length + 1]? = some file →
    let u' : Upload := ⟨t.folder me.page, s.clock, file⟩
    Suspends K (t.snoc u url).history s (.putFile u'.path u'.file)
      ((s.addUrl me.page u.path url).startUpload u')
  /-- After an upload the list still has its length and all images are done. -/
  add_last : ∀ (t : Trail) (u : Upload) url s, t.Valid K me.page →
    u.categoryNo = t.folder me.page →
    K.holds (t.history ++ [⟨.putFile u.path u.file, (.ok () : Except Fault Unit)⟩])
      (.getDownloadURL u.path) s →
    adm (.getDownloadURL u.path) (.ok url) s →
    (s.publish me.page).imageFiles.length = t.length me.page →
    t.done.length + 1 = t.length me.page →
    Suspends K (t.snoc u url).history s
      (.addEvent ((s.addUrl me.page u.path url).document me.page t.loc)) (s.addUrl me.page u.path url)
  /-- After an upload the list has another length. -/
  abort : ∀ (t : Trail) (u : Upload) url s, t.Valid K me.page →
    u.categoryNo = t.folder me.page →
    K.holds (t.history ++ [⟨.putFile u.path u.file, (.ok () : Except Fault Unit)⟩])
      (.getDownloadURL u.path) s →
    adm (.getDownloadURL u.path) (.ok url) s →
    (s.publish me.page).imageFiles.length ≠ t.length me.page →
    K.final (t.snoc u url).history s (.error .concurrentModification) (s.addUrl me.page u.path url)

/-! ## The rule -/

section

variable {adm : (c : Call) → Reply c → World → Prop} {K : Contract remote World Thrown Unit}
  {me : Caller} {s₀ : World}

/-- The tail of `PublishEvent`, from the answer to the add on. -/
theorem thankPublisher_meets (R : PublishRules adm K me s₀) {h : List (Answered remote)}
    {e : Answered remote} {s s' : World} (hs : K.holds h e.call s)
    (hadm : adm e.call e.reply s) (hs' : World.SameData (World.answered e.call e.reply s) s') :
    (thankPublisher me).Meets ⟨World.answered, adm⟩ K K.final (h ++ [e]) s s' := by
  simp only [thankPublisher, Routine.bind_eq, Routine.meets_bind]
  -- the rules do not look at the screen, so the segment goes on in some `s₁` with the same data
  refine meets_hideProgress fun s₁ hs₁ => ?_
  have hs₁ := hs'.trans hs₁
  simp only [awaitAlert, Routine.bind_eq, Routine.meets_bind, meets_withContext,
    Routine.meets_get, Routine.meets_modify]
  split
  case isFalse => exact R.quit h e _ s s₁ hs hadm hs₁ (by simp)
  have hs₂ := (hs₁.trans (s₁.sameData_push (.alert "sucess_publish_title"))).trans
    (World.sameData_note _ (.alert me.op "sucess_publish_title"))
  obtain ⟨hmove, hhold⟩ := R.notify h e (.alert s₁.nextRoute) s _ (.alert _) hs hadm hs₂
  rw [meets_alertClosed]
  refine ⟨hmove, hhold, fun s₃ r hs₃ hadm₃ => ?_⟩
  -- closing the alert starts the last segment
  have hlast : ∀ r' s₄, World.SameData (World.answered (.alert s₁.nextRoute) r s₃) s₄ →
      r' = .ok () ∨ r' = .error .noSuchMethod →
      K.final (h ++ [e] ++ [⟨.alert s₁.nextRoute, r⟩]) s₃ r' s₄ := fun r' s₄ hs₄ hr' =>
    R.quit (h ++ [e]) ⟨.alert s₁.nextRoute, r⟩ r' s₃ s₄ hs₃ hadm₃ hs₄ (by rcases hr' with rfl | rfl <;> simp)
  cases r with
  -- the publisher wants to share the event
  | true =>
    simp only [if_true, translated, Routine.bind_eq, Routine.meets_bind, meets_withContext,
      Routine.meets_get, Routine.meets_modify, Routine.pure_eq, Routine.meets_pure]
    split
    · refine meets_navigatorPop fun r' s₄ hs₄ hr' => hlast r' s₄ ?_ hr'
      exact (World.sameData_note _ _).trans hs₄
    · exact hlast _ _ (World.SameData.refl _) (.inr rfl)
  | false => exact meets_navigatorPop fun r' s₄ hs₄ hr' => hlast r' s₄ hs₄ hr'

/-- `PublishEvent` from the add on, once the segment before it owes nothing. -/
theorem storeEvent_meets (R : PublishRules adm K me s₀) {h : List (Answered remote)} {loc : LatLng}
    {s s' : World} (hadd : Suspends K h s (.addEvent (s'.document me.page loc)) s') :
    ((storeEvent me loc).bind fun _ => thankPublisher me).Meets ⟨World.answered, adm⟩ K K.final
      h s s' := by
  simp only [storeEvent, addEvent, Routine.bind_eq, Routine.meets_bind, Routine.meets_tryCatch,
    Routine.meets_get]
  refine (meets_remoteCall _ _ _ _ _).mpr ⟨hadd.1, hadd.2, fun s₁ r hs₁ hadm => ?_⟩
  -- a failed add is reported like one that went well, but for an `Error`
  have hend : ∀ f : Fault, (K.final (h ++ [⟨.addEvent (s'.document me.page loc), r⟩]) s₁
      (.error (.fault f)) (World.answered (.addEvent (s'.document me.page loc)) r s₁)) := fun f =>
    R.quit h ⟨_, r⟩ _ s₁ _ hs₁ hadm (World.SameData.refl _) (by simp)
  have hthank := thankPublisher_meets R (e := ⟨.addEvent (s'.document me.page loc), r⟩) hs₁
    hadm (World.SameData.refl _)
  rcases r with (code | _ | _) | id
  · exact hthank
  · exact hthank
  · exact hend .error
  · exact hthank

/-- What the segment so far owes when the upload loop comes to its next image. -/
structure LoopEntry (K : Contract remote World Thrown Unit) (me : Caller) (t : Trail)
    (s₁ s : World) : Prop where
  changed : (s.publish me.page).imageFiles.length ≠ t.length me.page →
    K.final t.history s₁ (.error .concurrentModification) s
  finish : (s.publish me.page).imageFiles.length = t.length me.page →
    t.done.length = t.length me.page →
    Suspends K t.history s₁ (.addEvent (s.document me.page t.loc)) s
  next : ∀ file, (s.publish me.page).imageFiles.length = t.length me.page →
    (s.publish me.page).imageFiles[t.done.length]? = some file →
    let u : Upload := ⟨t.folder me.page, s.clock, file⟩
    Suspends K t.history s₁ (.putFile u.path u.file) (s.startUpload u)

/-- The loop is entered again after each upload: the rules for the segment that ends an upload
are the entry conditions of the next round. -/
theorem LoopEntry.again (R : PublishRules adm K me s₀) {t : Trail} (ht : t.Valid K me.page)
    {u : Upload} (hu : u.categoryNo = t.folder me.page) {url : String} {s : World}
    (hs : K.holds (t.history ++ [⟨.putFile u.path u.file, (.ok () : Except Fault Unit)⟩])
      (.getDownloadURL u.path) s) (hadm : adm (.getDownloadURL u.path) (.ok url) s) :
    LoopEntry K me (t.snoc u url) s (s.addUrl me.page u.path url) where
  changed hlen := R.abort t u url s ht hu hs hadm (by simpa using hlen)
  finish hlen hdone := R.add_last t u url s ht hu hs hadm (by simpa using hlen)
    (by simpa using hdone)
  next file hlen hfile :=
    R.put_next t u url file s ht hu hs hadm (by simpa using hlen) (by simpa using hfile)

/-- The loop is first entered right after the geocoding, with the field reset. -/
theorem LoopEntry.first (R : PublishRules adm K me s₀) {t : Trail} (ht : t.Valid K me.page)
    (hdone : t.done = []) (hpos : 0 < (t.start.publish me.page).imageFiles.length) :
    LoopEntry K me t t.start (t.start.clearUrls me.page) where
  -- the iterator has just been made, so its length is right
  changed hne := absurd (by simp [Trail.length]) hne
  finish _ hlen := by
    rw [hdone] at hlen
    -- with nothing done yet there is still an image to come
    simp only [List.length_nil, Trail.length] at hlen
    omega
  next file _ hfile := R.put_first t file ht hdone (by simpa [hdone] using hfile)

/-- The upload loop and what comes after it, by induction on the images still to come. -/
theorem uploadLoop_meets (R : PublishRules adm K me s₀) (left : ℕ) {t : Trail}
    (ht : t.Valid K me.page) (hleft : t.done.length + left = t.length me.page) {s₁ s : World}
    (hin : LoopEntry K me t s₁ s) :
    (uploadLoop me (t.folder me.page) (t.length me.page) left).Meets ⟨World.answered, adm⟩ K
      (fun h s₁ r s => match r with
        | .ok _ => ((storeEvent me t.loc).bind fun _ => thankPublisher me).Meets
            ⟨World.answered, adm⟩ K K.final h s₁ s
        | .error e => K.final h s₁ (.error e) s) t.history s₁ s := by
  induction left generalizing t s₁ s with
  | zero =>
    simp only [uploadLoop, Routine.meets_read]
    split
    · rename_i hlen
      exact storeEvent_meets R (hin.finish hlen (by omega))
    · rename_i hlen
      exact hin.changed hlen
  | succ left ih =>
    simp only [uploadLoop, Routine.meets_read]
    split
    -- the list has grown since the iterator was made
    case isFalse hlen => exact hin.changed hlen
    rename_i hlen
    have hidx : t.length me.page - (left + 1) = t.done.length := by omega
    rw [hidx]
    split
    · -- the index is in range
      rename_i hnone
      rw [List.getElem?_eq_none_iff] at hnone
      omega
    · rename_i file hfile
      obtain ⟨hmove, hhold⟩ := hin.next file hlen hfile
      simp only [putFile, getDownloadURL, Routine.bind_eq, Routine.meets_bind, meets_remoteCall,
        Routine.meets_modify]
      refine ⟨hmove, hhold, fun s₂ r hs₂ hadm₂ => ?_⟩
      rcases r with f | _
      · exact R.quit t.history ⟨.putFile _ _, (.error f : Except Fault Unit)⟩ _ s₂ _ hs₂ hadm₂
          (World.SameData.refl _) (by simp)
      -- the image is stored, its URL still to come
      obtain ⟨hmove₂, hhold₂⟩ := R.link t ⟨t.folder me.page, s.clock, file⟩ s₂ ht rfl hs₂
      refine ⟨hmove₂, hhold₂, fun s₃ r hs₃ hadm => ?_⟩
      rcases r with f | url
      · exact R.quit _ ⟨.getDownloadURL _, (.error f : Except Fault String)⟩ _ s₃ _ hs₃ hadm
          (World.SameData.refl _) (by simp)
      -- the URL has come: the segment that appends it runs on into the next round
      have hentry := LoopEntry.again R ht (u := ⟨t.folder me.page, s.clock, file⟩) rfl hs₃ hadm
      have hnext := ih (ht.snoc (u := ⟨t.folder me.page, s.clock, file⟩) rfl url)
        (by simp only [Trail.snoc, List.length_append, List.length_singleton, Trail.length]
            simp only [Trail.length] at hleft
            omega) hentry
      rw [Trail.history_snoc] at hnext
      simp only [Routine.meets_bind] at hnext
      rw [List.append_assoc]
      exact hnext

/-- `PublishEvent` once the coordinates are known. -/
theorem publishAt_meets (R : PublishRules adm K me s₀) {address : String}
    {r : Except Fault (Option (List Placemark))} {loc : LatLng} (hr : geocodeResult r = .ok loc)
    (hloc : loc ≠ noLocation) {s : World} (hs : K.holds [] (.placemarkFromAddress address) s) :
    ((uploadAttached me).bind fun _ => (storeEvent me loc).bind fun _ =>
      thankPublisher me).Meets ⟨World.answered, adm⟩ K K.final
      [⟨.placemarkFromAddress address, r⟩] s s := by
  have ht : (⟨address, r, loc, s, []⟩ : Trail).Valid K me.page := ⟨hr, hloc, hs, by simp⟩
  rw [Routine.meets_bind]
  simp only [uploadAttached, Routine.bind_eq, Routine.meets_bind, Routine.meets_get]
  split
  · -- there are images: the field is reset and the loop entered
    rename_i hpos
    have hloop := uploadLoop_meets R (s.publish me.page).imageFiles.length ht
      (by simp [Trail.length]) (LoopEntry.first R ht rfl hpos)
    simp only [uploadImages, Routine.bind_eq, Routine.meets_bind, Routine.meets_get,
      Routine.meets_modify, Routine.pure_eq, Routine.meets_pure]
    simp only [Routine.meets_bind] at hloop
    have hlen : ((s.clearUrls me.page).publish me.page).imageFiles.length
        = (s.publish me.page).imageFiles.length := by simp
    rw [show (s.setPublish me.page fun p => { p with fileDownloadUrls := [] })
      = s.clearUrls me.page from rfl, hlen]
    refine Routine.Meets.mono (fun h s₁ r s hr => ?_) hloop
    cases r <;> exact hr
  · -- there are none: the document is built in the same segment
    rename_i hpos
    have hnil : (s.publish me.page).imageFiles = [] := by
      simpa using hpos
    have hstore := storeEvent_meets R (R.add_first _ ht rfl hnil)
    rwa [Routine.meets_bind] at hstore

/-- **The rule for `PublishEvent`.** -/
theorem publishEvent_meets (R : PublishRules adm K me s₀) :
    (publishEvent me).Meets ⟨World.answered, adm⟩ K K.final [] s₀ s₀ := by
  have hrefuse : ∀ message : String, ((showDialog me message).bind fun _ => .pure ()).Meets
      ⟨World.answered, adm⟩ K K.final [] s₀ s₀ := fun message => by
    rw [Routine.meets_bind]
    exact meets_showDialog (R.refuse _ _ (World.SameData.refl _) (by simp))
      fun _ s hs => R.refuse _ s hs (by simp)
  simp only [publishEvent, Routine.bind_eq, Routine.pure_eq, Routine.meets_bind, Routine.meets_get]
  split
  · exact hrefuse _
  split
  · exact hrefuse _
  rename_i hhazard hlocation
  simp only [publishChecked, Routine.bind_eq, Routine.meets_bind, Routine.meets_get]
  refine meets_showProgress fun r s hs hr => ?_
  -- without its page the call ends here
  rcases hr with rfl | rfl
  case inr => exact R.refuse _ s hs (by simp)
  obtain ⟨hmove, hhold⟩ := R.locate s hs ⟨hhazard, hlocation⟩
  rw [← hs.publish] at hmove hhold
  simp only [getLocationFromAddress_eq, Routine.meets_await]
  refine ⟨hmove, hhold, fun s₁ x hs₁ hadm₁ => ?_⟩
  cases hx : geocodeResult x with
  | error e =>
    refine R.quit [] ⟨.placemarkFromAddress _, x⟩ _ s₁ _ hs₁ hadm₁ (World.SameData.refl _) ?_
    -- none of the failures is the one of a changed list
    rcases x with (_ | _ | _) | _ | _ | _ <;> simp [geocodeResult] at hx <;> simp [← hx]
  | ok loc =>
    simp only [Routine.meets_pure]
    split
    · -- no such place: the dialog, then the progress dialog is taken away
      simp only [awaitDialog, Routine.bind_eq, Routine.meets_bind]
      refine meets_showDialog
        (R.quit [] ⟨.placemarkFromAddress _, x⟩ _ s₁ _ hs₁ hadm₁ (World.SameData.refl _) (by simp))
        fun id s₂ hs₂ => ?_
      obtain ⟨hmove₂, hhold₂⟩ :=
        R.notify [] ⟨.placemarkFromAddress _, x⟩ (.dialog id) s₁ s₂ (.dialog id) hs₁ hadm₁ hs₂
      refine (meets_dialogClosed _ _ _ _).mpr ⟨hmove₂, hhold₂, fun s₃ y hs₃ hadm₃ => ?_⟩
      exact meets_hideProgress fun s₄ hs₄ =>
        R.quit _ ⟨.dialog id, y⟩ _ s₃ s₄ hs₃ hadm₃ hs₄ (by simp)
    · rename_i hloc
      exact publishAt_meets R hx hloc hs₁

end

end FloodUp
