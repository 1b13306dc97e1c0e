import FloodUp.Publish.Page

/-!
# How an undisturbed `PublishEvent` ends

`PublishEnd` lists the ways a `PublishEvent` can end when nothing but the answers to its own
calls happens while it waits, with the answers that lead there and what the screen, the page
and the store look like then. `publishEvent_always` says that there are no others.
-/

namespace FloodUp

open Async

/-! ## The screen while nothing else happens -/

/-- The Publish page with number `page` is the route on top. -/
structure World.OnTop (page : ℕ) (below : List Route) (w : World) : Prop where
  routes : w.routes = ⟨page, .page .publish false⟩ :: below
  below : below ≠ []
  fresh : ∀ r ∈ w.routes, r.id < w.nextRoute

/-- The fields of the page a user can fill in. -/
def PublishPage.form (p : PublishPage) : PublishPage := { p with fileDownloadUrls := [] }

/-- `w'` differs from `w` in the uploads and the page's URLs at most. -/
structure World.SameScreen (page : ℕ) (w w' : World) : Prop where
  globals : w'.globals = w.globals
  routes : w'.routes = w.routes
  nextRoute : w'.nextRoute = w.nextRoute
  popped : w'.popped = w.popped
  mcontext : w'.mcontext = w.mcontext
  locale : w'.locale = w.locale
  isAndroid : w'.isAndroid = w.isAndroid
  events : w'.events = w.events
  log : w'.log = w.log
  form : (w'.publish page).form = (w.publish page).form

namespace World

variable {page : ℕ} {below : List Route} {w w₁ w₂ w₃ : World}

theorem SameScreen.refl (page : ℕ) (w : World) : SameScreen page w w := by
  constructor <;> rfl

theorem SameScreen.trans (h₁ : SameScreen page w₁ w₂) (h₂ : SameScreen page w₂ w₃) :
    SameScreen page w₁ w₃ where
  globals := h₂.globals.trans h₁.globals
  routes := h₂.routes.trans h₁.routes
  nextRoute := h₂.nextRoute.trans h₁.nextRoute
  popped := h₂.popped.trans h₁.popped
  mcontext := h₂.mcontext.trans h₁.mcontext
  locale := h₂.locale.trans h₁.locale
  isAndroid := h₂.isAndroid.trans h₁.isAndroid
  events := h₂.events.trans h₁.events
  log := h₂.log.trans h₁.log
  form := h₂.form.trans h₁.form

theorem SameScreen.images (h : SameScreen page w w₁) :
    (w₁.publish page).imageFiles = (w.publish page).imageFiles := by
  have := congrArg PublishPage.imageFiles h.form
  exact this

/-- The document is the one of the page at first, but for the URLs. -/
theorem SameScreen.document (h : SameScreen page w w₁) (loc : LatLng) :
    w₁.document page loc = eventDocument w.globals
      { w.publish page with fileDownloadUrls := (w₁.publish page).fileDownloadUrls } loc := by
  have hpage : w₁.publish page =
      { w.publish page with fileDownloadUrls := (w₁.publish page).fileDownloadUrls } :=
    congrArg (fun p : PublishPage =>
      { p with fileDownloadUrls := (w₁.publish page).fileDownloadUrls }) h.form
  rw [World.document, h.globals, ← hpage]

theorem sameScreen_clearUrls (page : ℕ) (w : World) : SameScreen page w (w.clearUrls page) := by
  constructor <;> simp [clearUrls, setPublish, PublishPage.form]

/-- The state after the upload of one image. -/
def uploaded (page : ℕ) (u : Upload) (url : String) (w : World) : World :=
  { w.startUpload u with stored := w.stored ++ [(u.path, u.file)] }.addUrl page u.path url

theorem sameScreen_uploaded (page : ℕ) (u : Upload) (url : String) (w : World) :
    SameScreen page w (w.uploaded page u url) := by
  constructor <;> simp [uploaded, addUrl, setPublish, startUpload, PublishPage.form]

theorem OnTop.mounted (h : w.OnTop page below) : w.mounted page = true := by
  simp [World.mounted, h.routes]

theorem OnTop.mounted_beginProgress (h : w.OnTop page below) (op : ℕ) :
    (w.beginProgress ⟨op, page⟩).mounted page = true := by
  simp [World.mounted, beginProgress, push, note, setContext, h.routes]

end World

/-! ## The uploads -/

/-- The answer is the failure of an upload or of its download URL. -/
def UploadFailed : Answered remote → Prop
  | ⟨.putFile _ _, .error _⟩ => True
  | ⟨.getDownloadURL _, .error _⟩ => True
  | _ => False

/-- How the upload of `files` ends, with the answers it got: all are done, or one has failed. -/
def UploadEnd (page : ℕ) (files : List File) (s : World) (answers : List (Answered remote))
    (r : Except Thrown Unit) (s' : World) : Prop :=
  s.SameScreen page s' ∧ (∀ a ∈ answers, Call.IsUpload a.call) ∧
  match r with
  | .ok _ => ∃ done : List (Upload × String), answers = done.flatMap uploadAnswers ∧
      done.map (fun d => d.1.file) = files ∧
      (s'.publish page).fileDownloadUrls = (s.publish page).fileDownloadUrls ++ done.map (·.2)
  | .error e => (∃ f, e = .fault f) ∧ ∃ a ∈ answers, UploadFailed a

/-- The upload of one more image in front. -/
theorem UploadEnd.cons {page : ℕ} {u : Upload} {url : String} {files : List File} {s s₁ s' : World}
    {answers : List (Answered remote)} {r : Except Thrown Unit} (hs : s.SameScreen page s₁)
    (hurls : (s₁.publish page).fileDownloadUrls = (s.publish page).fileDownloadUrls ++ [url])
    (h : UploadEnd page files s₁ answers r s') :
    UploadEnd page (u.file :: files) s (uploadAnswers (u, url) ++ answers) r s' := by
  refine ⟨hs.trans h.1, fun a ha => ?_, ?_⟩
  · rcases List.mem_append.mp ha with ha | ha
    · simp only [uploadAnswers, List.mem_cons, List.not_mem_nil, or_false] at ha
      rcases ha with rfl | rfl <;> trivial
    · exact h.2.1 a ha
  cases r with
  | ok _ =>
    obtain ⟨-, -, done, rfl, hfiles, hurls'⟩ := h
    exact ⟨(u, url) :: done, by simp, by simp [hfiles], by simp [hurls', hurls]⟩
  | error e =>
    obtain ⟨-, -, hfault, a, ha, hfailed⟩ := h
    exact ⟨hfault, a, List.mem_append_right _ ha, hfailed⟩

theorem uploadLoop_always (me : Caller) (categoryNo : String) (length left : ℕ)
    {h : List (Answered remote)} {s : World}
    (hlength : (s.publish me.page).imageFiles.length = length) (hleft : left ≤ length) :
    (uploadLoop me categoryNo length left).Always World.answered (fun h' r s' =>
      ∃ answers, h' = h ++ answers ∧
        UploadEnd me.page ((s.publish me.page).imageFiles.drop (length - left)) s answers r s')
      h s := by
  induction left generalizing h s with
  | zero =>
    simp only [uploadLoop, Routine.always_read, hlength, if_true, Routine.always_pure]
    refine ⟨[], by simp, World.SameScreen.refl _ _, by simp, [], rfl, ?_, by simp⟩
    simp [← hlength]
  | succ left ih =>
    simp only [uploadLoop, Routine.always_read, hlength, if_true]
    have hlt : length - (left + 1) < (s.publish me.page).imageFiles.length := by omega
    rw [List.getElem?_eq_getElem hlt]
    generalize hfile : (s.publish me.page).imageFiles[length - (left + 1)] = file
    have hdrop : (s.publish me.page).imageFiles.drop (length - (left + 1)) =
        file :: (s.publish me.page).imageFiles.drop (length - left) := by
      rw [List.drop_eq_getElem_cons hlt, hfile]
      congr 2
      omega
    rw [hdrop]
    simp only [putFile, getDownloadURL, Routine.bind_eq, Routine.always_bind, always_remoteCall,
      Routine.always_modify]
    intro r
    rcases r with f | _
    · refine ⟨[_], rfl, by constructor <;> rfl, fun a ha => ?_, ⟨f, rfl⟩, _,
        List.mem_singleton_self _, trivial⟩
      rw [List.mem_singleton.mp ha]
      trivial
    intro r
    rcases r with f | url
    · refine ⟨[_, _], List.append_assoc _ _ _, by constructor <;> rfl, fun a ha => ?_, ⟨f, rfl⟩, _,
        .tail _ (.head _), trivial⟩
      simp only [List.mem_cons, List.not_mem_nil, or_false] at ha
      rcases ha with rfl | rfl <;> trivial
    -- the rest of the loop runs from the state in which the URL has been appended
    have hscreen := s.sameScreen_uploaded me.page ⟨categoryNo, s.clock, file⟩ url
    refine Routine.Always.mono ?_ (@ih _ (s.uploaded me.page ⟨categoryNo, s.clock, file⟩ url)
      (by rw [hscreen.images]; exact hlength) (by omega))
    rintro h' r' s' ⟨answers, rfl, hend⟩
    rw [hscreen.images] at hend
    exact ⟨uploadAnswers (⟨categoryNo, s.clock, file⟩, url) ++ answers, by simp [uploadAnswers],
      hend.cons hscreen (by simp [World.uploaded])⟩

theorem uploadAttached_always {me : Caller} {h : List (Answered remote)} {s : World} :
    (uploadAttached me).Always World.answered (fun h' r s' =>
      ∃ answers, h' = h ++ answers ∧ s.SameScreen me.page s' ∧
        (∀ a ∈ answers, Call.IsUpload a.call) ∧
        match r with
        | .ok _ => ∃ done : List (Upload × String), answers = done.flatMap uploadAnswers ∧
            done.map (fun d => d.1.file) = (s.publish me.page).imageFiles ∧
            (NoStale me.page s → (s'.publish me.page).fileDownloadUrls = done.map (·.2))
        | .error e => (∃ f, e = .fault f) ∧ ∃ a ∈ answers, UploadFailed a) h s := by
  simp only [uploadAttached, Routine.bind_eq, Routine.always_bind, Routine.always_get]
  split
  -- there are images
  · have hclear := s.sameScreen_clearUrls me.page
    have hloop := uploadLoop_always me
      (categoryNumber (s.publish me.page).category ++ "/") (s.publish me.page).imageFiles.length
      (s.publish me.page).imageFiles.length (h := h) (s := s.clearUrls me.page)
      (by rw [hclear.images]) (le_refl _)
    simp only [uploadImages, Routine.bind_eq, Routine.always_bind, Routine.always_get,
      Routine.always_modify, Routine.pure_eq, Routine.always_pure]
    rw [show (s.setPublish me.page fun p => { p with fileDownloadUrls := [] })
      = s.clearUrls me.page from rfl, hclear.images]
    refine Routine.Always.mono ?_ hloop
    rintro h' r s' ⟨answers, rfl, hscreen, huploads, hend⟩
    cases r with
    | ok _ =>
      obtain ⟨done, rfl, hfiles, hurls⟩ := hend
      exact ⟨_, rfl, hclear.trans hscreen, huploads, done, rfl, by simpa using hfiles,
        fun _ => by simpa using hurls⟩
    | error e => exact ⟨_, rfl, hclear.trans hscreen, huploads, hend⟩
  · rename_i hpos
    have hnil : (s.publish me.page).imageFiles = [] := by simpa using hpos
    exact ⟨[], by simp, World.SameScreen.refl _ _, by simp, [], rfl, by simp [hnil],
      fun hs => by simp [hs hnil]⟩

/-! ## The end of a call that comes to its add -/

/-- The progress dialog of `op` stands over the Publish page. -/
structure World.UnderWay (me : Caller) (below : List Route) (n : ℕ) (w : World) : Prop where
  routes : w.routes = ⟨n, .progress me.op⟩ :: ⟨me.page, .page .publish false⟩ :: below
  below : below ≠ []
  mcontext : w.mcontext = some me.page
  fresh : ∀ r ∈ w.routes, r.id < w.nextRoute

theorem World.OnTop.underWay {me : Caller} {below : List Route} {w : World}
    (h : w.OnTop me.page below) : (w.beginProgress me).UnderWay me below w.nextRoute where
  routes := by simp [beginProgress, push, note, setContext, h.routes]
  below := h.below
  mcontext := by simp [beginProgress, push, note, setContext, h.mounted]
  fresh r hr := by
    simp only [beginProgress, push, note, setContext, List.mem_cons] at hr ⊢
    rcases hr with rfl | hr
    · exact Nat.lt_succ_self _
    · exact Nat.lt_succ_of_lt (h.fresh r hr)

theorem World.UnderWay.screen {me : Caller} {below : List Route} {n : ℕ} {w w' : World}
    (h : w.UnderWay me below n) (hs : w.SameScreen me.page w') : w'.UnderWay me below n where
  routes := hs.routes.trans h.routes
  below := h.below
  mcontext := hs.mcontext.trans h.mcontext
  fresh := by rw [hs.routes, hs.nextRoute]; exact h.fresh

/-- While it is under way, hiding the progress dialog takes away exactly that. -/
theorem World.UnderWay.hideProgress {me : Caller} {below : List Route} {n : ℕ} {w : World}
    (h : w.UnderWay me below n) :
    w.hideProgress me.op =
      { w with
        routes := ⟨me.page, .page .publish false⟩ :: below
        popped := w.popped ++ [(n, none)]
        log := w.log ++ [.hideProgress me.op (.route ⟨n, .progress me.op⟩)] } := by
  simp [World.hideProgress, h.mcontext, mounted, canPop, topmost, pop, note, h.routes]

/-- What the tail of `PublishEvent` leaves behind: the alert was shown, the Publish page has
returned `true` and the routes below it are uncovered. -/
structure Thanked (me : Caller) (below : List Route) (n : ℕ) (s s' : World) : Prop where
  events : s'.events = s.events
  routes : s'.routes = below
  popped : s'.popped = s.popped ++ [(n, none), (me.page, some true)]
  log : ∃ shared : List Ui, (∀ e ∈ shared, ∃ text, e = .share me.op text) ∧
    s'.log = s.log ++ [.hideProgress me.op (.route ⟨n, .progress me.op⟩),
      .alert me.op "sucess_publish_title"] ++ shared ++
      [.pop me.op (.route ⟨me.page, .page .publish false⟩) (some true)]

theorem thankPublisher_always {me : Caller} {below : List Route} {n : ℕ}
    {h : List (Answered remote)} {s : World} (hs : s.UnderWay me below n) :
    (thankPublisher me).Always World.answered (fun h' r s' =>
      ∃ pressed : Bool, h' = h ++ [⟨.alert s.nextRoute, pressed⟩] ∧ r = .ok () ∧
        Thanked me below n s s') h s := by
  obtain ⟨b, bs, hbelow⟩ := List.exists_cons_of_ne_nil hs.below
  have hpage : ∀ s' : World, s'.routes = ⟨me.page, .page .publish false⟩ :: below →
      s'.mounted me.page = true := fun s' hs' => by simp [World.mounted, hs']
  simp only [thankPublisher, Routine.bind_eq, Routine.always_bind, always_hideProgress]
  have hhide := hs.hideProgress
  generalize s.hideProgress me.op = s₁ at hhide ⊢
  have hroutes : s₁.routes = ⟨me.page, .page .publish false⟩ :: below := by rw [hhide]
  have hnext : s₁.nextRoute = s.nextRoute := by rw [hhide]
  rw [always_awaitAlert (hpage _ hroutes)]
  intro pressed
  -- closing the alert uncovers the page again
  simp only [World.answered]
  rw [World.drop_push_note fun r hr => hnext ▸ hs.fresh r (by
    rw [hs.routes]
    exact .tail _ (hroutes ▸ hr))]
  have hpop : ∀ s₂ : World, s₂.routes = ⟨me.page, .page .publish false⟩ :: below →
      s₂.popped = s₁.popped → s₂.events = s₁.events →
      (∃ shared : List Ui, (∀ e ∈ shared, ∃ text, e = .share me.op text) ∧
        s₂.log = s₁.log ++ [.alert me.op "sucess_publish_title"] ++ shared) →
      (navigatorPop me (some true)).Always World.answered (fun h' r s' =>
        ∃ pressed : Bool, h' = h ++ [⟨.alert s.nextRoute, pressed⟩] ∧ r = .ok () ∧
          Thanked me below n s s') (h ++ [⟨.alert s₁.nextRoute, pressed⟩]) s₂ := by
    rintro s₂ hroutes₂ hpopped₂ hevents₂ ⟨shared, hshared, hlog₂⟩
    rw [always_navigatorPop (hpage _ hroutes₂)]
    -- there is a route below the page, so `Navigator.pop` takes the page away
    rw [hbelow] at hroutes₂
    rw [World.pop_of_routes hroutes₂ (by simp), World.topmost_of_routes hroutes₂ (by simp), hnext]
    refine ⟨pressed, rfl, rfl, ?_, hbelow ▸ rfl, ?_, shared, hshared, ?_⟩
    · simp [World.note, hevents₂, hhide]
    · simp [World.note, hpopped₂, hhide]
    · simp [World.note, hlog₂, hhide]
  cases pressed with
  | true =>
    have hclosed : ({ s₁ with nextRoute := s₁.nextRoute + 1 }.note
        (.alert me.op "sucess_publish_title")).mounted me.page = true := hpage _ hroutes
    simp only [if_true, translated, Routine.bind_eq, Routine.always_bind]
    rw [always_withContext hclosed]
    simp only [Routine.always_get, Routine.always_modify, Routine.pure_eq, Routine.always_pure]
    exact hpop _ hroutes rfl rfl ⟨[_], by simp, rfl⟩
  | false => exact hpop _ hroutes rfl rfl ⟨[], by simp, by simp [World.note]⟩

/-! ## All ends -/

/-- What a press that comes to its add has behind it and adds. -/
structure Built (page : ℕ) (w : World) (reply : Except Fault (Option (List Placemark)))
    (done : List (Upload × String)) (loc : LatLng) (doc : Data) : Prop where
  located : geocodeResult reply = .ok loc
  place : loc ≠ noLocation
  files : done.map (fun d => d.1.file) = (w.publish page).imageFiles
  document : ∃ urls, (NoStale page w → urls = done.map (·.2)) ∧
    doc = eventDocument w.globals { w.publish page with fileDownloadUrls := urls } loc

/-- The ways an undisturbed `PublishEvent` ends: the answers it got, its result and the state. -/
inductive PublishEnd (me : Caller) (below : List Route) (w : World) :
    List (Answered remote) → Except Thrown Unit → World → Prop where
  | incomplete (message : String) (hform : ¬(w.publish me.page).Complete) :
    PublishEnd me below w [] (.ok ())
      ((w.push (.dialog message)).note (.dialog me.op message))
  /-- The geocoding failed in a way that is not caught. -/
  | lost (reply : Except Fault (Option (List Placemark))) (e : Thrown)
    (hform : (w.publish me.page).Complete) (hreply : geocodeResult reply = .error e) :
    PublishEnd me below w [⟨.placemarkFromAddress (w.publish me.page).textLocation, reply⟩]
      (.error e) (w.beginProgress me)
  /-- There is no such place. -/
  | nowhere (reply : Except Fault (Option (List Placemark))) (w' : World)
    (hform : (w.publish me.page).Complete) (hreply : geocodeResult reply = .ok noLocation)
    (hdata : w.SameData w') (hroutes : w'.routes = w.routes)
    (hpopped : w'.popped = w.popped ++ [(w.nextRoute, none)])
    (hlog : w'.log = w.log ++ [.showProgress me.op, .dialog me.op "error_location_invalid",
      .hideProgress me.op (.route ⟨w.nextRoute, .progress me.op⟩)]) :
    PublishEnd me below w [⟨.placemarkFromAddress (w.publish me.page).textLocation, reply⟩,
      ⟨.dialog (w.nextRoute + 1), ()⟩] (.ok ()) w'
  | uploadFailed (reply : Except Fault (Option (List Placemark))) (loc : LatLng)
    (answers : List (Answered remote)) (f : Fault) (w' : World)
    (hform : (w.publish me.page).Complete) (hreply : geocodeResult reply = .ok loc)
    (hplace : loc ≠ noLocation) (huploads : ∀ a ∈ answers, Call.IsUpload a.call)
    (hfailed : ∃ a ∈ answers, UploadFailed a)
    (hscreen : (w.beginProgress me).SameScreen me.page w') :
    PublishEnd me below w
      (⟨.placemarkFromAddress (w.publish me.page).textLocation, reply⟩ :: answers)
      (.error (.fault f)) w'
  /-- The add failed with a Dart `Error`, which is not caught. -/
  | addFailed (reply : Except Fault (Option (List Placemark))) (loc : LatLng)
    (done : List (Upload × String)) (doc : Data) (w' : World)
    (hform : (w.publish me.page).Complete) (hbuilt : Built me.page w reply done loc doc)
    (hscreen : (w.beginProgress me).SameScreen me.page w') :
    PublishEnd me below w
      (⟨.placemarkFromAddress (w.publish me.page).textLocation, reply⟩ ::
        done.flatMap uploadAnswers ++ [⟨.addEvent doc, (.error .error : Except Fault String)⟩])
      (.error (.fault .error)) w'
  /-- The add has been answered, by a failure or not, and the publisher is thanked. -/
  | thanked (reply : Except Fault (Option (List Placemark))) (loc : LatLng)
    (done : List (Upload × String)) (doc : Data) (added : Except Fault String) (pressed : Bool)
    (w₁ w' : World) (hform : (w.publish me.page).Complete)
    (hbuilt : Built me.page w reply done loc doc) (hadded : added ≠ .error .error)
    (hscreen : (w.beginProgress me).SameScreen me.page w₁)
    (hthanked : Thanked me below w.nextRoute (World.answered (.addEvent doc) added w₁) w') :
    PublishEnd me below w
      (⟨.placemarkFromAddress (w.publish me.page).textLocation, reply⟩ ::
        done.flatMap uploadAnswers ++
          [⟨.addEvent doc, added⟩, ⟨.alert (w.nextRoute + 1), pressed⟩])
      (.ok ()) w'

/-- The add and what follows it. -/
theorem storeEvent_always {me : Caller} {below : List Route} {w s : World}
    {reply : Except Fault (Option (List Placemark))} {done : List (Upload × String)} {loc : LatLng}
    (hw : w.OnTop me.page below) (hform : (w.publish me.page).Complete)
    (hscreen : (w.beginProgress me).SameScreen me.page s)
    (hbuilt : Built me.page w reply done loc (s.document me.page loc)) :
    ((storeEvent me loc).bind fun _ => thankPublisher me).Always World.answered
      (PublishEnd me below w)
      (⟨.placemarkFromAddress (w.publish me.page).textLocation, reply⟩ ::
        done.flatMap uploadAnswers) s := by
  have hway := hw.underWay.screen hscreen
  have hnext : s.nextRoute = w.nextRoute + 1 := hscreen.nextRoute
  simp only [storeEvent, addEvent, Routine.bind_eq, Routine.always_bind, Routine.always_tryCatch,
    Routine.always_get, always_remoteCall]
  intro added
  have hthank : added ≠ .error .error → (thankPublisher me).Always World.answered
      (PublishEnd me below w)
      (⟨.placemarkFromAddress (w.publish me.page).textLocation, reply⟩ ::
        done.flatMap uploadAnswers ++ [⟨.addEvent (s.document me.page loc), added⟩])
      (World.answered (.addEvent (s.document me.page loc)) added s) := fun hadded => by
    -- the answer to the add leaves the screen as it is, whatever it is
    have hway' : (World.answered (.addEvent (s.document me.page loc)) added s).UnderWay me below
        w.nextRoute := by
      cases added <;> exact ⟨hway.routes, hway.below, hway.mcontext, hway.fresh⟩
    refine Routine.Always.mono ?_ (thankPublisher_always hway')
    rintro h' r s' ⟨pressed, rfl, rfl, hthanked⟩
    have hroute : (World.answered (.addEvent (s.document me.page loc)) added s).nextRoute =
        w.nextRoute + 1 := by
      cases added <;> exact hnext
    rw [hroute, List.append_assoc]
    exact .thanked reply loc done _ added pressed s s' hform hbuilt hadded hscreen hthanked
  rcases added with (code | _ | _) | id
  · exact hthank (by simp)
  · exact hthank (by simp)
  · exact .addFailed reply loc done _ _ hform hbuilt hscreen
  · exact hthank (by simp)

/-- **An undisturbed `PublishEvent` ends in one of these ways.** -/
theorem publishEvent_always {me : Caller} {below : List Route} {w : World}
    (hw : w.OnTop me.page below) :
    (publishEvent me).Always World.answered (PublishEnd me below w) [] w := by
  have hrefuse : ∀ message : String, ¬(w.publish me.page).Complete →
      ((showDialog me message).bind fun _ => .pure ()).Always World.answered
        (PublishEnd me below w) [] w := fun message hform => by
    rw [Routine.always_bind, always_showDialog hw.mounted]
    exact .incomplete message hform
  simp only [publishEvent, Routine.bind_eq, Routine.pure_eq, Routine.always_bind,
    Routine.always_get]
  split
  · rename_i hhazard
    exact hrefuse _ fun hform => hform.1 hhazard
  split
  · rename_i hlocation
    exact hrefuse _ fun hform => hform.2 hlocation
  rename_i hhazard hlocation
  have hform : (w.publish me.page).Complete := ⟨hhazard, hlocation⟩
  simp only [publishChecked, Routine.bind_eq, Routine.always_bind]
  rw [always_showProgress hw.mounted]
  have hway := hw.underWay
  simp only [Routine.always_get, getLocationFromAddress_eq, Routine.always_await]
  intro reply
  cases hreply : geocodeResult reply with
  | error e => exact .lost reply e hform hreply
  | ok loc =>
    simp only [Routine.always_pure]
    split
    · rename_i hloc
      -- no such place
      subst hloc
      -- the dialog is closed over the progress dialog, which then goes as well
      have hmounted : (w.beginProgress me).mounted me.page = true := hw.mounted_beginProgress me.op
      simp only [Routine.always_bind, World.answered]
      rw [always_awaitDialog hmounted]
      simp only [always_hideProgress, World.answered]
      rw [World.drop_push_note hway.fresh]
      have hclosed : ({ w.beginProgress me with
          nextRoute := (w.beginProgress me).nextRoute + 1 }.note
          (.dialog me.op "error_location_invalid")).UnderWay me below w.nextRoute :=
        ⟨hway.routes, hway.below, hway.mcontext, fun r hr => Nat.lt_succ_of_lt (hway.fresh r hr)⟩
      rw [hclosed.hideProgress]
      refine .nowhere reply _ hform hreply ?_ hw.routes.symm rfl ?_
      · constructor <;> rfl
      · simp [World.note, World.beginProgress, World.push, World.setContext]
    · rename_i hplace
      have hattached := @uploadAttached_always me
        [⟨.placemarkFromAddress (w.publish me.page).textLocation, reply⟩] (w.beginProgress me)
      rw [Routine.always_bind]
      refine Routine.Always.mono ?_ hattached
      rintro h' r s ⟨answers, rfl, hscreen, huploads, hend⟩
      cases r with
      | error e =>
        obtain ⟨⟨f, rfl⟩, hfailed⟩ := hend
        exact .uploadFailed reply loc answers f s hform hreply hplace huploads hfailed hscreen
      | ok _ =>
        obtain ⟨done, rfl, hfiles, hurls⟩ := hend
        refine storeEvent_always hw hform hscreen ⟨hreply, hplace, hfiles, _, hurls, hscreen.document loc⟩

end FloodUp
