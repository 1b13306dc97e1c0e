import FloodUp.Publish.Outcome

/-!
# What the publisher is told

A press of Publish should end in one of two ways: the document is stored, the publisher is
thanked and the Map page gets `true`, or nothing is stored, the publisher is told so and the
page stays as it was. `publishEvent_reported` says exactly when it does: if and only if no
call is answered by a failure that `PublishEvent` lets pass or swallows.
-/

namespace FloodUp

open Async

/-- What has been logged from `w` to `w'`. -/
def World.logSince (w w' : World) : List Ui := w'.log.drop w.log.length

/-- The routes that have been popped from `w` to `w'`. -/
def World.poppedSince (w w' : World) : List (ℕ × Option Bool) := w'.popped.drop w.popped.length

/-- One document is stored, the publisher thanked and the Map page told. -/
structure Published (me : Caller) (w w' : World) : Prop where
  added : ∃ doc, w'.events = w.events ++ [doc]
  thanked : Ui.alert me.op "sucess_publish_title" ∈ w.logSince w'
  returned : (me.page, some true) ∈ w.poppedSince w'

/-- Nothing is stored, the publisher is told so and the page is as before. -/
structure Refused (me : Caller) (w w' : World) : Prop where
  events : w'.events = w.events
  told : ∃ message, Ui.dialog me.op message ∈ w.logSince w'
  stays : w'.mounted me.page = true
  form : (w'.publish me.page).form = (w.publish me.page).form
  unthanked : Ui.alert me.op "sucess_publish_title" ∉ w.logSince w'
  unreturned : (me.page, some true) ∉ w.poppedSince w'

/-- The press is reported to the publisher as it went. -/
def Reported (me : Caller) (w w' : World) : Prop := Published me w w' ∨ Refused me w w'

/-- An answer after which `PublishEvent` still reports what happens: no empty list of placemarks,
no failure of the geocoding but a `PlatformException`, and no other failure at all. -/
def Benign : Answered remote → Prop
  | ⟨.placemarkFromAddress _, .ok (some [])⟩ => False
  -- read as "no such place", which the publisher is told
  | ⟨.placemarkFromAddress _, .error (.platformException _)⟩ => True
  | ⟨.placemarkFromAddress _, .error _⟩ => False
  | ⟨.putFile _ _, .error _⟩ => False
  | ⟨.getDownloadURL _, .error _⟩ => False
  -- an `Exception` is swallowed, an `Error` passed on
  | ⟨.addEvent _, .error _⟩ => False
  | _ => True

/-! ## Benign answers -/

theorem benign_placemark {address : String} {reply : Except Fault (Option (List Placemark))} :
    Benign ⟨.placemarkFromAddress address, reply⟩ ↔ ∃ loc, geocodeResult reply = .ok loc := by
  rcases reply with (code | _ | _) | _ | _ | ⟨p, ps⟩ <;> simp [Benign, geocodeResult]

theorem benign_uploads (done : List (Upload × String)) :
    ∀ e ∈ done.flatMap uploadAnswers, Benign e :=
  forall_uploads (fun _ _ => trivial) (fun _ _ => trivial) done

theorem UploadFailed.not_benign {e : Answered remote} (h : UploadFailed e) : ¬Benign e := by
  unfold UploadFailed at h
  split at h
  · exact id
  · exact id
  · exact h.elim

/-! ## Ends without a report -/

variable {me : Caller} {below : List Route} {w w' : World} {h : List (Answered remote)}
  {r : Except Thrown Unit}

@[simp] theorem logSince_of_eq {l : List Ui} (hlog : w'.log = w.log ++ l) : w.logSince w' = l := by
  simp [World.logSince, hlog]

theorem poppedSince_of_eq {l : List (ℕ × Option Bool)} (hpopped : w'.popped = w.popped ++ l) :
    w.poppedSince w' = l := by
  simp [World.poppedSince, hpopped]

/-- A press that throws has neither stored nor told anything. -/
theorem not_reported_of_screen (hscreen : (w.beginProgress me).SameScreen me.page w') :
    ¬Reported me w w' := by
  have hlog : w.logSince w' = [.showProgress me.op] := logSince_of_eq hscreen.log
  have hevents : w'.events = w.events := hscreen.events
  rintro (hpublished | hrefused)
  · obtain ⟨doc, hdoc⟩ := hpublished.added
    simp [hevents] at hdoc
  · obtain ⟨message, hmessage⟩ := hrefused.told
    simp [hlog] at hmessage

/-- A press that has thanked the publisher has reported the truth if the add succeeded. -/
theorem Thanked.reported {s : World} {doc : Data} {added : Except Fault String}
    (hscreen : (w.beginProgress me).SameScreen me.page s)
    (h : Thanked me below w.nextRoute (World.answered (.addEvent doc) added s) w') :
    Reported me w w' ↔ ∃ id, added = .ok id := by
  have hevents : s.events = w.events := hscreen.events
  obtain ⟨shared, -, hlog⟩ := h.log
  have halert : Ui.alert me.op "sucess_publish_title" ∈ w.logSince w' := by
    have hlog' : (World.answered (.addEvent doc) added s).log = w.log ++ [.showProgress me.op] := by
      cases added <;> exact hscreen.log
    rw [hlog', List.append_assoc, List.append_assoc, List.append_assoc] at hlog
    rw [logSince_of_eq hlog]
    simp
  cases added with
  | ok id =>
    have hpopped : w'.popped = w.popped ++ [(w.nextRoute, none), (me.page, some true)] := by
      rw [h.popped]
      exact congrArg (· ++ _) hscreen.popped
    refine iff_of_true (.inl ⟨⟨doc, ?_⟩, halert, ?_⟩) ⟨id, rfl⟩
    · rw [h.events]
      exact congrArg (· ++ [doc]) hevents
    -- the progress dialog and the page, in this order
    · rw [poppedSince_of_eq hpopped]
      simp
  | error f =>
    refine iff_of_false ?_ (by simp)
    rintro (hpublished | hrefused)
    · obtain ⟨doc', hdoc'⟩ := hpublished.added
      have hnone : w'.events = w.events := h.events.trans hevents
      simp [hnone] at hdoc'
    · exact hrefused.unthanked halert

/-- **A press of Publish is reported as it went if and only if all answers are benign.** -/
theorem publishEvent_reported (hw : w.OnTop me.page below)
    (hplay : (publishEvent me).play World.answered w h = some (r, w')) :
    Reported me w w' ↔ ∀ e ∈ h, Benign e := by
  have hend := (publishEvent_always hw).play hplay
  rw [List.nil_append] at hend
  cases hend with
  -- nothing was asked, and the dialog says what is missing
  | incomplete message hform =>
    have hlog : w.logSince ((w.push (.dialog message)).note (.dialog me.op message)) =
        [.dialog me.op message] := logSince_of_eq rfl
    have hpopped : w.poppedSince ((w.push (.dialog message)).note (.dialog me.op message)) = [] :=
      poppedSince_of_eq (by simp [World.push, World.note])
    refine iff_of_true (.inr ⟨rfl, ⟨message, by simp [hlog]⟩, ?_, rfl, by simp [hlog],
      by simp [hpopped]⟩) (by simp)
    have := hw.mounted
    simp only [World.mounted, World.push, World.note, List.any_cons] at this ⊢
    simp [this]
  -- the exception is nobody's: the progress dialog is all there is to see
  | lost reply e hform hreply =>
    refine iff_of_false (not_reported_of_screen (.refl _ _)) fun hbenign => ?_
    obtain ⟨loc, hloc⟩ := benign_placemark.mp (hbenign _ (List.mem_singleton_self _))
    simp [hreply] at hloc
  -- the publisher is told that there is no such place
  | nowhere reply _ hform hreply hdata hroutes hpopped hlog =>
    have hpopped := poppedSince_of_eq hpopped
    have hlog := logSince_of_eq hlog
    refine iff_of_true (.inr ⟨hdata.events, ⟨"error_location_invalid", by simp [hlog]⟩, ?_, ?_,
      by simp [hlog], by simp [hpopped]⟩) ?_
    · rw [World.mounted, hroutes]
      exact hw.mounted
    · rw [hdata.publish]
    · intro e he
      simp only [List.mem_cons, List.not_mem_nil, or_false] at he
      rcases he with rfl | rfl
      · exact benign_placemark.mpr ⟨_, hreply⟩
      · trivial
  | uploadFailed reply loc answers f _ hform hreply hplace huploads hfailed hscreen =>
    obtain ⟨a, ha, hfailed⟩ := hfailed
    exact iff_of_false (not_reported_of_screen hscreen) fun hbenign =>
      hfailed.not_benign (hbenign a (.tail _ ha))
  | addFailed reply loc done doc _ hform hbuilt hscreen =>
    exact iff_of_false (not_reported_of_screen hscreen) fun hbenign =>
      hbenign ⟨.addEvent doc, (.error .error : Except Fault String)⟩ (by simp)
  -- everything depends on the add: the publisher is thanked either way
  | thanked reply loc done doc added pressed w₁ _ hform hbuilt hadded hscreen hthanked =>
    rw [hthanked.reported hscreen]
    constructor
    · rintro ⟨id, rfl⟩ e he
      simp only [List.cons_append, List.mem_cons, List.mem_append, List.not_mem_nil, or_false] at he
      rcases he with rfl | he | rfl | rfl
      · exact benign_placemark.mpr ⟨_, hbuilt.located⟩
      · exact benign_uploads done e he
      · trivial
      · trivial
    · intro hbenign
      cases added with
      | ok id => exact ⟨id, rfl⟩
      | error f =>
        exact (hbenign ⟨.addEvent doc, (.error f : Except Fault String)⟩ (by simp)).elim

/-- The answers to a press whose add is answered by `added`. -/
def pressAnswers (doc : Data) (added : Except Fault String) : List (Answered remote) :=
  [⟨.placemarkFromAddress "Here", (.ok (some [⟨⟨1, 2⟩⟩]) : Except Fault (Option (List Placemark)))⟩,
    ⟨.addEvent doc, added⟩, ⟨.alert 3, false⟩]

/-- The document of that press. -/
def pressDocument : Data :=
  (World.readyToPublish ⟨2020, 1, 1⟩).document 1 ⟨1, 2⟩

theorem onTop_readyToPublish (date : DateTime) :
    (World.readyToPublish date).OnTop 1 [⟨0, .page .map false⟩] where
  routes := rfl
  below := by simp
  fresh r hr := by
    have hr : r ∈ [⟨1, .page .publish false⟩, ⟨0, .page .map false⟩] := hr
    simp only [List.mem_cons, List.not_mem_nil, or_false] at hr
    rcases hr with rfl | rfl
    · exact Nat.one_lt_two
    · exact Nat.zero_lt_two

theorem publishEvent_reported_stored :
    ∃ w', (publishEvent ⟨7, 1⟩).play World.answered (.readyToPublish ⟨2020, 1, 1⟩)
      (pressAnswers pressDocument (.ok "id")) = some (.ok (), w') ∧
      Reported ⟨7, 1⟩ (.readyToPublish ⟨2020, 1, 1⟩) w' := by
  refine ⟨_, rfl, (@publishEvent_reported ⟨7, 1⟩ _ (.readyToPublish ⟨2020, 1, 1⟩) _
    (pressAnswers pressDocument (.ok "id")) (.ok ()) (onTop_readyToPublish ⟨2020, 1, 1⟩) rfl).mpr ?_⟩
  intro e he
  simp only [pressAnswers, List.mem_cons, List.not_mem_nil, or_false] at he
  rcases he with rfl | rfl | rfl <;> trivial

/-- The add fails with an exception: it is printed, the publisher is thanked and the Map page
gets `true`, but nothing is stored. -/
theorem failed_add_unreported :
    ¬∀ (me : Caller) (below : List Route) (w : World) (h : List (Answered remote))
      (r : Except Thrown Unit) (w' : World), w.OnTop me.page below →
      (publishEvent me).play World.answered w h = some (r, w') → Reported me w w' := by
  intro hall
  rcases hall ⟨7, 1⟩ _ (.readyToPublish ⟨2020, 1, 1⟩) (pressAnswers pressDocument (.error .exception))
    _ _ (onTop_readyToPublish ⟨2020, 1, 1⟩) rfl with hpublished | hrefused
  · obtain ⟨doc, hdoc⟩ := hpublished.added
    have hnone : [] = ([] : List Data) ++ [doc] := hdoc
    simp at hnone
  · exact hrefused.unthanked (by decide)

end FloodUp
