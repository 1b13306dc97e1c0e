import FloodUp.Publish.Images

/-!
# What a press uploads

Presses of Publish may overlap, and pictures may arrive while images are being uploaded. Whatever
happens on the page, a press uploads images of the page only, in their order and none twice, and
when it comes to its add it has uploaded exactly the images that are attached at that moment, with
one URL for each. Nothing is assumed of the steps here; what can go wrong between two presses is the
list of URLs they share, and a press that gives up.
-/

namespace FloodUp

open Async

/-- The file on its way while a thread is suspended at the call. -/
def Call.sending : Call → List File
  | .putFile _ file => [file]
  | _ => []

/-- An answer ends the upload of the file that was on its way, if any. -/
theorem uploadedFiles_concat (h : List (Answered remote)) (e : Answered remote) :
    uploadedFiles (h ++ [e]) <+: uploadedFiles h ++ e.call.sending := by
  rw [uploadedFiles, List.filterMap_append]
  apply (List.prefix_append_right_inj _).mpr
  obtain ⟨c, r⟩ := e
  cases c with
  | putFile path file =>
    cases r with
    | error f => exact List.nil_prefix
    | ok _ => exact List.prefix_rfl
  | _ => exact List.nil_prefix

/-! ## The contract of `PublishEvent` -/

/-- The last segment before the add has come to the end of the list. -/
def uploadContract (page : ℕ) : Contract remote World Thrown Unit where
  holds h c s := uploadedFiles h ++ c.sending <+: (s.publish page).imageFiles
  moves h s c s' := (s'.publish page).imageFiles = (s.publish page).imageFiles ∧
    ∀ doc, c = some (.addEvent doc) → uploadedFiles h = (s'.publish page).imageFiles ∧
      (receivedUrls h).length = (uploadedFiles h).length
  ends _ _ := True

/-- A segment that leaves the page alone and does not stop at the add. -/
theorem uploadContract_moves {page : ℕ} {h : List (Answered remote)} {s s' : World}
    {c : Option Call} (hpublish : s'.publish = s.publish) (hc : ∀ doc, c ≠ some (.addEvent doc)) :
    (uploadContract page).moves h s c s' :=
  ⟨by rw [hpublish], fun doc hdoc => absurd hdoc (hc doc)⟩

theorem upload_rules (me : Caller) (s₀ : World) :
    PublishRules (fun _ _ _ => True) (uploadContract me.page) me s₀ where
  refuse r s hs _ := ⟨uploadContract_moves hs.publish (by simp), trivial⟩
  locate s hs _ := ⟨uploadContract_moves hs.publish (by simp), List.nil_prefix⟩
  notify h e c s s' hc hholds _ hs := by
    have hpublish := hs.publish.trans (World.answered_publish _ _ _)
    have hsent : uploadedFiles (h ++ [e]) <+: (s'.publish me.page).imageFiles := by
      rw [hpublish]
      exact (uploadedFiles_concat h e).trans hholds
    cases hc <;> exact
      ⟨uploadContract_moves hpublish (by simp), by simpa [uploadContract, Call.sending] using hsent⟩
  quit h e r s s' _ _ hs _ :=
    ⟨uploadContract_moves (hs.publish.trans (World.answered_publish _ _ _)) (by simp), trivial⟩
  add_first t _ hdone hnil := by
    have hfiles : uploadedFiles t.history = [] := by simp [uploadedFiles_history, hdone]
    refine ⟨⟨rfl, fun doc _ => ?_⟩, ?_⟩
    · simp [hfiles, receivedUrls_history, hdone, hnil]
    · show uploadedFiles t.history ++ [] <+: _
      rw [hfiles]
      exact List.nil_prefix
  put_first t file _ hdone hfile := by
    refine ⟨⟨by simp, by simp⟩, ?_⟩
    show uploadedFiles t.history ++ [file] <+: _
    rw [uploadedFiles_history, hdone]
    simpa using prefix_next List.nil_prefix hfile
  link t u s _ _ hs := by
    refine ⟨uploadContract_moves rfl (by simp), ?_⟩
    show uploadedFiles (t.history ++ [_]) ++ [] <+: (s.publish me.page).imageFiles
    rw [uploadedFiles_put, List.append_nil, ← uploadedFiles_history]
    exact hs
  put_next t u url file s _ _ hs _ _ hfile := by
    refine ⟨⟨by simp, by simp⟩, ?_⟩
    have hsent : uploadedFiles (t.history ++ [_]) ++ [] <+: (s.publish me.page).imageFiles := hs
    show uploadedFiles (t.snoc u url).history ++ [file] <+: _
    rw [uploadedFiles_put, List.append_nil] at hsent
    rw [uploadedFiles_history]
    simpa using prefix_next hsent (by simpa using hfile)
  add_last t u url s _ _ hs _ hlen hdone := by
    have hsent : uploadedFiles (t.history ++ [_]) ++ [] <+: (s.publish me.page).imageFiles := hs
    rw [uploadedFiles_put, List.append_nil] at hsent
    have hfiles : uploadedFiles (t.snoc u url).history = t.done.map (fun d => d.1.file) ++ [u.file] := by
      simp [uploadedFiles_history]
    refine ⟨⟨by simp, fun doc _ => ⟨?_, ?_⟩⟩, ?_⟩
    -- the list is as long as it was when the loop began, and all of that has been sent
    · rw [hfiles]
      simpa using hsent.eq_of_length (by simp; omega)
    · simp [hfiles, receivedUrls_history]
    · show uploadedFiles (t.snoc u url).history ++ [] <+: _
      rw [hfiles, List.append_nil]
      simpa using hsent
  abort t u url s _ _ _ _ _ := ⟨⟨by simp, by simp⟩, trivial⟩

/-! ## The page keeps it -/

abbrev uploadContracts (page : ℕ) : PublishRoutine → World → Contract remote World Thrown Unit :=
  pageContracts page fun _ => uploadContract page

variable {page : ℕ} {p p' : PublishPool} {a : PublishAction}

/-- Images are never taken away, so no step is noticed. -/
theorem PageChange.keeps_attached {j : Option ℕ} {s' : World} {c : Option Call}
    (h : PageChange page (fun _ => uploadContract page) p a j s' c) :
    (p.state.publish page).imageFiles <+: (s'.publish page).imageFiles := by
  have hsame : (s'.publish page).imageFiles = (p.state.publish page).imageFiles →
      (p.state.publish page).imageFiles <+: (s'.publish page).imageFiles :=
    fun hfiles => ⟨[], by rw [hfiles, List.append_nil]⟩
  cases h with
  | form _ _ => simp
  | still _ _ _ hpublish _ => exact hsame (by rw [hpublish])
  | image i image => simp
  | press _ _ hmove => exact hsame hmove.1
  | segment i e th _ _ _ _ _ hmove => exact hsame hmove.1

theorem undisturbed_uploads {s' : World} {j : Option ℕ}
    (h : (p.state.publish page).imageFiles <+: (s'.publish page).imageFiles) :
    p.Undisturbed (uploadContracts page) s' j := by
  intro i th c _ _ _ hholds
  cases htag : th.tag with
  | publishEvent =>
    rw [htag] at hholds
    exact List.IsPrefix.trans hholds h
  | _ => trivial

theorem publishStep_uploads (hok : p.Ok anyEnv (uploadContracts page))
    (hstep : publishStep page p a = some p') : p'.Ok anyEnv (uploadContracts page) := by
  obtain ⟨j, c, hchange, -, hok'⟩ := publishStep_changes hok
    (fun _ => publishEvent_meets (upload_rules ⟨p.threads.length, page⟩ p.state)) hstep
  exact hok' (undisturbed_uploads hchange.keeps_attached)

/-- Each press on its way has uploaded images of the page, from the first one on, in their order. -/
def UploadsAttached (page : ℕ) (p : PublishPool) : Prop :=
  ∀ th ∈ p.threads, th.tag = .publishEvent → ∀ c : Call, th.now.awaiting = some c →
    uploadedFiles th.past ++ c.sending <+: (p.state.publish page).imageFiles

/-- The answer that brings a press to its add comes when all images of the page have been uploaded, and
a URL has been received for each. -/
def AddsAttached (page : ℕ) (p : PublishPool) : Prop :=
  ∀ i e p' th doc, publishStep page p (.answer i e) = some p' → p'.threads[i]? = some th →
    th.tag = .publishEvent → th.now.awaiting = some (.addEvent doc : Call) →
    uploadedFiles th.past = (p'.state.publish page).imageFiles ∧
      (receivedUrls th.past).length = (p'.state.publish page).imageFiles.length

/-- **In every run of the page, a press uploads what is attached, and all of it.** -/
theorem uploads_attached {w : World} {as : List PublishAction}
    (hrun : run (publishStep page) (openPublish page w) as = some p) :
    UploadsAttached page p ∧ AddsAttached page p := by
  have hok : p.Ok anyEnv (uploadContracts page) :=
    run_keeps (fun _ _ _ hok hstep => publishStep_uploads hok hstep) (openPublish_ok page _ w) hrun
  constructor
  · intro th hth htag c hc
    obtain ⟨i, hi⟩ := List.mem_iff_getElem?.mp hth
    have hrests := hok i th hi
    rw [htag] at hrests
    exact hrests.holds hc
  · intro i e p' th' doc hstep hth' htag hadd
    have hans : p.answer anyEnv i e = some p' := hstep
    obtain ⟨th, t, hth, -, -, hmove, -, hthreads⟩ := hok.answer_cases hans trivial
    rcases Pool.threads_answer hthreads hth' with ⟨-, rfl⟩ | ⟨hi, -⟩
    · rw [show th.tag = .publishEvent from htag] at hmove
      obtain ⟨hfiles, hurls⟩ := hmove.2 doc hadd
      exact ⟨hfiles, by rw [hurls, hfiles]⟩
    · exact absurd rfl hi

/-- It holds of two presses that overlap, though their URLs get mixed. -/
theorem uploads_attached_twice :
    ∃ p, run (publishStep 1) (openPublish 1 (.publishing ⟨2020, 1, 1⟩)) publishTwice = some p ∧
      (UploadsAttached 1 p ∧ AddsAttached 1 p) ∧ ∃ th ∈ p.threads,
        uploadedFiles th.past = [⟨"1.jpg"⟩] ∧ ∃ doc, th.now.awaiting = some (.addEvent doc) := by
  have hrun : ∃ p,
      run (publishStep 1) (openPublish 1 (.publishing ⟨2020, 1, 1⟩)) publishTwice = some p := ⟨_, rfl⟩
  obtain ⟨p, hrun⟩ := hrun
  refine ⟨p, hrun, @uploads_attached 1 p _ publishTwice hrun, ?_⟩
  obtain rfl := Option.some.inj hrun
  exact ⟨_, .tail _ (.tail _ (.tail _ (.head _))), rfl, _, rfl⟩

end FloodUp
