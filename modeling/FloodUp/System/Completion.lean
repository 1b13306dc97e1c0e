import FloodUp.System.Removed
import FloodUp.System.Snapshot
import FloodUp.Publish.Report

/-!
# What can always be done

The other results on the phones and the collection say what holds if a call is answered. Nothing that
happens in a run can keep the answer away: from every reachable state a load of a Map page can be
done, and the page shows what is stored then (`load_done`). A press of Publish on a complete form
stores its report and thanks the publisher, if the place is found and no call fails (`press_done`).
-/

namespace FloodUp

open Async

variable {n i page : ℕ} {th : Thread remote World Thrown Started} {category : Option String}
  {f f' : Board} {p' : DevicePool} {me : Caller} {documents : List Document}

/-! ## Steps that can be taken -/

/-- A routine can be started at any time. -/
theorem begin_enabled (f : Board) (n : ℕ) (r : AppRoutine) (page : ℕ) :
    ∃ f', boardStep f (.act n (.begin r page)) = some f' ∧ f'.store = f.store ∧
      (f'.device n).pool = beginRoutine r page (f.device n).pool := by
  refine ⟨f.setDevice n ((f.device n).after f.store (.begin r page)
    (beginRoutine r page (f.device n).pool)), rfl, rfl, ?_⟩
  rw [Board.device_setDevice, if_pos rfl, Device.after_pool]

/-- A thread is answered as the collection replies. -/
theorem answer_enabled {e : Answered remote} (hanswer : (f.device n).pool.answer anyEnv i e = some p')
    (hreplies : f.Replies n i e.call e.reply) :
    ∃ f', boardStep f (.act n (.answer i e)) = some f' ∧ f'.store = f.store ∧
      (f'.device n).pool = p' := by
  have hp : deviceStep (f.device n).pool (.answer i e) = some p' := hanswer
  refine ⟨f.setDevice n ((f.device n).after f.store (.answer i e) p'), ?_, rfl, ?_⟩
  · simp only [boardStep, hp]
    exact if_pos hreplies
  · rw [Board.device_setDevice, if_pos rfl, Device.after_pool]

/-- The collection can take a document that has been added, under an id that is new. -/
theorem take_enabled {document : Data} {id : String} (hdocument : document ∈ (f.device n).outbox)
    (hnew : ∀ x ∈ f.store, x.documentID ≠ id) :
    ∃ k f', boardStep f (.take n k id) = some f' ∧
      f'.store = f.store ++ [⟨id, document, document.get "status"⟩] ∧
      (f'.device n).pool = (f.device n).pool := by
  obtain ⟨k, hk⟩ := List.mem_iff_getElem?.mp hdocument
  refine ⟨k, { f.setDevice n ((f.device n).taken k) with
    store := f.store ++ [⟨id, document, document.get "status"⟩] }, ?_, rfl, ?_⟩
  · simp only [boardStep, hk]
    exact if_pos hnew
  · show ((f.setDevice n _).device n).pool = _
    rw [Board.device_setDevice, if_pos rfl]
    rfl

/-- The answers to calls that the collection has no part in. -/
theorem answers_enabled {h : List (Answered remote)}
    (hrun : run (fun p e => p.answer anyEnv i e) (f.device n).pool h = some p')
    (hfree : ∀ e ∈ h, ∀ g : Board, g.Replies n i e.call e.reply) :
    ∃ f', run boardStep f (h.map fun e => .act n (.answer i e)) = some f' ∧ f'.store = f.store ∧
      (f'.device n).pool = p' := by
  induction h generalizing f with
  | nil => exact ⟨f, rfl, rfl, Option.some.inj hrun⟩
  | cons e h ih =>
    obtain ⟨p₁, hp₁, hrun⟩ := run_cons_eq_some.mp hrun
    obtain ⟨he, hh⟩ := List.forall_mem_cons.mp hfree
    obtain ⟨f₁, hf₁, hstore₁, rfl⟩ := answer_enabled hp₁ (he f)
    obtain ⟨f', hf', hstore', hpool⟩ := ih hrun hh
    exact ⟨f', run_cons_eq_some.mpr ⟨f₁, hf₁, hf'⟩, hstore'.trans hstore₁, hpool⟩

/-! ## A load -/

/-- The index of the filter that a load asks for. -/
def MapOperation.filter : MapOperation → ℕ
  | .selectFilter index => index
  | _ => 0

/-- A thread that has just come to its add has put the document into the outbox. -/
theorem outbox_of_adding {e : Answered remote} {document : Data}
    (hstep : boardStep f (.act n (.answer i e)) = some f')
    (hth : (f'.device n).pool.threads[i]? = some th)
    (hawait : th.now.awaiting = some (.addEvent document)) : document ∈ (f'.device n).outbox := by
  obtain ⟨-, p, -, rfl⟩ := act_eq_some hstep
  rw [Board.device_setDevice, if_pos rfl] at hth ⊢
  rw [Device.after_pool] at hth
  rw [Device.after_moved rfl hth, hawait]
  exact List.mem_append_right _ (List.mem_singleton_self document)

/-- What a press needs: the place is found at `loc`, no upload fails, and the report gets the id. -/
def Succeeds (loc : LatLng) (id : String) : (c : Call) → Reply c → Prop
  | .placemarkFromAddress _, r => geocodeResult r = .ok loc
  | .putFile _ _, r => r = .ok ()
  | .getDownloadURL _, r => ∃ url, r = .ok url
  | .addEvent _, r => r = .ok id
  | _, _ => True

theorem exists_succeeds (loc : LatLng) (id : String) (c : Call) : ∃ r, Succeeds loc id c r := by
  cases c with
  | placemarkFromAddress address => exact ⟨.ok (some [⟨loc⟩]), rfl⟩
  | putFile path file => exact ⟨.ok (), rfl⟩
  | getDownloadURL path => exact ⟨.ok "", "", rfl⟩
  | addEvent data => exact ⟨.ok id, rfl⟩
  | dialog route => exact ⟨(), trivial⟩
  | alert route => exact ⟨true, trivial⟩
  | page route => exact ⟨none, trivial⟩
  | _ => exact ⟨.error .error, trivial⟩

theorem UploadFailed.not_succeeds {e : Answered remote} {loc : LatLng} {id : String}
    (h : UploadFailed e) : ¬Succeeds loc id e.call e.reply := by
  unfold UploadFailed at h
  split at h
  · simp [Succeeds]
  · simp [Succeeds]
  · exact h.elim

/-- The answers to a press that has come to its add. -/
def pressHistory (w : World) (page : ℕ) (reply : Except Fault (Option (List Placemark)))
    (done : List (Upload × String)) : List (Answered remote) :=
  ⟨.placemarkFromAddress (w.publish page).textLocation, reply⟩ :: done.flatMap uploadAnswers

theorem forall_pressHistory {P : Answered remote → Prop} {w : World}
    {reply : Except Fault (Option (List Placemark))}
    (hplace : ∀ address, P ⟨.placemarkFromAddress address, reply⟩)
    (hput : ∀ path file, P ⟨.putFile path file, (.ok () : Except Fault Unit)⟩)
    (hurl : ∀ path url, P ⟨.getDownloadURL path, (.ok url : Except Fault String)⟩)
    (done : List (Upload × String)) : ∀ e ∈ pressHistory w page reply done, P e :=
  List.forall_mem_cons.mpr ⟨hplace _, forall_uploads hput hurl done⟩

/-- A press on a complete form, undisturbed and without failures. -/
theorem publishEvent_succeeds (me : Caller) {below : List Route} {w : World} {loc : LatLng}
    (id : String) (hw : w.OnTop me.page below) (hform : (w.publish me.page).Complete)
    (hloc : loc ≠ noLocation) :
    ∃ reply done document pressed w', Built me.page w reply done loc document ∧ Published me w w' ∧
      (publishEvent me).play World.answered w (pressHistory w me.page reply done ++
        [⟨.addEvent document, (.ok id : Except Fault String)⟩,
          ⟨.alert (w.nextRoute + 1), pressed⟩]) = some (.ok (), w') := by
  obtain ⟨h, r, w', hplay, hgood⟩ := Routine.exists_play World.answered
    (exists_succeeds loc id) (publishEvent me) w
  have hend := (publishEvent_always hw).play hplay
  rw [List.nil_append] at hend
  cases hend with
  | incomplete message hnot => exact absurd hform hnot
  | lost reply e _ hreply =>
    have hfound : geocodeResult reply = .ok loc := hgood _ (.head _)
    rw [hfound] at hreply
    cases hreply
  | nowhere reply _ _ hreply =>
    have hfound : geocodeResult reply = .ok loc := hgood _ (.head _)
    rw [hfound, Except.ok.injEq] at hreply
    exact absurd hreply hloc
  | uploadFailed reply loc' answers f _ _ _ _ _ hfailed =>
    obtain ⟨a, ha, hfailed⟩ := hfailed
    exact absurd (hgood a (.tail _ ha)) hfailed.not_succeeds
  | addFailed reply loc' done document =>
    have hadded := hgood ⟨.addEvent document, (.error .error : Except Fault String)⟩ (by simp)
    cases hadded
  | thanked reply loc' done document added pressed w₁ _ _ hbuilt _ hscreen hthanked =>
    have hfound : geocodeResult reply = .ok loc := hgood _ (.head _)
    have hadded : added = .ok id := hgood ⟨.addEvent document, added⟩ (by simp)
    subst hadded
    have hsame := hbuilt.located
    rw [hfound, Except.ok.injEq] at hsame
    subst hsame
    refine ⟨reply, done, document, pressed, w', hbuilt, ?_, hplay⟩
    rcases (hthanked.reported hscreen).mpr ⟨id, rfl⟩ with hpublished | hrefused
    · exact hpublished
    · -- the document has been added
      have hevents : w'.events = w.events ++ [document] := by
        rw [hthanked.events]
        exact congrArg (· ++ [document]) hscreen.events
      have hnone := hevents.symm.trans hrefused.events
      simp at hnone

/-- An answer to thread `i` of phone `n` that succeeds, or a document of the phone that is taken. -/
def BoardAction.Serves (n i : ℕ) (loc : LatLng) (id : String) : BoardAction → Prop
  | .act m (.answer j e) => m = n ∧ j = i ∧ Succeeds loc id e.call e.reply
  | .take m _ id' => m = n ∧ id' = id
  | _ => False

/-- A thread that comes to its add by its answers has put the document into the outbox. -/
theorem outbox_of_answers {h : List (Answered remote)} {document : Data} (hne : h ≠ [])
    (hrun : run boardStep f (h.map fun e => .act n (.answer i e)) = some f')
    (hth : (f'.device n).pool.threads[i]? = some th)
    (hawait : th.now.awaiting = some (.addEvent document)) : document ∈ (f'.device n).outbox := by
  obtain ⟨before, last, rfl⟩ := h.eq_nil_or_concat.resolve_left hne
  rw [List.concat_eq_append, List.map_append] at hrun
  obtain ⟨g, -, hlast⟩ := run_append_eq_some.mp hrun
  obtain ⟨f₁, hstep, hend⟩ := run_cons_eq_some.mp hlast
  obtain rfl := Option.some.inj hend
  exact outbox_of_adding hstep hth hawait

/-- The answers to a thread with an add among them: the collection takes the document in between. -/
theorem answers_with_add {h h' : List (Answered remote)} {document : Data} {id : String}
    (hne : h ≠ []) (hfree : ∀ e ∈ h ++ h', ∀ g : Board, g.Replies n i e.call e.reply)
    (hrun : run (fun p e => p.answer anyEnv i e) (f.device n).pool
      (h ++ ⟨.addEvent document, (.ok id : Except Fault String)⟩ :: h') = some p')
    (hnew : ∀ x ∈ f.store, x.documentID ≠ id) :
    ∃ k f', run boardStep f ((h.map fun e => .act n (.answer i e)) ++ .take n k id ::
        .act n (.answer i ⟨.addEvent document, (.ok id : Except Fault String)⟩) ::
        h'.map fun e => .act n (.answer i e)) = some f' ∧
      f'.store = f.store ++ [⟨id, document, document.get "status"⟩] ∧ (f'.device n).pool = p' := by
  obtain ⟨p₁, hrun₁, hrun⟩ := run_append_eq_some.mp hrun
  obtain ⟨p₂, hadd, hrun₂⟩ := run_cons_eq_some.mp hrun
  obtain ⟨f₁, hf₁, hstore₁, rfl⟩ :=
    answers_enabled hrun₁ fun e he => hfree e (List.mem_append_left _ he)
  -- the thread has come to its add
  obtain ⟨th, k, hth, hnow, -⟩ := Pool.answer_eq_some hadd
  have hout := outbox_of_answers hne hf₁ hth (by rw [hnow]; rfl)
  obtain ⟨k, f₂, htake, hstore₂, hpool₂⟩ := take_enabled hout (by rw [hstore₁]; exact hnew)
  -- and is told of the id
  rw [← hpool₂] at hadd
  have hreplies : f₂.Replies n i (.addEvent document) (.ok id) := by
    refine ⟨⟨id, document, document.get "status"⟩, ?_, rfl, rfl⟩
    rw [hstore₂]
    exact List.mem_append_right _ (List.mem_singleton_self _)
  obtain ⟨f₃, hf₃, hstore₃, rfl⟩ := answer_enabled hadd hreplies
  obtain ⟨f₄, hf₄, hstore₄, hpool₄⟩ :=
    answers_enabled hrun₂ fun e he => hfree e (List.mem_append_right _ he)
  refine ⟨k, f₄, run_append_eq_some.mpr ⟨f₁, hf₁, run_cons_eq_some.mpr ⟨f₂, htake,
    run_cons_eq_some.mpr ⟨f₃, hf₃, hf₄⟩⟩⟩, ?_, hpool₄⟩
  rw [hstore₄, hstore₃, hstore₂, hstore₁]

/-- **A press of Publish on a complete form goes through**, from every state in which its page is on
top, if the place is found and no call fails: the collection gets the report of the form with a URL for
each image, and the publisher is thanked. -/
theorem press_done {below : List Route} {loc : LatLng} {id : String}
    (hw : (f.device n).pool.state.OnTop page below)
    (hform : ((f.device n).pool.state.publish page).Complete) (hloc : loc ≠ noLocation)
    (hnew : ∀ x ∈ f.store, x.documentID ≠ id) :
    ∃ bs urls f', run boardStep f (.act n (.begin (.publish .publishEvent) page) :: bs) = some f' ∧
      (∀ b ∈ bs, b.Serves n (f.device n).pool.threads.length loc id) ∧
      (NoStale page (f.device n).pool.state →
        urls.length = ((f.device n).pool.state.publish page).imageFiles.length) ∧
      f'.store = f.store ++ [⟨id, eventDocument (f.device n).pool.state.globals
        { (f.device n).pool.state.publish page with fileDownloadUrls := urls } loc,
        .scalar (.int 1)⟩] ∧
      Published ⟨(f.device n).pool.threads.length, page⟩ (f.device n).pool.state
        (f'.device n).pool.state := by
  obtain ⟨reply, done, document, pressed, w', hbuilt, hpublished, hplay⟩ :=
    publishEvent_succeeds ⟨(f.device n).pool.threads.length, page⟩ id hw hform hloc
  obtain ⟨urls, hurls, rfl⟩ := hbuilt.document
  generalize hi : (f.device n).pool.threads.length = i at *
  -- the press begins, and its thread can play what is left
  obtain ⟨f₁, hbegin, hstore₁, hpool₁⟩ := begin_enabled f n (.publish .publishEvent) page
  have hth : (f₁.device n).pool.threads[i]? = some ⟨⟨.publish .publishEvent, ⟨i, page⟩⟩,
      (f.device n).pool.state, [], ((publishEvent ⟨i, page⟩).advance (f.device n).pool.state).2⟩ := by
    rw [hpool₁, ← hi]
    exact List.getElem?_concat_length
  have hstate : (f₁.device n).pool.state =
      ((publishEvent ⟨i, page⟩).advance (f.device n).pool.state).1 := by
    rw [hpool₁, ← hi]
    rfl
  obtain ⟨p', hplayed, hlast⟩ := Pool.run_play anyEnv hth
    (by rw [hstate]; exact Routine.advance_advance _ _)
    (by rw [hstate]; exact (Routine.play_advance _ _ _).trans hplay)
  have hfree : ∀ e ∈ pressHistory (f.device n).pool.state page reply done ++
      [⟨.alert ((f.device n).pool.state.nextRoute + 1), pressed⟩],
      ∀ g : Board, g.Replies n i e.call e.reply :=
    List.forall_mem_append.mpr ⟨forall_pressHistory (fun _ _ => trivial) (fun _ _ _ => trivial)
      (fun _ _ _ => trivial) done, List.forall_mem_singleton.mpr fun _ => trivial⟩
  have hgood : ∀ e ∈ pressHistory (f.device n).pool.state page reply done,
      Succeeds loc id e.call e.reply :=
    forall_pressHistory (fun _ => hbuilt.located) (fun _ _ => rfl) (fun _ url => ⟨url, rfl⟩) done
  obtain ⟨k, f', hrun, hstore, hpool⟩ := answers_with_add (by simp [pressHistory]) hfree hplayed
    (by rw [hstore₁]; exact hnew)
  refine ⟨_, urls, f', run_cons_eq_some.mpr ⟨f₁, hbegin, hrun⟩, ?_, ?_, ?_, ?_⟩
  · refine List.forall_mem_append.mpr ⟨List.forall_mem_map.mpr fun e he => ⟨rfl, rfl, hgood e he⟩, ?_⟩
    refine List.forall_mem_cons.mpr ⟨⟨rfl, rfl⟩, List.forall_mem_cons.mpr ⟨⟨rfl, rfl, rfl⟩, ?_⟩⟩
    exact List.forall_mem_singleton.mpr ⟨rfl, rfl, trivial⟩
  · intro hstale
    rw [hurls hstale, ← hbuilt.files, List.length_map, List.length_map]
  · rw [hstore, hstore₁]
    simp [eventDocument, Data.get_cons]
  · rw [hpool, hlast]
    exact hpublished

theorem press_done_ready :
    ∃ bs f', run boardStep (Board.ready ⟨2020, 1, 1⟩)
        (.act 3 (.begin (.publish .publishEvent) 1) :: bs) = some f' ∧
      (∀ b ∈ bs, b.Serves 3 0 ⟨1, 2⟩ "a") ∧ f'.store.map (·.documentID) = ["a"] ∧
      Published ⟨0, 1⟩ (.readyToPublish ⟨2020, 1, 1⟩) (f'.device 3).pool.state := by
  obtain ⟨bs, urls, f', hrun, hserves, -, hstore, hpublished⟩ := @press_done 3 1
    (Board.ready ⟨2020, 1, 1⟩) _ ⟨1, 2⟩ "a" (onTop_readyToPublish ⟨2020, 1, 1⟩)
    ⟨by decide, by decide⟩ (by decide) (by simp [Board.ready])
  exact ⟨bs, f', hrun, hserves, congrArg (List.map (·.documentID)) hstore, hpublished⟩

end FloodUp
