import FloodUp.Async.Pool
import FloodUp.Async.Run
import FloodUp.Map.Theorems

/-!
# Overlapping loads of a Map page

The runs of one Map page as long as it is there: the load of `initState`, choices of a filter,
presses of the add button, the replies to all of these in any order, and whatever else happens to
the navigator and the globals meanwhile. The lists are emptied when a query is issued and
filled when any reply arrives; `latest_load_shown` says when they show the reply to the latest
query and nothing else.
-/

namespace FloodUp

open Async

/-! ## The system -/

/-- What loads events on a Map page. -/
inductive MapOperation where
  | initialLoad
  | selectFilter (index : ℕ)
  | addButton
deriving DecidableEq, Repr

def MapOperation.routine (me : Caller) : MapOperation → Dart Unit
  | .initialLoad => FloodUp.loadWeatherEvents me 0
  | .selectFilter index => FloodUp.selectFilter me index
  | .addButton => FloodUp.addButton me

abbrev MapPool : Type := Pool remote World Thrown MapOperation

/-- The document is one the query asks for. -/
def Document.Matches (category : Option String) (document : Document) : Prop :=
  (∀ c, category = some c → document.data.get "category" = .scalar (.string c)) ∧
    document.data.get "status" = .scalar (.int 1)

/-- A query is answered by well formed documents that match it, with distinct ids. -/
def QueryAnswer : (c : Call) → Reply c → Prop
  | .getEvents category, reply => ∃ documents, reply = .ok documents ∧
    (∀ document ∈ documents, document.Readable ∧ document.Matches category) ∧
    (documents.map (·.documentID)).Nodup
  | _, _ => True

def mapEnv (page : ℕ) : Env remote World where
  effect := World.answered
  admits c r s := s.mounted page = true ∧ QueryAnswer c r

def Call.isQuery : Call → Bool
  | .getEvents _ => true
  | _ => false

/-- The documents of the last answer, if that is the reply to a query. -/
def queryReply (h : List (Answered remote)) : Option (List Document) :=
  match h.getLast? with
  | some ⟨.getEvents _, .ok documents⟩ => some documents
  | _ => none

/-- A run so far: the pool, the thread that has issued the latest query, and the documents that
have arrived since then in replies to earlier ones. -/
structure MapRun where
  pool : MapPool
  latest : Option ℕ := none
  late : List Document := []

/-- The run after a move of thread `i` that has led to the pool `p`. -/
def MapRun.moved (r : MapRun) (i : ℕ) (p : MapPool) : MapRun :=
  -- a new query empties the lists, so what came late before is forgotten with the rest
  if p.threads[i]?.any fun th => th.now.awaiting.any Call.isQuery then ⟨p, some i, []⟩
  else if r.latest = some i then ⟨p, r.latest, r.late⟩
  else ⟨p, r.latest, r.late ++ ((p.threads[i]?.bind fun th => queryReply th.past).getD [])⟩

inductive MapAction where
  | begin (o : MapOperation)
  | answer (i : ℕ) (e : Answered remote)
  /-- Anything that happens elsewhere in the app. -/
  | around (globals : Globals) (routes : List Route)

/-- One action on the Map page `page`. The timer of `initState` runs out before the user can do
anything; the run is over when the page is gone. -/
def mapStep (page : ℕ) (r : MapRun) (a : MapAction) : Option MapRun :=
  if r.pool.state.mounted page then
    match a with
    | .begin o =>
      -- the load of `initState` comes first and only once
      if o = .initialLoad ↔ r.latest = none then
        some (r.moved r.pool.threads.length
          (r.pool.start o (o.routine ⟨r.pool.threads.length, page⟩)))
      else none
    | .answer i e => (r.pool.answer (mapEnv page) i e).map (r.moved i)
    | .around globals routes =>
      if routes.any fun route => route.id == page then
        some { r with pool := r.pool.update fun w => { w with globals, routes } }
      else none
  else none

/-- The page has just been opened. -/
structure MapOpened (page : ℕ) (w : World) : Prop where
  mounted : w.mounted page = true
  fields : w.map page = {}

def MapRun.opened (w : World) : MapRun := ⟨⟨w, []⟩, none, []⟩

/-- All queries are answered as they should. -/
def MapAction.WellAnswered (_ : MapRun) : MapAction → Prop
  | .answer _ e => QueryAnswer e.call e.reply
  | _ => True

/-- No query is outstanding. -/
def MapRun.Quiet (r : MapRun) : Prop := ¬r.pool.Pending fun _ c => Call.isQuery c

instance (r : MapRun) : Decidable r.Quiet :=
  inferInstanceAs (Decidable ¬r.pool.Pending fun _ c => Call.isQuery c)

/-- The reply to the latest query. -/
def MapRun.reply (r : MapRun) : Option (List Document) :=
  (r.latest.bind fun i => r.pool.threads[i]?).bind fun th => queryReply th.past

/-- The page shows exactly these documents, one marker for each, all of the selected category. -/
structure MapPage.Shows (m : MapPage) (documents : List Document) : Prop where
  markers : ∃ markers, documents.mapM eventMarker = .ok markers ∧ m.allEventMarkers.Perm markers
  datas : m.eventDatas.Perm (m.allEventMarkers.map (·.data))
  category : ∀ marker ∈ m.allEventMarkers, m.selectedCategory ≠ 0 →
    marker.data.get "category" = .scalar (.string (toString m.selectedCategory))

/-- The page shows the reply to the latest query. -/
def MapRun.ShowsLatest (page : ℕ) (r : MapRun) : Prop :=
  ∃ documents, r.reply = some documents ∧ (r.pool.state.map page).Shows documents

/-! ## One segment of a load -/

/-- The page has the documents in its lists, in this order. -/
structure MapPage.Holds (m : MapPage) (documents : List Document) : Prop where
  markers : documents.mapM eventMarker = .ok m.allEventMarkers
  datas : m.eventDatas = documents.map (·.data)

theorem MapPage.Holds.append {m : MapPage} {documents more : List Document} {markers : List Marker}
    (h : m.Holds documents) (hmore : more.mapM eventMarker = .ok markers) :
    (m.append (more.map (·.data)) markers).Holds (documents ++ more) where
  markers := by
    rw [List.mapM_append, h.markers, hmore]
    rfl
  datas := by
    rw [List.map_append, ← h.datas]
    rfl

/-- What a segment after the answers `h` does to the page: it issues a query, it appends the
documents that have arrived, or it leaves the page as it is. -/
inductive LoadMove (page : ℕ) (h : List (Answered remote)) (s : World) (c : Option Call)
    (s' : World) : Prop where
  | issued (category : ℕ) (hreply : queryReply h = none)
    (hcall : c = some (.getEvents (categoryFilter category)))
    (hpage : s'.map page = { selectedCategory := category })
  | arrived (filter : Option String) (documents : List Document) (markers : List Marker)
    (hlast : h.getLast? = some ⟨.getEvents filter, (.ok documents : Except Fault (List Document))⟩)
    (hmatches : ∀ document ∈ documents, document.Matches filter)
    (hmarkers : documents.mapM eventMarker = .ok markers) (hcall : c = none)
    (hpage : s'.map page = (s.map page).append (documents.map (·.data)) markers)
  | still (hreply : queryReply h = none) (hcall : ∀ c', c = some c' → c'.isQuery = false)
    (hpage : s'.map page = s.map page)

def loadContract (page : ℕ) : Contract remote World Thrown Unit where
  holds _ _ _ := True
  moves h s c s' := LoadMove page h s c s'
  ends _ _ := True

variable {page : ℕ}

theorem loadWeatherEvents_meets {me : Caller} {category : ℕ} {h : List (Answered remote)}
    {s₀ s : World} (hs : s.mounted me.page = true)
    (hcategory : (s.map me.page).selectedCategory = category) (hreply : queryReply h = none) :
    (loadWeatherEvents me category).Meets (mapEnv me.page) (loadContract me.page)
      (loadContract me.page).final h s₀ s := by
  unfold loadWeatherEvents
  simp only [Routine.bind_eq, Routine.meets_bind, Routine.meets_modify, showProgress,
    meets_withContext]
  rw [if_pos (by exact hs)]
  simp only [getEvents, meets_remoteCall]
  -- the segment that issues the query, then the one that its reply starts
  refine ⟨.issued category hreply rfl ?_, trivial, fun s' reply _ hadmits => ?_⟩
  · simp [World.note, World.push, World.setContext, World.setMap, hcategory]
  obtain ⟨hmounted, documents, rfl, hdocuments, -⟩ := hadmits
  obtain ⟨markers, hmarkers⟩ := markers_ok_iff.mpr fun d hd => (hdocuments d hd).1
  have harrived : ∀ s'' : World,
      s''.map me.page = (s'.map me.page).append (documents.map (·.data)) markers →
      (hideProgress me).Meets (mapEnv me.page) (loadContract me.page)
        (loadContract me.page).final (h ++ [⟨.getEvents (categoryFilter category),
          (.ok documents : Except Fault (List Document))⟩]) s' s'' := fun s'' hpage =>
    meets_hideProgress fun s₁ hsame => ⟨.arrived _ documents markers (by simp)
      (fun d hd => (hdocuments d hd).2) hmarkers rfl (by rw [hsame.map, hpage]), trivial⟩
  simp only [Except.mapError, id_eq]
  -- an empty reply skips `ProcessEvents` but leaves the page the same
  by_cases hempty : documents = []
  · rw [if_neg (not_not.mpr hempty)]
    subst hempty
    obtain rfl : [] = markers := Except.ok.inj hmarkers
    exact harrived s' (by simp)
  · rw [if_pos hempty, Routine.meets_bind]
    exact (processEvents_runs hmounted hmarkers).meets.mpr (harrived _ (World.setMap_map _ _ _))

theorem addButton_meets {me : Caller} {s : World} (hs : s.mounted me.page = true) :
    (addButton me).Meets (mapEnv me.page) (loadContract me.page) (loadContract me.page).final
      [] s s := by
  unfold addButton
  simp only [Routine.bind_eq, Routine.meets_bind, Routine.meets_get]
  by_cases hin : s.globals.bLoggedIn = true
  · rw [if_pos hin]
    simp only [navigatorPush, Routine.bind_eq, Routine.meets_bind, meets_withContext, hs, if_true,
      Routine.meets_get, Routine.meets_modify, Routine.pure_eq, Routine.meets_pure, ask,
      Routine.meets_await]
    refine ⟨.still rfl (by rintro _ ⟨⟩; rfl) rfl, trivial, fun s' result _ hadmits => ?_⟩
    by_cases hresult : result = none
    · simp only [hresult, ne_eq, not_true_eq_false, if_false, Routine.meets_pure]
      exact ⟨.still rfl (by simp) rfl, trivial⟩
    · simp only [ne_eq, hresult, not_false_eq_true, if_true, Routine.meets_bind, Routine.meets_get]
      -- the reload takes whatever category is selected when the Publish page has returned
      exact loadWeatherEvents_meets hadmits.1 rfl rfl
  · rw [if_neg hin]
    simp only [navigatorPushAndRemoveUntilFirst, Routine.bind_eq, Routine.meets_bind,
      meets_withContext, hs, if_true, Routine.meets_modify]
    exact ⟨.still rfl (by simp) rfl, trivial⟩

/-- Every operation of the page keeps the contract. -/
theorem MapOperation.meets {me : Caller} {s : World} (o : MapOperation)
    (hs : s.mounted me.page = true)
    (hfirst : o = .initialLoad → (s.map me.page).selectedCategory = 0) :
    (o.routine me).Meets (mapEnv me.page) (loadContract me.page) (loadContract me.page).final
      [] s s := by
  cases o with
  | initialLoad => exact loadWeatherEvents_meets hs (hfirst rfl) rfl
  | selectFilter index =>
    show (FloodUp.selectFilter me index).Meets _ _ _ _ _ _
    unfold FloodUp.selectFilter
    simp only [Routine.bind_eq, Routine.meets_bind, Routine.meets_modify]
    exact loadWeatherEvents_meets hs (by simp) rfl
  | addButton => exact addButton_meets hs

/-! ## The invariant -/

/-- The thread has issued the latest query and not been answered, or has been answered by
matching documents and is over. -/
inductive Latest (category : ℕ) (th : Thread remote World Thrown MapOperation) : Prop where
  | waiting (hcall : th.now.awaiting = some (.getEvents (categoryFilter category)))
    (hreply : queryReply th.past = none)
  | done (documents : List Document) (hcall : th.now.awaiting = none)
    (hreply : queryReply th.past = some documents)
    (hmatches : ∀ document ∈ documents, document.Matches (categoryFilter category))

/-- The invariant of a run: the reply to the latest query has come in between the late ones. -/
structure MapRun.Sound (page : ℕ) (r : MapRun) : Prop where
  ok : r.pool.Ok (mapEnv page) fun _ _ => loadContract page
  lists : ∃ before after, r.late = before ++ after ∧
    (r.pool.state.map page).Holds (before ++ r.reply.getD [] ++ after)
  latest : ∀ i, r.latest = some i → ∃ th, r.pool.threads[i]? = some th ∧
    Latest (r.pool.state.map page).selectedCategory th
  first : r.latest = none → (r.pool.state.map page).selectedCategory = 0

variable {r r' : MapRun} {w : World} {i : ℕ} {th : Thread remote World Thrown MapOperation}

theorem sound_opened (hw : MapOpened page w) : (MapRun.opened w).Sound page where
  ok := Pool.ok_of_threads_nil rfl
  lists := ⟨[], [], rfl, by
    show (w.map page).Holds []
    rw [hw.fields]
    exact ⟨rfl, rfl⟩⟩
  latest i hi := by cases hi
  first _ := by
    show (w.map page).selectedCategory = 0
    rw [hw.fields]

theorem reply_of_latest (hlatest : r.latest = some i) (hth : r.pool.threads[i]? = some th) :
    r.reply = queryReply th.past := by
  simp [MapRun.reply, hlatest, hth]

/-- While the latest query waits, all that is on the page has come late. -/
theorem MapRun.Sound.holds_late (hr : r.Sound page) (hreply : r.reply = none) :
    (r.pool.state.map page).Holds r.late := by
  obtain ⟨before, after, hlate, hholds⟩ := hr.lists
  rw [hreply, Option.getD_none, List.append_nil, ← hlate] at hholds
  exact hholds

/-- What is known of a move of thread `i`, which becomes `th`, to the pool `p`. -/
structure Moves (page : ℕ) (r : MapRun) (i : ℕ) (th : Thread remote World Thrown MapOperation)
    (p : MapPool) : Prop where
  ok : p.Ok (mapEnv page) fun _ _ => loadContract page
  thread : p.threads[i]? = some th
  others : ∀ j th', j ≠ i → r.pool.threads[j]? = some th' → p.threads[j]? = some th'
  move : LoadMove page th.past r.pool.state th.now.awaiting p.state
  was : r.latest = some i → r.reply = none ∧ ∃ documents, th.past.getLast? =
    some ⟨.getEvents (categoryFilter (r.pool.state.map page).selectedCategory),
      (.ok documents : Except Fault (List Document))⟩

theorem queryReply_of_getLast {h : List (Answered remote)} {filter : Option String}
    {documents : List Document}
    (hlast : h.getLast? = some ⟨.getEvents filter, (.ok documents : Except Fault (List Document))⟩) :
    queryReply h = some documents := by
  simp [queryReply, hlast]

variable {p : MapPool}

theorem MapRun.moved_of_query {filter : Option String} (hm : p.threads[i]? = some th)
    (hcall : th.now.awaiting = some (.getEvents filter)) : r.moved i p = ⟨p, some i, []⟩ := by
  simp [MapRun.moved, hm, hcall, Call.isQuery]

theorem MapRun.moved_latest (hm : p.threads[i]? = some th)
    (hcall : ∀ c, th.now.awaiting = some c → c.isQuery = false) (hlatest : r.latest = some i) :
    r.moved i p = ⟨p, r.latest, r.late⟩ := by
  have hany : th.now.awaiting.any Call.isQuery = false := by
    simpa [Option.any_eq_false] using hcall
  simp [MapRun.moved, hm, hany, hlatest]

theorem MapRun.moved_other (hm : p.threads[i]? = some th)
    (hcall : ∀ c, th.now.awaiting = some c → c.isQuery = false) (hlatest : r.latest ≠ some i) :
    r.moved i p = ⟨p, r.latest, r.late ++ (queryReply th.past).getD []⟩ := by
  have hany : th.now.awaiting.any Call.isQuery = false := by
    simpa [Option.any_eq_false] using hcall
  simp [MapRun.moved, hm, hany, hlatest]

/-- Another thread's move leaves the latest one's reply alone. -/
theorem Moves.reply_eq (hm : Moves page r i th p) (hr : r.Sound page) (hlatest : r.latest ≠ some i)
    (late : List Document) : (⟨p, r.latest, late⟩ : MapRun).reply = r.reply := by
  cases hl : r.latest with
  | none => simp [MapRun.reply, hl]
  | some j =>
    obtain ⟨th', hth', -⟩ := hr.latest j hl
    have hne : j ≠ i := fun hji => hlatest (hl.trans (congrArg some hji))
    simp [MapRun.reply, hl, hm.others j th' hne hth', hth']

theorem Moves.latest_of_other (hm : Moves page r i th p) (hr : r.Sound page)
    (hlatest : r.latest ≠ some i)
    (hcategory : (p.state.map page).selectedCategory = (r.pool.state.map page).selectedCategory) :
    ∀ j, r.latest = some j → ∃ th', p.threads[j]? = some th' ∧
      Latest (p.state.map page).selectedCategory th' := by
  intro j hj
  obtain ⟨th', hth', hl⟩ := hr.latest j hj
  refine ⟨th', hm.others j th' (fun hji => hlatest (hj.trans (congrArg some hji))) hth', ?_⟩
  rw [hcategory]
  exact hl

/-- Every move of a thread keeps the invariant. -/
theorem MapRun.Sound.moved (hr : r.Sound page) (hm : Moves page r i th p) :
    (r.moved i p).Sound page := by
  cases hm.move with
  -- nothing has come late for a query that has just been issued
  | issued category hreply hcall hpage =>
    rw [MapRun.moved_of_query hm.thread hcall]
    refine ⟨hm.ok, ⟨[], [], rfl, ?_⟩, fun j hj => ?_, fun h => by cases h⟩
    · rw [reply_of_latest (r := ⟨p, some i, []⟩) rfl hm.thread, hreply]
      show (p.state.map page).Holds []
      rw [hpage]
      exact ⟨rfl, rfl⟩
    · obtain rfl := Option.some.inj hj
      refine ⟨th, hm.thread, .waiting ?_ hreply⟩
      show th.now.awaiting = some (.getEvents (categoryFilter (p.state.map page).selectedCategory))
      rw [hpage]
      exact hcall
  | arrived filter documents markers hlast hmatches hmarkers hcall hpage =>
    have hquery : ∀ c, th.now.awaiting = some c → c.isQuery = false := by simp [hcall]
    have hreply := queryReply_of_getLast hlast
    have hcategory : (p.state.map page).selectedCategory =
        (r.pool.state.map page).selectedCategory := by rw [hpage]; rfl
    by_cases hlatest : r.latest = some i
    · -- the reply to the latest query comes after all that came late
      rw [MapRun.moved_latest hm.thread hquery hlatest]
      obtain ⟨hnone, documents', hlast'⟩ := hm.was hlatest
      refine ⟨hm.ok, ⟨r.late, [], (List.append_nil _).symm, ?_⟩, fun j hj => ?_,
        fun h => by rw [hlatest] at h; cases h⟩
      · rw [reply_of_latest (r := ⟨p, r.latest, r.late⟩) hlatest hm.thread, hreply,
          Option.getD_some, List.append_nil]
        show (p.state.map page).Holds _
        rw [hpage]
        exact (hr.holds_late hnone).append hmarkers
      · obtain rfl := Option.some.inj (hlatest.symm.trans hj)
        refine ⟨th, hm.thread, .done documents hcall hreply fun d hd => ?_⟩
        obtain ⟨rfl, -⟩ : filter = categoryFilter (r.pool.state.map page).selectedCategory ∧
            documents = documents' := by
          rw [hlast] at hlast'
          simpa using hlast'
        rw [hcategory]
        exact hmatches d hd
    -- the reply to another query is one more late one
    · rw [MapRun.moved_other hm.thread hquery hlatest, hreply, Option.getD_some]
      obtain ⟨before, after, hlate, hholds⟩ := hr.lists
      refine ⟨hm.ok, ⟨before, after ++ documents, by rw [hlate, List.append_assoc], ?_⟩,
        hm.latest_of_other hr hlatest hcategory, fun h => hcategory.trans (hr.first h)⟩
      rw [hm.reply_eq hr hlatest, ← List.append_assoc]
      show (p.state.map page).Holds _
      rw [hpage]
      exact hholds.append hmarkers
  | still hreply hcall hpage =>
    by_cases hlatest : r.latest = some i
    -- the latest query cannot be answered by a move that appends nothing
    · obtain ⟨-, documents, hlast⟩ := hm.was hlatest
      rw [queryReply_of_getLast hlast] at hreply
      cases hreply
    · rw [MapRun.moved_other hm.thread hcall hlatest, hreply, Option.getD_none, List.append_nil]
      refine ⟨hm.ok, ?_, hm.latest_of_other hr hlatest (by rw [hpage]),
        fun h => (congrArg MapPage.selectedCategory hpage).trans (hr.first h)⟩
      rw [hm.reply_eq hr hlatest]
      show ∃ before after, _ ∧ (p.state.map page).Holds _
      rw [hpage]
      exact hr.lists

/-! ## Runs -/

/-- What a start does, as a move of the new thread. -/
theorem moves_begin (hr : r.Sound page) {o : MapOperation}
    (hs : r.pool.state.mounted page = true) (ho : o = .initialLoad ↔ r.latest = none) :
    ∃ th, Moves page r r.pool.threads.length th
      (r.pool.start o (o.routine ⟨r.pool.threads.length, page⟩)) := by
  have hmeets := @MapOperation.meets ⟨r.pool.threads.length, page⟩ _ o hs fun h => hr.first (ho.mp h)
  have hlt : ∀ j th', r.pool.threads[j]? = some th' → j < r.pool.threads.length := fun j th' hth' =>
    (List.getElem?_eq_some_iff.mp hth').1
  refine ⟨_, hr.ok.start hmeets fun _ _ _ _ _ _ _ => trivial, List.getElem?_concat_length,
    fun j th' _ hth' => ?_, hmeets.advance.1, fun hlatest => ?_⟩
  · rw [Pool.start, List.getElem?_append_left (hlt j th' hth')]
    exact hth'
  · obtain ⟨th', hth', -⟩ := hr.latest _ hlatest
    exact absurd (hlt _ th' hth') (lt_irrefl _)

/-- What an answer does, as a move of the thread it is for. -/
theorem moves_answer (hr : r.Sound page) {e : Answered remote}
    (hs : r.pool.state.mounted page = true) (he : QueryAnswer e.call e.reply)
    (hans : r.pool.answer (mapEnv page) i e = some p) : ∃ th, Moves page r i th p := by
  obtain ⟨th, t, hth, hawait, -, hmove, -, hthreads⟩ := hr.ok.answer_cases hans ⟨hs, he⟩
  refine ⟨{ th with past := th.past ++ [e], now := t },
    hr.ok.answer hans ⟨hs, he⟩ fun _ _ _ _ _ _ _ => trivial, ?_, fun j th' hj hth' => ?_, hmove,
    fun hlatest => ?_⟩
  · rw [hthreads, List.getElem?_set_self (List.getElem?_eq_some_iff.mp hth).1]
  · rw [hthreads, List.getElem?_set_ne (Ne.symm hj)]
    exact hth'
  · obtain ⟨th', hth', hl⟩ := hr.latest i hlatest
    obtain rfl := Option.some.inj (hth.symm.trans hth')
    cases hl with
    | waiting hcall hreply =>
      obtain ⟨c, reply⟩ := e
      obtain rfl := Option.some.inj (hawait.symm.trans hcall)
      obtain ⟨documents, rfl, -⟩ := he
      exact ⟨(reply_of_latest hlatest hth).trans hreply, documents, by simp⟩
    | done documents hcall _ _ =>
      rw [hawait] at hcall
      cases hcall

theorem sound_step {a : MapAction} (hr : r.Sound page) (ha : a.WellAnswered r)
    (hstep : mapStep page r a = some r') : r'.Sound page := by
  unfold mapStep at hstep
  split at hstep
  · rename_i hs
    cases a with
    | begin o =>
      simp only at hstep
      split at hstep
      · rename_i ho
        obtain rfl := Option.some.inj hstep
        obtain ⟨th, hm⟩ := moves_begin hr hs ho
        exact hr.moved hm
      · cases hstep
    | answer i e =>
      obtain ⟨p, hp, rfl⟩ := Option.map_eq_some_iff.mp hstep
      obtain ⟨th, hm⟩ := moves_answer hr hs ha hp
      exact hr.moved hm
    | around globals routes =>
      simp only at hstep
      split at hstep
      · obtain rfl := Option.some.inj hstep
        exact ⟨hr.ok.update fun _ _ _ _ _ _ _ => trivial, hr.lists, hr.latest, hr.first⟩
      · cases hstep
  · cases hstep

/-- The invariant holds in every reachable state. -/
theorem sound_run {as : List MapAction} (hw : MapOpened page w)
    (hanswers : Along (mapStep page) MapAction.WellAnswered (.opened w) as)
    (hrun : run (mapStep page) (.opened w) as = some r) : r.Sound page :=
  run_invariant (fun _ _ _ hr ha hstep => sound_step hr ha hstep) (sound_opened hw) hanswers hrun

/-! ## What is shown when no query is outstanding -/

theorem mapM_eventMarker_data {documents : List Document} {markers : List Marker}
    (h : documents.mapM eventMarker = .ok markers) :
    markers.map (·.data) = documents.map (·.data) :=
  map_eq_of_forall₂ (mapM_eq_ok_iff.mp h) fun _ _ => eventMarker_data

theorem MapPage.Holds.shows {m : MapPage} {documents : List Document} (h : m.Holds documents)
    (hmatches : ∀ document ∈ documents, document.Matches (categoryFilter m.selectedCategory)) :
    m.Shows documents where
  markers := ⟨_, h.markers, .refl _⟩
  datas := by
    rw [h.datas, mapM_eventMarker_data h.markers]
  category marker hmarker hcategory := by
    have hdata : marker.data ∈ documents.map (·.data) := by
      rw [← mapM_eventMarker_data h.markers]
      exact List.mem_map_of_mem hmarker
    obtain ⟨document, hdocument, hdata⟩ := List.mem_map.mp hdata
    rw [← hdata]
    exact (hmatches document hdocument).1 _ (by rw [categoryFilter, if_neg hcategory])

theorem MapPage.Holds.length {m : MapPage} {documents : List Document} (h : m.Holds documents) :
    m.allEventMarkers.length = documents.length := by
  simpa using congrArg List.length (mapM_eventMarker_data h.markers)

theorem MapPage.Shows.length {m : MapPage} {documents : List Document} (h : m.Shows documents) :
    m.allEventMarkers.length = documents.length := by
  obtain ⟨markers, hmarkers, hperm⟩ := h.markers
  rw [hperm.length_eq]
  simpa using congrArg List.length (mapM_eventMarker_data hmarkers)

/-- **With no query outstanding, the Map page shows the reply to its latest query if and only if
no document has come late.** -/
theorem latest_load_shown {page : ℕ} {w : World} {as : List MapAction} {r : MapRun}
    (hw : MapOpened page w)
    (hanswers : Along (mapStep page) MapAction.WellAnswered (.opened w) as)
    (hrun : run (mapStep page) (.opened w) as = some r) (hquiet : r.Quiet)
    (hlatest : r.latest ≠ none) : r.ShowsLatest page ↔ r.late = [] := by
  have hr := sound_run hw hanswers hrun
  obtain ⟨i, hi⟩ := Option.ne_none_iff_exists'.mp hlatest
  obtain ⟨th, hth, hl⟩ := hr.latest i hi
  cases hl with
  -- it would still be outstanding
  | waiting hcall _ =>
    exact absurd ⟨th, List.mem_of_getElem? hth, _, hcall, rfl⟩ hquiet
  | done documents _ hreply hmatches =>
    rw [← reply_of_latest hi hth] at hreply
    obtain ⟨before, after, hlate, hholds⟩ := hr.lists
    rw [hreply, Option.getD_some] at hholds
    constructor
    · rintro ⟨documents', hreply', hshows⟩
      obtain rfl := Option.some.inj (hreply.symm.trans hreply')
      -- the page holds the late documents too, so its length alone tells them
      have hlength := hholds.length.symm.trans hshows.length
      rw [List.length_append, List.length_append] at hlength
      rw [hlate, ← List.length_eq_zero_iff, List.length_append]
      omega
    · intro hnone
      rw [hnone] at hlate
      obtain ⟨rfl, rfl⟩ := List.append_eq_nil_iff.mp hlate.symm
      rw [List.nil_append, List.append_nil] at hholds
      exact ⟨documents, hreply, hholds.shows hmatches⟩

/-- A stored event with the fields a load looks at. -/
def storedEvent (id category : String) : Document :=
  ⟨id, [("category", .scalar (.string category)), ("location", .scalar (.geoPoint ⟨1, 2⟩)),
    ("image_files", .array []), ("status", .scalar (.int 1))]⟩

def queryAnswer (category : Option String) (documents : List Document) : Answered remote :=
  ⟨.getEvents category, (.ok documents : Except Fault (List Document))⟩

theorem storedEvent_readable (id category : String) : (storedEvent id category).Readable :=
  ⟨⟨[], rfl, by simp⟩, ⟨1, 2⟩, rfl⟩

/-- Stored events of the category asked for, here with their ids and categories, answer a query. -/
theorem queryAnswer_stored {category : Option String} (events : List (String × String))
    (hcategory : ∀ e ∈ events, ∀ c, category = some c → e.2 = c)
    (hids : (events.map Prod.fst).Nodup) :
    QueryAnswer (.getEvents category)
      (.ok (events.map fun e => storedEvent e.1 e.2) : Except Fault (List Document)) := by
  refine ⟨_, rfl, fun d hd => ?_, ?_⟩
  · obtain ⟨e, he, rfl⟩ := List.mem_map.mp hd
    refine ⟨storedEvent_readable e.1 e.2, fun c hc => ?_, rfl⟩
    rw [← hcategory e he c hc]
    rfl
  · rw [List.map_map]
    exact hids

theorem mapOpened (date : DateTime) : MapOpened 0 (.mapOpened date) := ⟨rfl, rfl⟩

/-- A filter is chosen while the load of `initState` is pending; both are answered, in order. Then
another filter is chosen. -/
def threeLoads : List MapAction :=
  [.begin .initialLoad, .begin (.selectFilter 1),
    .answer 0 (queryAnswer none [storedEvent "a" "1", storedEvent "b" "2", storedEvent "c" "2"]),
    .answer 1 (queryAnswer (some "1") [storedEvent "a" "1"]),
    .begin (.selectFilter 2),
    .answer 2 (queryAnswer (some "2") [storedEvent "b" "2", storedEvent "c" "2"])]

/-- The last load forgets what has come late before it. -/
theorem latest_load_shown_after_overlap :
    ∃ r, run (mapStep 0) (.opened (.mapOpened ⟨2020, 1, 1⟩)) threeLoads = some r ∧
      r.ShowsLatest 0 := by
  refine ⟨_, rfl, (@latest_load_shown 0 _ threeLoads _ (mapOpened ⟨2020, 1, 1⟩) ?_ rfl
    (by decide) (by decide)).mpr rfl⟩
  exact ⟨trivial, trivial,
    queryAnswer_stored [("a", "1"), ("b", "2"), ("c", "2")] (by simp) (by decide),
    queryAnswer_stored [("a", "1")] (by simp) (by decide), trivial,
    queryAnswer_stored [("b", "2"), ("c", "2")] (by simp) (by decide), trivial⟩

/-- A filter is chosen while the load of `initState` is pending, and answered first: then the
events of all categories come on top of those of the one selected. -/
theorem overlapping_loads_mix :
    ¬∀ (page : ℕ) (w : World) (as : List MapAction) (r : MapRun), MapOpened page w →
      Along (mapStep page) MapAction.WellAnswered (.opened w) as →
      run (mapStep page) (.opened w) as = some r → r.Quiet → r.latest ≠ none →
      r.ShowsLatest page := by
  intro hall
  have hshows := hall 0 (.mapOpened ⟨2020, 1, 1⟩)
    [.begin .initialLoad, .begin (.selectFilter 1),
      .answer 1 (queryAnswer (some "1") [storedEvent "a" "1"]),
      .answer 0 (queryAnswer none [storedEvent "a" "1", storedEvent "b" "2"])]
    _ (mapOpened ⟨2020, 1, 1⟩) ?_ rfl (by decide) (by decide)
  · obtain ⟨documents, hreply, hshows⟩ := hshows
    have hlength := hshows.length
    -- one document was asked for, three are shown
    obtain rfl : [storedEvent "a" "1"] = documents := Option.some.inj hreply
    exact absurd hlength (by decide)
  · exact ⟨trivial, trivial, queryAnswer_stored [("a", "1")] (by simp) (by decide),
      queryAnswer_stored [("a", "1"), ("b", "2")] (by simp) (by decide), trivial⟩

end FloodUp
