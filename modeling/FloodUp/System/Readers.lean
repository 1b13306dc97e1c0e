import FloodUp.System.Board

/-!
# What the Map pages show of the collection

A query is looked up at some moment between its issue and its answer, and its reply is put on the
page that asked, whatever else the phone does meanwhile. So every marker on any phone stands for a
report that was posted by a press of Publish (`markers_are_reports`), and a report that was there when a
query was issued is shown when the query is answered, unless a moderator has changed its
status (`stored_report_is_shown`).
-/

namespace FloodUp

open Async

/-! ## The contract of a routine that may read -/

/-- The documents of a reply can all be turned into markers. -/
def QueryReadable : (c : Call) → Reply c → World → Prop
  | .getEvents _, .ok documents, _ => ∃ markers, documents.mapM eventMarker = .ok markers
  | _, _, _ => True

/-- What one segment of the routine of `me` does to the Map pages: nothing, it empties the lists of
its own page, or it appends the markers of the documents that have arrived and takes the
progress away. -/
inductive ReadMove (me : Caller) (h : List (Answered remote)) (s : World) (s' : World) : Prop where
  | kept (hreply : queryReply h = none ∨ s.mounted me.page = false) (hmap : s'.map = s.map)
  | emptied (m : MapPage) (hreply : queryReply h = none) (hnone : m.allEventMarkers = [])
    (hmap : s'.map = Function.update s.map me.page m)
  | shown (filter : Option String) (documents : List Document) (markers : List Marker)
    (hlast : h.getLast? = some ⟨.getEvents filter, (.ok documents : Except Fault (List Document))⟩)
    (hmarkers : documents.mapM eventMarker = .ok markers)
    (hmap : s'.map = Function.update s.map me.page
      ((s.map me.page).append (documents.map (·.data)) markers))
    (hlog : ∃ removed, s'.log = s.log ++ [.hideProgress me.op removed])

def AppRoutine.isMap : AppRoutine → Bool
  | .map _ => true
  | _ => false

/-- Only the routines of a Map page issue queries, and they do so when its lists are empty. -/
def readContract (tag : Started) : Contract remote World Thrown Unit where
  holds _ c _ := c.isQuery = true → tag.routine.isMap = true
  moves h s c s' := ReadMove tag.me h s s' ∧ ∀ category, c = some (.getEvents category) →
    (s'.map tag.me.page).allEventMarkers = []
  ends _ _ := True

/-! ## Routines that do not read -/

def World.SameMap (w w' : World) : Prop := w'.map = w.map

theorem World.SameMap.trans (w₁ w₂ w₃ : World) (h₁ : w₁.SameMap w₂) (h₂ : w₂.SameMap w₃) :
    w₁.SameMap w₃ :=
  Eq.trans h₂ h₁

theorem sameMap_of_sameData (w w' : World) (h : w.SameData w') : w.SameMap w' := h.map

theorem answered_map (c : Call) (r : Reply c) (w : World) : w.SameMap (World.answered c r w) := by
  unfold World.SameMap World.answered
  split <;> rfl

def Call.IsNoQuery (c : Call) : Prop := c.isQuery = false

theorem Call.OfAccount.isNoQuery {c : Call} (hc : c.OfAccount) : c.IsNoQuery := by
  cases c <;> first | rfl | exact hc.elim

theorem queryReply_of_call {h : List (Answered remote)} {e : Answered remote}
    (hlast : h.getLast? = some e) (he : e.call.IsNoQuery) : queryReply h = none := by
  obtain ⟨c, r⟩ := e
  unfold queryReply
  rw [hlast]
  cases c <;> first | rfl | cases he

variable {tag : Started} {me : Caller} {h : List (Answered remote)} {s₀ s s' : World}

/-- A segment that is no answer to a query and leaves the Map pages alone. -/
theorem readMove_kept (hlast : ∀ e, h.getLast? = some e → e.call.IsNoQuery) (hmap : s.SameMap s') :
    ReadMove me h s s' := by
  refine .kept (.inl ?_) hmap
  cases hlast' : h.getLast? with
  | none => simp [queryReply, hlast']
  | some e => exact queryReply_of_call hlast' (hlast e hlast')

/-- Such a segment keeps the contract, whatever it stops at but a query. -/
theorem read_kept {c : Option Call} (hlast : ∀ e, h.getLast? = some e → e.call.IsNoQuery)
    (hmap : s.SameMap s') (hc : ∀ c', c = some c' → c'.IsNoQuery) :
    (readContract tag).moves h s c s' := by
  refine ⟨readMove_kept hlast hmap, fun category hquery => ?_⟩
  cases hc _ hquery

theorem unread_meets {t : Dart Unit} (ht : t.Within World.SameMap Call.IsNoQuery) (s : World) :
    t.Meets ⟨World.answered, QueryReadable⟩ (readContract tag) (readContract tag).final [] s s := by
  apply ht.meets_calls World.SameMap.trans
  · intro h c s hc hquery
    rw [hc] at hquery
    cases hquery
  · intro h s c s' hlast hs hc
    apply read_kept hlast hs
    intro c' hc'
    rw [← Option.some.inj hc']
    exact hc
  · intro c r s _
    exact answered_map c r s
  · simp
  · rfl
  · intro h s₀ r s hlast hs
    exact ⟨read_kept hlast hs (by simp), trivial⟩

/-- `PublishEvent` asks for no events. -/
theorem publish_reads (htag : tag.routine.isMap = false) (s₀ : World) :
    PublishRules QueryReadable (readContract tag) me s₀ := by
  have hanswered : ∀ h (e : Answered remote) s s' c, (readContract tag).holds h e.call s →
      World.SameData (World.answered e.call e.reply s) s' →
      (∀ c', c = some c' → c'.IsNoQuery) → (readContract tag).moves (h ++ [e]) s c s' := by
    intro h e s s' c hholds hs hc
    refine read_kept (fun e' he' => ?_) (hs.map.trans (answered_map _ _ _)) hc
    rw [List.getLast?_concat, Option.some.injEq] at he'
    subst he'
    cases hquery : e.call.isQuery with
    | false => exact hquery
    | true =>
      rw [hholds hquery] at htag
      cases htag
  -- a segment on the way to the add, after the answer `e`
  have hway : ∀ h (e : Answered remote) (s s' : World) c, h.getLast? = some e → e.call.IsNoQuery →
      s'.map = s.map → (∀ c', c = some c' → c'.IsNoQuery) → (readContract tag).moves h s c s' := by
    intro h e s s' c hlast he hmap hc
    refine read_kept (fun e' he' => ?_) hmap hc
    rw [hlast, Option.some.injEq] at he'
    exact he' ▸ he
  have hput : ∀ (path : String) (file : File) c', some (Call.putFile path file) = some c' →
      c'.IsNoQuery := by
    rintro path file c' ⟨⟩
    rfl
  have hadd : ∀ (document : Data) c', some (Call.addEvent document) = some c' → c'.IsNoQuery := by
    rintro document c' ⟨⟩
    rfl
  constructor
  case refuse => exact fun r s hs _ => ⟨read_kept (by simp) hs.map (by simp), trivial⟩
  case locate =>
    intro s hs _
    refine ⟨read_kept (by simp) hs.map ?_, fun h => by cases h⟩
    rintro c ⟨⟩
    rfl
  case notify =>
    intro h e c s s' hc hholds _ hs
    refine ⟨hanswered h e s s' _ hholds hs ?_, fun h => ?_⟩
    · rintro c' ⟨⟩
      cases hc <;> rfl
    · cases hc <;> cases h
  case quit =>
    exact fun h e r s s' hholds _ hs _ => ⟨hanswered h e s s' _ hholds hs (by simp), trivial⟩
  case add_first =>
    exact fun t _ hdone _ =>
      ⟨hway _ _ _ _ _ (Trail.getLast_history hdone) rfl rfl (hadd _), fun h => by cases h⟩
  case put_first =>
    exact fun t file _ hdone _ =>
      ⟨hway _ _ _ _ _ (Trail.getLast_history hdone) rfl rfl (hput _ _), fun h => by cases h⟩
  case link =>
    intro t u s _ _ _
    refine ⟨hway _ _ _ _ _ List.getLast?_concat rfl rfl ?_, fun h => by cases h⟩
    rintro c' ⟨⟩
    rfl
  case put_next =>
    exact fun t u url file s _ _ _ _ _ _ =>
      ⟨hway _ _ _ _ _ (t.getLast_history_snoc u url) rfl rfl (hput _ _), fun h => by cases h⟩
  case add_last =>
    exact fun t u url s _ _ _ _ _ _ =>
      ⟨hway _ _ _ _ _ (t.getLast_history_snoc u url) rfl rfl (hadd _), fun h => by cases h⟩
  case abort =>
    exact fun t u url s _ _ _ _ _ =>
      ⟨hway _ _ _ _ _ (t.getLast_history_snoc u url) rfl rfl (by simp), trivial⟩

/-! ## The load -/

theorem log_hideProgress (op : ℕ) (w : World) :
    ∃ removed, (w.hideProgress op).log = w.log ++ [.hideProgress op removed] := by
  unfold World.hideProgress
  split
  · exact ⟨_, rfl⟩
  · split
    · refine ⟨w.topmost, ?_⟩
      have hpop : (w.pop none).log = w.log := by
        unfold World.pop
        split <;> rfl
      show (w.pop none).log ++ _ = _
      rw [hpop]
    · exact ⟨_, rfl⟩

/-- `LoadWeatherEvents`, in a segment that has changed the page of the caller at most. -/
theorem loadWeatherEvents_reads {category : ℕ} (htag : tag.routine.isMap = true)
    (hreply : queryReply h = none)
    (hs : ∃ m, s.map = Function.update s₀.map tag.me.page m) :
    (loadWeatherEvents tag.me category).Meets ⟨World.answered, QueryReadable⟩ (readContract tag)
      (readContract tag).final h s₀ s := by
  obtain ⟨m, hm⟩ := hs
  unfold loadWeatherEvents
  simp only [Routine.bind_eq, Routine.meets_bind, Routine.meets_modify]
  have hempty : (s.setMap tag.me.page fun m => { m with eventDatas := [], allEventMarkers := [] }).map =
      Function.update s₀.map tag.me.page
        { s.map tag.me.page with eventDatas := [], allEventMarkers := [] } := by
    show Function.update s.map tag.me.page _ = _
    rw [hm, Function.update_idem]
  refine meets_showProgress fun r s₁ hs₁ _ => ?_
  have hlists : s₁.map = _ := hs₁.map.trans hempty
  have hemptied : ReadMove tag.me h s₀ s₁ := .emptied _ hreply rfl hlists
  cases r with
  | error e => exact ⟨⟨hemptied, by simp⟩, trivial⟩
  | ok _ =>
    simp only [getEvents, meets_remoteCall]
    refine ⟨⟨hemptied, fun _ _ => ?_⟩, fun _ => htag, fun s₂ reply _ hreadable => ?_⟩
    · rw [hlists, Function.update_self]
    cases reply with
    -- nothing handles a query that fails
    | error f => exact ⟨⟨.kept (.inl (by simp [queryReply])) rfl, by simp⟩, trivial⟩
    | ok documents =>
      obtain ⟨markers, hmarkers⟩ := hreadable
      simp only [Except.mapError, id_eq]
      by_cases hmounted : s₂.mounted tag.me.page = true
      · have hshown : ∀ s₃ : World, s₃.log = s₂.log → s₃.map = Function.update s₂.map tag.me.page
            ((s₂.map tag.me.page).append (documents.map (·.data)) markers) →
            (hideProgress tag.me).Meets ⟨World.answered, QueryReadable⟩ (readContract tag)
              (readContract tag).final (h ++ [⟨.getEvents (categoryFilter category),
                (.ok documents : Except Fault (List Document))⟩]) s₂ s₃ := by
          intro s₃ hlog hmap
          obtain ⟨removed, hremoved⟩ := log_hideProgress tag.me.op s₃
          refine ⟨⟨.shown _ documents markers List.getLast?_concat hmarkers ?_ ⟨removed, ?_⟩,
            by simp⟩, trivial⟩
          · rw [(s₃.sameData_hideProgress tag.me.op).map, hmap]
          · rw [hremoved, hlog]
        -- an empty reply skips `ProcessEvents` but leaves the page the same
        by_cases hnone : documents = []
        · rw [if_neg (not_not.mpr hnone)]
          subst hnone
          obtain rfl : [] = markers := Except.ok.inj hmarkers
          exact hshown s₂ rfl (by simp)
        · rw [if_pos hnone, Routine.meets_bind]
          exact (processEvents_runs hmounted hmarkers).meets.mpr (hshown _ rfl rfl)
      · -- the page is gone, and its context with it
        have hgone : ∀ s₃, s₂.SameMap s₃ → (readContract tag).moves (h ++
            [⟨.getEvents (categoryFilter category), (.ok documents : Except Fault (List Document))⟩])
            s₂ none s₃ := fun s₃ hmap => ⟨.kept (.inr (by simpa using hmounted)) hmap, by simp⟩
        by_cases hnone : documents = []
        · rw [if_neg (not_not.mpr hnone)]
          exact meets_hideProgress fun s₃ hsame => ⟨hgone s₃ hsame.map, trivial⟩
        · rw [if_pos hnone, Routine.meets_bind]
          have hfails : (processEvents tag.me documents).Runs s₂ (.error .noSuchMethod) s₂ :=
            (withContext_runs_gone (by simpa using hmounted)).bind_error
          exact hfails.meets.mpr ⟨hgone s₂ rfl, trivial⟩

/-- The operations of a Map page. -/
theorem MapOperation.reads (o : MapOperation) (htag : tag.routine.isMap = true) (s : World) :
    (o.routine tag.me).Meets ⟨World.answered, QueryReadable⟩ (readContract tag)
      (readContract tag).final [] s s := by
  cases o with
  | initialLoad =>
    exact loadWeatherEvents_reads htag rfl ⟨_, (Function.update_eq_self tag.me.page s.map).symm⟩
  | selectFilter index =>
    show (FloodUp.selectFilter tag.me index).Meets _ _ _ _ _ _
    unfold FloodUp.selectFilter
    simp only [Routine.bind_eq, Routine.meets_bind, Routine.meets_modify]
    exact loadWeatherEvents_reads htag rfl ⟨_, rfl⟩
  | addButton =>
    show (FloodUp.addButton tag.me).Meets _ _ _ _ _ _
    unfold FloodUp.addButton
    simp only [Routine.bind_eq, Routine.meets_bind, Routine.meets_get]
    have hstays : ∀ {s' : World} {c : Option Call}, s'.map = s.map →
        (∀ c', c = some c' → c'.IsNoQuery) → (readContract tag).moves [] s c s' :=
      fun hmap hc => read_kept (by simp) hmap hc
    by_cases hin : s.globals.bLoggedIn = true
    · rw [if_pos hin]
      simp only [navigatorPush, Routine.bind_eq, Routine.meets_bind, meets_withContext,
        Routine.meets_get, Routine.meets_modify, Routine.pure_eq, Routine.meets_pure, ask,
        Routine.meets_await]
      split
      · refine ⟨hstays rfl (by rintro c' ⟨⟩; rfl), fun h => (by cases h), fun s' result _ _ => ?_⟩
        by_cases hresult : result = none
        · simp only [hresult, ne_eq, not_true_eq_false, if_false, Routine.meets_pure]
          exact ⟨read_kept (by simp [Call.IsNoQuery, Call.isQuery]) rfl (by simp), trivial⟩
        · simp only [ne_eq, hresult, not_false_eq_true, if_true, Routine.meets_bind, Routine.meets_get]
          exact loadWeatherEvents_reads htag rfl ⟨_, (Function.update_eq_self tag.me.page _).symm⟩
      · exact ⟨hstays rfl (by simp), trivial⟩
    · rw [if_neg hin]
      simp only [navigatorPushAndRemoveUntilFirst, Routine.bind_eq, Routine.meets_bind,
        meets_withContext, Routine.meets_modify]
      split <;> exact ⟨hstays rfl (by simp), trivial⟩

theorem promised_read : Promised QueryReadable readContract where
  holds _ _ _ _ _ h := h
  meets tag s := by
    obtain ⟨routine, me⟩ := tag
    cases routine with
    | publish r =>
      cases r with
      | publishEvent => exact publishEvent_meets (publish_reads rfl s)
      | getCurAddress =>
        exact unread_meets (within_getCurAddress me (fun _ _ _ => rfl) fun _ => rfl) s
      | getImage => exact unread_meets (within_getImage me (fun _ _ _ => rfl) rfl) s
    | map o => exact o.reads rfl s
    | account o =>
      exact unread_meets (o.within sameMap_of_sameData (fun _ _ => rfl) (fun _ _ _ => rfl)
        (fun _ hc => hc.isNoQuery) me) s

/-! ## Markers and queries -/

/-- The report as it was posted, before any moderator has seen it. -/
def PublishedEvent.posted (e : PublishedEvent) : PublishedEvent := { e with status := .scalar (.int 1) }

def Stored.posted (x : Stored) : Stored := { x with status := .scalar (.int 1) }

/-- The marker has been made of a document of the collection. -/
def Marker.From (store : List Stored) (marker : Marker) : Prop :=
  ∃ x ∈ store, eventMarker x.posted.document = .ok marker

/-- All that is stored are reports. -/
def Reports (store : List Stored) : Prop := ∀ x ∈ store, ∃ e : PublishedEvent, x = e.stored

/-- The documents of the reply are stored reports, and those the query must find are among them. -/
structure Query.Sound (store : List Stored) (q : Query) : Prop where
  asked : ∀ x ∈ q.asked, x ∈ store
  reply : ∀ documents, q.reply = some documents →
    ∀ document ∈ documents, ∃ x ∈ store, document = x.posted.document
  complete : ∀ documents, q.reply = some documents →
    ∀ x ∈ q.asked, x.document.Matches q.category → x.document ∈ documents

/-- What holds of the queries and the Map pages of a phone in every reachable state. -/
structure Device.Reads (store : List Stored) (d : Device) : Prop where
  ok : d.pool.Ok ⟨World.answered, QueryReadable⟩ fun tag _ => readContract tag
  query : ∀ i q, d.query i = some q → q.Sound store
  markers : ∀ page, ∀ marker ∈ (d.pool.state.map page).allEventMarkers, marker.From store

variable {store store' : List Stored} {d : Device} {p' : DevicePool} {a : DeviceAction}

/-- A report that is found is visible, as it was when it was posted. -/
theorem posted_of_matches {x : Stored} {category : Option String} (hstore : Reports store)
    (hx : x ∈ store) (hmatches : x.document.Matches category) : x.posted = x := by
  obtain ⟨e, rfl⟩ := hstore x hx
  have hstatus : e.document.data.get "status" = .scalar (.int 1) := hmatches.2
  rw [e.get_status] at hstatus
  unfold Stored.posted
  rw [← hstatus]
  rfl

/-- Every stored report can be read. -/
theorem eventMarker_posted (hstore : Reports store) {x : Stored} (hx : x ∈ store) :
    ∃ marker, eventMarker x.posted.document = .ok marker ∧
      ∀ locale, marker.Of locale x.posted.document := by
  obtain ⟨e, rfl⟩ := hstore x hx
  obtain ⟨marker, hmarker, -⟩ := e.posted.marker .en
  refine ⟨marker, hmarker, fun locale => ?_⟩
  obtain ⟨marker', hmarker', hof, -⟩ := e.posted.marker locale
  rw [hmarker, Except.ok.injEq] at hmarker'
  rw [hmarker']
  exact hof

theorem readMove_markers (hmove : ReadMove me h s s')
    (hs : ∀ page, ∀ marker ∈ (s.map page).allEventMarkers, marker.From store)
    (hreply : ∀ filter documents, h.getLast? =
      some ⟨.getEvents filter, (.ok documents : Except Fault (List Document))⟩ →
      ∀ document ∈ documents, ∃ x ∈ store, document = x.posted.document) :
    ∀ page, ∀ marker ∈ (s'.map page).allEventMarkers, marker.From store := by
  intro page marker hmarker
  cases hmove with
  | kept _ hmap =>
    rw [hmap] at hmarker
    exact hs page marker hmarker
  | emptied m _ hnone hmap =>
    rw [hmap] at hmarker
    by_cases hpage : page = me.page
    · subst hpage
      rw [Function.update_self, hnone] at hmarker
      cases hmarker
    · rw [Function.update_of_ne hpage] at hmarker
      exact hs page marker hmarker
  | shown filter documents markers hlast hmarkers hmap _ =>
    rw [hmap] at hmarker
    by_cases hpage : page = me.page
    · subst hpage
      rw [Function.update_self] at hmarker
      rcases List.mem_append.mp hmarker with hold | hnew
      · exact hs _ marker hold
      · -- the marker of a document of the reply
        obtain ⟨document, hdocument, hmade⟩ :=
          exists_of_forall₂ (mapM_eq_ok_iff.mp hmarkers).flip marker hnew
        obtain ⟨x, hx, rfl⟩ := hreply filter documents hlast document hdocument
        exact ⟨x, hx, hmade⟩
    · rw [Function.update_of_ne hpage] at hmarker
      exact hs page marker hmarker

theorem Device.send_query (store : List Stored) (d : Device) (i j : ℕ) (c : Option Call) :
    (d.send store i c).query j = d.query j ∨
      ∃ category, j = i ∧ c = some (.getEvents category) ∧
        (d.send store i c).query j = some ⟨category, store, none⟩ := by
  rcases c with _ | c
  · exact .inl rfl
  · cases c with
    | getEvents category =>
      by_cases hj : j = i
      · subst hj
        exact .inr ⟨category, rfl, rfl, Function.update_self ..⟩
      · exact .inl (Function.update_of_ne hj ..)
    | _ => exact .inl rfl

theorem Device.send_query_other (store : List Stored) (d : Device) {i j : ℕ} (c : Option Call)
    (hj : j ≠ i) : (d.send store i c).query j = d.query j := by
  rcases Device.send_query store d i j c with hsame | ⟨-, hi, -⟩
  · exact hsame
  · exact absurd hi hj

theorem Device.Reads.moved {i : ℕ} {c : Option Call} (hd : d.Reads store)
    (hok : p'.Ok ⟨World.answered, QueryReadable⟩ fun tag _ => readContract tag)
    (hmap : s.map = d.pool.state.map) (hmove : ReadMove me h s p'.state)
    (hreply : ∀ filter documents, h.getLast? =
      some ⟨.getEvents filter, (.ok documents : Except Fault (List Document))⟩ →
      ∀ document ∈ documents, ∃ x ∈ store, document = x.posted.document) :
    (({ d with pool := p' } : Device).send store i c).Reads store where
  ok := by
    rw [Device.send_pool]
    exact hok
  query j q hq := by
    rcases Device.send_query store { d with pool := p' } i j c with hsame | ⟨category, -, -, hnew⟩
    · rw [hsame] at hq
      exact hd.query j q hq
    · rw [hnew, Option.some.injEq] at hq
      subst hq
      exact ⟨fun x hx => hx, by simp, by simp⟩
  markers := by
    rw [Device.send_pool]
    apply readMove_markers hmove _ hreply
    rw [hmap]
    exact hd.markers

/-- The reply the collection gives to the query of thread `i`. -/
def Device.Replied (d : Device) (i : ℕ) (documents : List Document) : Prop :=
  ((d.query i).bind fun q => q.reply) = some documents

theorem Device.Reads.replied {i : ℕ} {documents : List Document} (hd : d.Reads store)
    (hreplied : d.Replied i documents) :
    ∀ document ∈ documents, ∃ x ∈ store, document = x.posted.document := by
  obtain ⟨q, hq, hreply⟩ := Option.bind_eq_some_iff.mp hreplied
  exact (hd.query i q hq).reply documents hreply

/-- What the collection answers can be read. -/
theorem Device.Reads.readable {i : ℕ} {e : Answered remote} (hd : d.Reads store)
    (hstore : Reports store) (hallows : ∀ filter documents,
      e = ⟨.getEvents filter, (.ok documents : Except Fault (List Document))⟩ → d.Replied i documents) :
    QueryReadable e.call e.reply d.pool.state := by
  obtain ⟨c, r⟩ := e
  cases c with
  | getEvents filter =>
    cases r with
    | error f => trivial
    | ok documents =>
      have hreplied := hd.replied (hallows filter documents rfl)
      show ∃ markers, documents.mapM eventMarker = .ok markers
      rw [mapM_ok_iff]
      intro document hdocument
      obtain ⟨x, hx, rfl⟩ := hreplied document hdocument
      obtain ⟨marker, hmarker, -⟩ := eventMarker_posted hstore hx
      exact ⟨marker, hmarker⟩
  | _ => trivial

/-- **One action on a phone**: what its Map pages show is still all from the collection. -/
theorem Device.Reads.after (hd : d.Reads store) (hstore : Reports store)
    (hallows : ∀ i e, a = .answer i e → ∀ filter documents,
      e = ⟨.getEvents filter, (.ok documents : Except Fault (List Document))⟩ → d.Replied i documents)
    (hstep : deviceStep d.pool a = some p') : (d.after store a p').Reads store := by
  have hreadable : ∀ i e, a = .answer i e → QueryReadable e.call e.reply d.pool.state :=
    fun i e ha => hd.readable hstore (hallows i e ha)
  obtain ⟨hok, hchange⟩ := deviceStep_changes promised_read hd.ok hreadable hstep
  cases hchange with
  | outside hmoved hstate hthreads =>
    rw [Device.after_outside hmoved]
    refine ⟨hok, hd.query, fun page marker hmarker => ?_⟩
    have hmap : p'.state.map = d.pool.state.map := hstate.map
    rw [hmap] at hmarker
    exact hd.markers page marker hmarker
  | started s threads th hmoved hstate hold hthreads hpast hpress hmove =>
    have hth : p'.threads[threads.length]? = some th := by
      rw [hthreads]
      exact List.getElem?_concat_length
    rw [Device.after_moved hmoved hth]
    exact hd.moved hok hstate.map hmove.1 (by simp)
  | answered i e th t ha hth hawait hthreads hmove =>
    have hlt := (List.getElem?_eq_some_iff.mp hth).1
    have hth' : p'.threads[i]? = some { th with past := th.past ++ [e], now := t } := by
      rw [hthreads, List.getElem?_set_self hlt]
    have hmoved : a.moved d.pool = some i := by rw [ha]; rfl
    rw [Device.after_moved hmoved hth']
    apply hd.moved hok rfl hmove.1
    intro filter documents hlast
    rw [List.getLast?_concat, Option.some.injEq] at hlast
    subst hlast
    exact hd.replied (hallows i _ ha filter documents rfl)

/-! ## All phones -/

/-- Everything stored is a report, and all that the phones show is stored. -/
structure Board.Reads (f : Board) : Prop where
  refines : ∃ es, f.Refines es
  device : ∀ n, (f.device n).Reads f.store

variable {f f' : Board}

theorem Board.Refines.reports {es : List PublishedEvent} (hf : f.Refines es) : Reports f.store := by
  intro x hx
  rw [hf.store] at hx
  obtain ⟨e, -, rfl⟩ := List.mem_map.mp hx
  exact ⟨e, rfl⟩

/-- The collection has all its documents still, but for their status. -/
theorem Device.Reads.mono {query : ℕ → Option Query} (hd : d.Reads store)
    (hstore : ∀ x ∈ store, ∃ x' ∈ store', x'.posted = x.posted)
    (hquery : ∀ i q, query i = some q → q.Sound store') :
    ({ d with query } : Device).Reads store' where
  ok := hd.ok
  query := hquery
  markers page marker hmarker := by
    obtain ⟨x, hx, hmade⟩ := hd.markers page marker hmarker
    obtain ⟨x', hx', hsame⟩ := hstore x hx
    exact ⟨x', hx', hsame ▸ hmade⟩

theorem posted_moderated (id : String) (status : Value) (x : Stored) :
    (x.moderated id status).posted = x.posted := by
  unfold Stored.moderated
  split <;> rfl

theorem Query.Sound.grown {q : Query} (hq : q.Sound store) (x : Stored) :
    q.Sound (store ++ [x]) where
  asked y hy := List.mem_append_left _ (hq.asked y hy)
  reply documents hdocuments document hdocument := by
    obtain ⟨y, hy, hsame⟩ := hq.reply documents hdocuments document hdocument
    exact ⟨y, List.mem_append_left _ hy, hsame⟩
  complete := hq.complete

theorem Query.Sound.moderated {q : Query} (hq : q.Sound store) (id : String) (status : Value) :
    (q.moderated id).Sound (store.map (Stored.moderated id status)) where
  asked x hx := by
    obtain ⟨hx, hid⟩ := List.mem_filter.mp hx
    have hsame : x.moderated id status = x := if_neg (by simpa using hid)
    rw [← hsame]
    exact List.mem_map_of_mem (hq.asked x hx)
  reply documents hdocuments document hdocument := by
    obtain ⟨x, hx, rfl⟩ := hq.reply documents hdocuments document hdocument
    exact ⟨_, List.mem_map_of_mem hx, by rw [posted_moderated]⟩
  complete documents hdocuments x hx := hq.complete documents hdocuments x (List.mem_of_mem_filter hx)

/-- The collection looks a query up: it finds what is stored at that moment. -/
theorem Query.Sound.looked {q : Query} {reply : List Document} (hq : q.Sound store)
    (hstore : Reports store) (hreply : reply.Perm (found store q.category)) :
    ({ q with reply := some reply } : Query).Sound store where
  asked := hq.asked
  reply documents hdocuments document hdocument := by
    obtain rfl := Option.some.inj hdocuments
    obtain ⟨hmem, hmatches⟩ := List.mem_filter.mp (hreply.mem_iff.mp hdocument)
    obtain ⟨x, hx, rfl⟩ := List.mem_map.mp hmem
    refine ⟨x, hx, ?_⟩
    rw [posted_of_matches hstore hx (of_decide_eq_true hmatches)]
  complete documents hdocuments x hx hmatches := by
    obtain rfl := Option.some.inj hdocuments
    apply hreply.mem_iff.mpr
    exact List.mem_filter.mpr ⟨List.mem_map_of_mem (hq.asked x hx), decide_eq_true hmatches⟩

theorem Board.Reads.step {a : BoardAction} (hf : f.Reads) (hstep : boardStep f a = some f') :
    f'.Reads := by
  obtain ⟨es, hes⟩ := hf.refines
  have hrefines : ∃ es', f'.Refines es' := by
    obtain ⟨-, es', -, hes', -⟩ := boardStep_refines hes hstep
    exact ⟨es', hes'⟩
  refine ⟨hrefines, ?_⟩
  cases a with
  | act n a =>
    obtain ⟨hallows, p, hp, rfl⟩ := act_eq_some hstep
    refine Board.forall_setDevice ((hf.device n).after hes.reports ?_ hp) hf.device
    rintro i e rfl filter documents rfl
    exact hallows
  | take n k id =>
    obtain ⟨document, -, -, rfl⟩ := take_eq_some hstep
    have hgrown : ∀ m, (f.device m).Reads (f.store ++ [⟨id, document, document.get "status"⟩]) :=
      fun m => (hf.device m).mono (fun x hx => ⟨x, List.mem_append_left _ hx, rfl⟩) fun i q hq =>
        ((hf.device m).query i q hq).grown _
    exact Board.forall_setDevice { hgrown n with } hgrown
  | look n i reply =>
    obtain ⟨q, hq, hlooked, rfl⟩ := look_eq_some hstep
    refine Board.forall_setDevice ?_ hf.device
    refine (hf.device n).mono (fun x hx => ⟨x, hx, rfl⟩) fun j q' hq' => ?_
    by_cases hj : j = i
    · subst hj
      rw [Function.update_self, Option.some.injEq] at hq'
      subst hq'
      exact ((hf.device n).query j q hq).looked hes.reports hlooked
    · rw [Function.update_of_ne hj] at hq'
      exact (hf.device n).query j q' hq'
  | moderate id status =>
    obtain rfl := Option.some.inj hstep
    intro m
    refine (hf.device m).mono (fun x hx => ?_) fun j q' hq' => ?_
    · exact ⟨_, List.mem_map_of_mem hx, posted_moderated id status x⟩
    · obtain ⟨q, hq, rfl⟩ := Option.map_eq_some_iff.mp hq'
      exact ((hf.device m).query j q hq).moderated id status

variable {n i : ℕ} {th : Thread remote World Thrown Started} {category : Option String} {x : Stored}

/-- Every action keeps the contract of a routine that may read. -/
theorem Board.Reads.changes (hf : f.Reads) (hallows : f.Allows n a)
    (hstep : deviceStep (f.device n).pool a = some p') :
    DeviceChange readContract (f.device n).pool a p' := by
  obtain ⟨es, hes⟩ := hf.refines
  refine (deviceStep_changes promised_read (hf.device n).ok ?_ hstep).2
  rintro j e rfl
  apply (hf.device n).readable hes.reports
  rintro filter documents rfl
  exact hallows

end FloodUp
