import FloodUp.Async.Simulation
import FloodUp.System.Attribution
import FloodUp.System.Frames
import FloodUp.Publish.Form

/-!
# Many phones and one collection

Every phone runs the whole app; what the users have in common is the collection `events`. A
phone's documents wait in its outbox until the collection takes them, queries are looked up at any
moment until they are answered, and moderators change the status of what is stored. Each step of
this system is one of `bulletinStep`, or none: the collection is a list of reports, each posted by a
press of Publish, and `board_refines` says that no press posts more than one.
-/

namespace FloodUp

open Async

/-! ## One phone -/

def PublishRoutine.routine (me : Caller) : PublishRoutine → Dart Unit
  | .publishEvent => FloodUp.publishEvent me
  | .getCurAddress => FloodUp.getCurAddress me
  | .getImage => FloodUp.getImage me

def AppRoutine.routine (me : Caller) : AppRoutine → Dart Unit
  | .publish r => r.routine me
  | .map o => o.routine me
  | .account o => o.routine me

/-- A routine of the app, started by a page. -/
structure Started where
  routine : AppRoutine
  me : Caller
deriving DecidableEq, Repr

/-- The routines of one phone, with the world they share. -/
abbrev DevicePool : Type := Pool remote World Thrown Started

/-- A press of Publish. -/
def AppRoutine.isPress : AppRoutine → Bool
  | .publish .publishEvent => true
  | _ => false

/-- What can happen on a phone. -/
inductive DeviceAction where
  /-- The app is started, as a new process. -/
  | launch
  | begin (r : AppRoutine) (page : ℕ)
  /-- A Publish page that has been opened makes its state. -/
  | initState (page : ℕ) (date : DateTime)
  | edit (page : ℕ) (e : Edit)
  | pickLocation (page : ℕ) (result : String)
  /-- Anything that happens on the screen. -/
  | around (routes : List Route)
  | setClock (millis : ℤ)
  | answer (i : ℕ) (e : Answered remote)

/-- Start a routine under the next number. -/
def beginRoutine (r : AppRoutine) (page : ℕ) (p : DevicePool) : DevicePool :=
  p.start ⟨r, ⟨p.threads.length, page⟩⟩ (r.routine ⟨p.threads.length, page⟩)

/-- One action on a phone. -/
def deviceStep (p : DevicePool) : DeviceAction → Option DevicePool
  -- the routines of the old process are gone with its globals, and nobody sees its pages again
  | .launch => some (beginRoutine (.account .isLoggedIn) 0 ⟨{ p.state with globals := {} }, []⟩)
  | .begin r page => some (beginRoutine r page p)
  | .initState page date =>
    if p.state.ShowsPublish page then
      some (beginRoutine (.publish .getCurAddress) page
        (p.update fun w => w.setPublish page fun _ => .opened date))
    else none
  | .edit page e => some (p.update fun w => w.setPublish page e.apply)
  | .pickLocation page result =>
    some (p.update fun w => w.setPublish page fun q => { q with textLocation := result })
  | .around routes => some (p.update fun w => { w with routes })
  | .setClock millis => some (p.update fun w => { w with clock := millis })
  | .answer i e => p.answer anyEnv i e

/-- The thread that an action has moved. -/
def DeviceAction.moved (p : DevicePool) : DeviceAction → Option ℕ
  | .launch => some 0
  | .begin _ _ => some p.threads.length
  | .initState _ _ => some p.threads.length
  | .answer i _ => some i
  | _ => none

/-! ## The collection -/

/-- A document of the collection: what was written, and the status it has been given since. -/
structure Stored where
  documentID : String
  written : Data
  status : Value
deriving DecidableEq

/-- The document a query gives out: as it was written, with the status it has now. -/
def Stored.document (x : Stored) : Document where
  documentID := x.documentID
  data := x.written.map fun field => if field.1 = "status" then ("status", x.status) else field

instance (category : Option String) (document : Document) :
    Decidable (document.Matches category) :=
  decidable_of_iff ((category.all fun c => document.data.get "category" = .scalar (.string c)) = true ∧
    document.data.get "status" = .scalar (.int 1)) (by
      unfold Document.Matches
      cases category <;> simp)

/-- A query on its way: the documents stored when it was issued whose status has not changed since,
and the reply once the collection has looked it up. -/
structure Query where
  category : Option String
  asked : List Stored
  reply : Option (List Document)

/-- A phone, with what it has sent to the collection and not been answered yet. -/
structure Device where
  pool : DevicePool
  /-- Documents that have been added and not been taken yet. -/
  outbox : List Data
  /-- The queries, by the thread that waits for the reply. -/
  query : ℕ → Option Query

/-- All phones and the collection `events`. -/
structure Board where
  device : ℕ → Device
  store : List Stored

/-- What a phone has sent when thread `i` has stopped at `c`. -/
def Device.send (store : List Stored) (d : Device) (i : ℕ) : Option Call → Device
  | some (.addEvent document) => { d with outbox := d.outbox ++ [document] }
  | some (.getEvents category) =>
    { d with query := Function.update d.query i (some ⟨category, store, none⟩) }
  | _ => d

/-- The phone after an action that has led to the pool `p`. -/
def Device.after (store : List Stored) (d : Device) (a : DeviceAction) (p : DevicePool) : Device :=
  match a.moved d.pool with
  | some i => { d with pool := p }.send store i (p.threads[i]?.bind fun th => th.now.awaiting)
  | none => { d with pool := p }

/-- The collection answers with what it has done: an add with the id of the document it has
stored, a query with what it has looked up. A call may fail at any time. -/
def Board.Replies (f : Board) (n i : ℕ) : (c : Call) → Reply c → Prop
  | .addEvent data, .ok id => ∃ x ∈ f.store, x.documentID = id ∧ x.written = data
  | .getEvents _, .ok documents =>
    (((f.device n).query i).bind fun q => q.reply) = some documents
  | _, _ => True

instance (f : Board) (n i : ℕ) (c : Call) (r : Reply c) : Decidable (f.Replies n i c r) := by
  unfold Board.Replies
  split <;> infer_instance

/-- An answer is the collection's own; nothing else asks for its leave. -/
def Board.Allows (f : Board) (n : ℕ) : DeviceAction → Prop
  | .answer i e => f.Replies n i e.call e.reply
  | _ => True

instance (f : Board) (n : ℕ) (a : DeviceAction) : Decidable (f.Allows n a) := by
  unfold Board.Allows
  split <;> infer_instance

/-- What can happen to the phones and the collection. -/
inductive BoardAction where
  /-- Something happens on phone `n`. -/
  | act (n : ℕ) (a : DeviceAction)
  /-- The collection takes document `k` of the outbox of phone `n` and gives it an id. -/
  | take (n k : ℕ) (id : String)
  /-- The collection looks up the query of thread `i` of phone `n`. -/
  | look (n i : ℕ) (reply : List Document)
  /-- A moderator gives a document a new status. -/
  | moderate (id : String) (status : Value)

/-- Replace one phone. -/
def Board.setDevice (f : Board) (n : ℕ) (d : Device) : Board :=
  { f with device := Function.update f.device n d }

/-- The document with this id is no longer among those a query must find. -/
def Query.moderated (id : String) (q : Query) : Query :=
  { q with asked := q.asked.filter fun x => x.documentID ≠ id }

def Device.moderated (id : String) (d : Device) : Device :=
  { d with query := fun i => (d.query i).map (Query.moderated id) }

/-- The document has the new status, if it is the one with this id. -/
def Stored.moderated (id : String) (status : Value) (x : Stored) : Stored :=
  if x.documentID = id then { x with status } else x

/-- The documents of the collection that a query asks for. -/
def found (store : List Stored) (category : Option String) : List Document :=
  (store.map (·.document)).filter fun document => document.Matches category

/-- Document `k` has left the outbox. -/
def Device.taken (k : ℕ) (d : Device) : Device := { d with outbox := d.outbox.eraseIdx k }

/-- The query of thread `i` has its reply. -/
def Device.looked (i : ℕ) (q : Query) (reply : List Document) (d : Device) : Device :=
  { d with query := Function.update d.query i (some { q with reply := some reply }) }

/-- One action on the phones and the collection. -/
def boardStep (f : Board) : BoardAction → Option Board
  | .act n a =>
    if f.Allows n a then
      (deviceStep (f.device n).pool a).map fun p =>
        f.setDevice n ((f.device n).after f.store a p)
    else none
  | .take n k id =>
    match (f.device n).outbox[k]? with
    | some document =>
      -- ids are not used twice
      if ∀ x ∈ f.store, x.documentID ≠ id then
        some { f.setDevice n ((f.device n).taken k) with
          store := f.store ++ [⟨id, document, document.get "status"⟩] }
      else none
    | none => none
  | .look n i reply =>
    match (f.device n).query i with
    | some q =>
      if q.reply = none ∧ reply.Perm (found f.store q.category) then
        some (f.setDevice n ((f.device n).looked i q reply))
      else none
    | none => none
  | .moderate id status =>
    some ⟨fun n => (f.device n).moderated id, f.store.map (Stored.moderated id status)⟩

/-! ## The bulletin -/

/-- A report that the app may post: visible, at a place, with ratings there are. -/
structure PublishedEvent.Proper (e : PublishedEvent) : Prop where
  position : e.position ≠ noLocation
  form : e.form.Chosen
  status : e.status = .scalar (.int 1)

instance (e : PublishedEvent) : Decidable e.Proper :=
  decidable_of_iff (e.position ≠ noLocation ∧ e.form.Chosen ∧ e.status = .scalar (.int 1))
    ⟨fun h => ⟨h.1, h.2.1, h.2.2⟩, fun h => ⟨h.position, h.form, h.status⟩⟩

/-- What users and moderators do to the bulletin. -/
inductive BulletinAction where
  | post (author : ℕ) (e : PublishedEvent)
  | moderate (id : String) (status : Value)

/-- The report has the new status, if it is the one with this id. -/
def PublishedEvent.moderated (id : String) (status : Value) (e : PublishedEvent) : PublishedEvent :=
  if e.documentID = id then { e with status } else e

/-- What the app is for: a list of reports that users add to and moderators watch over. -/
def bulletinStep (es : List PublishedEvent) : BulletinAction → Option (List PublishedEvent)
  | .post _ e =>
    if e.Proper ∧ ∀ e' ∈ es, e'.documentID ≠ e.documentID then some (es ++ [e]) else none
  | .moderate id status => some (es.map (PublishedEvent.moderated id status))

/-- A report as it is stored. -/
def PublishedEvent.stored (e : PublishedEvent) : Stored where
  documentID := e.documentID
  written := eventDocument e.globals e.form e.position
  status := e.status

/-- The reports of one author. -/
def BulletinAction.posts (n : ℕ) : BulletinAction → ℕ
  | .post author _ => if author = n then 1 else 0
  | .moderate _ _ => 0

/-- The presses of Publish on one phone. -/
def BoardAction.presses (n : ℕ) : BoardAction → ℕ
  | .act m (.begin r _) => if m = n ∧ r.isPress = true then 1 else 0
  | _ => 0

/-- Every Publish page has choices only that can be made. -/
def World.FormsOk (w : World) : Prop := ∀ page, (w.publish page).Chosen

/-- A phone on which the app has never run. -/
structure Device.Fresh (d : Device) : Prop where
  threads : d.pool.threads = []
  outbox : d.outbox = []
  query : ∀ i, d.query i = none
  forms : d.pool.state.FormsOk
  events : d.pool.state.events = []
  markers : ∀ page, (d.pool.state.map page).allEventMarkers = []

/-! ## The contract of a routine that may post -/

/-- The document is one that a press of Publish makes of a form. -/
def IsReport (document : Data) : Prop :=
  ∃ globals form position, form.Chosen ∧ position ≠ noLocation ∧
    document = eventDocument globals form position

def Call.IsAdd : Call → Prop
  | .addEvent _ => True
  | _ => False

/-- What one segment does to the forms and the documents added; only a `PublishEvent` comes to an
add, and only from a call before it. -/
structure PostMove (press : Bool) (h : List (Answered remote)) (s : World) (c : Option Call)
    (s' : World) : Prop where
  forms : s.FormsOk → s'.FormsOk
  events : ∀ document ∈ s'.events, document ∈ s.events ∨
    ∃ id, h.getLast? = some ⟨.addEvent document, (.ok id : Except Fault String)⟩
  report : s.FormsOk → ∀ document, c = some (.addEvent document) → IsReport document
  posting : ∀ c', c = some c' → c'.BeforeAdd ∨ c'.IsAdd →
    press = true ∧ h = [] ∧ c'.BeforeAdd ∨ ∃ e, h.getLast? = some e ∧ e.call.BeforeAdd

/-- Every segment of a routine is a `PostMove`; nothing is relied on in between. -/
def postContract (press : Bool) : Contract remote World Thrown Unit where
  holds _ _ _ := True
  moves h s c s' := PostMove press h s c s'
  ends _ _ := True

/-! ## Forms -/

/-- A page may be written if its choices stay possible ones. -/
theorem World.FormsOk.setPublish {w : World} (hw : w.FormsOk) {page : ℕ}
    {f : PublishPage → PublishPage} (hf : (w.publish page).Chosen → (f (w.publish page)).Chosen) :
    (w.setPublish page f).FormsOk := by
  intro page'
  show (Function.update w.publish page (f (w.publish page)) page').Chosen
  by_cases hpage : page' = page
  · subst hpage
    rw [Function.update_self]
    exact hf (hw page')
  · rw [Function.update_of_ne hpage]
    exact hw page'

/-- The forms stay possible ones, and no document is added. -/
structure World.SameReports (w w' : World) : Prop where
  forms : w.FormsOk → w'.FormsOk
  events : w'.events = w.events

namespace World.SameReports

theorem refl (w : World) : w.SameReports w := ⟨id, rfl⟩

theorem trans (w₁ w₂ w₃ : World) (h₁ : w₁.SameReports w₂) (h₂ : w₂.SameReports w₃) :
    w₁.SameReports w₃ :=
  ⟨h₂.forms ∘ h₁.forms, h₂.events.trans h₁.events⟩

/-- The forms have not been touched. -/
theorem of_publish {w w' : World} (hpublish : w'.publish = w.publish)
    (hevents : w'.events = w.events) : w.SameReports w' := by
  refine ⟨fun hw page => ?_, hevents⟩
  rw [hpublish]
  exact hw page

/-- Changes of the screen leave the reports alone. -/
theorem of_sameData (w w' : World) (h : w.SameData w') : w.SameReports w' :=
  of_publish h.publish h.events

/-- So do changes of a form to what can be chosen. -/
theorem setPublish (w : World) (page : ℕ) {f : PublishPage → PublishPage}
    (hf : ∀ p : PublishPage, p.Chosen → (f p).Chosen) : w.SameReports (w.setPublish page f) :=
  ⟨fun hw => hw.setPublish (hf _), rfl⟩

/-- An answer that is not to an add. -/
theorem answered {c : Call} (hc : ¬c.IsAdd) (r : Reply c) (w : World) :
    w.SameReports (World.answered c r w) := by
  apply of_publish (World.answered_publish c r w)
  unfold World.answered
  split <;> first | rfl | exact absurd trivial hc

end World.SameReports

/-! ## Routines other than `PublishEvent` -/

/-- A call that no report depends on. -/
def Call.IsIdle (c : Call) : Prop := ¬c.BeforeAdd ∧ ¬c.IsAdd

variable {press : Bool} {h : List (Answered remote)} {s s' : World}

/-- A segment that adds nothing and comes to no call of a press. -/
theorem postMove_idle {c : Option Call} (hs : s.SameReports s')
    (hc : ∀ c', c = some c' → c'.IsIdle) : PostMove press h s c s' where
  forms := hs.forms
  events document hdocument := .inl (hs.events ▸ hdocument)
  report _ document hcall := absurd trivial (hc _ hcall).2
  posting c' hcall hpost := by
    have hidle := hc c' hcall
    rcases hpost with hbefore | hadd
    · exact absurd hbefore hidle.1
    · exact absurd hadd hidle.2

/-- A routine that leaves the reports alone keeps the contract, press or not. -/
theorem idle_meets {t : Dart Unit} (ht : t.Within World.SameReports Call.IsIdle) (s : World) :
    t.Meets anyEnv (postContract press) (postContract press).final [] s s := by
  apply ht.meets_calls World.SameReports.trans (fun _ _ _ _ => trivial)
  · intro h s c s' _ hs hc
    apply postMove_idle hs
    intro c' hc'
    rw [← Option.some.inj hc']
    exact hc
  · intro c r s hc
    exact .answered hc.2 r s
  · simp
  · exact .refl s
  · intro h s₀ r s _ hs
    exact ⟨postMove_idle hs (by simp), trivial⟩

theorem Call.OfMap.isIdle {c : Call} (hc : c.OfMap) : c.IsIdle := by
  cases c <;> first | exact ⟨id, id⟩ | exact hc.elim

theorem Call.OfAccount.isIdle {c : Call} (hc : c.OfAccount) : c.IsIdle := by
  cases c <;> first | exact ⟨id, id⟩ | exact hc.elim

/-! ## `PublishEvent` -/

/-- The documents added when a call has been answered. -/
theorem mem_answered_events {e : Answered remote} {document : Data}
    (hdocument : document ∈ (World.answered e.call e.reply s).events) :
    document ∈ s.events ∨
      ∃ id, (h ++ [e]).getLast? = some ⟨.addEvent document, (.ok id : Except Fault String)⟩ := by
  by_cases hadd : e.call.IsAdd
  · obtain ⟨c, r⟩ := e
    cases c with
    | addEvent data =>
      cases r with
      | error f => exact .inl hdocument
      | ok id =>
        rcases List.mem_append.mp hdocument with hold | hnew
        · exact .inl hold
        · obtain rfl := List.mem_singleton.mp hnew
          exact .inr ⟨id, by simp⟩
    | _ => exact hadd.elim
  · left
    rw [(World.SameReports.answered hadd e.reply s).events] at hdocument
    exact hdocument

/-- A segment of a press that only shows something, whatever was answered before it. -/
theorem postMove_answered {e : Answered remote} {c : Option Call}
    (hs : World.SameData (World.answered e.call e.reply s) s')
    (hc : ∀ c', c = some c' → c'.IsIdle) : PostMove press (h ++ [e]) s c s' where
  forms hforms page := by
    rw [hs.publish, World.answered_publish]
    exact hforms page
  events document hdocument := by
    rw [hs.events] at hdocument
    exact mem_answered_events hdocument
  report _ document hcall := absurd trivial (hc _ hcall).2
  posting c' hcall hpost := by
    have hidle := hc c' hcall
    rcases hpost with hbefore | hadd
    · exact absurd hbefore hidle.1
    · exact absurd hadd hidle.2

/-- A segment on the way to the add, after an answer to a call on that way. -/
theorem postMove_onTheWay {e : Answered remote} {c : Call} (he : h.getLast? = some e)
    (hbefore : e.call.BeforeAdd) (hs : s.SameReports s')
    (hreport : s.FormsOk → ∀ document, c = .addEvent document → IsReport document) :
    PostMove press h s (some c) s' where
  forms := hs.forms
  events _ hdocument := .inl (hs.events ▸ hdocument)
  report hforms document hcall := hreport hforms document (Option.some.inj hcall)
  posting _ _ _ := .inr ⟨e, he, hbefore⟩

/-- A URL that is noted on the page changes no choice. -/
theorem sameReports_addUrl (page : ℕ) (path url : String) (s : World) :
    s.SameReports (s.addUrl page path url) :=
  .trans _ { s with links := s.links ++ [(path, url)] } _ (.of_publish rfl rfl)
    (.setPublish _ page fun _ hp => ⟨hp.category, hp.climate, hp.upload, hp.bother⟩)

/-- What a press makes of a form with possible choices, at a place that was found, is a report. -/
theorem isReport_document {page : ℕ} {loc : LatLng} (hforms : s.FormsOk) (hloc : loc ≠ noLocation) :
    IsReport (s.document page loc) :=
  ⟨s.globals, s.publish page, loc, hforms page, hloc, rfl⟩

theorem Trail.getLast_history {t : Trail} (h : t.done = []) :
    t.history.getLast? = some ⟨.placemarkFromAddress t.address, t.reply⟩ := by
  simp [Trail.history_of_nil h]

theorem Trail.getLast_history_snoc (t : Trail) (u : Upload) (url : String) :
    (t.snoc u url).history.getLast? =
      some ⟨.getDownloadURL u.path, (.ok url : Except Fault String)⟩ := by
  rw [Trail.history_snoc]
  simp [uploadAnswers]

/-- `PublishEvent` keeps the contract, rule by rule. -/
theorem post_rules (me : Caller) (s₀ : World) :
    PublishRules (fun _ _ _ => True) (postContract true) me s₀ where
  refuse r s hs _ := ⟨postMove_idle (.of_sameData _ _ hs) (by simp), trivial⟩
  locate s hs _ := by
    have hsame := World.SameReports.of_sameData _ _ hs
    refine ⟨⟨hsame.forms, fun document hdocument => .inl (hsame.events ▸ hdocument), by simp, ?_⟩,
      trivial⟩
    rintro c ⟨⟩ -
    exact .inl ⟨rfl, rfl, trivial⟩
  notify h e c s s' hc _ _ hs := by
    refine ⟨postMove_answered hs ?_, trivial⟩
    rintro c' ⟨⟩
    cases hc <;> exact ⟨id, id⟩
  quit h e r s s' _ _ hs _ := ⟨postMove_answered hs (by simp), trivial⟩
  add_first t ht hdone _ := by
    refine ⟨postMove_onTheWay (Trail.getLast_history hdone) trivial (.refl _) ?_, trivial⟩
    rintro hforms document ⟨⟩
    exact isReport_document hforms ht.place
  put_first t file _ hdone _ := by
    refine ⟨postMove_onTheWay (Trail.getLast_history hdone) trivial ?_ (by simp), trivial⟩
    refine .trans _ (t.start.clearUrls me.page) _ (.setPublish _ me.page fun _ hp => ?_)
      (.of_publish rfl rfl)
    exact ⟨hp.category, hp.climate, hp.upload, hp.bother⟩
  link t u s _ _ _ :=
    ⟨postMove_onTheWay List.getLast?_concat trivial (.of_publish rfl rfl) (by simp), trivial⟩
  put_next t u url file s _ _ _ _ _ _ := by
    refine ⟨postMove_onTheWay (t.getLast_history_snoc u url) trivial ?_ (by simp), trivial⟩
    exact .trans _ (s.addUrl me.page u.path url) _ (sameReports_addUrl me.page u.path url s)
      (.of_publish rfl rfl)
  add_last t u url s ht _ _ _ _ _ := by
    have hsame := sameReports_addUrl me.page u.path url s
    refine ⟨postMove_onTheWay (t.getLast_history_snoc u url) trivial hsame ?_, trivial⟩
    rintro hforms document ⟨⟩
    exact isReport_document (hsame.forms hforms) ht.place
  abort t u url s _ _ _ _ _ :=
    ⟨postMove_idle (sameReports_addUrl me.page u.path url s) (by simp), trivial⟩

/-- Every routine of the app keeps the contract. -/
theorem AppRoutine.posts (r : AppRoutine) (me : Caller) (s : World) :
    (r.routine me).Meets anyEnv (postContract r.isPress) (postContract r.isPress).final [] s s := by
  cases r with
  | publish r =>
    cases r with
    | publishEvent => exact publishEvent_meets (post_rules me s)
    | getCurAddress =>
      refine idle_meets (within_getCurAddress me (fun w page text => ?_) fun _ => ⟨id, id⟩) s
      exact .setPublish w page fun _ hp => ⟨hp.category, hp.climate, hp.upload, hp.bother⟩
    | getImage =>
      refine idle_meets (within_getImage me (fun w page image => ?_) ⟨id, id⟩) s
      exact .setPublish w page fun _ hp => ⟨hp.category, hp.climate, hp.upload, hp.bother⟩
  | map o =>
    refine idle_meets (o.within .of_sameData (fun w page f => ?_) (fun _ hc => hc.isIdle) me) s
    exact .of_publish rfl rfl
  | account o =>
    refine idle_meets (o.within .of_sameData (fun w globals => ?_) (fun w page f => ?_)
      (fun _ hc => hc.isIdle) me) s
    · exact .of_publish rfl rfl
    · exact .of_publish rfl rfl

/-! ## What an action does to a phone -/

/-- A change that no routine has made: the forms stay possible ones, no document is added, the
Map pages stay as they are, and so do the globals, unless the process is a new one. -/
structure World.Outside (w w' : World) : Prop where
  reports : w.SameReports w'
  map : w'.map = w.map
  globals : w'.globals = w.globals ∨ w'.globals = {}

/-- A contract for each routine, kept wherever it is started, that relies on nothing in the state. -/
structure Promised (adm : (c : Call) → Reply c → World → Prop)
    (K : Started → Contract remote World Thrown Unit) : Prop where
  holds : ∀ tag h c s s', (K tag).holds h c s → (K tag).holds h c s'
  meets : ∀ (tag : Started) s, (tag.routine.routine tag.me).Meets ⟨World.answered, adm⟩ (K tag)
    (K tag).final [] s s

/-- The action is a press of Publish. -/
def DeviceAction.isPress : DeviceAction → Bool
  | .begin r _ => r.isPress
  | _ => false

/-- The ways an action changes a phone. -/
inductive DeviceChange (K : Started → Contract remote World Thrown Unit) (p : DevicePool)
    (a : DeviceAction) (p' : DevicePool) : Prop where
  | outside (hmoved : a.moved p = none) (hstate : p.state.Outside p'.state)
    (hthreads : p'.threads = p.threads)
  | started (s : World) (threads) (th : Thread remote World Thrown Started)
    (hmoved : a.moved p = some threads.length) (hstate : p.state.Outside s)
    (hold : threads = p.threads ∨ a = .launch ∧ threads = []) (hthreads : p'.threads = threads ++ [th])
    (hpast : th.past = []) (hpress : th.tag.routine.isPress = a.isPress)
    (hmove : (K th.tag).moves [] s th.now.awaiting p'.state)
  | answered (i : ℕ) (e : Answered remote) (th : Thread remote World Thrown Started)
    (t : Routine remote World Thrown Unit) (ha : a = .answer i e) (hth : p.threads[i]? = some th)
    (hawait : th.now.awaiting = some e.call)
    (hthreads : p'.threads = p.threads.set i { th with past := th.past ++ [e], now := t })
    (hmove : (K th.tag).moves (th.past ++ [e]) p.state t.awaiting p'.state)

variable {adm : (c : Call) → Reply c → World → Prop}
  {K : Started → Contract remote World Thrown Unit} {p p' : DevicePool} {a : DeviceAction}

/-- No other routine can disturb a promise that relies on nothing. -/
theorem Promised.undisturbed (hK : Promised adm K) (p : DevicePool) (s : World) (j : Option ℕ) :
    p.Undisturbed (fun tag _ => K tag) s j :=
  fun _ th c _ _ _ hholds => hK.holds th.tag th.past c p.state s hholds

/-- A routine is started after a change from outside. -/
theorem started_change (hK : Promised adm K) {r : AppRoutine} {page : ℕ} {s : World}
    {threads : List (Thread remote World Thrown Started)}
    (hok : (⟨s, threads⟩ : DevicePool).Ok ⟨World.answered, adm⟩ fun tag _ => K tag)
    (hmoved : a.moved p = some threads.length) (hstate : p.state.Outside s)
    (hold : threads = p.threads ∨ a = .launch ∧ threads = []) (hpress : r.isPress = a.isPress) :
    (beginRoutine r page ⟨s, threads⟩).Ok ⟨World.answered, adm⟩ (fun tag _ => K tag) ∧
      DeviceChange K p a (beginRoutine r page ⟨s, threads⟩) := by
  have hmeets := hK.meets ⟨r, ⟨threads.length, page⟩⟩ s
  refine ⟨hok.start hmeets (hK.undisturbed _ _ _), ?_⟩
  exact .started s threads _ hmoved hstate hold rfl rfl hpress hmeets.advance.1

/-- Every action on a phone is one of these changes, and keeps the contracts of its routines. -/
theorem deviceStep_changes (hK : Promised adm K)
    (hok : p.Ok ⟨World.answered, adm⟩ fun tag _ => K tag)
    (hadm : ∀ i e, a = .answer i e → adm e.call e.reply p.state)
    (hstep : deviceStep p a = some p') :
    p'.Ok ⟨World.answered, adm⟩ (fun tag _ => K tag) ∧ DeviceChange K p a p' := by
  have hchosen : ∀ page {f : PublishPage → PublishPage}, (∀ q : PublishPage, q.Chosen → (f q).Chosen) →
      p.state.Outside (p.state.setPublish page f) := fun page f hf =>
    ⟨.setPublish _ page hf, rfl, .inl rfl⟩
  have hupdate : ∀ s, p.state.Outside s → a.moved p = none →
      (⟨s, p.threads⟩ : DevicePool).Ok ⟨World.answered, adm⟩ (fun tag _ => K tag) ∧
        DeviceChange K p a ⟨s, p.threads⟩ := fun s hs hmoved =>
    ⟨hok.stable (hK.undisturbed _ _ _), .outside hmoved hs rfl⟩
  cases a with
  | launch =>
    obtain rfl := Option.some.inj hstep
    exact started_change hK (Pool.ok_of_threads_nil rfl) rfl ⟨.of_publish rfl rfl, rfl, .inr rfl⟩
      (.inr ⟨rfl, rfl⟩) rfl
  | begin r page =>
    obtain rfl := Option.some.inj hstep
    exact started_change hK hok rfl ⟨.refl _, rfl, .inl rfl⟩ (.inl rfl) rfl
  | initState page date =>
    simp only [deviceStep] at hstep
    split at hstep
    · obtain rfl := Option.some.inj hstep
      have hopened := hchosen page fun _ _ => chosen_opened date
      exact started_change hK (hok.stable (hK.undisturbed _ _ _)) rfl hopened (.inl rfl) rfl
    · cases hstep
  | edit page e =>
    obtain rfl := Option.some.inj hstep
    exact hupdate _ (hchosen page fun _ hq => chosen_apply hq e) rfl
  | pickLocation page result =>
    obtain rfl := Option.some.inj hstep
    exact hupdate _ (hchosen page fun _ hq => ⟨hq.category, hq.climate, hq.upload, hq.bother⟩) rfl
  | around routes =>
    obtain rfl := Option.some.inj hstep
    exact hupdate _ ⟨.of_publish rfl rfl, rfl, .inl rfl⟩ rfl
  | setClock millis =>
    obtain rfl := Option.some.inj hstep
    exact hupdate _ ⟨.of_publish rfl rfl, rfl, .inl rfl⟩ rfl
  | answer i e =>
    have hans : p.answer ⟨World.answered, adm⟩ i e = some p' := hstep
    obtain ⟨th, t, hth, hawait, -, hmove, -, hthreads⟩ := hok.answer_cases hans (hadm i e rfl)
    exact ⟨hok.answer hans (hadm i e rfl) (hK.undisturbed _ _ _),
      .answered i e th t rfl hth hawait hthreads hmove⟩

/-! ## What a phone owes -/

instance : DecidablePred Call.IsAdd := fun c => by
  unfold Call.IsAdd
  split <;> infer_instance

/-- The thread is on its way to an add. -/
def Underway (c : Option Call) : Bool := c.any fun c => decide c.BeforeAdd

/-- The thread has just come to its add. -/
def Adding (c : Option Call) : Bool := c.any fun c => decide c.IsAdd

/-- The reports a phone may still post without another press: those in its outbox and those on their
way there. -/
def Device.saved (d : Device) : ℕ :=
  d.outbox.length + d.pool.threads.countP fun th => Underway th.now.awaiting

/-- What holds of a phone in every reachable state. -/
structure Device.Sound (store : List Stored) (d : Device) : Prop where
  ok : d.pool.Ok anyEnv fun tag _ => postContract tag.routine.isPress
  forms : d.pool.state.FormsOk
  outbox : ∀ document ∈ d.outbox, IsReport document
  acknowledged : ∀ document ∈ d.pool.state.events, ∃ x ∈ store, x.written = document

/-- The contracts about posting are promised, whatever is answered. -/
theorem promised_post : Promised (fun _ _ _ => True) fun tag => postContract tag.routine.isPress where
  holds _ _ _ _ _ _ := trivial
  meets tag s := tag.routine.posts tag.me s

variable {store : List Stored} {d : Device} {i : ℕ} {c : Option Call}

/-- After an action that has moved no thread the phone has sent nothing. -/
theorem Device.after_outside (hmoved : a.moved d.pool = none) :
    d.after store a p' = { d with pool := p' } := by
  simp only [Device.after, hmoved]

/-- After one that has, it has sent what the thread stopped at. -/
theorem Device.after_moved {th : Thread remote World Thrown Started}
    (hmoved : a.moved d.pool = some i) (hth : p'.threads[i]? = some th) :
    d.after store a p' = ({ d with pool := p' } : Device).send store i th.now.awaiting := by
  simp only [Device.after, hmoved, hth, Option.bind_some]

@[simp] theorem Device.send_pool (store : List Stored) (d : Device) (i : ℕ) (c : Option Call) :
    (d.send store i c).pool = d.pool := by
  unfold Device.send
  split <;> rfl

@[simp] theorem Device.after_pool (store : List Stored) (d : Device) (a : DeviceAction)
    (p : DevicePool) : (d.after store a p).pool = p := by
  unfold Device.after
  split
  · exact Device.send_pool ..
  · rfl

/-- Only an add goes to the outbox. -/
theorem Device.send_outbox (store : List Stored) (d : Device) (i : ℕ) (c : Option Call) :
    (d.send store i c).outbox = d.outbox ∧ Adding c = false ∨
      ∃ document, c = some (.addEvent document) ∧
        (d.send store i c).outbox = d.outbox ++ [document] := by
  rcases c with _ | c
  · exact .inl ⟨rfl, rfl⟩
  · cases c with
    | addEvent document => exact .inr ⟨document, rfl, rfl⟩
    | _ => exact .inl ⟨rfl, rfl⟩

/-- No thread is on its way and there at once. -/
theorem underway_of_adding (h : Adding c = true) : Underway c = false := by
  rcases c with _ | c
  · rfl
  · cases c <;> first | rfl | cases h

/-- A segment owes at most what the press that began it is worth, or what was owed before. -/
theorem PostMove.dues (hmove : PostMove press h s c s') :
    (Adding c).toNat + (Underway c).toNat ≤
      (if press = true ∧ h = [] then 1 else 0) + (Underway (h.getLast?.map (·.call))).toNat := by
  by_cases hdue : Adding c = true ∨ Underway c = true
  · have hone : (Adding c).toNat + (Underway c).toNat ≤ 1 := by
      cases hadding : Adding c with
      | true => simp [underway_of_adding hadding]
      | false => simp [Bool.toNat_le]
    have hpost : ∃ c', c = some c' ∧ (c'.BeforeAdd ∨ c'.IsAdd) := by
      simp only [Adding, Underway, Option.any_eq_true, decide_eq_true_eq] at hdue
      rcases hdue with ⟨c', hc', hadd⟩ | ⟨c', hc', hbefore⟩
      · exact ⟨c', hc', .inr hadd⟩
      · exact ⟨c', hc', .inl hbefore⟩
    obtain ⟨c', hc', hpost⟩ := hpost
    rcases hmove.posting c' hc' hpost with ⟨hpress, hnil, -⟩ | ⟨e, he, hbefore⟩
    · rw [if_pos ⟨hpress, hnil⟩]
      omega
    · have hlast : Underway (h.getLast?.map (·.call)) = true := by
        simp [he, Underway, hbefore]
      rw [hlast, Bool.toNat_true]
      omega
  · simp only [not_or, Bool.not_eq_true] at hdue
    simp [hdue.1, hdue.2]

/-- What is saved once a thread has stopped at `c`. -/
theorem Device.saved_send (store : List Stored) (d : Device) (i : ℕ) (c : Option Call) :
    (d.send store i c).saved = d.saved + (Adding c).toNat := by
  unfold Device.saved
  rw [Device.send_pool]
  rcases Device.send_outbox store d i c with ⟨houtbox, hadding⟩ | ⟨document, rfl, houtbox⟩
  · rw [houtbox, hadding, Bool.toNat_false, Nat.add_zero]
  · have hadding : Adding (some (.addEvent document)) = true := rfl
    rw [houtbox, hadding, Bool.toNat_true, List.length_append, List.length_singleton]
    omega

/-- A thread that has moved by its contract. -/
theorem Device.Sound.moved {tag : Started} (hd : d.Sound store)
    (hok : p'.Ok anyEnv fun tag _ => postContract tag.routine.isPress) (hs : d.pool.state.SameReports s)
    (hmove : (postContract tag.routine.isPress).moves h s c p'.state)
    (hlast : ∀ document id, h.getLast? =
      some ⟨.addEvent document, (.ok id : Except Fault String)⟩ → ∃ x ∈ store, x.written = document) :
    (({ d with pool := p' } : Device).send store i c).Sound store where
  ok := by
    rw [Device.send_pool]
    exact hok
  forms := by
    rw [Device.send_pool]
    exact hmove.forms (hs.forms hd.forms)
  outbox document hdocument := by
    rcases Device.send_outbox store { d with pool := p' } i c with ⟨houtbox, -⟩ | ⟨new, hc, houtbox⟩
    · rw [houtbox] at hdocument
      exact hd.outbox document hdocument
    · rw [houtbox] at hdocument
      rcases List.mem_append.mp hdocument with hold | hnew
      · exact hd.outbox document hold
      · rw [List.mem_singleton.mp hnew]
        exact hmove.report (hs.forms hd.forms) new hc
  acknowledged document hdocument := by
    rw [Device.send_pool] at hdocument
    rcases hmove.events document hdocument with hold | ⟨id, hid⟩
    · rw [hs.events] at hold
      exact hd.acknowledged document hold
    · exact hlast document id hid

/-- **One action on a phone**: it keeps the invariant, and what is saved grows with a press only. -/
theorem Device.Sound.after (hd : d.Sound store)
    (hallows : ∀ i e, a = .answer i e → ∀ document id,
      e = ⟨.addEvent document, (.ok id : Except Fault String)⟩ → ∃ x ∈ store, x.written = document)
    (hstep : deviceStep d.pool a = some p') :
    (d.after store a p').Sound store ∧
      (d.after store a p').saved ≤ d.saved + a.isPress.toNat := by
  obtain ⟨hok, hchange⟩ := deviceStep_changes promised_post hd.ok (fun _ _ _ => trivial) hstep
  cases hchange with
  | outside hmoved hstate hthreads =>
    rw [Device.after_outside hmoved]
    refine ⟨⟨hok, hstate.reports.forms hd.forms, hd.outbox, fun document hdocument => ?_⟩, ?_⟩
    · have hsame : p'.state.events = d.pool.state.events := hstate.reports.events
      exact hd.acknowledged document (hsame ▸ hdocument)
    · simp only [Device.saved, hthreads]
      omega
  | started s threads th hmoved hstate hold hthreads hpast hpress hmove =>
    have hth : p'.threads[threads.length]? = some th := by
      rw [hthreads]
      exact List.getElem?_concat_length
    rw [Device.after_moved hmoved hth]
    refine ⟨hd.moved hok hstate.reports hmove (by simp), ?_⟩
    -- the threads there were are all there still, or all gone
    have hcount : threads.countP (fun th => Underway th.now.awaiting) ≤
        d.pool.threads.countP fun th => Underway th.now.awaiting := by
      rcases hold with rfl | ⟨-, rfl⟩
      · exact le_refl _
      · simp
    have hdues := hmove.dues
    have hnew : p'.threads.countP (fun th => Underway th.now.awaiting) =
        threads.countP (fun th => Underway th.now.awaiting) + (Underway th.now.awaiting).toNat := by
      rw [hthreads, List.countP_append, List.countP_singleton]
      cases Underway th.now.awaiting <;> rfl
    rw [Device.saved_send]
    simp only [Device.saved, hnew]
    simp only [hpress, and_true, List.getLast?_nil, Option.map_none] at hdues
    have hnone : Underway none = false := rfl
    rw [hnone] at hdues
    cases hp : a.isPress with
    | true =>
      simp only [hp, if_true, Bool.toNat_false, Bool.toNat_true] at hdues ⊢
      omega
    | false =>
      simp only [hp, Bool.false_eq_true, if_false, Bool.toNat_false] at hdues ⊢
      omega
  | answered i e th t ha hth hawait hthreads hmove =>
    have hlt := (List.getElem?_eq_some_iff.mp hth).1
    have hget := (List.getElem?_eq_some_iff.mp hth).2
    have hth' : p'.threads[i]? = some { th with past := th.past ++ [e], now := t } := by
      rw [hthreads, List.getElem?_set_self hlt]
    have hmoved : a.moved d.pool = some i := by rw [ha]; rfl
    rw [Device.after_moved hmoved hth']
    refine ⟨hd.moved hok (.refl _) hmove fun document id hlast => ?_, ?_⟩
    · rw [List.getLast?_concat, Option.some.injEq] at hlast
      exact hallows i e ha document id hlast
    · have hdues := hmove.dues
      rw [List.getLast?_concat, Option.map_some, if_neg (by simp), Nat.zero_add] at hdues
      have hcount := @List.countP_set _ (fun th => Underway th.now.awaiting) d.pool.threads i
        { th with past := th.past ++ [e], now := t } hlt
      have hle := @List.boole_getElem_le_countP _ (fun th => Underway th.now.awaiting) d.pool.threads
        i hlt
      rw [hget, hawait] at hcount hle
      rw [Device.saved_send]
      simp only [Device.saved, hthreads, hcount]
      cases hu : Underway (some e.call) <;> cases ht : Underway t.awaiting <;>
        simp only [hu, ht, if_true, Bool.false_eq_true, if_false, Bool.toNat_true, Bool.toNat_false] at hdues hle ⊢ <;>
        omega

/-! ## The bulletin is what the phones and the collection make -/

/-- The collection holds the reports of the bulletin, and every phone is as it should be. -/
structure Board.Refines (f : Board) (es : List PublishedEvent) : Prop where
  store : f.store = es.map (·.stored)
  device : ∀ n, (f.device n).Sound f.store

variable {f f' : Board} {es : List PublishedEvent}

/-- The collection may grow and change the status of its documents. -/
theorem Device.Sound.mono {store' : List Stored} (hd : d.Sound store)
    (hstore : ∀ x ∈ store, ∃ x' ∈ store', x'.written = x.written) : d.Sound store' where
  ok := hd.ok
  forms := hd.forms
  outbox := hd.outbox
  acknowledged document hdocument := by
    obtain ⟨x, hx, hwritten⟩ := hd.acknowledged document hdocument
    obtain ⟨x', hx', hsame⟩ := hstore x hx
    exact ⟨x', hx', hsame.trans hwritten⟩

/-- The phone replaced, or one of the others. -/
theorem Board.device_setDevice (f : Board) (n : ℕ) (d : Device) (m : ℕ) :
    (f.setDevice n d).device m = if m = n then d else f.device m := by
  show Function.update f.device n d m = _
  by_cases hm : m = n
  · subst hm
    rw [Function.update_self, if_pos rfl]
  · rw [Function.update_of_ne hm, if_neg hm]

/-- A document of the outbox is a report of the bulletin once it has an id. -/
theorem exists_published {document : Data} (h : IsReport document) (id : String) :
    ∃ e : PublishedEvent, e.Proper ∧ e.stored = ⟨id, document, document.get "status"⟩ := by
  obtain ⟨globals, form, position, hchosen, hposition, rfl⟩ := h
  have hstatus : (eventDocument globals form position).get "status" = .scalar (.int 1) := by
    simp [eventDocument, Data.get_cons]
  refine ⟨⟨id, globals, form, position, fun locale => hchosen.category, .scalar (.int 1)⟩,
    ⟨hposition, hchosen, rfl⟩, ?_⟩
  rw [hstatus]
  rfl

@[simp] theorem Stored.documentID_moderated (id : String) (status : Value) (x : Stored) :
    (x.moderated id status).documentID = x.documentID := by
  unfold Stored.moderated
  split <;> rfl

@[simp] theorem Stored.written_moderated (id : String) (status : Value) (x : Stored) :
    (x.moderated id status).written = x.written := by
  unfold Stored.moderated
  split <;> rfl

/-- To moderate a report is to moderate its document. -/
theorem stored_moderated (id : String) (status : Value) (e : PublishedEvent) :
    (e.moderated id status).stored = e.stored.moderated id status := by
  unfold PublishedEvent.moderated Stored.moderated
  have hid : e.stored.documentID = e.documentID := rfl
  rw [hid]
  split <;> rfl

/-- The phone that an action is about changes, and no other. -/
theorem Board.at_setDevice {P : Device → Prop} {m n : ℕ} (hold : P (f.device n))
    (hnew : n = m → P d) : P ((f.setDevice m d).device n) := by
  rw [Board.device_setDevice]
  by_cases hm : n = m
  · rw [if_pos hm]
    exact hnew hm
  · rw [if_neg hm]
    exact hold

/-- What holds of all phones holds when one that has it is put in the place of another. -/
theorem Board.forall_setDevice {P : Device → Prop} {n : ℕ} (hn : P d)
    (hothers : ∀ m, P (f.device m)) (m : ℕ) : P ((f.setDevice n d).device m) :=
  Board.at_setDevice (hothers m) fun _ => hn

/-! ## What a step of the board does -/

section

variable {n k i : ℕ} {id : String} {reply : List Document}

/-- What happens on a phone is an action that the collection allows. -/
theorem act_eq_some {a : DeviceAction} (hstep : boardStep f (.act n a) = some f') :
    f.Allows n a ∧ ∃ p, deviceStep (f.device n).pool a = some p ∧
      f' = f.setDevice n ((f.device n).after f.store a p) := by
  simp only [boardStep] at hstep
  split at hstep
  · rename_i hallows
    obtain ⟨p, hp, hf'⟩ := Option.map_eq_some_iff.mp hstep
    exact ⟨hallows, p, hp, hf'.symm⟩
  · cases hstep

/-- The collection takes a document that is in the outbox, under an id it does not have yet. -/
theorem take_eq_some (hstep : boardStep f (.take n k id) = some f') :
    ∃ document, (f.device n).outbox[k]? = some document ∧ (∀ x ∈ f.store, x.documentID ≠ id) ∧
      f' = { f.setDevice n ((f.device n).taken k) with
        store := f.store ++ [⟨id, document, document.get "status"⟩] } := by
  simp only [boardStep] at hstep
  split at hstep
  · rename_i document hdocument
    split at hstep
    · rename_i hfresh
      exact ⟨document, hdocument, hfresh, (Option.some.inj hstep).symm⟩
    · cases hstep
  · cases hstep

/-- It looks up a query that has no reply, and replies with what it finds. -/
theorem look_eq_some (hstep : boardStep f (.look n i reply) = some f') :
    ∃ q, (f.device n).query i = some q ∧ reply.Perm (found f.store q.category) ∧
      f' = f.setDevice n ((f.device n).looked i q reply) := by
  simp only [boardStep] at hstep
  split at hstep
  · rename_i q hq
    split at hstep
    · rename_i hlooked
      exact ⟨q, hq, hlooked.2, (Option.some.inj hstep).symm⟩
    · cases hstep
  · cases hstep

/-- The routines and the state of phone `n` change only when something happens on it. -/
theorem pool_step {b : BoardAction} (n : ℕ) (hstep : boardStep f b = some f') :
    (f'.device n).pool = (f.device n).pool ∨ ∃ a p, b = .act n a ∧ f.Allows n a ∧
      deviceStep (f.device n).pool a = some p ∧ (f'.device n).pool = p := by
  have hother : ∀ m (d : Device), (n = m → d.pool = (f.device m).pool) →
      ((f.setDevice m d).device n).pool = (f.device n).pool := fun m d hd =>
    Board.at_setDevice (P := fun d => d.pool = (f.device n).pool) rfl fun hm => hm ▸ hd hm
  cases b with
  | act m a =>
    obtain ⟨hallows, p, hp, rfl⟩ := act_eq_some hstep
    by_cases hm : n = m
    · subst hm
      refine .inr ⟨a, p, rfl, hallows, hp, ?_⟩
      rw [Board.device_setDevice, if_pos rfl, Device.after_pool]
    · exact .inl (hother m _ fun h => absurd h hm)
  | take m k id =>
    obtain ⟨document, -, -, rfl⟩ := take_eq_some hstep
    exact .inl (hother m _ fun _ => rfl)
  | look m i reply =>
    obtain ⟨q, -, -, rfl⟩ := look_eq_some hstep
    exact .inl (hother m _ fun _ => rfl)
  | moderate id status =>
    obtain rfl := Option.some.inj hstep
    exact .inl rfl

/-- The ways a step changes the collection. -/
inductive StoreChange (f : Board) (store : List Stored) : BoardAction → Prop where
  | same {b : BoardAction} (hstore : store = f.store) : StoreChange f store b
  | taken {n k : ℕ} {id : String} (document : Data) (hdocument : (f.device n).outbox[k]? = some document)
    (hfresh : ∀ x ∈ f.store, x.documentID ≠ id)
    (hstore : store = f.store ++ [⟨id, document, document.get "status"⟩]) :
    StoreChange f store (.take n k id)
  | moderated {id : String} {status : Value}
    (hstore : store = f.store.map (Stored.moderated id status)) :
    StoreChange f store (.moderate id status)

/-- The collection changes by a document taken or a status given, and by nothing else. -/
theorem store_step {b : BoardAction} (hstep : boardStep f b = some f') : StoreChange f f'.store b := by
  cases b with
  | act n a =>
    obtain ⟨-, p, -, rfl⟩ := act_eq_some hstep
    exact .same rfl
  | take n k id =>
    obtain ⟨document, hdocument, hfresh, rfl⟩ := take_eq_some hstep
    exact .taken document hdocument hfresh rfl
  | look n i reply =>
    obtain ⟨q, -, -, rfl⟩ := look_eq_some hstep
    exact .same rfl
  | moderate id status =>
    obtain rfl := Option.some.inj hstep
    exact .moderated rfl

end

/-! ## The bulletin is refined -/

/-- A step that posts nothing and moderates nothing. -/
theorem refines_silent {n : ℕ} {a : BoardAction} (hf : f.Refines es) (hd : d.Sound f.store)
    (hsaved : d.saved ≤ (f.device n).saved + a.presses n) :
    ∃ bs es', run bulletinStep es bs = some es' ∧ (f.setDevice n d).Refines es' ∧
      ∀ m, (bs.map (BulletinAction.posts m)).sum + ((f.setDevice n d).device m).saved ≤
        (f.device m).saved + a.presses m := by
  refine ⟨[], es, rfl, ⟨hf.store, Board.forall_setDevice hd hf.device⟩, fun m => ?_⟩
  rw [Board.device_setDevice, List.map_nil, List.sum_nil]
  by_cases hm : m = n
  · subst hm
    rw [if_pos rfl]
    omega
  · rw [if_neg hm]
    omega

/-- The document that is taken is posted. -/
theorem take_refines {n k : ℕ} {id : String} (hf : f.Refines es)
    (hstep : boardStep f (.take n k id) = some f') :
    ∃ e, run bulletinStep es [.post n e] = some (es ++ [e]) ∧ f'.Refines (es ++ [e]) ∧
      ∀ m, (BulletinAction.post n e).posts m + (f'.device m).saved ≤ (f.device m).saved := by
  obtain ⟨document, hdocument, hfresh, rfl⟩ := take_eq_some hstep
  have hk := (List.getElem?_eq_some_iff.mp hdocument).1
  obtain ⟨e, hproper, he⟩ := exists_published
    ((hf.device n).outbox document (List.mem_of_getElem? hdocument)) id
  have hid : e.documentID = id := congrArg Stored.documentID he
  have hnew : ∀ e' ∈ es, e'.documentID ≠ e.documentID := by
    intro e' he'
    rw [hid]
    apply hfresh e'.stored
    rw [hf.store]
    exact List.mem_map_of_mem he'
  have hpost : bulletinStep es (.post n e) = some (es ++ [e]) := if_pos ⟨hproper, hnew⟩
  have hgrown : ∀ m, (f.device m).Sound (f.store ++ [⟨id, document, document.get "status"⟩]) :=
    fun m => (hf.device m).mono fun x hx => ⟨x, List.mem_append_left _ hx, rfl⟩
  refine ⟨e, run_cons_eq_some.mpr ⟨_, hpost, rfl⟩, ⟨?_, Board.forall_setDevice ?_ hgrown⟩, fun m => ?_⟩
  · rw [List.map_append, List.map_singleton, he, ← hf.store]
  · -- what is left in the outbox was there before
    exact { hgrown n with outbox := fun x hx => (hgrown n).outbox x (List.mem_of_mem_eraseIdx hx) }
  · show _ + ((f.setDevice n _).device m).saved ≤ _
    rw [Board.device_setDevice]
    by_cases hm : m = n
    · subst hm
      have hlength := List.length_eraseIdx_of_lt hk
      simp only [if_true, Device.saved, Device.taken, BulletinAction.posts, hlength]
      omega
    · simp only [if_neg hm, BulletinAction.posts, if_neg (Ne.symm hm)]
      omega

/-- A moderator does to the bulletin what it does to the collection. -/
theorem moderate_refines {id : String} {status : Value} (hf : f.Refines es)
    (hstep : boardStep f (.moderate id status) = some f') :
    f'.Refines (es.map (PublishedEvent.moderated id status)) ∧
      ∀ m, (f'.device m).saved = (f.device m).saved := by
  obtain rfl := Option.some.inj hstep
  refine ⟨⟨?_, fun m => ?_⟩, fun m => rfl⟩
  · show f.store.map (Stored.moderated id status) = _
    rw [hf.store, List.map_map, List.map_map]
    congr 1
    funext e
    exact (stored_moderated id status e).symm
  · have hkept : (f.device m).Sound (f.store.map (Stored.moderated id status)) :=
      (hf.device m).mono fun x hx =>
        ⟨x.moderated id status, List.mem_map_of_mem hx, x.written_moderated id status⟩
    exact { hkept with }

/-- **Every step of the phones and the collection is one of the bulletin, or none.** -/
theorem boardStep_refines {a : BoardAction} (hf : f.Refines es) (hstep : boardStep f a = some f') :
    ∃ bs es', run bulletinStep es bs = some es' ∧ f'.Refines es' ∧
      ∀ n, (bs.map (BulletinAction.posts n)).sum + (f'.device n).saved ≤
        (f.device n).saved + a.presses n := by
  cases a with
  | act n a =>
    obtain ⟨hallows, p, hp, rfl⟩ := act_eq_some hstep
    obtain ⟨hsound, hsaved⟩ := (hf.device n).after (fun i e ha document id he => by
      subst ha
      subst he
      obtain ⟨x, hx, -, hwritten⟩ := hallows
      exact ⟨x, hx, hwritten⟩) hp
    have hpresses : (BoardAction.act n a).presses n = a.isPress.toNat := by
      cases a with
      | «begin» r page => cases hr : r.isPress <;> simp [BoardAction.presses, DeviceAction.isPress, hr]
      | _ => rfl
    exact refines_silent hf hsound (hpresses ▸ hsaved)
  | take n k id =>
    obtain ⟨e, hrun, hf', hsaved⟩ := take_refines hf hstep
    refine ⟨[.post n e], es ++ [e], hrun, hf', fun m => ?_⟩
    have := hsaved m
    rw [List.map_singleton, List.sum_singleton]
    omega
  | look n i reply =>
    obtain ⟨q, -, -, rfl⟩ := look_eq_some hstep
    have hkept : ((f.device n).looked i q reply).Sound f.store := { hf.device n with }
    exact refines_silent hf hkept (Nat.le_add_right ..)
  | moderate id status =>
    obtain ⟨hf', hsaved⟩ := moderate_refines hf hstep
    refine ⟨[.moderate id status], _, rfl, hf', fun m => ?_⟩
    have := hsaved m
    rw [List.map_singleton, List.sum_singleton]
    show 0 + _ ≤ _
    omega

/-- The bulletin simulates the phones and the collection, press by press. -/
theorem board_simulation : Simulation boardStep bulletinStep Board.Refines BoardAction.presses
    (fun n f => (f.device n).saved) BulletinAction.posts where
  step _ _ _ _ hf hstep := boardStep_refines hf hstep

/-- A phone on which nothing has run is as it should be. -/
theorem Device.Fresh.sound (hd : d.Fresh) : d.Sound store where
  ok := Pool.ok_of_threads_nil hd.threads
  forms := hd.forms
  outbox := by simp [hd.outbox]
  acknowledged := by simp [hd.events]

/-- It owes no report. -/
theorem Device.Fresh.saved (hd : d.Fresh) : d.saved = 0 := by
  simp [Device.saved, hd.outbox, hd.threads]

/-- **Whatever the phones do, in whatever order the calls are answered, the collection is what a run
of the bulletin makes it: every document is the report of one press of Publish, no press posts
twice, and a report that its publisher was told of is there.** -/
theorem board_refines {f f' : Board} {as : List BoardAction} {es : List PublishedEvent}
    (hstore : f.store = es.map (·.stored)) (hfresh : ∀ n, (f.device n).Fresh)
    (hrun : run boardStep f as = some f') :
    ∃ bs es', run bulletinStep es bs = some es' ∧ f'.store = es'.map (·.stored) ∧
      (∀ n, (bs.map (BulletinAction.posts n)).sum ≤ (as.map (BoardAction.presses n)).sum) ∧
      ∀ n, ∀ document ∈ (f'.device n).pool.state.events, ∃ e ∈ es', e.stored.written = document := by
  have hrefines : f.Refines es := ⟨hstore, fun n => (hfresh n).sound⟩
  obtain ⟨bs, es', hbs, hf', hpaid⟩ := board_simulation.run hrefines hrun
  refine ⟨bs, es', hbs, hf'.store, fun n => ?_, fun n document hdocument => ?_⟩
  · have hpaid := hpaid n
    rw [(hfresh n).saved] at hpaid
    omega
  · obtain ⟨x, hx, hwritten⟩ := (hf'.device n).acknowledged document hdocument
    rw [hf'.store] at hx
    obtain ⟨e, he, rfl⟩ := List.mem_map.mp hx
    exact ⟨e, he, hwritten⟩

/-- Phones with a Publish page open and a location entered, and an empty collection. -/
def Board.ready (date : DateTime) : Board where
  device _ := ⟨⟨.readyToPublish date, []⟩, [], fun _ => none⟩
  store := []

theorem fresh_ready (date : DateTime) (n : ℕ) : ((Board.ready date).device n).Fresh where
  threads := rfl
  outbox := rfl
  query _ := rfl
  forms := by
    have hopened : (World.publishing date).FormsOk := fun _ => chosen_opened date
    exact hopened.setPublish fun hp => chosen_apply hp _
  events := rfl
  markers _ := rfl

/-- Publish is pressed on phone 3, and the collection takes the document under the id "a". -/
def postOnce : List BoardAction :=
  [.act 3 (.begin (.publish .publishEvent) 1),
    .act 3 (.answer 0 ⟨.placemarkFromAddress "Here",
      (.ok (some [⟨⟨1, 2⟩⟩]) : Except Fault (Option (List Placemark)))⟩),
    .take 3 0 "a"]

/-- One press, one report. -/
theorem board_refines_once :
    ∃ f bs es, run boardStep (Board.ready ⟨2020, 1, 1⟩) postOnce = some f ∧
      run bulletinStep [] bs = some es ∧ f.store = es.map (·.stored) ∧ es.length = 1 ∧
      (bs.map (BulletinAction.posts 3)).sum ≤ 1 := by
  obtain ⟨bs, es, hbs, hstore, hposts, -⟩ := @board_refines (Board.ready ⟨2020, 1, 1⟩) _ postOnce []
    rfl (fresh_ready ⟨2020, 1, 1⟩) rfl
  refine ⟨_, bs, es, rfl, hbs, hstore, ?_, hposts 3⟩
  have hlength := congrArg List.length hstore
  rw [List.length_map] at hlength
  exact hlength.symm

end FloodUp
