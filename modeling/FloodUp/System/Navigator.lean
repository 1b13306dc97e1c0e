import FloodUp.Async.Run
import FloodUp.System.Screen

/-!
# Runs of the navigator

The navigator's stack under everything that moves it: pages, modals and dialogs the user opens
and closes, the drawer, the back button, and the operations that put a progress dialog up, whose
remote calls are answered at any time. `pops_properly` says that no pop of an operation takes
anything but what is its own, if the back button never dismisses the progress dialog of an
operation that still waits.
-/

namespace FloodUp

open Async

/-! ## The system -/

/-- An operation that has been started, and where. -/
structure Running where
  operation : Operation
  me : Caller
deriving DecidableEq

abbrev NavThread : Type := Thread remote World Thrown Running

abbrev NavPool : Type := Pool remote World Thrown Running

/-- The route of the notice a call waits for. -/
def Call.notice : Call → Option ℕ
  | .dialog d => some d
  | .alert d => some d
  | _ => none

def World.isClosed (w : World) (d : ℕ) : Bool := w.popped.any fun x => x.1 == d

/-- What is on top. -/
def World.top (w : World) : Option RouteKind := w.routes.head?.map (·.kind)

/-- An operation waits for a notice that has been closed: it goes on before anything else. -/
def Due (p : NavPool) : Prop := p.Pending fun _ (c : Call) => c.notice.any p.state.isClosed

instance : DecidablePred Due := fun p => by
  unfold Due
  infer_instance

/-- A page or a modal on which the user can open something. -/
def RouteKind.opens : RouteKind → Bool
  | .page _ _ => true
  | .modal _ => true
  | _ => false

/-- What the user can open on it. -/
def RouteKind.isOpened : RouteKind → Bool
  | .page _ drawerOpen => !drawerOpen
  | .progress _ => false
  | _ => true

/-- What the user can close by its own means: an open drawer, a page with a back arrow, a modal or
a notice. -/
def RouteKind.closes : RouteKind → Bool
  | .page .login false => false
  | .page .map false => false
  | .progress _ => false
  | _ => true

inductive NavAction where
  | openRoute (kind : RouteKind)
  /-- The add button of a user who is not logged in. -/
  | restart
  | openDrawer
  | close
  | back
  | start (o : Operation)
  | answer (i : ℕ) (e : Answered remote)

/-- An action of the user; an operation is started on the page on top. -/
def userStep (p : NavPool) : NavAction → Option NavPool
  | .openRoute kind =>
    if p.state.top.any RouteKind.opens ∧ kind.isOpened then some (p.update fun w => w.push kind)
    else none
  | .restart =>
    if p.state.top = some (.page .map false) then
      some (p.update fun w => w.pushAndRemoveUntilFirst (.page .login false))
    else none
  | .openDrawer =>
    match p.state.routes with
    | ⟨id, .page .map false⟩ :: rs =>
      some (p.update fun w => { w with routes := ⟨id, .page .map true⟩ :: rs })
    | _ => none
  | .close =>
    if p.state.top.any RouteKind.closes then some (p.update fun w => w.pop none) else none
  | .back =>
    if p.state.top.any fun kind => !kind.isRoot then some (p.update fun w => w.pop none) else none
  | .start o =>
    match p.state.routes with
    | ⟨page, kind⟩ :: _ =>
      if kind = o.page then
        some (p.start ⟨o, ⟨p.threads.length, page⟩⟩ (o.routine ⟨p.threads.length, page⟩))
      else none
    | [] => none
  | .answer _ _ => none

def navStep (p : NavPool) : NavAction → Option NavPool
  | .answer i e =>
    match e.call.notice with
    | some d => if p.state.isClosed d then p.answer screenEnv i e else none
    | none => if Due p then none else p.answer screenEnv i e
  | a => if Due p then none else userStep p a

/-- The app has just been started. -/
structure NavStarted (w : World) : Prop where
  rooted : w.Rooted
  log : w.log = []

/-- The back button does not dismiss the progress dialog of an operation that still waits. -/
def NavAction.Patient (p : NavPool) (a : NavAction) : Prop :=
  a = .back → ¬p.Pending fun th _ => p.state.top = some (.progress th.tag.me.op)

/-- What the pop has taken is the operation's own. -/
def ProperIn (p : NavPool) : Ui → Prop
  | .hideProgress op removed => removed = .nothing ∨ ∃ n, removed = .route ⟨n, .progress op⟩
  | .pop op removed _ => ∃ th, p.threads[op]? = some th ∧
    (th.tag.operation = .publishEvent ∧ removed = .route ⟨th.tag.me.page, .page .publish false⟩ ∨
      th.tag.operation = .logout ∧ removed = .drawer th.tag.me.page)
  | _ => True

/-- Every pop so far has taken what was its operation's own. -/
def PopsProperly (p : NavPool) : Prop := ∀ e ∈ p.state.log, ProperIn p e

/-! ## The invariant -/

/-- The contract of a started operation. -/
abbrev runningContract (r : Running) (_ : World) : Contract remote World Thrown Unit :=
  screenContract r.operation r.me

structure NavSound (p : NavPool) : Prop where
  ok : p.Ok screenEnv runningContract
  rooted : p.state.Rooted
  numbered : ∀ (i : ℕ) (th : NavThread), p.threads[i]? = some th → th.tag.me.op = i
  /-- At most one operation waits. -/
  single : p.Single
  proper : PopsProperly p

variable {p p' : NavPool} {a : NavAction} {w : World}

theorem navSound_started (hw : NavStarted w) : NavSound ⟨w, []⟩ where
  ok := Pool.ok_of_threads_nil rfl
  rooted := hw.rooted
  numbered i th hth := by simp at hth
  single := Pool.single_of_threads_nil rfl
  proper e he := by
    have he : e ∈ w.log := he
    simp [hw.log] at he

theorem closed_iff {d : ℕ} : w.Closed d ↔ w.isClosed d = true := by
  simp [World.Closed, World.isClosed, List.any_eq_true]

/-- While a notice has not been closed it is on top. -/
theorem Under.opened_of_not_closed {d : ℕ} {P : World → Prop} {s : World} (hu : Under d P s)
    (hd : ¬s.Closed d) : ∃ r rest, s.routes = r :: rest ∧ r.id = d ∧ r.kind.isNotice = true ∧
      P { s with routes := rest } := by
  cases hu with
  | opened r rest hroutes hid hkind _ hbelow => exact ⟨r, rest, hroutes, hid, hkind, hbelow⟩
  | closed hclosed _ => exact absurd hclosed hd

theorem BelowDialog.routes_ne_nil {o : Operation} {me : Caller} {s : World}
    (hb : BelowDialog o me s) : s.routes ≠ [] := by
  unfold BelowDialog at hb
  split at hb
  · obtain ⟨n, below, hroutes⟩ := hb.routes
    simp [hroutes]
  · obtain ⟨below, hroutes⟩ := hb
    simp [hroutes]

theorem Ground.routes_ne_nil {o : Operation} {me : Caller} {s : World} (hg : Ground o me s) :
    s.routes ≠ [] := by
  obtain ⟨below, hroutes⟩ := hg
  simp [hroutes]

/-- Closing the notice on top uncovers what is below. -/
theorem Under.pop {d : ℕ} {P : World → Prop} {s : World} {result : Option Bool} (hu : Under d P s)
    (hd : ¬s.Closed d) (hne : ∀ s, P s → s.routes ≠ [])
    (heq : ∀ s s' : World, s'.routes = s.routes → s'.mcontext = s.mcontext → P s → P s') :
    Under d P (s.pop result) := by
  obtain ⟨r, rest, hroutes, hid, hkind, hbelow⟩ := hu.opened_of_not_closed hd
  obtain ⟨q, qs, rfl⟩ := List.exists_cons_of_ne_nil (hne _ hbelow)
  have hdrawer : ∀ name, r.kind ≠ .page name true := fun name hname => by
    rw [hname] at hkind
    cases hkind
  rw [World.pop_of_routes hroutes hdrawer]
  exact .closed ⟨(r.id, result), by simp, hid⟩ (heq { s with routes := q :: qs } _ rfl rfl hbelow)

/-- While no operation waits for a closed notice, the notice an operation waits for is open. -/
theorem not_closed_of_not_due (hdue : ¬Due p) {th : NavThread} (hth : th ∈ p.threads) {c : Call}
    (hc : th.now.awaiting = some c) {d : ℕ} (hd : c.notice = some d) : ¬p.state.Closed d :=
  fun hclosed => hdue ⟨th, hth, c, hc, by
    show c.notice.any p.state.isClosed = true
    rw [hd]
    exact closed_iff.mp hclosed⟩

/-- An operation that waits has its own dialog on top, or a notice it waits for. -/
theorem NavSound.top_of_waiting (hs : NavSound p) (hdue : ¬Due p) {i : ℕ}
    {th : NavThread} {c : Call} (hth : p.threads[i]? = some th)
    (hc : th.now.awaiting = some c) :
    p.state.top = some (.progress th.tag.me.op) ∨ p.state.top.any RouteKind.isNotice := by
  have hholds : (runningContract th.tag th.born).holds th.past c p.state := (hs.ok i th hth).holds hc
  have htop : ∀ d P, c.notice = some d → Under d P p.state → p.state.top.any RouteKind.isNotice :=
    fun d P hd hu => by
      obtain ⟨r, rest, hroutes, -, hkind, -⟩ := hu.opened_of_not_closed
        (not_closed_of_not_due hdue (List.mem_of_getElem? hth) hc hd)
      simpa [World.top, hroutes] using hkind
  -- a remote call is made with the progress dialog on top
  have hworking : AtWork th.tag.operation th.tag.me p.state →
      p.state.top = some (.progress th.tag.me.op) := fun hw => by
    obtain ⟨n, below, hroutes⟩ := hw.routes
    simp [World.top, hroutes]
  cases c with
  | dialog d => exact .inr (htop d _ rfl hholds)
  | alert d => exact .inr (htop d _ rfl hholds)
  | _ => exact .inl (hworking hholds)

/-- Where a page or a modal is on top, no operation waits. -/
theorem NavSound.idle (hs : NavSound p) (hdue : ¬Due p) (htop : p.state.top.any RouteKind.opens) :
    p.Idle := by
  intro i th hth
  cases hc : th.now.awaiting with
  | none => rfl
  | some c =>
    obtain ⟨kind, hkind, hopens⟩ := (Option.any_eq_true _ _).mp htop
    rcases hs.top_of_waiting hdue hth hc with h | h
    · rw [hkind] at h
      obtain rfl := Option.some.inj h
      cases hopens
    · rw [hkind, Option.any_some] at h
      cases kind <;> simp [RouteKind.opens, RouteKind.isNotice] at hopens h

/-- The pops of a segment of an operation are logged as its own. -/
theorem PopsProperly.segment (hp : PopsProperly p)
    (hkeep : ∀ (i : ℕ) (th : NavThread), p.threads[i]? = some th →
      ∃ th' : NavThread, p'.threads[i]? = some th' ∧ th'.tag = th.tag)
    {i : ℕ} {th : NavThread} (hth : p'.threads[i]? = some th) (hop : th.tag.me.op = i)
    (hseg : ScreenMove th.tag.operation th.tag.me p.state p'.state) : PopsProperly p' := by
  intro e he
  -- the log has grown by `l`, the entries of the segment
  obtain ⟨l, hlog, hall⟩ := hseg.log
  rw [hlog] at he
  rcases List.mem_append.mp he with he | he
  · have hbefore := hp e he
    cases e with
    | pop op removed result =>
      obtain ⟨th₁, hth₁, hown⟩ := hbefore
      obtain ⟨th₂, hth₂, htag⟩ := hkeep op th₁ hth₁
      exact ⟨th₂, hth₂, htag ▸ hown⟩
    | hideProgress op removed => exact hbefore
    | _ => trivial
  · have hown := hall e he
    cases e with
    | pop op removed result =>
      obtain ⟨rfl, hown⟩ := hown
      exact ⟨th, by rw [hop]; exact hth, hown⟩
    | hideProgress op removed =>
      obtain ⟨rfl, hown⟩ := hown
      exact .inr hown
    | _ => trivial

/-! ## Actions of the user -/

/-- A change of the stack that no operation notices. -/
theorem NavSound.update (hs : NavSound p) {f : World → World} (hrooted : (f p.state).Rooted)
    (hlog : (f p.state).log = p.state.log)
    (hund : p.Undisturbed runningContract (f p.state) none) : NavSound (p.update f) where
  ok := hs.ok.update hund
  rooted := hrooted
  numbered := hs.numbered
  single := hs.single
  proper e he := by
    have he : e ∈ (f p.state).log := he
    rw [hlog] at he
    exact hs.proper e he

/-- The user takes away what is on top: no operation waits, or the top is the notice one waits
for. -/
theorem NavSound.pop (hs : NavSound p) (hdue : ¬Due p)
    (htop : ¬p.Pending fun th _ => p.state.top = some (.progress th.tag.me.op)) :
    NavSound (p.update fun w => w.pop none) := by
  refine hs.update (hs.rooted.pop none) (by unfold World.pop; split <;> rfl) ?_
  intro i th c _ hth hc hholds
  have hmem := List.mem_of_getElem? hth
  have hopen : ∀ d, c.notice = some d → ¬p.state.Closed d :=
    fun _ => not_closed_of_not_due hdue hmem hc
  -- no operation waits for a remote call, or its dialog would be on top
  have hworking : ¬AtWork th.tag.operation th.tag.me p.state := fun hw => by
    obtain ⟨n, below, hroutes⟩ := hw.routes
    exact htop ⟨th, hmem, c, hc, by simp [World.top, hroutes]⟩
  cases c with
  | dialog d =>
    exact Under.pop hholds (hopen d rfl) (fun _ hb => hb.routes_ne_nil)
      fun _ _ hroutes hmcontext hb => hb.of_eq hroutes hmcontext
  | alert d =>
    exact Under.pop hholds (hopen d rfl) (fun _ hg => hg.routes_ne_nil)
      fun _ _ hroutes _ hg => hg.imp fun below hb => hroutes.trans hb
  | _ => exact absurd hholds hworking

/-- A start makes the operation the only one that waits. -/
theorem NavSound.start (hs : NavSound p) (hidle : p.Idle) {o : Operation} {page : ℕ}
    (hg : Ground o ⟨p.threads.length, page⟩ p.state) :
    NavSound (p.start ⟨o, ⟨p.threads.length, page⟩⟩ (o.routine ⟨p.threads.length, page⟩)) := by
  have hmeets := o.screen hs.rooted hg
  obtain ⟨hseg, -⟩ := hmeets.advance
  refine ⟨hs.ok.start hmeets hidle.undisturbed, hseg.rooted, fun i th hth => ?_,
    hidle.single_start _ _, hs.proper.segment (fun i th hth => ⟨th, ?_, rfl⟩)
      List.getElem?_concat_length rfl hseg⟩
  · rcases Pool.threads_start hth with hold | ⟨hi, rfl⟩
    · exact hs.numbered i th hold
    · exact hi.symm
  · rw [Pool.start, List.getElem?_append_left (List.getElem?_eq_some_iff.mp hth).1]
    exact hth

/-! ## Answers -/

/-- The operation that goes on is the only one that waits. -/
theorem NavSound.answer (hs : NavSound p) {i : ℕ} {e : Answered remote}
    (hans : p.answer screenEnv i e = some p') (hadm : screenEnv.admits e.call e.reply p.state) :
    NavSound p' := by
  obtain ⟨th, t, hth, hawait, -, hseg, -, hthreads⟩ := hs.ok.answer_cases hans hadm
  have hlt := (List.getElem?_eq_some_iff.mp hth).1
  have hself : p'.threads[i]? = some { th with past := th.past ++ [e], now := t } := by
    rw [hthreads, List.getElem?_set_self hlt]
  refine ⟨hs.ok.answer hans hadm (hs.single.undisturbed hth hawait), hseg.rooted,
    fun j th' hth' => ?_, hs.single.answer hth hawait hthreads,
    hs.proper.segment (fun j th' hth' => ?_) hself (hs.numbered i th hth) hseg⟩
  · rcases Pool.threads_answer hthreads hth' with ⟨rfl, rfl⟩ | ⟨-, hold⟩
    · exact hs.numbered j th hth
    · exact hs.numbered j th' hold
  · by_cases hj : j = i
    · subst hj
      obtain rfl := Option.some.inj (hth.symm.trans hth')
      exact ⟨_, hself, rfl⟩
    · exact ⟨th', by rw [hthreads, List.getElem?_set_ne (Ne.symm hj)]; exact hth', rfl⟩

/-! ## Runs -/

theorem navSound_userStep (hs : NavSound p) (hdue : ¬Due p) (ha : a.Patient p)
    (hstep : userStep p a = some p') : NavSound p' := by
  have hidle := hs.idle hdue
  cases a with
  | openRoute kind =>
    simp only [userStep] at hstep
    split at hstep
    · rename_i hcond
      obtain rfl := Option.some.inj hstep
      exact hs.update (hs.rooted.push kind) rfl (hidle hcond.1).undisturbed
    · cases hstep
  | restart =>
    simp only [userStep] at hstep
    split at hstep
    · rename_i htop
      obtain rfl := Option.some.inj hstep
      exact hs.update (hs.rooted.pushAndRemoveUntilFirst _) rfl
        (hidle (by rw [htop]; rfl)).undisturbed
    · cases hstep
  | openDrawer =>
    simp only [userStep] at hstep
    split at hstep
    · rename_i id rs hroutes
      obtain rfl := Option.some.inj hstep
      exact hs.update (hs.rooted.setDrawer hroutes true) rfl
        (hidle (by simp [World.top, hroutes, RouteKind.opens])).undisturbed
    · cases hstep
  | close =>
    simp only [userStep] at hstep
    split at hstep
    · rename_i hcloses
      obtain rfl := Option.some.inj hstep
      refine hs.pop hdue ?_
      rintro ⟨th, -, c, -, htop⟩
      have htop : p.state.top = some (.progress th.tag.me.op) := htop
      rw [htop] at hcloses
      cases hcloses
    · cases hstep
  | back =>
    simp only [userStep] at hstep
    split at hstep
    · obtain rfl := Option.some.inj hstep
      exact hs.pop hdue (ha rfl)
    · cases hstep
  | start o =>
    simp only [userStep] at hstep
    split at hstep
    · rename_i page kind below hroutes
      split at hstep
      · rename_i hkind
        obtain rfl := Option.some.inj hstep
        refine hs.start (hidle ?_) ⟨below, hkind ▸ hroutes⟩
        simp only [World.top, hroutes, hkind]
        cases o <;> rfl
      · cases hstep
    · cases hstep
  | answer i e => cases hstep

theorem navSound_step (hs : NavSound p) (ha : a.Patient p) (hstep : navStep p a = some p') :
    NavSound p' := by
  -- nothing of the user's while an operation waits for a closed notice
  have huser : (if Due p then none else userStep p a) = some p' → NavSound p' := fun h => by
    by_cases hdue : Due p
    · rw [if_pos hdue] at h
      cases h
    · rw [if_neg hdue] at h
      exact navSound_userStep hs hdue ha h
  cases a with
  | answer i e =>
    -- the answer of a notice comes when it is closed, the others when no closed notice is due
    obtain ⟨c, reply⟩ := e
    simp only [navStep] at hstep
    cases c with
    | dialog d =>
      simp only [Call.notice] at hstep
      split at hstep
      · rename_i hclosed
        exact hs.answer hstep ⟨hs.rooted, closed_iff.mpr hclosed⟩
      · cases hstep
    | alert d =>
      simp only [Call.notice] at hstep
      split at hstep
      · rename_i hclosed
        exact hs.answer hstep ⟨hs.rooted, closed_iff.mpr hclosed⟩
      · cases hstep
    | _ =>
      simp only [Call.notice] at hstep
      split at hstep
      · cases hstep
      · exact hs.answer hstep ⟨hs.rooted, trivial⟩
  | _ => exact huser hstep

/-- **Every pop of an operation takes what is its own, in every run in which the back button
leaves the progress dialogs of waiting operations alone.** -/
theorem pops_properly {w : World} {as : List NavAction} {p : NavPool} (hw : NavStarted w)
    (hpatient : Along navStep (fun p a => a.Patient p) ⟨w, []⟩ as)
    (hrun : run navStep ⟨w, []⟩ as = some p) : PopsProperly p :=
  (run_invariant (fun _ _ _ hs ha hstep => navSound_step hs ha hstep) (navSound_started hw)
    hpatient hrun).proper

/-- The app of a user who is not logged in, just started. -/
def World.loginOpened (date : DateTime) : World where
  routes := [⟨0, .page .login false⟩]
  nextRoute := 1
  publish _ := { createDate := date }

theorem navStarted_loginOpened (date : DateTime) : NavStarted (.loginOpened date) where
  rooted := by
    refine ⟨⟨_, rfl, rfl⟩, fun r hr => ?_, fun x hx => ?_⟩
    · rw [List.mem_singleton.mp hr]
      exact Nat.zero_lt_one
    · have hx : x ∈ ([] : List (ℕ × Option Bool)) := hx
      simp at hx
  log := rfl

/-- Three operations: a registration, whose closing dialog is left with the back button while
the operation waits for it, the load of the Map page, and the logout from its drawer, which has been
opened and closed once before. -/
def registerThenLogout : List NavAction :=
  [.openRoute (.page .signup false),
    .start (.registerUserToFireBase "ann@floodup.org" "secret" "Ann" "Yes"),
    .answer 0 ⟨.createUserWithEmailAndPassword "ann@floodup.org" "secret",
      (.ok ⟨"u1", "ann@floodup.org", none⟩ : Except Fault FirebaseUser)⟩,
    .answer 0 ⟨.updateProfile "u1" "Ann", (.ok () : Except Fault Unit)⟩,
    .answer 0 ⟨.setSubscription "ann@floodup.org" "Yes", (.ok () : Except Fault Unit)⟩,
    .back, .answer 0 ⟨.dialog 3, ()⟩,
    .start (.loadWeatherEvents 0),
    .answer 1 ⟨.getEvents none, (.ok [] : Except Fault (List Document))⟩,
    .openDrawer, .close, .openDrawer, .start .logout,
    .answer 2 ⟨.signOut, (.ok () : Except Fault Unit)⟩]

theorem pops_properly_visit :
    ∃ p, run navStep ⟨.loginOpened ⟨2020, 1, 1⟩, []⟩ registerThenLogout = some p ∧
      PopsProperly p := by
  refine ⟨_, rfl, @pops_properly _ registerThenLogout _ (navStarted_loginOpened ⟨2020, 1, 1⟩) ?_ rfl⟩
  have hno : ∀ (p : NavPool) (a : NavAction), a ≠ .back → a.Patient p := fun p a ha hback =>
    absurd hback ha
  refine ⟨hno _ _ nofun, hno _ _ nofun, hno _ _ nofun, hno _ _ nofun, hno _ _ nofun, fun _ => ?_,
    hno _ _ nofun, hno _ _ nofun, hno _ _ nofun, hno _ _ nofun, hno _ _ nofun, hno _ _ nofun,
    hno _ _ nofun, hno _ _ nofun, trivial⟩
  -- the operation waits, but its dialog is on top and not its progress
  decide

/-- The back button dismisses the progress dialog of the load; when its reply comes,
`hideProgress` takes the Map page. -/
theorem dismissed_progress_pops_page :
    ¬∀ (w : World) (as : List NavAction) (p : NavPool), NavStarted w →
      run navStep ⟨w, []⟩ as = some p → PopsProperly p := by
  intro hall
  have hproper := hall (.loginOpened ⟨2020, 1, 1⟩)
    [.openRoute (.page .map false), .start (.loadWeatherEvents 0), .back,
      .answer 0 ⟨.getEvents none, (.ok [] : Except Fault (List Document))⟩]
    _ (navStarted_loginOpened ⟨2020, 1, 1⟩) rfl
  have hpop := hproper (.hideProgress 0 (.route ⟨1, .page .map false⟩)) (by decide)
  rcases hpop with h | ⟨n, h⟩
  · cases h
  · cases h

end FloodUp
