import FloodUp.Account.Guests
import FloodUp.System.Board

/-!
# Whose name is on a report

A report carries the name that is in the globals when it is added. Nothing keeps that name from
changing while a press is on its way, or from being empty, but it is never made up: it is empty or
the display name of an account that Firebase has handed to the very phone that posted the report
(`reports_name_accounts`).
-/

namespace FloodUp

open Async

/-- The answer hands out an account of this name. -/
def HandsName (name : String) (e : Answered remote) : Prop :=
  ∃ user, Hands user e ∧ user.displayName = some name

/-! ## The contract of every routine -/

/-- A segment after the answers `h` keeps the name, forgets it or takes it from one of them, and a
document it adds carries the name there is. -/
structure NameMove (h : List (Answered remote)) (s : World) (c : Option Call) (s' : World) :
    Prop where
  name : s'.globals.userFullName = s.globals.userFullName ∨ s'.globals.userFullName = "" ∨
    ∃ e ∈ h, HandsName s'.globals.userFullName e
  publisher : ∀ document, c = some (.addEvent document) →
    document.get "publisher" = .scalar (.string s'.globals.userFullName)

def nameContract : Contract remote World Thrown Unit where
  holds _ _ _ := True
  moves := NameMove
  ends _ _ := True

variable {h : List (Answered remote)} {s s' : World} {me : Caller}

theorem nameMove_same {c : Option Call} (hs : s'.globals = s.globals)
    (hc : ∀ c', c = some c' → c'.IsNoAdd) : NameMove h s c s' where
  name := .inl (by rw [hs])
  publisher document hadd := absurd rfl (hc _ hadd document)

/-- A last segment that leaves the globals alone. -/
theorem name_final {r : Except Thrown Unit} (hs : s'.globals = s.globals) :
    nameContract.final h s r s' :=
  ⟨nameMove_same hs (by simp), trivial⟩

/-- A segment that adds a document of the form. -/
theorem nameMove_add {page : ℕ} {loc : LatLng} (hs : s'.globals = s.globals) :
    NameMove h s (some (.addEvent (s'.document page loc))) s' where
  name := .inl (by rw [hs])
  publisher document hadd := by
    obtain rfl := Call.addEvent.inj (Option.some.inj hadd)
    exact publisher_document page loc s'

theorem nameless_meets {t : Dart Unit} (ht : t.Within World.SameGlobals Call.IsNoAdd) (s : World) :
    t.Meets anyEnv nameContract nameContract.final [] s s := by
  apply ht.meets World.SameGlobals.trans (fun _ _ _ => trivial)
  · intro h s c s' hs hc
    apply nameMove_same hs
    intro c' hc'
    rw [← Option.some.inj hc']
    exact hc
  · exact answered_globals
  · rfl
  · intro h s₀ r s hs
    exact name_final hs

theorem name_rules (me : Caller) (s₀ : World) :
    PublishRules (fun _ _ _ => True) nameContract me s₀ where
  refuse r s hs _ := name_final hs.globals
  locate s hs _ := ⟨nameMove_same hs.globals (by simp [Call.IsNoAdd]), trivial⟩
  notify h e c s s' hc _ _ hs := by
    refine ⟨nameMove_same (hs.globals.trans (answered_globals _ _ _)) ?_, trivial⟩
    cases hc <;> simp [Call.IsNoAdd]
  quit h e r s s' _ _ hs _ := name_final (hs.globals.trans (answered_globals _ _ _))
  add_first t _ _ _ := ⟨nameMove_add rfl, trivial⟩
  put_first t file _ _ _ := ⟨nameMove_same rfl (by simp [Call.IsNoAdd]), trivial⟩
  link t u s _ _ _ := ⟨nameMove_same rfl (by simp [Call.IsNoAdd]), trivial⟩
  put_next t u url file s _ _ _ _ _ _ := ⟨nameMove_same rfl (by simp [Call.IsNoAdd]), trivial⟩
  add_last t u url s _ _ _ _ _ _ := ⟨nameMove_add rfl, trivial⟩
  abort t u url s _ _ _ _ _ := name_final rfl

/-! ## The session -/

theorem userFullName_sessionMove {g g' : Globals} (hmove : SessionMove h g g') :
    g'.userFullName = g.userFullName ∨ g'.userFullName = "" ∨
      ∃ e ∈ h, HandsName g'.userFullName e := by
  cases hmove with
  | same hsame => exact .inl (by rw [hsame])
  | nobody hnobody => exact .inr (.inl hnobody.userFullName)
  | names user hhands _ hname =>
    rcases hname with hsame | hname
    · exact .inl hsame
    · obtain ⟨e, he, hhands⟩ := hhands
      exact .inr (.inr ⟨e, he, user, hhands, hname⟩)

/-- The check at the start may come at any time here, so it has a proof of its own. -/
theorem isLoggedIn_names (me : Caller) (s : World) :
    (AccountOperation.isLoggedIn.routine me).Meets anyEnv nameContract nameContract.final [] s s := by
  show (FloodUp.isLoggedIn.bind fun _ => .pure ()).Meets _ _ _ _ _ _
  unfold FloodUp.isLoggedIn
  simp only [currentUser, Routine.bind_eq, Routine.meets_bind, meets_remoteCall]
  refine ⟨nameMove_same rfl (by simp [Call.IsNoAdd]), trivial, fun s₁ reply _ _ => ?_⟩
  rcases reply with f | _ | user
  · exact name_final rfl
  · exact ⟨⟨.inr (.inl rfl), by simp⟩, trivial⟩
  · simp only [Except.mapError, id_eq, Routine.meets_bind, Routine.meets_modify]
    unfold readSubscription
    simp only [getSubscription, Routine.bind_eq, Routine.meets_tryCatch, Routine.meets_bind,
      meets_remoteCall]
    refine ⟨⟨?_, by simp⟩, trivial, fun s₂ reply _ _ => ?_⟩
    · rcases userFullName_withUser s₁.globals user with hsame | hname
      · exact .inl hsame
      · exact .inr (.inr ⟨_, .head _, user, rfl, hname⟩)
    rcases reply with (code | _ | _) | _ | data
    · exact name_final rfl
    · exact name_final rfl
    · exact name_final rfl
    · exact name_final rfl
    · show (storeSubscription data).Meets _ _ _ _ _ _
      unfold storeSubscription
      cases hvalue : (data.get "subscribed").asString with
      | ok value => exact ⟨⟨.inl rfl, by simp⟩, trivial⟩
      | error e =>
        obtain rfl := Value.asString_error hvalue
        exact name_final rfl

theorem Call.OfAccount.isNoAdd {c : Call} (hc : c.OfAccount) : c.IsNoAdd := by
  rintro document rfl
  exact hc

theorem AccountOperation.names (o : AccountOperation) (me : Caller) (s : World) :
    (o.routine me).Meets anyEnv nameContract nameContract.final [] s s := by
  by_cases ho : o = .isLoggedIn
  · subst ho
    exact isLoggedIn_names me s
  · have hcalls : (o.routine me).Within (fun _ _ => True) Call.IsNoAdd :=
      o.within (fun _ _ _ => trivial) (fun _ _ => trivial) (fun _ _ _ => trivial)
        (fun _ hc => hc.isNoAdd) me
    have hmeets : (o.routine me).Meets anyEnv (guestContract o) (guestContract o).final [] s s :=
      guest_routine ho me s
    apply hmeets.of_calls hcalls
    · intro h c s
      cases o with
      | isLoggedIn => exact absurd rfl ho
      | _ => exact Iff.rfl
    · intro h s c s' hc hmove
      exact ⟨userFullName_sessionMove hmove, fun document hadd =>
        absurd (Option.some.inj hadd) (hc document)⟩
    · intro h s₀ r s hfinal
      exact ⟨⟨userFullName_sessionMove hfinal.1, by simp⟩, trivial⟩

theorem promised_name : Promised (fun _ _ _ => True) fun _ => nameContract where
  holds _ _ _ _ _ _ := trivial
  meets tag s := by
    obtain ⟨routine, me⟩ := tag
    cases routine with
    | publish r =>
      cases r with
      | publishEvent => exact publishEvent_meets (name_rules me s)
      | getCurAddress => exact nameless_meets (getCurAddress_within me) s
      | getImage => exact nameless_meets (getImage_within me) s
    | map o => exact nameless_meets (mapOperation_within me o) s
    | account o => exact o.names me s

/-! ## One phone -/

/-- The names that may be on the reports of a phone are those known there. -/
structure Device.Named (known : String → Prop) (d : Device) : Prop where
  ok : d.pool.Ok anyEnv fun _ _ => nameContract
  heard : ∀ th ∈ d.pool.threads, ∀ e ∈ th.past, ∀ name, HandsName name e → known name
  name : known d.pool.state.globals.userFullName
  outbox : ∀ document ∈ d.outbox, ∃ name, known name ∧
    document.get "publisher" = .scalar (.string name)

variable {known : String → Prop} {d : Device} {store : List Stored} {p' : DevicePool}
  {a : DeviceAction}

/-- The name after a segment is known if the one before it is and the answers were. -/
theorem NameMove.stays_known {c : Option Call} (hmove : NameMove h s c s') (hempty : known "")
    (hheard : ∀ e ∈ h, ∀ name, HandsName name e → known name) (hs : known s.globals.userFullName) :
    known s'.globals.userFullName := by
  rcases hmove.name with hsame | hnone | ⟨e, he, hname⟩
  · rw [hsame]
    exact hs
  · rw [hnone]
    exact hempty
  · exact hheard e he _ hname

/-- A thread that has moved by its contract. -/
theorem Device.Named.moved {i : ℕ} {c : Option Call} (hd : d.Named known) (hempty : known "")
    (hok : p'.Ok anyEnv fun _ _ => nameContract) (hs : known s.globals.userFullName)
    (hheard : ∀ th ∈ p'.threads, ∀ e ∈ th.past, ∀ name, HandsName name e → known name)
    (hpast : ∀ e ∈ h, ∀ name, HandsName name e → known name) (hmove : NameMove h s c p'.state) :
    (({ d with pool := p' } : Device).send store i c).Named known where
  ok := by
    rw [Device.send_pool]
    exact hok
  heard := by
    rw [Device.send_pool]
    exact hheard
  name := by
    rw [Device.send_pool]
    exact hmove.stays_known hempty hpast hs
  outbox document hdocument := by
    rcases Device.send_outbox store { d with pool := p' } i c with ⟨houtbox, -⟩ | ⟨new, hc, houtbox⟩
    · rw [houtbox] at hdocument
      exact hd.outbox document hdocument
    · rw [houtbox] at hdocument
      rcases List.mem_append.mp hdocument with hold | hnew
      · exact hd.outbox document hold
      · -- the document just added carries the name there is
        rw [List.mem_singleton.mp hnew]
        exact ⟨_, hmove.stays_known hempty hpast hs, hmove.publisher new hc⟩

/-- **One action on a phone**: its reports still carry known names only. -/
theorem Device.Named.after (hd : d.Named known) (hempty : known "")
    (hanswer : ∀ i e, a = .answer i e → ∀ name, HandsName name e → known name)
    (hstep : deviceStep d.pool a = some p') : (d.after store a p').Named known := by
  obtain ⟨hok, hchange⟩ := deviceStep_changes promised_name hd.ok (fun _ _ _ => trivial) hstep
  have houtside : ∀ s : World, d.pool.state.Outside s → known s.globals.userFullName := by
    intro s hs
    rcases hs.globals with hsame | hnew
    · rw [hsame]
      exact hd.name
    · rw [hnew]
      exact hempty
  cases hchange with
  | outside hmoved hstate hthreads =>
    rw [Device.after_outside hmoved]
    exact ⟨hok, by rw [hthreads]; exact hd.heard, houtside _ hstate, hd.outbox⟩
  | started s threads th hmoved hstate hold hthreads hpast _ hmove =>
    have hth : p'.threads[threads.length]? = some th := by
      rw [hthreads]
      exact List.getElem?_concat_length
    rw [Device.after_moved hmoved hth]
    refine hd.moved hempty hok (houtside s hstate) (fun th' hth' => ?_) (by simp) hmove
    rw [hthreads] at hth'
    rcases List.mem_append.mp hth' with hthread | hnew
    · rcases hold with rfl | ⟨-, rfl⟩
      · exact hd.heard th' hthread
      · cases hthread
    · rw [List.mem_singleton.mp hnew, hpast]
      simp
  | answered i e th t ha hth _ hthreads hmove =>
    have hlt := (List.getElem?_eq_some_iff.mp hth).1
    have hth' : p'.threads[i]? = some { th with past := th.past ++ [e], now := t } := by
      rw [hthreads, List.getElem?_set_self hlt]
    have hmoved : a.moved d.pool = some i := by rw [ha]; rfl
    have hpast : ∀ e' ∈ th.past ++ [e], ∀ name, HandsName name e' → known name := by
      intro e' he'
      rcases List.mem_append.mp he' with hold | hnew
      · exact hd.heard th (List.mem_of_getElem? hth) e' hold
      · rw [List.mem_singleton.mp hnew]
        exact hanswer i e ha
    rw [Device.after_moved hmoved hth']
    refine hd.moved hempty hok hd.name (fun th'' hth'' => ?_) hpast hmove
    rw [hthreads] at hth''
    rcases List.mem_or_eq_of_mem_set hth'' with hold | rfl
    · exact hd.heard th'' hold
    · exact hpast

/-! ## All phones -/

/-- The name is empty, or phone `n` is handed an account of this name in the run. -/
def NameOf (as : List BoardAction) (n : ℕ) (name : String) : Prop :=
  name = "" ∨ ∃ i e, .act n (.answer i e) ∈ as ∧ HandsName name e

/-- Phone `n` posts the document in the run, under a name it was handed. -/
def PostedBy (as : List BoardAction) (x : Stored) (n : ℕ) : Prop :=
  (∃ k, .take n k x.documentID ∈ as) ∧
    ∃ name, NameOf as n name ∧ x.written.get "publisher" = .scalar (.string name)

/-- Every document was there at first or has been posted by a phone under a name it was handed. -/
structure Board.Named (as : List BoardAction) (first : List Stored) (f : Board) : Prop where
  device : ∀ n, (f.device n).Named (NameOf as n)
  store : ∀ x ∈ f.store, (∃ y ∈ first, y.documentID = x.documentID) ∨ ∃ n, PostedBy as x n

variable {as : List BoardAction} {first : List Stored} {f f' : Board} {b : BoardAction}

theorem Board.Named.step (hf : f.Named as first) (hb : b ∈ as) (hstep : boardStep f b = some f') :
    f'.Named as first := by
  cases b with
  | act n a =>
    obtain ⟨-, p, hp, rfl⟩ := act_eq_some hstep
    refine ⟨fun m => Board.at_setDevice (hf.device m) fun hm => ?_, hf.store⟩
    subst hm
    refine (hf.device m).after (.inl rfl) (fun i e ha name hname => ?_) hp
    subst ha
    exact .inr ⟨i, e, hb, hname⟩
  | take n k id =>
    obtain ⟨document, hdocument, -, rfl⟩ := take_eq_some hstep
    constructor
    · intro m
      show ((f.setDevice n _).device m).Named _
      refine Board.at_setDevice (hf.device m) fun hm => ?_
      subst hm
      have hd := hf.device m
      exact ⟨hd.ok, hd.heard, hd.name, fun x hx => hd.outbox x (List.mem_of_mem_eraseIdx hx)⟩
    · intro x hx
      rcases List.mem_append.mp hx with hold | hnew
      · exact hf.store x hold
      · -- the document has been in the outbox of phone `n`
        rw [List.mem_singleton.mp hnew]
        have hout := (hf.device n).outbox document (List.mem_of_getElem? hdocument)
        exact .inr ⟨n, ⟨k, hb⟩, hout⟩
  | look n i reply =>
    obtain ⟨q, -, -, rfl⟩ := look_eq_some hstep
    refine ⟨fun m => Board.at_setDevice (hf.device m) fun hm => ?_, hf.store⟩
    subst hm
    exact { hf.device m with }
  | moderate id status =>
    obtain rfl := Option.some.inj hstep
    refine ⟨fun m => { hf.device m with }, fun x hx => ?_⟩
    obtain ⟨y, hy, rfl⟩ := List.mem_map.mp hx
    simp only [PostedBy, Stored.documentID_moderated, Stored.written_moderated]
    exact hf.store y hy

/-- **No report carries a made-up name**: whatever happens on all phones, the publisher of a report
posted in a run is empty or the display name of an account that the phone that posted it was
handed in that run. -/
theorem reports_name_accounts {f f' : Board} {as : List BoardAction}
    (hfresh : ∀ n, (f.device n).Fresh)
    (hnobody : ∀ n, (f.device n).pool.state.globals.userFullName = "")
    (hrun : run boardStep f as = some f') :
    ∀ x ∈ f'.store, (∃ y ∈ f.store, y.documentID = x.documentID) ∨ ∃ n, PostedBy as x n := by
  have hf : f.Named as f.store := by
    refine ⟨fun n => ?_, fun x hx => .inl ⟨x, hx, rfl⟩⟩
    have hd := hfresh n
    exact ⟨Pool.ok_of_threads_nil hd.threads, by simp [hd.threads], .inl (hnobody n),
      by simp [hd.outbox]⟩
  exact (run_invariant (fun _ _ _ hf hb hstep => hf.step hb hstep) hf
    (along_of_forall fun _ hb => hb) hrun).store

/-- Phones with a Publish page open on which nobody is signed in, and an empty collection. -/
def Board.signedOut (date : DateTime) : Board where
  device _ := ⟨⟨{ World.readyToPublish date with globals := {} }, []⟩, [], fun _ => none⟩
  store := []

theorem fresh_signedOut (date : DateTime) (n : ℕ) : ((Board.signedOut date).device n).Fresh where
  threads := rfl
  outbox := rfl
  query _ := rfl
  forms := (fresh_ready date n).forms
  events := rfl
  markers _ := rfl

/-- Ann logs in on phone 3 and posts a report. -/
def annPosts : List BoardAction :=
  [.act 3 (.begin (.account (.login "ann@floodup.org" "secret")) 1),
    .act 3 (.answer 0 ⟨.signInWithEmailAndPassword "ann@floodup.org" "secret",
      (.ok ann : Except Fault FirebaseUser)⟩),
    .act 3 (.answer 0 ⟨.getSubscription "ann@floodup.org",
      (.ok none : Except Fault (Option Data))⟩),
    .act 3 (.begin (.publish .publishEvent) 1),
    .act 3 (.answer 1 ⟨.placemarkFromAddress "Here",
      (.ok (some [⟨⟨1, 2⟩⟩]) : Except Fault (Option (List Placemark)))⟩),
    .take 3 0 "a"]

theorem reports_name_accounts_ann :
    ∃ f x, run boardStep (Board.signedOut ⟨2020, 1, 1⟩) annPosts = some f ∧ x ∈ f.store ∧
      x.written.get "publisher" = .scalar (.string "Ann") ∧ ∃ n, PostedBy annPosts x n := by
  have hposted := @reports_name_accounts (Board.signedOut ⟨2020, 1, 1⟩) _ annPosts
    (fresh_signedOut ⟨2020, 1, 1⟩) (fun _ => rfl) rfl _ (.head _)
  refine ⟨_, _, rfl, .head _, rfl, ?_⟩
  rcases hposted with ⟨y, hy, -⟩ | hposted
  · cases hy
  · exact hposted

end FloodUp
