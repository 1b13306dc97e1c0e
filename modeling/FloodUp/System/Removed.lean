import FloodUp.System.Readers

/-!
# Reports that have been taken down

A moderator takes a report down by giving it another status than the one the app asks for. A phone
is not told: what its Map pages show of the report stays until they load the next time, and a query
that has been looked up before still brings it. Apart from that it never comes back
(`removed_stays_away`).
-/

namespace FloodUp

open Async

/-- The document is in the collection, but no query asks for its status. -/
structure TakenDown (id : String) (store : List Stored) : Prop where
  stored : ∃ x ∈ store, x.documentID = id
  hidden : ∀ x ∈ store, x.documentID = id → x.status ≠ .scalar (.int 1)

/-- A moderator makes the document visible again. -/
def BoardAction.Restores (id : String) : BoardAction → Prop
  | .moderate id' status => id' = id ∧ status = .scalar (.int 1)
  | _ => False

/-- No query that a routine of the phone waits for has found the document. -/
def Device.Unfound (id : String) (d : Device) : Prop :=
  ∀ (i : ℕ) th category documents, d.pool.threads[i]? = some th →
    th.now.awaiting = some (.getEvents category) → d.Replied i documents →
    ∀ document ∈ documents, document.documentID ≠ id

/-- What a Map page shows of the document. -/
def MapPage.shown (id : String) (m : MapPage) : List Marker :=
  m.allEventMarkers.filter fun marker => marker.markerId = id

variable {id : String} {store : List Stored} {d : Device} {p' : DevicePool} {a : DeviceAction}
  {s s' : World} {me : Caller} {h : List (Answered remote)} {n page : ℕ} {f f' : Board}

/-! ## The collection -/

/-- Ids are not used twice, so nothing but a moderator puts the document up again. -/
theorem TakenDown.step {b : BoardAction} (hdown : TakenDown id f.store) (hb : ¬b.Restores id)
    (hstep : boardStep f b = some f') : TakenDown id f'.store := by
  obtain ⟨x, hx, hid⟩ := hdown.stored
  cases store_step hstep with
  | same hstore => exact hstore ▸ hdown
  | taken document _ hfresh hstore =>
    rw [hstore]
    refine ⟨⟨x, List.mem_append_left _ hx, hid⟩, fun y hy hyid => ?_⟩
    rcases List.mem_append.mp hy with hold | hnew
    · exact hdown.hidden y hold hyid
    · rw [List.mem_singleton.mp hnew] at hyid
      exact absurd (hid.trans hyid.symm) (hfresh x hx)
  | @moderated id' status hstore =>
    rw [hstore]
    have hkept := (x.documentID_moderated id' status).trans hid
    refine ⟨⟨_, List.mem_map_of_mem hx, hkept⟩, fun y hy hyid => ?_⟩
    obtain ⟨y, hstored, rfl⟩ := List.mem_map.mp hy
    rw [Stored.documentID_moderated] at hyid
    unfold Stored.moderated
    split
    · rename_i hmoderated
      exact fun hstatus => hb ⟨hmoderated.symm.trans hyid, hstatus⟩
    · exact hdown.hidden y hstored hyid

/-- What has been taken down is not found. -/
theorem TakenDown.found (hdown : TakenDown id store) (hstore : Reports store)
    {category : Option String} : ∀ document ∈ found store category, document.documentID ≠ id := by
  intro document hdocument hid
  obtain ⟨hmem, hmatches⟩ := List.mem_filter.mp hdocument
  obtain ⟨x, hx, rfl⟩ := List.mem_map.mp hmem
  have hposted := posted_of_matches hstore hx (of_decide_eq_true hmatches)
  have hvisible : x.status = .scalar (.int 1) := by
    rw [← hposted]
    rfl
  exact hdown.hidden x hx hid hvisible

/-! ## The queries on their way -/

/-- A thread that waits after an action has just stopped there, or has waited before. -/
theorem Device.after_thread {i : ℕ} {th : Thread remote World Thrown Started} {c : Call}
    (hd : d.Sound store) (hstep : deviceStep d.pool a = some p') (hth : p'.threads[i]? = some th)
    (hawait : th.now.awaiting = some c) :
    d.after store a p' = ({ d with pool := p' } : Device).send store i (some c) ∨
      d.pool.threads[i]? = some th ∧ (d.after store a p').query i = d.query i := by
  have hothers : ∀ j c, i ≠ j →
      (({ d with pool := p' } : Device).send store j c).query i = d.query i := fun j c hj =>
    Device.send_query_other store { d with pool := p' } c hj
  obtain ⟨-, hchange⟩ := deviceStep_changes promised_post hd.ok (fun _ _ _ => trivial) hstep
  cases hchange with
  | outside hmoved _ hthreads =>
    rw [Device.after_outside hmoved]
    exact .inr ⟨hthreads ▸ hth, rfl⟩
  | started s threads th' hmoved _ hold hthreads =>
    by_cases hi : i = threads.length
    · subst hi
      exact .inl (by rw [Device.after_moved hmoved hth, hawait])
    · have hnew : p'.threads[threads.length]? = some th' := by
        rw [hthreads]
        exact List.getElem?_concat_length
      rw [hthreads, List.getElem?_append] at hth
      have hlt : i < threads.length := by
        by_contra hge
        rw [if_neg hge, List.getElem?_singleton, if_neg (by omega)] at hth
        cases hth
      rw [if_pos hlt] at hth
      rw [Device.after_moved hmoved hnew]
      refine .inr ⟨?_, hothers _ _ hi⟩
      rcases hold with rfl | ⟨-, rfl⟩
      · exact hth
      · cases hth
  | answered j e th' t ha hth' _ hthreads =>
    have hmoved : a.moved d.pool = some j := by rw [ha]; rfl
    by_cases hi : i = j
    · subst hi
      exact .inl (by rw [Device.after_moved hmoved hth, hawait])
    · have hnew : p'.threads[j]? = some { th' with past := th'.past ++ [e], now := t } := by
        rw [hthreads, List.getElem?_set_self (List.getElem?_eq_some_iff.mp hth').1]
      rw [Device.after_moved hmoved hnew]
      rw [hthreads, List.getElem?_set_ne (Ne.symm hi)] at hth
      exact .inr ⟨hth, hothers _ _ hi⟩

theorem Device.Unfound.after (hfind : d.Unfound id) (hd : d.Sound store)
    (hstep : deviceStep d.pool a = some p') : (d.after store a p').Unfound id := by
  intro i th category documents hth hawait hreplied
  rw [Device.after_pool] at hth
  unfold Device.Replied at hreplied
  rcases Device.after_thread hd hstep hth hawait with hsent | ⟨hold, hsame⟩
  · -- a query just issued has no reply
    have hnew : (d.after store a p').query i = some ⟨category, store, none⟩ := by
      rw [hsent]
      exact Function.update_self ..
    rw [hnew] at hreplied
    cases hreplied
  · rw [hsame] at hreplied
    exact hfind i th category documents hold hawait hreplied

theorem Device.Unfound.step {b : BoardAction} (hd : (f.device n).Unfound id) (hf : f.Reads)
    (hdown : TakenDown id f.store) (hstep : boardStep f b = some f') :
    (f'.device n).Unfound id := by
  obtain ⟨es, hes⟩ := hf.refines
  cases b with
  | act m a =>
    obtain ⟨-, p, hp, rfl⟩ := act_eq_some hstep
    apply Board.at_setDevice hd
    rintro rfl
    exact hd.after (hes.device n) hp
  | take m k id' =>
    obtain ⟨document, -, -, rfl⟩ := take_eq_some hstep
    apply Board.at_setDevice hd
    rintro rfl
    exact hd
  | look m i reply =>
    obtain ⟨q, -, hlooked, rfl⟩ := look_eq_some hstep
    apply Board.at_setDevice hd
    rintro rfl j th category documents hth hawait hreplied
    have hreplied : (Function.update (f.device n).query i _ j).bind (fun q => q.reply) =
        some documents := hreplied
    by_cases hj : j = i
    · -- the collection looks for visible documents only
      subst hj
      rw [Function.update_self, Option.bind_some, Option.some.injEq] at hreplied
      subst hreplied
      exact fun document hdocument =>
        hdown.found hes.reports document (hlooked.mem_iff.mp hdocument)
    · rw [Function.update_of_ne hj] at hreplied
      exact hd j th category documents hth hawait hreplied
  | moderate id' status =>
    obtain rfl := Option.some.inj hstep
    intro j th category documents hth hawait hreplied
    apply hd j th category documents hth hawait
    have hreplied : (((f.device n).query j).map (Query.moderated id')).bind (fun q => q.reply) =
        some documents := hreplied
    rw [Option.bind_map] at hreplied
    exact hreplied

/-! ## The Map pages -/

/-- A segment that brings no such document shows as much of it as before, or nothing. -/
theorem readMove_shown (hmove : ReadMove me h s s')
    (hreply : ∀ filter documents, h.getLast? =
      some ⟨.getEvents filter, (.ok documents : Except Fault (List Document))⟩ →
      ∀ document ∈ documents, document.documentID ≠ id) :
    (s'.map page).shown id = (s.map page).shown id ∨ (s'.map page).shown id = [] := by
  cases hmove with
  | kept _ hmap => exact .inl (by rw [hmap])
  | emptied m _ hnone hmap =>
    rw [hmap]
    by_cases hpage : page = me.page
    · subst hpage
      rw [Function.update_self]
      exact .inr (by simp [MapPage.shown, hnone])
    · exact .inl (by rw [Function.update_of_ne hpage])
  | shown filter documents markers hlast hmarkers hmap _ =>
    rw [hmap]
    by_cases hpage : page = me.page
    · subst hpage
      rw [Function.update_self]
      -- no new marker is one of the document
      have hnew : (markers.filter fun marker => marker.markerId = id) = [] := by
        rw [List.filter_eq_nil_iff]
        intro marker hmarker
        obtain ⟨document, hdocument, hmade⟩ :=
          exists_of_forall₂ (mapM_eq_ok_iff.mp hmarkers).flip marker hmarker
        have hid : marker.markerId = document.documentID := (eventMarker_eq_ok hmade).1
        have hother := hreply filter documents hlast document hdocument
        simpa [hid] using hother
      left
      show List.filter _ ((s.map me.page).allEventMarkers ++ markers) = _
      rw [List.filter_append, hnew, List.append_nil]
      rfl
    · exact .inl (by rw [Function.update_of_ne hpage])

/-- One action on a phone. -/
theorem Board.Reads.shown (hf : f.Reads) (hfind : (f.device n).Unfound id) (hallows : f.Allows n a)
    (hstep : deviceStep (f.device n).pool a = some p') :
    (p'.state.map page).shown id = ((f.device n).pool.state.map page).shown id ∨
      (p'.state.map page).shown id = [] := by
  cases hf.changes hallows hstep with
  | outside _ hstate _ => exact .inl (by rw [hstate.map])
  | started s threads th _ hstate _ _ _ _ hmove =>
    rw [← hstate.map]
    exact readMove_shown hmove.1 (by simp)
  | answered i e th t ha hth hawait _ hmove =>
    subst ha
    apply readMove_shown hmove.1
    intro filter documents hlast
    rw [List.getLast?_concat, Option.some.injEq] at hlast
    subst hlast
    exact hfind i th filter documents hth hawait hallows

/-- The document has been taken down, and the page shows as much of it as in `old`, or nothing. -/
structure Board.Away (id : String) (n page : ℕ) (old : List Marker) (f : Board) : Prop where
  reads : f.Reads
  down : TakenDown id f.store
  unfound : (f.device n).Unfound id
  shown : ((f.device n).pool.state.map page).shown id = old ∨
    ((f.device n).pool.state.map page).shown id = []

variable {old : List Marker} {b : BoardAction}

/-- What the page shows after a step is what it has shown before, or nothing. -/
theorem Board.Away.step_shown (hf : f.Away id n page old) (hstep : boardStep f b = some f') :
    ((f'.device n).pool.state.map page).shown id = ((f.device n).pool.state.map page).shown id ∨
      ((f'.device n).pool.state.map page).shown id = [] := by
  rcases pool_step n hstep with hsame | ⟨a, p, -, hallows, hp, rfl⟩
  · exact .inl (by rw [hsame])
  · exact hf.reads.shown hf.unfound hallows hp

theorem Board.Away.step (hf : f.Away id n page old) (hb : ¬b.Restores id)
    (hstep : boardStep f b = some f') : f'.Away id n page old where
  reads := hf.reads.step hstep
  down := hf.down.step hb hstep
  unfound := hf.unfound.step hf.reads hf.down hstep
  shown := by
    rcases hf.step_shown hstep with hsame | hnone
    · rw [hsame]
      exact hf.shown
    · exact .inr hnone

theorem Board.Away.run {bs : List BoardAction} (hf : f.Away id n page old)
    (hbs : ∀ b ∈ bs, ¬b.Restores id) (hrun : run boardStep f bs = some f') :
    f'.Away id n page old :=
  run_invariant (fun _ _ _ hf hb hstep => hf.step hb hstep) hf (along_of_forall hbs) hrun

end FloodUp
