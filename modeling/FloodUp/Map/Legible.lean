import FloodUp.Publish.Form

/-!
# What readers can tell apart

A stored document goes through texts: the number of the category, the formatted date, ratings in
decimal, dashes for texts left empty. `look_same_iff` says how much of the form is still there on
the reader's screen: two reports look the same if and only if their forms agree in everything but
the hazard, which is never shown, an empty text counting as the dash it is shown as.
-/

namespace FloodUp

open Async

/-! ## Dates -/

theorem toList_padLeft (width n : ℕ) : (padLeft width n).toList =
    List.replicate (width - (toString n).length) '0' ++ Nat.toDigits 10 n := by
  rw [padLeft, String.toList_append, String.toList_ofList]
  congr 1
  exact Nat.toList_repr

/-- The zeros in front do not change the number. -/
theorem ofDigitChars_padLeft (width n : ℕ) :
    Nat.ofDigitChars 10 (padLeft width n).toList 0 = n := by
  rw [toList_padLeft, Nat.ofDigitChars_append, Nat.ofDigitChars_replicate_zero, Nat.mul_zero,
    Nat.ofDigitChars_ten_toDigits]

theorem padLeft_inj {width m n : ℕ} (h : (padLeft width m).toList = (padLeft width n).toList) :
    m = n := by
  rw [← ofDigitChars_padLeft width m, h, ofDigitChars_padLeft]

theorem dash_notMem_padLeft (width n : ℕ) : '-' ∉ (padLeft width n).toList := by
  rw [toList_padLeft, List.mem_append]
  intro hmem
  rcases hmem with hzero | hdigit
  · exact absurd (List.eq_of_mem_replicate hzero) (by decide)
  · exact absurd (Nat.isDigit_of_mem_toDigits (by decide) (by decide) hdigit) (by decide)

/-- A day can be read off its text. -/
theorem DateTime.format_inj {d d' : DateTime} (h : d.format = d'.format) : d = d' := by
  have hlist : (padLeft 2 d.day).toList ++ '-' ::
        ((padLeft 2 d.month).toList ++ '-' :: (padLeft 4 d.year).toList) =
      (padLeft 2 d'.day).toList ++ '-' ::
        ((padLeft 2 d'.month).toList ++ '-' :: (padLeft 4 d'.year).toList) := by
    have := congrArg String.toList h
    simpa [DateTime.format] using this
  -- the dashes are where the parts meet
  obtain ⟨hday, hrest⟩ := append_separator_inj (dash_notMem_padLeft 2 d.day)
    (dash_notMem_padLeft 2 d'.day) hlist
  obtain ⟨hmonth, hyear⟩ := append_separator_inj (dash_notMem_padLeft 2 d.month)
    (dash_notMem_padLeft 2 d'.month) hrest
  have hday := padLeft_inj hday
  have hmonth := padLeft_inj hmonth
  have hyear := padLeft_inj hyear
  cases d
  cases d'
  subst hday hmonth hyear
  rfl

/-! ## Texts, ratings and labels -/

/-- The texts are the same, or both are shown as a dash. -/
def Alike (text text' : String) : Prop :=
  text = text' ∨ (text = "" ∨ text = "-") ∧ (text' = "" ∨ text' = "-")

theorem shownText_eq_dash {text : String} : shownText text = "-" ↔ text = "" ∨ text = "-" := by
  unfold shownText
  by_cases h : text = "" <;> simp [h]

theorem shownText_of_ne {text : String} (h : text ≠ "") : shownText text = text := by
  rw [shownText, if_neg h]

theorem shownText_eq_iff {text text' : String} : shownText text = shownText text' ↔ Alike text text' := by
  constructor
  · intro h
    by_cases hdash : shownText text = "-"
    · exact .inr ⟨shownText_eq_dash.mp hdash, shownText_eq_dash.mp (h ▸ hdash)⟩
    -- otherwise neither text is empty
    · have hdash' : shownText text' ≠ "-" := h ▸ hdash
      rw [shownText_of_ne fun he => hdash (shownText_eq_dash.mpr (.inl he)),
        shownText_of_ne fun he => hdash' (shownText_eq_dash.mpr (.inl he))] at h
      exact .inl h
  · intro h
    rcases h with rfl | ⟨h, h'⟩
    · rfl
    · rw [shownText_eq_dash.mpr h, shownText_eq_dash.mpr h']

/-- A decimal of a natural number is no dash. -/
theorem toString_ne_dash (n : ℕ) : toString (n : ℤ) ≠ "-" := by
  intro h
  have hmem : '-' ∈ Nat.toDigits 10 n := by
    rw [← Nat.toList_repr]
    have hlist := congrArg String.toList h
    have hrepr : (toString (n : ℤ)).toList = n.repr.toList := rfl
    rw [← hrepr, hlist]
    exact .head _
  exact absurd (Nat.isDigit_of_mem_toDigits (by decide) (by decide) hmem) (by decide)

theorem shownRating_inj {rating rating' : ℤ} (h : -1 ≤ rating) (h' : -1 ≤ rating')
    (heq : shownRating rating = shownRating rating') : rating = rating' := by
  have hnat : ∀ {r : ℤ}, -1 ≤ r → toString (r + 1) ≠ "-" := fun {r} hr => by
    obtain ⟨n, hn⟩ := Int.eq_ofNat_of_zero_le (show 0 ≤ r + 1 by omega)
    rw [hn]
    exact toString_ne_dash n
  unfold shownRating at heq
  by_cases hunset : rating = -1 <;> by_cases hunset' : rating' = -1
  · rw [hunset, hunset']
  · rw [if_pos hunset, if_neg hunset'] at heq
    exact absurd heq.symm (hnat h')
  · rw [if_neg hunset, if_pos hunset'] at heq
    exact absurd heq (hnat h)
  · rw [if_neg hunset, if_neg hunset'] at heq
    have := Int.repr_injective heq
    omega

/-- No two categories have the same label. -/
theorem label_inj (locale : Locale) {category category' : ℕ} {label : String}
    (h : (categories locale)[category]? = some label)
    (h' : (categories locale)[category']? = some label) : category = category' := by
  have hnodup : (categories locale).Nodup := (List.nodup_cons.mp (nodup_filters locale)).2
  have hlt := (List.getElem?_eq_some_iff.mp h).1
  exact (List.getElem?_inj hlt hnodup).mp (h.trans h'.symm)

/-! ## What is on the reader's screen -/

/-- The forms agree in all that is shown. -/
structure SameEntries (q q' : PublishPage) : Prop where
  images : q.fileDownloadUrls = q'.fileDownloadUrls
  category : q.category = q'.category
  createDate : q.createDate = q'.createDate
  location : q.textLocation = q'.textLocation
  attention : Alike q.textAttention q'.textAttention
  information : Alike q.textInformation q'.textInformation
  knowAlert : q.knowAlert = q'.knowAlert
  climateRating : q.climateRating = q'.climateRating
  climatewhy : Alike q.textClimatewhy q'.textClimatewhy
  uploadRating : q.uploadRating = q'.uploadRating
  botherRating : q.botherRating = q'.botherRating
  reduceimpact : Alike q.textReduceimpact q'.textReduceimpact

/-- What a reader is shown of a published event. -/
theorem Opens.eventDocument {reader : World} {you : Caller} {g : Globals} {q : PublishPage}
    {loc : LatLng} {id : String} {sheet : Sheet} {shown : DetailPage} (hq : q.Chosen)
    (h : Opens reader you ⟨id, eventDocument g q loc⟩ sheet shown) :
    ∃ label, (categories reader.locale)[q.category]? = some label ∧
      sheet = ⟨some (q.fileDownloadUrls.headD ""), label, some q.createDate.format,
        some q.textLocation, "assets/category_icons/" ++ categoryNumber q.category ++ ".png"⟩ ∧
      shown = ⟨q.fileDownloadUrls.map some, some g.userFullName, label, some q.createDate.format,
        some q.textLocation, some (shownText q.textAttention), some (shownText q.textInformation),
        translate reader.locale (if q.knowAlert then "no_title" else "yes_title"),
        shownRating q.climateRating, some (shownText q.textClimatewhy), shownRating q.uploadRating,
        shownRating q.botherRating, some (shownText q.textReduceimpact)⟩ := by
  obtain ⟨marker, hmarker, hsheet, hshown⟩ := h.eventMarker
  obtain rfl : publishedMarker g q loc id = marker :=
    Except.ok.inj ((eventMarker_eventDocument g q loc id).symm.trans hmarker)
  obtain ⟨label, hlabel, hevent⟩ := eventCategory_eventDocument reader.locale g q loc hq.category
  rw [sheet_publishedMarker hevent] at hsheet
  rw [detail_publishedMarker hevent hq.climate.1 hq.upload.1 hq.bother.1] at hshown
  exact ⟨label, hlabel, (Except.ok.inj hsheet).symm, (Except.ok.inj hshown).symm⟩

theorem alertText_inj {locale : Locale} {answer answer' : Bool}
    (h : translate locale (if answer then "no_title" else "yes_title") =
      translate locale (if answer' then "no_title" else "yes_title")) : answer = answer' := by
  have hne := translate_yes_ne_no locale
  cases answer <;> cases answer'
  · rfl
  · exact absurd h hne
  · exact absurd h.symm hne
  · rfl

/-- **Two published events look the same to a reader if and only if they were published under the
same name from forms that agree in all that is shown.** -/
theorem look_same_iff {reader : World} {you : Caller} {g g' : Globals} {q q' : PublishPage}
    {loc loc' : LatLng} {id id' : String} {sheet sheet' : Sheet} {shown shown' : DetailPage}
    (hq : q.Chosen) (hq' : q'.Chosen)
    (h : Opens reader you ⟨id, eventDocument g q loc⟩ sheet shown)
    (h' : Opens reader you ⟨id', eventDocument g' q' loc'⟩ sheet' shown') :
    (sheet = sheet' ∧ shown = shown') ↔ g.userFullName = g'.userFullName ∧ SameEntries q q' := by
  obtain ⟨label, hlabel, rfl, rfl⟩ := h.eventDocument hq
  obtain ⟨label', hlabel', rfl, rfl⟩ := h'.eventDocument hq'
  constructor
  · intro ⟨_, hshown⟩
    simp only [DetailPage.mk.injEq, Option.some.injEq] at hshown
    obtain ⟨himages, hname, hlabels, hdate, hplace, hattention, hinformation, halert, hclimate, hwhy,
      hupload, hbother, hreduce⟩ := hshown
    subst hlabels
    exact ⟨hname,
      { images := List.map_injective_iff.mpr (Option.some_injective _) himages
        category := label_inj reader.locale hlabel hlabel'
        createDate := DateTime.format_inj hdate
        location := hplace
        attention := shownText_eq_iff.mp hattention
        information := shownText_eq_iff.mp hinformation
        knowAlert := alertText_inj halert
        climateRating := shownRating_inj hq.climate.1 hq'.climate.1 hclimate
        climatewhy := shownText_eq_iff.mp hwhy
        uploadRating := shownRating_inj hq.upload.1 hq'.upload.1 hupload
        botherRating := shownRating_inj hq.bother.1 hq'.bother.1 hbother
        reduceimpact := shownText_eq_iff.mp hreduce }⟩
  · intro ⟨hname, hsame⟩
    obtain rfl : label = label' := by
      rw [hsame.category, hlabel', Option.some.injEq] at hlabel
      exact hlabel.symm
    rw [hname, hsame.images, hsame.category, hsame.createDate, hsame.location, hsame.knowAlert,
      hsame.climateRating, hsame.uploadRating, hsame.botherRating,
      shownText_eq_iff.mpr hsame.attention, shownText_eq_iff.mpr hsame.information,
      shownText_eq_iff.mpr hsame.climatewhy, shownText_eq_iff.mpr hsame.reduceimpact]
    exact ⟨rfl, rfl⟩

/-- A form with a hazard that is not shown, and nothing else entered. -/
def unseenHazard : PublishPage :=
  { PublishPage.opened ⟨2020, 1, 1⟩ with textHazard := "Fog", textAttention := "-" }

/-- A hidden hazard and a dash make no difference. -/
theorem look_same_hazard :
    ∃ sheet sheet' shown shown',
      Opens (.publishing ⟨2020, 1, 1⟩) ⟨8, 0⟩
        ⟨"id", eventDocument {} (.opened ⟨2020, 1, 1⟩) ⟨1, 2⟩⟩ sheet shown ∧
      Opens (.publishing ⟨2020, 1, 1⟩) ⟨8, 0⟩ ⟨"id'", eventDocument {} unseenHazard ⟨3, 4⟩⟩
        sheet' shown' ∧ sheet = sheet' ∧ shown = shown' := by
  have hq : (PublishPage.opened ⟨2020, 1, 1⟩).Chosen := chosen_opened _
  have hq' : unseenHazard.Chosen := { hq with }
  have hreader : (World.publishing ⟨2020, 1, 1⟩).mounted (Caller.page ⟨8, 0⟩) = true := rfl
  obtain ⟨sheet, shown, h, -⟩ := eventDocument_shown {} (.opened ⟨2020, 1, 1⟩) ⟨1, 2⟩ hq.category
    hq.climate.1 hq.upload.1 hq.bother.1 hreader "id"
  obtain ⟨sheet', shown', h', -⟩ := eventDocument_shown {} unseenHazard ⟨3, 4⟩ hq'.category
    hq'.climate.1 hq'.upload.1 hq'.bother.1 hreader "id'"
  have hsame : SameEntries (.opened ⟨2020, 1, 1⟩) unseenHazard :=
    ⟨rfl, rfl, rfl, rfl, .inr ⟨.inl rfl, .inr rfl⟩, .inl rfl, rfl, rfl, .inl rfl, rfl, rfl, .inl rfl⟩
  exact ⟨sheet, sheet', shown, shown', h, h', (look_same_iff hq hq' h h').mpr ⟨rfl, hsame⟩⟩

end FloodUp
