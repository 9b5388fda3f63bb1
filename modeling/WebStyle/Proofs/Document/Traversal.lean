import WebStyle.Proofs.Document.Links
import WebStyle.Proofs.Document.Termination
/-!
The order in which addresses are asked for. A run that starts with the sheets of links asks for each
of them and for all that it imports, at any depth, before it goes on to the next.
-/
set_option autoImplicit false

namespace WebStyle

namespace Arrivals

variable (a : Arrivals)

/-- What is asked for by the imports in what is loaded, in order. The sheets around have the given
addresses, and what may not be loaded in them is left out. -/
def follow (chain : List String) (q : LoadRequest) : List LoadRequest :=
  match a.read q with
  | none => []
  | some t => (RuleSource.hrefsAll (SheetSource.ofString t.text).rules).filterMap fun href =>
    (a.importUrl? (some q.url.text) (q.url.text :: chain) href).map fun url =>
      ⟨url, some t.encoding, none⟩

/-- The addresses that are asked for from a request on, with at most so many imports in a row. -/
def visitsFuel : Nat → List String → LoadRequest → List Url
  | 0, _, _ => []
  | fuel + 1, chain, q =>
    q.url :: (a.follow chain q).flatMap (visitsFuel fuel (q.url.text :: chain))

/-- The addresses that are asked for from a request on. -/
def visits : List String → LoadRequest → List Url := a.visitsFuel (a.loader.maxImportDepth + 1)

variable {a} {chain : List String} {q : LoadRequest}

theorem follow_of_le (h : a.loader.maxImportDepth ≤ chain.length + 1) : a.follow chain q = [] := by
  rw [follow]
  split
  · rfl
  · refine List.filterMap_eq_nil_iff.2 fun href _ => ?_
    rw [importUrl?_of_le h, Option.map_none]

theorem visitsFuel_eq {fuel fuel' : Nat} (hf : a.loader.maxImportDepth ≤ fuel + chain.length)
    (hf' : a.loader.maxImportDepth ≤ fuel' + chain.length) (q : LoadRequest) :
    a.visitsFuel (fuel + 1) chain q = a.visitsFuel (fuel' + 1) chain q := by
  induction fuel generalizing fuel' chain q with
  | zero => rw [visitsFuel, visitsFuel, follow_of_le (by omega), List.flatMap_nil, List.flatMap_nil]
  | succ fuel ih =>
    cases fuel' with
    | zero => rw [visitsFuel, visitsFuel, follow_of_le (by omega), List.flatMap_nil,
        List.flatMap_nil]
    | succ fuel' =>
      rw [visitsFuel, visitsFuel]
      congr 2
      funext q'
      exact ih (by simp only [List.length_cons]; omega) (by simp only [List.length_cons]; omega) q'

/-- First the address of the request is asked for, and then, if it can be read, all that each of its
imports leads to, one after the other. -/
theorem visits_eq (chain : List String) (q : LoadRequest) : a.visits chain q =
    q.url :: (a.follow chain q).flatMap (a.visits (q.url.text :: chain)) := by
  have hstep : a.visits chain q = a.visitsFuel (a.loader.maxImportDepth + 1 + 1) chain q :=
    visitsFuel_eq (by omega) (by omega) q
  rw [hstep, visitsFuel]
  rfl

end Arrivals

namespace Document

variable {d d' : Document} {l : PendingLoad LoadTarget} {rest : List (PendingLoad LoadTarget)}
  {chain : List String} {j : LoadTarget × LoadRequest} {s : SheetId} {r : RuleId}
  {fetch : Url → Except FetchError Response}

/-! ### Where loads belong -/

/-- Whether the given addresses are those of the sheets around what a load is for: a sheet of a link
lies in no other. -/
def IsWithin (d : Document) (chain : List String) : LoadTarget × LoadRequest → Prop
  | (.linked s, q) => chain = [] ∧ d.IsLinkedTo s q.url
  | (.imported r, _) => ∃ rule p ids, d.model.rule? r = some rule ∧ rule.IsOpen ∧
    rule.parentSheet = some p ∧ d.model.IsChain p ids ∧ ids.filterMap d.address? = chain

namespace IsWithin

theorem isLive (h : d.IsWithin chain j) : d.isLive j.1 := by
  obtain ⟨s | r, q⟩ := j
  · obtain ⟨-, -, sheet, hs, -⟩ := h
    simp [Document.isLive, hs]
  · obtain ⟨rule, -, -, hr, -⟩ := h
    simp [Document.isLive, hr]

theorem isAim (h : d.IsWithin chain j) : d.IsAim j.1 := by
  obtain ⟨s | r, q⟩ := j
  · exact fun _ => h.2.1
  · obtain ⟨rule, -, -, hr, hopen, -⟩ := h
    refine ⟨Slots.issued_of_get? hr, fun rule' hr' => ?_⟩
    rwa [← Option.some.inj (hr.symm.trans hr')]

theorem not_isGone (h : d.IsWithin chain j) : ¬ d.IsGone j.1 := by
  obtain ⟨s | r, q⟩ := j
  · obtain ⟨-, -, sheet, hs, -⟩ := h
    simp [IsGone, hs]
  · obtain ⟨rule, p, ids, hr, -, hp, hchain, -⟩ := h
    have hlive : (d.model.sheet? p).isSome := by cases hchain <;> simp [*]
    simpa [IsGone, hr, hp, Option.isSome_iff_ne_none] using hlive

theorem isLinked_eq_false {url : String} (h : d.IsWithin (url :: chain) j) :
    j.1.isLinked = false := by
  obtain ⟨_ | r, q⟩ := j
  · exact absurd h.1 (List.cons_ne_nil _ _)
  · rfl

/-- This depends on the sheets around only, and on what the load is for. -/
theorem congr (h : d.IsWithin chain j) (happlied : d'.appliedSheets = d.appliedSheets)
    (hlinked : ∀ s, j.1 = .linked s → d'.model.sheet? s = d.model.sheet? s)
    (himported : ∀ r, j.1 = .imported r → d'.model.rule? r = d.model.rule? r ∧
      ∀ x, (d.model.sheet? x).isSome → d'.model.sheet? x = d.model.sheet? x) :
    d'.IsWithin chain j := by
  obtain ⟨s | r, q⟩ := j
  · rw [IsWithin, IsLinkedTo, happlied, hlinked s rfl]
    exact h
  · obtain ⟨rule, p, ids, hr, hopen, hp, hchain, haddresses⟩ := h
    obtain ⟨hrule, hsheets⟩ := himported r rfl
    have hsame : ∀ x ∈ ids, d'.model.sheet? x = d.model.sheet? x :=
      fun x hx => hsheets x (hchain.isSome x hx)
    refine ⟨rule, p, ids, hrule.trans hr, hopen, hp, hchain.congr hsame, ?_⟩
    rw [← haddresses]
    refine List.filterMap_congr fun x hx => ?_
    rw [address?, address?, hsame x hx]

section Landed

variable {m : ObjectModel} {target : LoadTarget} {t : SheetText}

/-- Filling the sheet of a link has nothing to do with other links. -/
theorem landed_linked {ps : List ModelPart} (h : d.IsWithin chain j) (hc : d.Coherent)
    (hj : j.1.isLinked) (hne : j.1 ≠ .linked s) (hps : ∀ x ∈ d.appliedSheets, .sheet x ∉ ps)
    (hother : ∀ q, q ≠ .sheet s → ¬ d.model.Reaches ps q →
      (∀ x, q = .rule x → (d.model.rule? x).isSome) → d.model.Untouched m q) :
    (d.landed target m s t.encoding).IsWithin chain j := by
  have happlied : (d.landed target m s t.encoding).appliedSheets = d.appliedSheets :=
    remains_landed.appliedSheets
  refine h.congr happlied (fun x hx => ?_) fun r hr => ?_
  · have hlive : (d.model.sheet? x).isSome := by
      have hlive := h.isLive
      rwa [hx] at hlive
    have haim : d.IsAim (.linked x) := hx ▸ h.isAim
    have hsame : d.model.Untouched m (.sheet x) := by
      refine hother _ (fun heq => hne ?_)
        (hc.model.not_reaches_held (haim hlive) (hps x (haim hlive))) nofun
      rw [hx, ModelPart.sheet.inj heq]
    rw [model_landed]
    exact hsame
  · rw [hr] at hj
    exact Bool.noConfusion hj

/-- Giving an import a sheet has nothing to do with other loads. -/
theorem landed_imported {rule : Rule} {href : String} {media : MediaList} {sheet : StyleSheet}
    {sources : List RuleSource} (h : d.IsWithin chain j) (hne : j.1 ≠ .imported r)
    (hfills : d.model.FillsImport m r rule href media s sheet sources) :
    (d.landed target m s t.encoding).IsWithin chain j := by
  have happlied : (d.landed target m s t.encoding).appliedSheets = d.appliedSheets :=
    remains_landed.appliedSheets
  have hsheets : ∀ x, (d.model.sheet? x).isSome →
      (d.landed target m s t.encoding).model.sheet? x = d.model.sheet? x := fun x hx => by
    rw [model_landed]
    exact hfills.sheet?_eq hx
  refine h.congr happlied (fun x hx => hsheets x ?_) fun x hx => ⟨?_, hsheets⟩
  · have hlive := h.isLive
    rwa [hx] at hlive
  · have hlive : (d.model.rule? x).isSome := by
      have hlive := h.isLive
      rwa [hx] at hlive
    have hsame : d.model.Untouched m (.rule x) := by
      refine hfills.other _ nofun (fun heq => hne ?_) fun y hy => ModelPart.rule.inj hy ▸ hlive
      rw [hx, ModelPart.rule.inj heq]
    rw [model_landed]
    exact hsame

end Landed

end IsWithin

/-! ### Loads are completed -/

section Landed

variable {m : ObjectModel} {sheet : StyleSheet} {t : SheetText} {target : LoadTarget}
  {q : LoadRequest} {ids : List SheetId}

/-- The imports of a sheet that was loaded are what is to be followed from there. -/
theorem exists_jobs_follow (hch : d.model.changes = []) (hd : d.discarded = false)
    (hissued : ∀ r, .imported r ∈ d.loads.targets → d.model.rules.Issued r)
    (hfills : d.model.Fills m s sheet (SheetSource.ofString t.text).rules)
    (hread : (d.arrivals fetch).read q = some t) (hhref : sheet.href = some q.url.text)
    (hchain : (d.landed target m s t.encoding).model.IsChain s ids)
    (haddresses : ids.filterMap (d.landed target m s t.encoding).address? = q.url.text :: chain) :
    ∃ new, (d.landed target m s t.encoding).jobs = new ++ (d.withoutLoad target).jobs ∧
      List.Forall₂ (fun j q' => j.2 = q' ∧
        (d.landed target m s t.encoding).IsWithin (q.url.text :: chain) j)
        new ((d.arrivals fetch).follow chain q) := by
  obtain ⟨xs, himports, hjobs⟩ := jobs_landed target hch hd hissued hfills
  have harrivals : (d.landed target m s t.encoding).arrivals fetch = d.arrivals fetch :=
    arrivals_landed hfills fetch
  obtain ⟨rules, hs, -⟩ : ∃ rules, (d.landed target m s t.encoding).model.sheet? s =
      some { sheet with rules, deleted := [] } ∧ _ := sheet?_landed hfills
  have haddress : (d.landed target m s t.encoding).address? s = some q.url.text := by
    rw [address?, hs]
    exact hhref
  have hsame : (d.landed target m s t.encoding).addresses s = q.url.text :: chain := by
    rw [addresses, hchain.importChain_eq, haddresses]
  have hjob : ∀ x href, (d.landed target m s t.encoding).importJob? s t.encoding x href =
      (((d.arrivals fetch).importUrl? (some q.url.text) (q.url.text :: chain) href).map fun url =>
        (⟨url, some t.encoding, none⟩ : LoadRequest)).map (Prod.mk (.imported x)) := by
    intro x href
    rw [importJob?, toOption_importUrl _ fetch, harrivals, haddress, hsame, Option.map_map]
    rfl
  simp only [hjob] at hjobs
  refine ⟨_, hjobs, ?_⟩
  simp only [Arrivals.follow, hread]
  refine (forall₂_filterMap_zip himports.refer LoadTarget.imported fun href =>
    ((d.arrivals fetch).importUrl? (some q.url.text) (q.url.text :: chain) href).map fun url =>
      (⟨url, some t.encoding, none⟩ : LoadRequest)).imp ?_
  rintro ⟨target', q'⟩ _ ⟨rfl, x, href, ⟨y, media, hy, hc⟩, rfl⟩
  refine ⟨rfl, y, s, ids, ?_, ⟨href, media, hc⟩, (hfills.added x y hy).1, hchain, haddresses⟩
  rw [model_landed]
  exact hy.1

end Landed

/-- What holds between the steps of a run that goes through links. -/
structure Fetching (d : Document) : Prop where
  coherent : d.Coherent
  room : d.HasRoom
  noticed : d.model.changes = []
  loads : d.loads.Proper
  idle : d.discarded → d.loads.pending = []
  /-- Loads of links come after all others. -/
  linksLast : d.loads.targets.Pairwise fun t t' => t.isLinked → t'.isLinked

namespace Fetching

variable (h : d.Fetching) (hl : d.loads.pending = l :: rest)
include h hl

theorem discarded : d.discarded = false := by
  rw [← Bool.not_eq_true]
  intro hd
  simp [h.idle hd] at hl

theorem jobs_rest : (d.withoutLoad l.target).jobs = rest.map fun l => (l.target, l.request) :=
  jobs_withoutLoad (j := (l.target, l.request)) h.loads (by rw [jobs, hl]; rfl)

theorem ne_of_mem_rest (hj : j ∈ rest.map fun l => (l.target, l.request)) : j.1 ≠ l.target := by
  obtain ⟨l', hl', rfl⟩ := List.mem_map.1 hj
  have hn := h.loads.targets
  rw [LoadQueue.targets, hl, List.map_cons, List.nodup_cons] at hn
  exact fun heq => hn.1 (heq ▸ List.mem_map_of_mem hl')

theorem isLinked_of_mem_rest (hlinked : l.target.isLinked)
    (hj : j ∈ rest.map fun l => (l.target, l.request)) : j.1.isLinked := by
  obtain ⟨l', hl', rfl⟩ := List.mem_map.1 hj
  have hlast := h.linksLast
  rw [LoadQueue.targets, hl, List.map_cons, List.pairwise_cons] at hlast
  exact hlast.1 l'.target (List.mem_map_of_mem hl') hlinked

variable (hin : d.IsWithin chain (l.target, l.request))
  (hrest : ∀ j ∈ rest.map fun l => (l.target, l.request), ∃ c, d.IsWithin c j)
include hin hrest

omit h in
theorem issued (hr : .imported r ∈ d.loads.targets) : d.model.rules.Issued r := by
  have hmem : ∃ j c, d.IsWithin c j ∧ j.1 = .imported r := by
    rw [LoadQueue.targets, hl, List.map_cons] at hr
    rcases List.mem_cons.1 hr with heq | hr
    · exact ⟨_, chain, hin, heq.symm⟩
    · obtain ⟨l', hl', ht⟩ := List.mem_map.1 hr
      obtain ⟨c, hc⟩ := hrest _ (List.mem_map_of_mem hl')
      exact ⟨_, c, hc, ht⟩
  obtain ⟨j, c, hc, hj⟩ := hmem
  have haim : d.IsAim (.imported r) := hj ▸ hc.isAim
  exact haim.1

/-- Other loads belong where they belonged, and those of the imports that were found come first. -/
theorem exists_jobs (ho : Outcome d l ((d.arrivals fetch).read l.request) d') :
    (∀ j ∈ rest.map fun l => (l.target, l.request), ∀ c, d.IsWithin c j → d'.IsWithin c j) ∧
      ∃ new, d'.jobs = new ++ rest.map (fun l => (l.target, l.request)) ∧
        List.Forall₂ (fun j q => j.2 = q ∧ d'.IsWithin (l.url.text :: chain) j) new
          ((d.arrivals fetch).follow chain l.request) := by
  have hissued : ∀ r, .imported r ∈ d.loads.targets → d.model.rules.Issued r :=
    fun r => issued hl hin hrest
  have hd := h.discarded hl
  have hne : ∀ j ∈ rest.map fun l => (l.target, l.request), j.1 ≠ l.target :=
    fun j => h.ne_of_mem_rest hl
  have hlinks : l.target.isLinked → ∀ j ∈ rest.map fun l => (l.target, l.request), j.1.isLinked :=
    fun hlinked j => h.isLinked_of_mem_rest hl hlinked
  rw [← h.jobs_rest hl] at *
  cases ho with
  | gone hgone => exact absurd hgone hin.not_isGone
  | unread hread =>
    refine ⟨fun j _ c hj => hj, [], rfl, ?_⟩
    rw [Arrivals.follow, hread]
    exact .nil
  | @linked s sheet t m ht hread hs _ hfills hother =>
    rw [ht] at hin hne hlinks ⊢
    obtain ⟨rfl, -, sheet', hs', hhref, hp⟩ := hin
    obtain rfl := Option.some.inj (hs.symm.trans hs')
    obtain ⟨rules, hsheet, -⟩ : ∃ rules, (d.landed (.linked s) m s t.encoding).model.sheet? s =
        some { sheet with rules, deleted := [] } ∧ _ := sheet?_landed hfills
    have hchain : (d.landed (.linked s) m s t.encoding).model.IsChain s [s] := .outer hsheet hp
    have haddresses : [s].filterMap (d.landed (.linked s) m s t.encoding).address? =
        [l.url.text] := by
      rw [List.filterMap_cons, address?, hsheet, Option.bind_some, hhref]
      rfl
    refine ⟨fun j hj c hjc => hjc.landed_linked h.coherent (hlinks rfl j hj)
      (hne j hj) ?_ hother, ?_⟩
    · simp [StyleSheet.owned]
    · exact exists_jobs_follow (q := l.request) h.noticed hd hissued hfills hread hhref
        hchain haddresses
  | @imported r rule href media p s parent t m ht hread hr _ hp _ hfills =>
    rw [ht] at hin hne ⊢
    obtain ⟨rule', p', ids, hr', -, hp', hchain, haddresses⟩ := hin
    obtain rfl := Option.some.inj (hr.symm.trans hr')
    obtain rfl := Option.some.inj (hp.symm.trans hp')
    have hsame : ∀ x ∈ ids, (d.landed (.imported r) m s t.encoding).model.sheet? x =
        d.model.sheet? x := fun x hx => by
      rw [model_landed]
      exact hfills.sheet?_eq (hchain.isSome x hx)
    obtain ⟨rules, hsheet, -⟩ : ∃ rules, (d.landed (.imported r) m s t.encoding).model.sheet? s =
        some { StyleSheet.new (some l.url.text) (.ofString "") parent.origin with
          parentSheet := rule.parentSheet, ownerRule := some r, rules, deleted := [] } ∧ _ :=
      sheet?_landed hfills.fills
    have hchain' : (d.landed (.imported r) m s t.encoding).model.IsChain s (s :: ids) :=
      .inner hsheet hp (hchain.congr hsame)
    have haddresses' : (s :: ids).filterMap (d.landed (.imported r) m s t.encoding).address? =
        l.url.text :: chain := by
      rw [List.filterMap_cons, address?, hsheet, ← haddresses]
      refine congrArg _ (List.filterMap_congr fun x hx => ?_)
      rw [address?, address?, hsame x hx]
    refine ⟨fun j hj c hjc => hjc.landed_imported (hne j hj) hfills, ?_⟩
    exact exists_jobs_follow (q := l.request) h.noticed hd hissued hfills.fills hread rfl
      hchain' haddresses'

/-- A step replaces a load by those of the imports that it brings. -/
theorem complete (fetch : Url → Except FetchError Response) :
    (d.complete l.ticket (fetch l.url)).2.Fetching ∧
      (d.complete l.ticket (fetch l.url)).2.arrivals fetch = d.arrivals fetch ∧
      (∀ j ∈ rest.map fun l => (l.target, l.request), ∀ c, d.IsWithin c j →
        (d.complete l.ticket (fetch l.url)).2.IsWithin c j) ∧
      ∃ new, (d.complete l.ticket (fetch l.url)).2.jobs =
          new ++ rest.map (fun l => (l.target, l.request)) ∧
        List.Forall₂ (fun j q => j.2 = q ∧
          (d.complete l.ticket (fetch l.url)).2.IsWithin (l.url.text :: chain) j) new
          ((d.arrivals fetch).follow chain l.request) := by
  have hmem : l ∈ d.loads.pending := hl ▸ List.mem_cons_self
  have hd := h.discarded hl
  have hw : d.model.Unwrapped := ObjectModel.HasRoom.unwrapped h.room
  have hopen : ∀ r, l.target = .imported r → d.model.MayOpen r := fun r ht =>
    (show d.IsAim (.imported r) from ht ▸ hin.isAim)
  have hroom := hasRoom_complete h.loads h.noticed hd h.coherent.model hmem hopen h.room
    (fetch l.url)
  have ho : Outcome d l ((d.arrivals fetch).read l.request)
      (d.complete l.ticket (fetch l.url)).2 :=
    outcome_complete h.coherent h.loads hin.isAim hw h.noticed hd hmem (fetch l.url) hroom.unwrapped
  have hcoherent := h.coherent.complete hw l.ticket (fetch l.url)
  generalize (d.complete l.ticket (fetch l.url)).2 = d' at *
  obtain ⟨hkept, new, hjobs, hnew⟩ := h.exists_jobs hl hin hrest ho
  have hfalse : ∀ j ∈ new, j.1.isLinked = false := fun j hj => by
    obtain ⟨q, -, -, hj⟩ := exists_of_forall₂ hnew hj
    exact hj.isLinked_eq_false
  refine ⟨⟨hcoherent, ?_, ho.changes_eq_nil h.noticed, ho.proper h.loads, fun hd' => ?_, ?_⟩,
    ho.arrivals_eq, hkept, new, hjobs, hnew⟩
  · rw [← h.jobs_rest hl] at hjobs
    rwa [HasRoom, linkedCount_of_jobs hjobs hfalse]
  · rw [ho.remains.discarded, hd] at hd'
    exact Bool.noConfusion hd'
  · have hlast := h.linksLast
    rw [LoadQueue.targets, hl, List.map_cons, List.pairwise_cons] at hlast
    rw [← map_fst_jobs, hjobs, List.map_append, List.map_map]
    have hnone : ∀ t ∈ new.map Prod.fst, ¬ t.isLinked := fun t ht => by
      obtain ⟨j, hj, rfl⟩ := List.mem_map.1 ht
      simp [hfalse j hj]
    refine List.pairwise_append.2 ⟨?_, hlast.2, fun t ht _ _ hlinked => absurd hlinked (hnone t ht)⟩
    exact List.pairwise_of_forall_mem_list fun t ht _ _ hlinked => absurd hlinked (hnone t ht)

end Fetching

/-- What is fetched, with a record of the addresses that were asked for. -/
def recorded (fetch : Url → Except FetchError Response) (url : Url) :
    StateM (List Url) (Except FetchError Response) := do
  modify (· ++ [url])
  pure (fetch url)

/-- A run goes through what is to be loaded from the front on. -/
theorem Fetching.exists_serves {a : Arrivals} (vs : List (List String × LoadRequest)) :
    ∀ (d : Document) (x : List Url), d.Fetching → d.arrivals fetch = a →
      List.Forall₂ (fun j v => j.2 = v.2 ∧ d.IsWithin v.1 j) d.jobs vs →
        ∃ d', Serves (recorded fetch) d x (vs.flatMap fun v => a.visits v.1 v.2) d'
          (x ++ vs.flatMap fun v => a.visits v.1 v.2) := by
  induction vs using worklist_induction
    fun v : List String × LoadRequest => a.loader.maxImportDepth + 1 - v.1.length with
  | nil =>
    intro d x h ha hvs
    have hsync : d.sync = d := notice_of_nil d false h.noticed
    have hnone : d.sync.loads.pending = [] := by
      rw [hsync]
      exact List.map_eq_nil_iff.1 (List.forall₂_nil_right_iff.1 hvs)
    rw [List.flatMap_nil, List.append_nil]
    exact ⟨_, .done hnone⟩
  | cons v vs ih =>
    intro d x h ha hvs
    obtain ⟨chain, q⟩ := v
    obtain ⟨j, js, ⟨hq, hin⟩, hlater, hjobs⟩ := List.forall₂_cons_right_iff.1 hvs
    obtain ⟨l, rest, hl, rfl, rfl⟩ := List.map_eq_cons_iff.1 hjobs
    obtain rfl : l.request = q := hq
    have hrest : ∀ j ∈ rest.map fun l => (l.target, l.request), ∃ c, d.IsWithin c j := by
      intro j hj
      obtain ⟨v, -, -, hv⟩ := exists_of_forall₂ hlater hj
      exact ⟨v.1, hv⟩
    obtain ⟨h', ha', hkept, new, hjobs', hnew⟩ := h.complete hl hin hrest fetch
    rw [ha] at hnew ha'
    have hlower : ∀ v ∈ (a.follow chain l.request).map (Prod.mk (l.url.text :: chain)),
        a.loader.maxImportDepth + 1 - v.1.length < a.loader.maxImportDepth + 1 - chain.length := by
      intro v hv
      obtain ⟨q, hq, rfl⟩ := List.mem_map.1 hv
      have hdepth : ¬ a.loader.maxImportDepth ≤ chain.length + 1 := fun hle => by
        simp [Arrivals.follow_of_le hle] at hq
      simp only [List.length_cons]
      omega
    have hjobs₂ : List.Forall₂ (fun j v => j.2 = v.2 ∧
        (d.complete l.ticket (fetch l.url)).2.IsWithin v.1 j)
        (d.complete l.ticket (fetch l.url)).2.jobs
        ((a.follow chain l.request).map (Prod.mk (l.url.text :: chain)) ++ vs) := by
      rw [hjobs']
      refine List.rel_append (List.forall₂_map_right_iff.2 ?_) ?_
      · exact hnew
      · have hmem := (List.forall₂_and_left _ _).2 ⟨fun j hj => hj, hlater⟩
        exact hmem.imp fun j v ⟨hj, hq, hin⟩ => ⟨hq, hkept j hj v.1 hin⟩
    obtain ⟨d', hserves⟩ := ih _ hlower _ (x ++ [l.url]) h' ha' hjobs₂
    rw [List.flatMap_append, List.flatMap_map, List.append_assoc] at hserves
    have hsync : d.sync = d := notice_of_nil d false h.noticed
    refine ⟨d', ?_⟩
    rw [List.flatMap_cons, Arrivals.visits_eq]
    exact .of_sync_eq hsync hl hserves

/-- The addresses that a run is to ask for where links are to be loaded. -/
def toVisit (d : Document) (fetch : Url → Except FetchError Response) : List Url :=
  d.loads.pending.flatMap fun l => (d.arrivals fetch).visits [] l.request

/-- Where nothing but links is to be loaded, a run asks for each of them and for what it leads to,
one after the other. -/
theorem Reached.requests_eq_toVisit (h : Reached (fun d a => a.IsProper d) d)
    (hlinks : ∀ t ∈ d.sync.loads.targets, t.isLinked) (hroom : d.sync.HasRoom)
    (fetch : Url → Except FetchError Response) : ∃ d', d'.pendingLoads.1 = [] ∧
      ∀ fuel, (d.sync.toVisit fetch).length < fuel →
        (runFuel (recorded fetch) fuel d).run [] =
          (((d.sync.toVisit fetch).length, d'), d.sync.toVisit fetch) := by
  obtain ⟨hc, hw⟩ := h.coherent fun _ _ ha => ha
  have hlinkage := h.linkage.notice false
  have hnoticed : d.sync.model.changes = [] := changes_notice d false
  have hfetching : d.sync.Fetching :=
    ⟨hc.notice false, hroom, hnoticed, hlinkage.loads, hlinkage.idle,
      List.pairwise_of_forall_mem_list fun _ _ t ht _ => hlinks t ht⟩
  have hjobs : List.Forall₂ (fun j v => j.2 = v.2 ∧ d.sync.IsWithin v.1 j) d.sync.jobs
      (d.sync.loads.pending.map fun l => ([], l.request)) := by
    refine List.forall₂_map_left_iff.2 (List.forall₂_map_right_iff.2 (List.forall₂_same.2 ?_))
    intro l hl
    refine ⟨rfl, ?_⟩
    have hlinked := hlinks l.target (LoadQueue.mem_targets hl)
    cases ht : l.target with
    | linked s =>
      refine ⟨rfl, ((hlinkage.linked l hl s ht).2).resolve_right fun ⟨_, hremoved⟩ => ?_⟩
      rw [show (d.notice false).model.changes = [] from hnoticed] at hremoved
      exact absurd hremoved List.not_mem_nil
    | imported r =>
      rw [ht] at hlinked
      exact Bool.noConfusion hlinked
  obtain ⟨d', hserves⟩ := hfetching.exists_serves _ d.sync [] rfl hjobs
  rw [List.flatMap_map] at hserves
  have hsync : d.sync = d.sync.sync := (notice_of_nil d.sync false hnoticed).symm
  exact ⟨d', hserves.pendingLoads_eq_nil, (hserves.congr_sync hsync).run_runFuel⟩

theorem requests_eq_toVisit_linking :
    (linking.sync.toVisit shelf).map Url.text = ["x:a", "x:c"] ∧ ∃ d', d'.pendingLoads.1 = [] ∧
      ∀ fuel, 2 < fuel → (runFuel (recorded shelf) fuel linking).run [] =
        ((2, d'), linking.sync.toVisit shelf) := by
  have hvisit : (linking.sync.toVisit shelf).map Url.text = ["x:a", "x:c"] := by decide +kernel
  have hlength : (linking.sync.toVisit shelf).length = 2 := by
    rw [← List.length_map (f := Url.text), hvisit]
    rfl
  have hreached : Reached (fun d a => a.IsProper d) linking :=
    reached_linking.mono fun _ _ ha => ha.1
  have hruns := hreached.requests_eq_toVisit (by decide +kernel) (by decide +kernel) shelf
  rw [hlength] at hruns
  exact ⟨hvisit, hruns⟩

/-- A document with two links, where the sheet of the second was given to an import in that of the
first. -/
def rehung : Document :=
  [Action.editDom (.create (.element (.ofAttributes "link" [("href", "x:c")]))),
    .editDom (.insertBefore ⟨0, 0⟩ ⟨1, 0⟩ none), .addLinked ⟨1, 0⟩,
    .complete 1 (.ok (.ofText "@import url();")),
    .editDom (.create (.element (.ofAttributes "link" [("href", "x:a")]))),
    .editDom (.insertBefore ⟨0, 0⟩ ⟨2, 0⟩ none), .addLinked ⟨2, 0⟩,
    .attachImport ⟨0, 0⟩ ⟨1, 0⟩].foldl Action.apply
      (new none ⟨.screen 800.0 600.0, .standard, none, .full⟩)

/-- The second link is all that is to be loaded, and what it imports is passed over as if it were
imported by itself. -/
theorem requests_rehung : Reached (fun _ _ => True) rehung ∧
    rehung.sync.loads.targets = [.linked ⟨1, 0⟩] ∧ rehung.sync.HasRoom ∧
    (rehung.sync.toVisit shelf).map Url.text = ["x:a", "x:c"] ∧
    ((runFuel (recorded shelf) 2 rehung).run []).2.map Url.text = ["x:a"] ∧
    ((runFuel (recorded shelf) 2 rehung).run []).1.2.pendingLoads.1 = [] := by
  refine ⟨?_, by decide +kernel, by decide +kernel, by decide +kernel, by decide +kernel,
    by decide +kernel⟩
  have hnew : Reached (fun _ _ => True) (new none ⟨.screen 800.0 600.0, .standard, none, .full⟩) :=
    .new _ _ (by decide +kernel)
  exact hnew.foldl (fun _ _ _ => trivial) (by decide +kernel)

end Document
end WebStyle
