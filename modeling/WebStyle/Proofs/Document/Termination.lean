import WebStyle.Proofs.Document.Admission
import WebStyle.Proofs.Document.Service
/-!
Loading everything comes to an end, whatever is fetched. Each sheet that is loaded may bring any
number of imports, but fewer sheets may then lie around each other than for the sheet itself.
-/
set_option autoImplicit false

namespace WebStyle.Document

open ObjectModel (AreImports)

variable {d d' : Document} {l : PendingLoad LoadTarget} {rest : List (PendingLoad LoadTarget)}
  {t : LoadTarget} {k : Nat}

/-- Whether at most so many sheets that are loaded may lie around each other, from a target on. -/
def MayNest (d : Document) (k : Nat) : LoadTarget → Prop
  | .linked _ => d.settings.loader.maxImportDepth < k
  | .imported r => d.model.rules.Issued r ∧ ∀ rule p, d.model.rule? r = some rule →
      rule.parentSheet = some p → d.settings.loader.maxImportDepth ≤ (d.addresses p).length + k

theorem mayNest_maxImportDepth (hissued : ∀ r, t = .imported r → d.model.rules.Issued r) :
    d.MayNest (d.settings.loader.maxImportDepth + 1) t := by
  cases t with
  | linked s => exact Nat.lt_succ_self _
  | imported r =>
    refine ⟨hissued r rfl, fun rule p _ _ => ?_⟩
    omega

theorem MayNest.keeps (h : d.MayNest k t) (hg : d.Guarded) (hg' : d'.Guarded)
    (hkeeps : d.model.Keeps d'.model) (hset : d'.settings = d.settings) : d'.MayNest k t := by
  cases t with
  | linked s =>
    rw [MayNest, hset]
    exact h
  | imported r =>
    refine ⟨hkeeps.rulesGrow.issued r h.1, fun rule' p hr hp => ?_⟩
    obtain ⟨rule, hrule, hnone | hparent⟩ := hkeeps.rule r rule' hr h.1
    · simp [hp] at hnone
    · have hp₀ := hparent.symm.trans hp
      rw [hset, addresses_keeps hg.model hg'.model hkeeps
        (hg.model.forest.isSome_parentSheet hrule hp₀) (hg'.model.forest.isSome_parentSheet hr hp)]
      exact h.2 rule p hrule hp₀

/-- What holds between the steps of a run. -/
structure Serving (d : Document) : Prop where
  steady : d.IsSteady
  guarded : d.Guarded
  room : d.HasRoom

namespace Serving

theorem discarded (h : d.Serving) (hl : l ∈ d.loads.pending) : d.discarded = false := by
  rw [← Bool.not_eq_true]
  intro hd
  simp [h.guarded.idle hd] at hl

/-- A load is replaced by those of the imports in what was loaded. -/
theorem exists_jobs (h : d.Serving) (hl : l ∈ d.loads.pending) {read : Option SheetText}
    (ho : Outcome d l read d') (hg' : d'.Guarded) (hkeeps : d.model.Keeps d'.model) :
    ∃ new, d'.jobs = new ++ (d.withoutLoad l.target).jobs ∧ ∀ j ∈ new, ∃ x, j.1 = .imported x ∧
      ∀ k, d.MayNest k l.target → 0 < k ∧ d'.MayNest (k - 1) (.imported x) := by
  have hissued : ∀ r, .imported r ∈ d.loads.targets → d.model.rules.Issued r := fun r hr =>
    (h.steady.wired.imported r hr).1
  have hset := ho.remains.settings
  have hissued' : ∀ {s m e x y}, d.model.IsAdded m x y →
      (d.landed l.target m s e).model.rules.Issued x := fun hy => by
    rw [landed, model_notice]
    exact Slots.issued_of_get? hy.1
  cases ho with
  | unread | gone => exact ⟨[], rfl, by simp⟩
  | @linked s sheet t m ht _ _ _ hfills _ =>
    obtain ⟨new, hjobs, hnew⟩ := exists_jobs_landed l.target h.steady.noticed
      (h.discarded hl) hissued hfills
    refine ⟨new, hjobs, fun j hj => ?_⟩
    obtain ⟨x, y, hx, hy⟩ := hnew j hj
    refine ⟨x, hx, fun k hk => ?_⟩
    rw [ht] at hk
    have hdepth : d.settings.loader.maxImportDepth < k := hk
    refine ⟨by omega, hissued' hy, fun rule p _ _ => ?_⟩
    rw [hset]
    omega
  | @imported r rule href media p s parent t m ht _ hr _ hp hparent hfills =>
    obtain ⟨new, hjobs, hnew⟩ := exists_jobs_landed l.target h.steady.noticed
      (h.discarded hl) hissued hfills.fills
    refine ⟨new, hjobs, fun j hj => ?_⟩
    obtain ⟨x, y, hx, hy⟩ := hnew j hj
    refine ⟨x, hx, fun k hk => ?_⟩
    rw [ht] at hk
    have hdepth := hk.2 rule p hr hp
    have hfresh := ((h.guarded.loads l hl r ht).fresh rule p hr hp).2
    refine ⟨by omega, hissued' hy, fun rule' p' hr' hp' => ?_⟩
    rw [model_landed] at hr'
    obtain rfl := Option.some.inj (hy.1.symm.trans hr')
    obtain rfl := Option.some.inj ((hfills.fills.added x y hy).1.symm.trans hp')
    -- the sheet that was loaded lies in that of the import
    obtain ⟨ids, hs, -⟩ : ∃ ids, (d.landed l.target m s t.encoding).model.sheet? s =
        some { StyleSheet.new (some l.url.text) (.ofString "") parent.origin with
          parentSheet := rule.parentSheet, ownerRule := some r, rules := ids, deleted := [] } ∧ _ :=
      sheet?_landed hfills.fills
    have hlive := hg'.model.anchored.isSome_parent hs hp
    have hsame := addresses_keeps h.guarded.model hg'.model hkeeps (by simp [hparent]) hlive
    rw [hset, addresses_inner hg'.model hs hp, hsame]
    simp only [StyleSheet.new, Option.toList_some, List.length_append, List.length_singleton]
    omega

/-- A load is replaced by loads that may nest less deeply. -/
theorem complete (h : d.Serving) (hl : d.loads.pending = l :: rest)
    (result : Except FetchError Response) :
    (d.complete l.ticket result).2.Serving ∧
      d.model.Keeps (d.complete l.ticket result).2.model ∧
      (d.complete l.ticket result).2.settings = d.settings ∧
      ∃ new, (d.complete l.ticket result).2.jobs = new ++ (d.withoutLoad l.target).jobs ∧
        ∀ k, d.MayNest k l.target → ∀ j ∈ new,
          0 < k ∧ (d.complete l.ticket result).2.MayNest (k - 1) j.1 := by
  have hmem : l ∈ d.loads.pending := hl ▸ List.mem_cons_self
  have hd := h.discarded hmem
  have hopen : ∀ r, l.target = .imported r → d.model.MayOpen r := fun r ht =>
    h.steady.wired.imported r (ht ▸ LoadQueue.mem_targets hmem)
  have hroom := hasRoom_complete h.steady.wired.loads h.steady.noticed hd h.steady.coherent.model
    hmem hopen h.room result
  obtain ⟨hguarded, hkeeps⟩ := h.guarded.complete_pending h.steady hmem result hroom.unwrapped
  have ho := outcome_complete h.steady.coherent h.steady.wired.loads (h.steady.wired.isAim hmem)
    h.steady.unwrapped h.steady.noticed hd hmem result hroom.unwrapped
  have hsteady : (d.complete l.ticket result).2.IsSteady :=
    ⟨h.steady.wired.complete h.steady.coherent h.steady.unwrapped l.ticket result hroom.unwrapped,
      h.steady.coherent.complete h.steady.unwrapped l.ticket result, hroom.unwrapped,
      ho.changes_eq_nil h.steady.noticed⟩
  generalize (d.complete l.ticket result).2 = d' at *
  obtain ⟨new, hjobs, hnew⟩ := h.exists_jobs hmem ho hguarded hkeeps
  refine ⟨⟨hsteady, hguarded, ?_⟩, hkeeps, ho.remains.settings, new, hjobs, fun k hk j hj => ?_⟩
  · have hnone : ∀ j ∈ new, j.1.isLinked = false := fun j hj => by
      obtain ⟨x, hx, -⟩ := hnew j hj
      rw [hx]
      rfl
    rwa [HasRoom, linkedCount_of_jobs hjobs hnone]
  · obtain ⟨x, hx, hnest⟩ := hnew j hj
    rw [hx]
    exact hnest k hk

end Serving

variable {σ : Type} {fetch : Url → StateM σ (Except FetchError Response)}

theorem Serving.exists_serves (ks : List Nat) : ∀ (d : Document) (x : σ), d.Serving →
    List.Forall₂ (fun j k => d.MayNest k j.1) d.jobs ks →
      ∃ urls d' x', Serves fetch d x urls d' x' := by
  induction ks using worklist_induction id with
  | nil =>
    intro d x h hks
    refine ⟨[], _, x, .done ?_⟩
    rw [h.steady.sync_eq]
    exact List.map_eq_nil_iff.1 (List.forall₂_nil_right_iff.1 hks)
  | cons k ks ih =>
    intro d x h hks
    obtain ⟨j, js, hk, hks, hjobs⟩ := List.forall₂_cons_right_iff.1 hks
    obtain ⟨l, rest, hl, rfl, rfl⟩ := List.map_eq_cons_iff.1 hjobs
    obtain ⟨h', hkeeps, hset, new, hjobs', hnew⟩ := h.complete hl ((fetch l.url).run x).1
    have hrest := jobs_withoutLoad h.steady.wired.loads hjobs
    rw [show (d.withoutLoad l.target).jobs = _ from hrest] at hjobs'
    have hlower : ∀ i ∈ new.map fun _ => k - 1, id i < id k := fun i hi => by
      obtain ⟨j, hj, rfl⟩ := List.mem_map.1 hi
      exact Nat.sub_lt (hnew k hk j hj).1 Nat.one_pos
    have hnest : List.Forall₂ (fun j k =>
      (d.complete l.ticket ((fetch l.url).run x).1).2.MayNest k j.1)
        (new ++ rest.map fun l => (l.target, l.request)) ((new.map fun _ => k - 1) ++ ks) := by
      refine List.rel_append (List.forall₂_map_right_iff.2 (List.forall₂_same.2 fun j hj => ?_)) ?_
      · exact (hnew k hk j hj).2
      · exact hks.imp fun j k hk => hk.keeps h.guarded h'.guarded hkeeps hset
    obtain ⟨urls, d', x', hserves⟩ := ih _ hlower _ ((fetch l.url).run x).2 h' (hjobs' ▸ hnest)
    exact ⟨l.url :: urls, d', x', .of_sync_eq h.steady.sync_eq hl hserves⟩

/-- The addresses of the sheets around each other are different, and around an imported sheet there
are no more than may be. So everything is loaded in the end, whatever is fetched, even if it is
another text each time. -/
theorem Reached.addresses_and_terminates
    (h : Reached (fun d a => a.IsProper d ∧ ¬ a.AttachesImport) d) :
    (∀ s sheet, d.model.sheet? s = some sheet → (d.addresses s).Nodup ∧
      (sheet.parentSheet.isSome →
        (d.addresses s).length ≤ d.settings.loader.maxImportDepth)) ∧
    (d.sync.HasRoom → ∀ {σ : Type} (fetch : Url → StateM σ (Except FetchError Response)) (x : σ),
      ∃ n d' x', d'.pendingLoads.1 = [] ∧
        ∀ fuel, n < fuel → (runFuel fetch fuel d).run x = ((n, d'), x')) := by
  have hg := h.guarded
  refine ⟨fun s sheet hs => ⟨hg.nodup s (by simp [hs]), hg.bounded s sheet hs⟩,
    fun hroom σ fetch x => ?_⟩
  obtain ⟨hc, hw⟩ := h.coherent fun _ _ ha => ha.1
  have hserving : d.sync.Serving := ⟨.sync h.wired hc hw, hg.notice false, hroom⟩
  have hnest : List.Forall₂ (fun j k => d.sync.MayNest k j.1) d.sync.jobs
      (d.sync.jobs.map fun _ => d.sync.settings.loader.maxImportDepth + 1) := by
    refine List.forall₂_map_right_iff.2 (List.forall₂_same.2 fun j hj => ?_)
    refine mayNest_maxImportDepth fun r hr => ?_
    obtain ⟨l, hl, rfl⟩ := List.mem_map.1 hj
    exact (hserving.guarded.loads l hl r hr).issued
  obtain ⟨urls, d', x', hserves⟩ : ∃ urls d' x', Serves fetch d.sync x urls d' x' :=
    Serving.exists_serves _ d.sync x hserving hnest
  have hsync : d.sync = d.sync.sync := hserving.steady.sync_eq.symm
  exact ⟨urls.length, d', x', hserves.pendingLoads_eq_nil, (hserves.congr_sync hsync).run_runFuel⟩

/-- A document with a link to a sheet. -/
def linking : Document :=
  [Action.editDom (.create (.element (.ofAttributes "link" [("href", "x:a")]))),
    .editDom (.insertBefore ⟨0, 0⟩ ⟨1, 0⟩ none), .addLinked ⟨1, 0⟩].foldl Action.apply
      (new none ⟨.screen 800.0 600.0, .standard, none, .full⟩)

theorem reached_linking : Reached (fun d a => a.IsProper d ∧ ¬ a.AttachesImport) linking := by
  have hnew : Reached (fun d a => a.IsProper d ∧ ¬ a.AttachesImport)
      (new none ⟨.screen 800.0 600.0, .standard, none, .full⟩) := .new _ _ (by decide +kernel)
  refine hnew.foldl (fun a ha d => ?_) (by decide +kernel)
  simp only [List.mem_cons, List.not_mem_nil, or_false] at ha
  rcases ha with rfl | rfl | rfl <;> exact ⟨trivial, id⟩

/-- What is fetched is counted, and the texts are those on the shelf. -/
def counted (url : Url) : StateM Nat (Except FetchError Response) := do
  modify (· + 1)
  pure (shelf url)

theorem addresses_and_terminates_linking : (linking.addresses ⟨0, 0⟩).Nodup ∧
    ∃ n d' x', d'.pendingLoads.1 = [] ∧
      ∀ fuel, n < fuel → (runFuel counted fuel linking).run 0 = ((n, d'), x') := by
  obtain ⟨haddresses, hends⟩ := reached_linking.addresses_and_terminates
  obtain ⟨sheet, hs⟩ := Option.isSome_iff_exists.1
    (show (linking.model.sheet? ⟨0, 0⟩).isSome by decide +kernel)
  exact ⟨(haddresses _ sheet hs).1, hends (by decide +kernel) counted 0⟩

end WebStyle.Document
