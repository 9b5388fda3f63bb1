import WebStyle.Proofs.Document.Completion
import WebStyle.Proofs.Document.Futures
import WebStyle.Proofs.ObjectModel.Room
import WebStyle.Proofs.Sequence
/-!
What is to be loaded, in order, and fetching it, the first in the queue each time. The imports of a
sheet that was just loaded come first, in the order in which they are written, and then what was to
be loaded before. Only the loads of links free anything, so that it is known beforehand whether
handles can come round.
-/
set_option autoImplicit false

namespace WebStyle.Document

variable {d d' : Document} {l : PendingLoad LoadTarget} {s : SheetId} {i : SheetId × RuleId}

/-- What is to be loaded, the next first, and what it is for. -/
def jobs (d : Document) : List (LoadTarget × LoadRequest) :=
  d.loads.pending.map fun l => (l.target, l.request)

theorem map_fst_jobs (d : Document) : d.jobs.map Prod.fst = d.loads.targets := by
  rw [jobs, List.map_map]
  rfl

/-! ### Imports are queued -/

theorem jobs_schedule (hi : .imported i.2 ∉ d.loads.targets) : (schedule true d i).jobs =
    ((d.importRequest? i).map (Prod.mk (.imported i.2))).toList ++ d.jobs := by
  rcases d.schedule_eq true i with ⟨hnone, heq⟩ | ⟨url, referrer, hsome, heq⟩
  · rw [heq, hnone]
    rfl
  · have hkept : d.loads.pending.filter (·.target != .imported i.2) = d.loads.pending := by
      refine List.filter_eq_self.2 fun l hl => bne_iff_ne.2 fun ht => hi ?_
      exact ht ▸ LoadQueue.mem_targets hl
    rw [heq, hsome]
    simp only [jobs, LoadQueue.pushFront, LoadQueue.filter, ↓reduceIte, hkept]
    rfl

/-- The last import is queued first, so that the first one is loaded first. -/
theorem jobs_foldl_schedule {imports : List (SheetId × RuleId)}
    (hn : (imports.map Prod.snd).Nodup)
    (hnew : ∀ i ∈ imports, .imported i.2 ∉ d.loads.targets) :
    (imports.reverse.foldl (schedule true) d).jobs =
      imports.filterMap (fun i => (d.importRequest? i).map (Prod.mk (.imported i.2))) ++
        d.jobs := by
  induction imports with
  | nil => rfl
  | cons i imports ih =>
    obtain ⟨hi, hn⟩ := List.nodup_cons.1 hn
    have hfree : .imported i.2 ∉ (imports.reverse.foldl (schedule true) d).loads.targets := by
      intro ht
      rcases mem_targets_foldl_schedule true imports.reverse ht with ht | ⟨j, hj, heq⟩
      · exact hnew i List.mem_cons_self ht
      · rw [LoadTarget.imported.inj heq] at hi
        exact hi (List.mem_map_of_mem (List.mem_reverse.1 hj))
    rw [List.reverse_cons, List.foldl_append, List.foldl_cons, List.foldl_nil, jobs_schedule hfree,
      importRequest?_foldl_schedule, ih hn fun j hj => hnew j (List.mem_cons_of_mem i hj),
      List.filterMap_cons]
    cases d.importRequest? i <;> rfl

theorem jobs_notice (hremoved : ∀ s, .removed s ∉ d.model.changes)
    (hn : ((d.model.changes.filterMap Change.imported?).map Prod.snd).Nodup)
    (hnew : ∀ s r, .imported s r ∈ d.model.changes → .imported r ∉ d.loads.targets) :
    (d.notice true).jobs = (d.model.changes.filterMap Change.imported?).filterMap (fun i =>
      ((d.notice true).importRequest? i).map (Prod.mk (.imported i.2))) ++ d.jobs := by
  by_cases hch : d.model.changes = []
  · rw [notice_of_nil d true hch, hch]
    rfl
  · obtain ⟨d₁, heq, hl, -⟩ := @exists_notice_of_none_removed d true hremoved hch
    have hjobs : d₁.jobs = d.jobs := by rw [jobs, jobs, hl]
    have hannounced : d.announced true = (d.model.changes.filterMap Change.imported?).reverse := rfl
    rw [heq, hannounced]
    simp only [importRequest?_foldl_schedule]
    rw [jobs_foldl_schedule hn fun i hi => ?_, hjobs]
    rw [hl]
    have hmem : i ∈ d.announced true := by rwa [hannounced, List.mem_reverse]
    exact hnew i.1 i.2 (mem_announced.1 hmem)

/-! ### Loads are completed -/

/-- The load that comes first is taken away. -/
theorem jobs_withoutLoad {j : LoadTarget × LoadRequest} {rest : List (LoadTarget × LoadRequest)}
    (h : d.loads.Proper) (hj : d.jobs = j :: rest) : (d.withoutLoad j.1).jobs = rest := by
  have hmap : ∀ p : LoadTarget → Bool, (d.loads.pending.filter fun l => p l.target).map
      (fun l => (l.target, l.request)) = d.jobs.filter fun j => p j.1 := fun p => by
    rw [jobs, List.filter_map]
    rfl
  have hn := h.targets
  rw [← map_fst_jobs, hj, List.map_cons, List.nodup_cons] at hn
  have hkept : rest.filter (fun i => i.1 != j.1) = rest := by
    refine List.filter_eq_self.2 fun i hi => bne_iff_ne.2 fun heq => hn.1 ?_
    exact heq ▸ List.mem_map_of_mem hi
  have hfilter := hmap (· != j.1)
  rw [hj, List.filter_cons_of_neg (by simp), hkept] at hfilter
  exact hfilter

/-- What is to be loaded for an import in a sheet that was loaded. -/
def importJob? (d : Document) (s : SheetId) (e : Encoding) (x : RuleId) (href : String) :
    Option (LoadTarget × LoadRequest) :=
  (d.importUrl s href).toOption.map fun url => (.imported x, ⟨url, some e, none⟩)

section Landed

variable (target : LoadTarget) {m : ObjectModel} {sheet : StyleSheet} {t : SheetText}
  (hch : d.model.changes = []) (hd : d.discarded = false)
  (hissued : ∀ r, .imported r ∈ d.loads.targets → d.model.rules.Issued r)
  (hfills : d.model.Fills m s sheet (SheetSource.ofString t.text).rules)
include hch hd hissued hfills

/-- The imports of a sheet that was loaded come before all else, as far as they may be loaded. -/
theorem jobs_landed : ∃ xs,
    ObjectModel.AreImports (d.model.IsAdded m) xs
      (RuleSource.hrefsAll (SheetSource.ofString t.text).rules) ∧
    (d.landed target m s t.encoding).jobs =
      (xs.zip (RuleSource.hrefsAll (SheetSource.ofString t.text).rules)).filterMap (fun i =>
        (d.landed target m s t.encoding).importJob? s t.encoding i.1 i.2) ++
      (d.withoutLoad target).jobs := by
  obtain ⟨hremoved, hmem⟩ := changes_of_fills hch hfills
  obtain ⟨xs, later, hl, hlater, himports⟩ := hfills.listed
  rw [hch, List.nil_append] at hl
  have hannounced : m.changes.filterMap Change.imported? = xs.map (Prod.mk s) := by
    have hnone : later.filterMap Change.imported? = [] := List.filterMap_eq_nil_iff.2 fun c hc => by
      obtain ⟨p, rfl⟩ := hlater c hc
      rfl
    rw [hl, List.filterMap_append, hnone, List.append_nil, List.filterMap_map]
    exact congrFun (List.filterMap_eq_map (f := Prod.mk s)) xs
  have hnotice : (d.landed target m s t.encoding).jobs =
      (m.changes.filterMap Change.imported?).filterMap (fun i =>
        ((d.landed target m s t.encoding).importRequest? i).map (Prod.mk (.imported i.2))) ++
      (d.withoutLoad target).jobs := by
    refine jobs_notice (d := { d.withoutLoad target with
      model := m, encodings := d.encodings.insert s t.encoding }) hremoved ?_ fun s' r hc ht => ?_
    · rw [hannounced, List.map_map]
      simpa [Function.comp_def] using himports.nodup
    · obtain ⟨-, y, hy, -⟩ := (hmem s' r).1 hc
      exact hy.2 (hissued r (d.loads.targets_filter_subset _ ht))
  refine ⟨xs, himports, ?_⟩
  rw [hnotice, hannounced, List.filterMap_map]
  congr 1
  refine filterMap_eq_filterMap_zip himports.refer fun x href ⟨y, media, hy, hc⟩ => ?_
  have hx : (d.landed target m s t.encoding).model.rule? x = some y := by
    rw [model_landed]
    exact hy.1
  have he : (d.landed target m s t.encoding).encodings.find? s = some t.encoding := by
    rw [encodings_landed hch hfills, Table.find?_insert, if_pos rfl]
  have hhref : (d.landed target m s t.encoding).model.importHref x = .ok href := by
    rw [ObjectModel.importHref, ObjectModel.rule, hx]
    simp only [ObjectModel.live, bind, Except.bind, hc]
    rfl
  have hdiscarded : (d.landed target m s t.encoding).discarded = false :=
    (remains_landed (m := m)).discarded.trans hd
  simp only [Function.comp_apply, importRequest?, hdiscarded, hhref, he, Option.getD_some,
    importJob?, Option.map_map]
  rfl

theorem exists_jobs_landed : ∃ new,
    (d.landed target m s t.encoding).jobs = new ++ (d.withoutLoad target).jobs ∧
      ∀ j ∈ new, ∃ x y, j.1 = .imported x ∧ d.model.IsAdded m x y := by
  obtain ⟨xs, himports, hjobs⟩ := jobs_landed target hch hd hissued hfills
  refine ⟨_, hjobs, fun j hj => ?_⟩
  obtain ⟨⟨x, href⟩, hx, hj⟩ := List.mem_filterMap.1 hj
  obtain ⟨url, -, rfl⟩ := Option.map_eq_some_iff.1 hj
  obtain ⟨-, y, -, hy, -⟩ := himports.exists_of_mem (List.of_mem_zip hx).1
  exact ⟨x, y, rfl, hy⟩

end Landed

end WebStyle.Document

namespace WebStyle

/-! ### Fetching -/

def LoadTarget.isLinked : LoadTarget → Bool
  | .linked _ => true
  | .imported _ => false

namespace Document

variable {σ : Type} {fetch : Url → StateM σ (Except FetchError Response)}
  {d d' : Document} {x x' : σ}
  {urls : List Url} {l : PendingLoad LoadTarget} {n : Nat}

/-- The runs that fetch what is to be loaded, the first in the queue each time, until nothing is
left, with the addresses that are asked for. -/
inductive Serves (fetch : Url → StateM σ (Except FetchError Response)) :
    Document → σ → List Url → Document → σ → Prop where
  | done {d : Document} {x : σ} (h : d.sync.loads.pending = []) : Serves fetch d x [] d.sync x
  | step {d d' : Document} {x x' : σ} {urls : List Url} {l : PendingLoad LoadTarget}
      {rest : List (PendingLoad LoadTarget)} (hl : d.sync.loads.pending = l :: rest)
      (h : Serves fetch (d.sync.complete l.ticket ((fetch l.url).run x).1).2
        ((fetch l.url).run x).2 urls d' x') : Serves fetch d x (l.url :: urls) d' x'

namespace Serves

/-- With enough fuel, this is what a run does. -/
theorem run_runFuel (h : Serves fetch d x urls d' x') : ∀ fuel, urls.length < fuel →
    (runFuel fetch fuel d).run x = ((urls.length, d'), x') := by
  induction h with
  | @done d x hnone =>
    rintro (_ | fuel) hf
    · exact absurd hf (Nat.not_lt_zero _)
    · have hfront : d.sync.loads.front? = none := by rw [LoadQueue.front?, hnone]; rfl
      rw [runFuel]
      simp only [hfront]
      rfl
  | @step d d' x x' urls l rest hl _ ih =>
    rintro (_ | fuel) hf
    · exact absurd hf (Nat.not_lt_zero _)
    · have hfront : d.sync.loads.front? = some l := by rw [LoadQueue.front?, hl]; rfl
      have hrest := ih fuel (Nat.lt_of_succ_lt_succ hf)
      rw [runFuel]
      simp only [hfront, StateT.run_bind]
      exact congrArg (fun p => ((p.1.1 + 1, p.1.2), p.2)) hrest

theorem congr_sync {e : Document} (hsync : d.sync = e.sync) (h : Serves fetch e x urls d' x') :
    Serves fetch d x urls d' x' := by
  cases h with
  | done hnone =>
    rw [← hsync] at hnone ⊢
    exact .done hnone
  | step hl h =>
    rw [← hsync] at hl h
    exact .step hl h

theorem of_sync_eq {rest : List (PendingLoad LoadTarget)} (hsync : d.sync = d)
    (hl : d.loads.pending = l :: rest)
    (h : Serves fetch (d.complete l.ticket ((fetch l.url).run x).1).2 ((fetch l.url).run x).2 urls
      d' x') : Serves fetch d x (l.url :: urls) d' x' := by
  rw [← hsync] at hl h
  exact .step hl h

theorem pendingLoads_eq_nil (h : Serves fetch d x urls d' x') : d'.pendingLoads.1 = [] := by
  induction h with
  | @done d x hnone =>
    have hsync : d.sync.sync = d.sync := notice_of_nil d.sync false (changes_notice d false)
    rw [pendingLoads, hsync, hnone]
    rfl
  | step _ _ ih => exact ih

end Serves

/-! ### Room for handles -/

/-- How many sheets of links are to be loaded. -/
def linkedCount (d : Document) : Nat := d.loads.targets.countP LoadTarget.isLinked

/-- Whether no handles come round while everything is loaded. The loads of links may free each slot
once for each of them, and those of imports free none. -/
def HasRoom (d : Document) : Prop := d.model.HasRoom d.linkedCount

instance (d : Document) : Decidable d.HasRoom :=
  inferInstanceAs (Decidable (d.model.HasRoom d.linkedCount))

theorem linkedCount_withoutLoad (h : d.loads.Proper) (hl : l ∈ d.loads.pending) :
    d.linkedCount = (d.withoutLoad l.target).linkedCount + l.target.isLinked.toNat := by
  have htargets : (d.withoutLoad l.target).loads.targets = d.loads.targets.erase l.target := by
    rw [h.targets.erase_eq_filter, LoadQueue.targets, LoadQueue.targets, List.filter_map]
    rfl
  have hperm := List.perm_cons_erase (LoadQueue.mem_targets hl)
  rw [linkedCount, linkedCount, htargets, hperm.countP_eq, List.countP_cons]
  cases l.target.isLinked <;> rfl

theorem linkedCount_of_jobs {new : List (LoadTarget × LoadRequest)}
    (hjobs : d'.jobs = new ++ d.jobs) (hnew : ∀ j ∈ new, j.1.isLinked = false) :
    d'.linkedCount = d.linkedCount := by
  have hnone : (new.map Prod.fst).countP LoadTarget.isLinked = 0 := by
    refine List.countP_eq_zero.2 fun t ht => ?_
    obtain ⟨j, hj, rfl⟩ := List.mem_map.1 ht
    simp [hnew j hj]
  rw [linkedCount, linkedCount, ← map_fst_jobs, hjobs, List.map_append, List.countP_append, hnone,
    Nat.zero_add, map_fst_jobs]

/-- Completing a load leaves room for the loads that are left. -/
theorem hasRoom_complete (h : d.loads.Proper) (hch : d.model.changes = [])
    (hd : d.discarded = false) (hsound : d.model.Sound d.appliedSheets) (hl : l ∈ d.loads.pending)
    (hopen : ∀ r, l.target = .imported r → d.model.MayOpen r) (hroom : d.HasRoom)
    (result : Except FetchError Response) :
    (d.complete l.ticket result).2.model.HasRoom (d.withoutLoad l.target).linkedCount := by
  have hcount := linkedCount_withoutLoad h hl
  generalize hn : (d.withoutLoad l.target).linkedCount = n at hcount
  rw [HasRoom, hcount] at hroom
  have hleft : (d.withoutLoad l.target).model.HasRoom n := hroom.mono (Nat.le_add_right n _)
  have hsettle : ∀ (e : Encoding) (filled : Option SheetId × Document), filled.2.model.HasRoom n →
      (settle e filled).model.HasRoom n := by
    rintro e ⟨_ | s, d'⟩ hfilled
    · exact hfilled
    · rw [settle, model_notice]
      exact ⟨hfilled.sheets, hfilled.rules⟩
  rw [snd_complete h hch hd hl result]
  split
  · exact hleft
  · rename_i t _
    refine hsettle _ _ ?_
    cases ht : l.target with
    | linked s =>
      rw [ht] at hroom hleft
      have hfilled := ObjectModel.HasRoom.replaceRules (m := (d.withoutLoad (.linked s)).model)
        (n := n) hroom s t.text
      rw [fill, fillLinked_eq]
      generalize (ModelM.replaceRules s t.text).exec _ = run at hfilled ⊢
      obtain ⟨x, m⟩ := run
      cases x <;> exact hfilled
    | imported r =>
      have hmodel : (d.withoutLoad (.imported r)).model = d.model := rfl
      rw [fill, fillImport, hmodel]
      cases hparent : ((d.model.rule? r).bind (·.parentSheet)).bind d.model.sheet? with
      | none => exact ht ▸ hleft
      | some parent =>
        obtain ⟨p, hp, -⟩ := Option.bind_eq_some_iff.1 hparent
        obtain ⟨rule, hr, -⟩ := Option.bind_eq_some_iff.1 hp
        obtain ⟨href, media, hcontent⟩ := (hopen r ht).2 rule hr
        have hfilled := ObjectModel.HasRoom.fill
          (hroom.mono (Nat.le_add_right n _)) hsound hr hcontent
          l.url.text t.text parent.origin
          (rfl : d.model.createSheet (some l.url.text) "" parent.origin = _)
        have hfill := hsound.exec_fill hroom.unwrapped.sheets l.url.text t.text parent.origin
          (rfl : d.model.createSheet (some l.url.text) "" parent.origin = _) hr hcontent
          hfilled.unwrapped
        simp only [edit_eq]
        generalize d.model.createSheet (some l.url.text) "" parent.origin = created at *
        obtain ⟨m₁, s⟩ := created
        obtain ⟨m, hrun, -⟩ := hfill
        simp only [hrun] at hfilled ⊢
        exact hfilled

end Document
end WebStyle
