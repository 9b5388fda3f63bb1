import WebStyle.Proofs.Document.Completion
import WebStyle.Proofs.Document.Texts
/-!
Completing all loads, in any order. A run ends with the sheets that were to be from the start, and
so do all others; styles depend on nothing else that runs change.
-/
set_option autoImplicit false

namespace WebStyle.Document

variable {d d' : Document} {fetch : Url → Except FetchError Response} {l : PendingLoad LoadTarget}

/-- The runs that complete the load of some pending ticket, time and again, until none is left. -/
inductive Completes (fetch : Url → Except FetchError Response) : Document → Document → Prop where
  | done {d : Document} (h : d.pendingLoads.1 = []) : Completes fetch d d.pendingLoads.2
  | step {d d' : Document} {ticket : Nat} {url : Url} (hl : (ticket, url) ∈ d.pendingLoads.1)
      (hw : (d.pendingLoads.2.complete ticket (fetch url)).2.model.Unwrapped)
      (h : Completes fetch (d.pendingLoads.2.complete ticket (fetch url)).2 d') :
      Completes fetch d d'

/-- The run in which the loads are completed that are at the given places of the queue each time, if
none is left then. -/
def completePicked (fetch : Url → Except FetchError Response) :
    List Nat → Document → Option Document
  | [], d => if d.pendingLoads.1.isEmpty then some d.pendingLoads.2 else none
  | i :: picks, d => do
    let (ticket, url) ← d.pendingLoads.1[i]?
    let next := (d.pendingLoads.2.complete ticket (fetch url)).2
    if next.model.Unwrapped then completePicked fetch picks next else none

theorem completes_of_completePicked {picks : List Nat}
    (h : completePicked fetch picks d = some d') : Completes fetch d d' := by
  induction picks generalizing d with
  | nil =>
    rw [completePicked] at h
    split at h
    · rename_i hnone
      obtain rfl := Option.some.inj h
      exact .done (List.isEmpty_iff.1 hnone)
    · cases h
  | cons i picks ih =>
    rw [completePicked] at h
    obtain ⟨⟨ticket, url⟩, hl, h⟩ := Option.bind_eq_some_iff.1 h
    simp only at h
    split at h
    · rename_i hw
      exact .step (List.mem_of_getElem? hl) hw (ih h)
    · cases h

/-- What holds of a document between the steps of a run. -/
structure IsSteady (d : Document) : Prop where
  wired : d.Wired
  coherent : d.Coherent
  unwrapped : d.model.Unwrapped
  noticed : d.model.changes = []

theorem IsSteady.sync (h : d.Wired) (hc : d.Coherent) (hw : d.model.Unwrapped) :
    d.sync.IsSteady :=
  ⟨h.notice false, hc.notice false, unwrapped_notice hw false, changes_notice d false⟩

theorem IsSteady.sync_eq (h : d.IsSteady) : d.sync = d := notice_of_nil d false h.noticed

theorem complete_of_discarded (hs : d.sync = d) (hd : d.discarded) (ticket : Nat)
    (result : Except FetchError Response) : (d.complete ticket result).2 = d := by
  rw [Document.complete, hs]
  simp only [hd, ↓reduceIte]

/-- Whether all sheets of a document will be the same in another. -/
structure SameFuture (fetch : Url → Except FetchError Response) (d d' : Document) : Prop where
  remains : d.Remains d'
  arrivals : d'.arrivals fetch = d.arrivals fetch
  future : ∀ s ∈ d.appliedSheets,
    d'.future (d.arrivals fetch) s = d.future (d.arrivals fetch) s

theorem SameFuture.refl (d : Document) : SameFuture fetch d d := ⟨.refl d, rfl, fun _ _ => rfl⟩

theorem SameFuture.trans {d'' : Document} (h : SameFuture fetch d d')
    (h' : SameFuture fetch d' d'') : SameFuture fetch d d'' where
  remains := h.remains.trans h'.remains
  arrivals := h'.arrivals.trans h.arrivals
  future s hs := by
    have hlater := h'.future s (h.remains.appliedSheets ▸ hs)
    rw [h.arrivals] at hlater
    exact hlater.trans (h.future s hs)

/-- A step keeps to what the sheets will be. -/
theorem IsSteady.complete (h : d.IsSteady) (hl : l ∈ d.loads.pending)
    (hw : (d.complete l.ticket (fetch l.url)).2.model.Unwrapped) :
    (d.complete l.ticket (fetch l.url)).2.IsSteady ∧
      SameFuture fetch d (d.complete l.ticket (fetch l.url)).2 := by
  cases hd : d.discarded with
  | true =>
    rw [complete_of_discarded h.sync_eq hd]
    exact ⟨h, .refl d⟩
  | false =>
    have hwired := h.wired.complete h.coherent h.unwrapped l.ticket (fetch l.url) hw
    have hcoherent := h.coherent.complete h.unwrapped l.ticket (fetch l.url)
    have ho : Outcome d l ((d.arrivals fetch).read l.request)
        (d.complete l.ticket (fetch l.url)).2 :=
      outcome_complete h.coherent h.wired.loads (h.wired.isAim hl) h.unwrapped h.noticed hd hl
        (fetch l.url) hw
    exact ⟨⟨hwired, hcoherent, hw, ho.changes_eq_nil h.noticed⟩, ho.remains, ho.arrivals_eq,
      fun s hs => ho.future_eq h.wired h.coherent h.noticed hd hl hcoherent hs⟩

/-- A run that ends has nothing more to load, and the sheets are what they were to be. -/
theorem Completes.sameFuture (hrun : Completes fetch d d') (h : d.sync.IsSteady) :
    d'.IsSteady ∧ d'.loads.pending = [] ∧ SameFuture fetch d.sync d' := by
  induction hrun with
  | @done d hnone => exact ⟨h, List.map_eq_nil_iff.1 hnone, .refl d.sync⟩
  | @step d d' ticket url hl hw _ ih =>
    obtain ⟨l, hmem, heq⟩ := List.mem_map.1 hl
    obtain ⟨rfl, rfl⟩ := Prod.mk.inj heq
    obtain ⟨hnext, hsame⟩ := h.complete hmem hw
    have hsync := hnext.sync_eq
    rw [pendingLoads] at ih
    rw [hsync] at ih
    obtain ⟨hend, hnone, hlater⟩ := ih hnext
    exact ⟨hend, hnone, hsame.trans hlater⟩

/-! ### Styles -/

theorem Remains.symm (h : d.Remains d') : d'.Remains d where
  dom := h.dom.symm
  url := h.url.symm
  settings := h.settings.symm
  appliedSheets := h.appliedSheets.symm
  layout := h.layout.symm
  discarded := h.discarded.symm

/-- Styles depend on the sheets as they are without handles. -/
theorem Remains.computedStyle_eq (hr : d.Remains d') (h : d.Coherent) (h' : d'.Coherent)
    (ht : ∀ s ∈ d.appliedSheets, d'.sheetTree s = d.sheetTree s) {n : NodeId} (hn : d.CanStyle n)
    (pseudo : Option PseudoElement) :
    (d'.computedStyle n pseudo).1 = (d.computedStyle n pseudo).1 := by
  by_cases he : d.dom.isElement n
  · have hrules : (d'.model.appliedRules d.settings.env d.appliedSheets).map AppliedRule.shape =
        (d.model.appliedRules d.settings.env d.appliedSheets).map AppliedRule.shape := by
      rw [shape_appliedRules h.model, shape_appliedRules (hr.appliedSheets ▸ h'.model)]
      exact List.flatMap_congr fun s hs => by rw [ht s hs]
    have hagrees : d.currentContext.Agrees d'.currentContext := by
      refine ⟨fun n hn => ?_, fun n hn => ?_, fun n _ => ?_, ?_, hr.layout, ?_,
        fun n pseudo _ _ => ?_⟩
      all_goals simp only [currentContext, hr.dom, hr.settings, hr.appliedSheets]
      · exact hn
      · exact hn
      · refine funext fun inline => cascade_congr ?_ inline
        rw [shape_matchedRules, shape_matchedRules, hrules]
    have hstyle := (h.computedStyle he hn pseudo).1
    have hstyle' := (h'.computedStyle (hr.dom ▸ he) (fun _ => hr.dom ▸ hn he) pseudo).1
    rw [hstyle, hstyle', hagrees.freshStyle_eq h.dom he (hn he).1]
  · have hempty : ∀ d : Document, ¬ d.dom.isElement n →
        (d.computedStyle n pseudo).1 = ⟨.empty⟩ := by
      intro d he
      rw [← d.dom_notice false, ← sync, Bool.not_eq_true] at he
      rw [Document.computedStyle]
      simp only [he, Bool.not_false, ↓reduceIte]
    rw [hempty d he, hempty d' (hr.dom ▸ he)]

/-- Loads may be completed in any order: when none is left, the document has the same sheets with
the same texts, up to the handles of rules and of imported sheets, and its elements have the same
styles. -/
theorem Reached.same_of_completes {d₁ d₂ : Document}
    (h : Reached (fun d a => a.IsProper d ∧ ¬ a.AttachesImport) d) (h₁ : Completes fetch d d₁)
    (h₂ : Completes fetch d d₂) :
    d₂.appliedSheets = d₁.appliedSheets ∧
      (∀ s ∈ d₁.appliedSheets, d₂.sheetTree s = d₁.sheetTree s ∧
        d₂.model.sheetText s = d₁.model.sheetText s) ∧
      ∀ n, d.CanStyle n → ∀ pseudo,
        (d₂.computedStyle n pseudo).1 = (d₁.computedStyle n pseudo).1 := by
  obtain ⟨hc, hw⟩ := h.coherent fun _ _ ha => ha.1
  have hsteady := IsSteady.sync h.wired hc hw
  obtain ⟨hend₁, hnone₁, hsame₁⟩ := h₁.sameFuture hsteady
  obtain ⟨hend₂, hnone₂, hsame₂⟩ := h₂.sameFuture hsteady
  have hremains := hsame₁.remains.symm.trans hsame₂.remains
  have htrees : ∀ s ∈ d₁.appliedSheets, d₂.sheetTree s = d₁.sheetTree s := by
    intro s hs
    rw [hsame₁.remains.appliedSheets] at hs
    rw [← future_eq_sheetTree hnone₁ (d.sync.arrivals fetch),
      ← future_eq_sheetTree hnone₂ (d.sync.arrivals fetch), hsame₁.future s hs,
      hsame₂.future s hs]
  refine ⟨hremains.appliedSheets, fun s hs => ⟨htrees s hs, ?_⟩, fun n hn pseudo => ?_⟩
  · rw [sheetText_eq hend₁.coherent.model hs,
      sheetText_eq (hremains.appliedSheets ▸ hend₂.coherent.model) hs, htrees s hs]
  · have hdom : d₁.dom = d.dom := hsame₁.remains.dom.trans (dom_notice d false)
    have hn₁ : d₁.CanStyle n := by
      rw [CanStyle, hdom]
      exact hn
    exact hremains.computedStyle_eq hend₁.coherent hend₂.coherent htrees hn₁ pseudo

/-- What two addresses are taken to lead to. The sheet at the first one imports another. -/
def shelf (url : Url) : Except FetchError Response :=
  .ok (.ofText (if url.text == "x:a" then "@import url(x:c);" else "a\x7bcolor:red\x7d"))

/-- A document with one element that owns a sheet with two imports. -/
def importing : Document :=
  [Action.editDom (.create (.element (.ofAttributes "a" []))),
    .editDom (.insertBefore ⟨0, 0⟩ ⟨1, 0⟩ none),
    .addStyleElement ⟨1, 0⟩ "@import url(x:a);@import url(x:b);"].foldl Action.apply
      (new none ⟨.screen 800.0 600.0, .standard, none, .full⟩)

theorem same_of_completes_importing : ∃ d₁ d₂ : Document,
    completePicked shelf [0, 0, 0] importing = some d₁ ∧
      completePicked shelf [1, 0, 0] importing = some d₂ ∧
      d₂.sheetTree ⟨0, 0⟩ = d₁.sheetTree ⟨0, 0⟩ ∧
      (d₂.computedStyle ⟨1, 0⟩ none).1 = (d₁.computedStyle ⟨1, 0⟩ none).1 := by
  have hnew : Reached (fun d a => a.IsProper d ∧ ¬ a.AttachesImport)
      (new none ⟨.screen 800.0 600.0, .standard, none, .full⟩) := .new _ _ (by decide +kernel)
  have hcreated := hnew.act (a := .editDom (.create (.element (.ofAttributes "a" []))))
    ⟨trivial, id⟩ (by decide +kernel)
  have hplaced := hcreated.act (a := .editDom (.insertBefore ⟨0, 0⟩ ⟨1, 0⟩ none)) ⟨trivial, id⟩
    (by decide +kernel)
  have himporting : Reached (fun d a => a.IsProper d ∧ ¬ a.AttachesImport) importing :=
    hplaced.act (a := .addStyleElement ⟨1, 0⟩ "@import url(x:a);@import url(x:b);") ⟨trivial, id⟩
      (by decide +kernel)
  have hparent : importing.dom.parent? ⟨1, 0⟩ = some importing.dom.document := by decide +kernel
  have hroot : importing.dom.parent? importing.dom.document = none := by decide +kernel
  have hstyle : importing.CanStyle ⟨1, 0⟩ := fun _ =>
    ⟨(Dom.IsWalk.up hparent (.root hroot)).grounded, (Dom.IsWalk.root hroot).grounded⟩
  obtain ⟨d₁, h₁⟩ := Option.isSome_iff_exists.1
    (show (completePicked shelf [0, 0, 0] importing).isSome by decide +kernel)
  obtain ⟨d₂, h₂⟩ := Option.isSome_iff_exists.1
    (show (completePicked shelf [1, 0, 0] importing).isSome by decide +kernel)
  have hsheet : ((completePicked shelf [0, 0, 0] importing).map appliedSheets) = some [⟨0, 0⟩] := by
    decide +kernel
  have hmem : ⟨0, 0⟩ ∈ d₁.appliedSheets := by
    rw [h₁] at hsheet
    simp [Option.some.inj hsheet]
  obtain ⟨-, hsheets, hstyles⟩ := himporting.same_of_completes (completes_of_completePicked h₁)
    (completes_of_completePicked h₂)
  exact ⟨d₁, d₂, h₁, h₂, (hsheets _ hmem).1, hstyles _ hstyle none⟩

end WebStyle.Document
