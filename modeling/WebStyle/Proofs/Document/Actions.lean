import Mathlib.Data.List.Infix
import WebStyle.Proofs.Document.Coherence
import WebStyle.Proofs.ObjectModel.Held
/-!
What can be done with a document, in any order, and that its styles stay right all the while:
whatever was done before, the style of an element is what would be computed without a cache.
-/
set_option autoImplicit false

namespace WebStyle

namespace DocumentM

variable {α β : Type} {d : Document}

/-- What a request gives, and the document after it. -/
def exec (f : DocumentM α) (d : Document) : Except DocumentError α × Document := f.run.run d

theorem exec_bind (f : DocumentM α) (g : α → DocumentM β) (d : Document) : (f >>= g).exec d =
    match f.exec d with
    | (.ok a, d') => (g a).exec d'
    | (.error e, d') => (.error e, d') := by
  simp only [exec, ExceptT.run_bind, StateT.run_bind]
  change (match f.run.run d with | (_, _) => _) = _
  cases f.run.run d with
  | mk x d' => cases x <;> rfl

@[simp] theorem exec_pure (a : α) : (pure a : DocumentM α).exec d = (.ok a, d) := rfl

@[simp] theorem exec_throw (e : DocumentError) :
    (throw e : DocumentM α).exec d = (.error e, d) := rfl

@[simp] theorem exec_get : (get : DocumentM Document).exec d = (.ok d, d) := rfl

@[simp] theorem exec_modify (f : Document → Document) :
    (modify f : DocumentM PUnit).exec d = (.ok (), f d) := rfl

@[simp] theorem exec_update (f : Document → α × Document) :
    (update f).exec d = (.ok (f d).1, (f d).2) := rfl

theorem exec_edit (f : ModelM α) : (edit f).exec d =
    match f.exec d.model with
    | (.ok a, m) => (.ok a, { d with model := m })
    | (.error e, m) => (.error (.refused e), { d with model := m }) := by
  simp only [edit, exec_bind, exec_update]
  rw [show (d.edit f).1 = (f.exec d.model).1 from rfl,
    show (d.edit f).2 = { d with model := (f.exec d.model).2 } from rfl]
  cases f.exec d.model with
  | mk x m => cases x <;> rfl

theorem exec_edit_bind (f : ModelM α) (g : α → DocumentM β) : (edit f >>= g).exec d =
    match f.exec d.model with
    | (.ok a, m) => (g a).exec { d with model := m }
    | (.error e, m) => (.error (.refused e), { d with model := m }) := by
  rw [exec_bind, exec_edit]
  cases f.exec d.model with
  | mk x m => cases x <;> rfl

theorem exec_element_bind (n : NodeId) (g : Element → DocumentM β) : (element n >>= g).exec d =
    match d.dom.element? n with
    | some e => (g e).exec d
    | none => (.error (.notAnElement n), d) := by
  simp only [exec_bind, element, exec_get]
  cases d.dom.element? n <;> rfl

/-- Loads for sheets of links only concern the queue. -/
theorem exec_loadLinked (s : SheetId) (url : Url) (charset : Option String) (d : Document) :
    ∃ loads, (loadLinked s url charset).exec d = (.ok (), { d with loads }) ∧
      (loads = d.loads ∨ d.discarded = false ∧ ∃ ticket,
        loads = (d.loads.pushBack url (.linked s) (some d.encoding)).1.declare ticket charset) := by
  rw [loadLinked, exec_modify]
  split
  · exact ⟨d.loads, rfl, .inl rfl⟩
  · rename_i hd
    exact ⟨_, rfl, .inr ⟨by simpa using hd, _, rfl⟩⟩

end DocumentM

namespace Document

variable {d : Document} {s : SheetId} {n : NodeId}

/-- What can be done with a document. Whoever edits the object model leaves the changes that it
notes to the document. -/
inductive Action where
  | editDom (e : Dom.Edit)
  | editModel (e : ObjectModel.Edit)
  | attachImport (r : RuleId) (s : SheetId)
  | addStyleElement (n : NodeId) (text : String)
  | addLinked (n : NodeId)
  | removeStyleSheet (s : SheetId)
  | pendingLoads
  | complete (ticket : Nat) (result : Except FetchError Response)
  | setLayout (layout : NodeId → Option BlockSize)
  | setCharset (label : String)
  | discard
  | updateInline (n : NodeId) (f : DeclarationBlock → DeclarationBlock)
  | computedStyle (n : NodeId) (pseudo : Option PseudoElement)

/-- The document after an action. -/
def Action.apply (d : Document) : Action → Document
  | .editDom e => { d with dom := e.apply d.dom }
  | .editModel e => { d with model := e.apply d.model }
  | .attachImport r s => (d.edit (ModelM.attachImport r s)).2
  | .addStyleElement n text => ((DocumentM.addStyleElement n text).exec d).2
  | .addLinked n => ((DocumentM.addLinked n).exec d).2
  | .removeStyleSheet s => ((DocumentM.removeStyleSheet s).exec d).2
  | .pendingLoads => d.pendingLoads.2
  | .complete ticket result => (d.complete ticket result).2
  | .setLayout layout => d.setLayout layout
  | .setCharset label => d.setCharset label
  | .discard => d.discard
  | .updateInline n f => ((DocumentM.updateInline n fun b => (f b, ())).exec d).2
  | .computedStyle n pseudo => (d.computedStyle n pseudo).2

/-- Whether the walks end that computing the style of a node takes: the one up from the node, and
the one down from the document. -/
def CanStyle (d : Document) (n : NodeId) : Prop :=
  d.dom.isElement n → d.dom.Grounded n ∧ d.dom.Grounded d.dom.document

/-- Whether an action may be done. An import is given sheets only that nobody has yet, and styles
are asked for only where the walks through the tree end. -/
def Action.IsProper (d : Document) : Action → Prop
  | .attachImport _ s => d.model.IsSpare d.appliedSheets s
  | .computedStyle n _ => d.CanStyle n
  | _ => True

/-- The documents that actions lead to, as long as no slot is freed so often that the generation of
its handles comes round. -/
inductive Reached (allowed : Document → Action → Prop) : Document → Prop where
  | new (url : Option String) (settings : DocumentSettings)
      (hw : (new url settings).model.Unwrapped) : Reached allowed (new url settings)
  | act {d : Document} {a : Action} (h : Reached allowed d) (ha : allowed d a)
      (hw : (a.apply d).model.Unwrapped) : Reached allowed (a.apply d)

theorem Reached.mono {allowed allowed' : Document → Action → Prop} (h : Reached allowed d)
    (hle : ∀ d a, allowed d a → allowed' d a) : Reached allowed' d := by
  induction h with
  | new url settings hw => exact .new url settings hw
  | act _ ha hw ih => exact ih.act (hle _ _ ha) hw

theorem Reached.foldl {allowed : Document → Action → Prop} {as : List Action}
    (h : Reached allowed d)
    (ha : ∀ a ∈ as, ∀ d, allowed d a)
    (hw : ∀ as' ∈ as.inits, (as'.foldl Action.apply d).model.Unwrapped) :
    Reached allowed (as.foldl Action.apply d) := by
  induction as generalizing d with
  | nil => exact h
  | cons a as ih =>
    have hfirst := h.act (ha a List.mem_cons_self d)
      (hw [a] ((List.mem_inits _ _).2 (List.prefix_append [a] as)))
    refine ih hfirst (fun b hb => ha b (List.mem_cons_of_mem a hb)) fun as' has' => ?_
    exact hw (a :: as') ((List.mem_inits _ _).2 (List.prefix_cons_inj a |>.2
      ((List.mem_inits _ _).1 has')))

theorem edit_eq {α : Type} (d : Document) (f : ModelM α) :
    d.edit f = ((f.exec d.model).1, { d with model := (f.exec d.model).2 }) := rfl

theorem unwrapped_notice (hw : d.model.Unwrapped) (first : Bool) :
    (d.notice first).model.Unwrapped := by
  by_cases hch : d.model.changes = []
  · rwa [notice_of_nil d first hch]
  · obtain ⟨encodings, loads, heq⟩ := exists_notice d first hch
    rw [heq]
    exact ⟨hw.sheets, hw.rules⟩

/-- What adding a sheet for an element does to the object model: the sheet is new and empty. -/
structure AddsSheet (held : List SheetId) (m m' : ObjectModel) (s : SheetId)
    (href : Option String) : Prop where
  edits : m.Edits held m'
  rewires : m.Rewires m'
  upholds : m.Upholds held m'
  sound : m'.Sound (s :: held)
  fresh : ¬ m.sheets.Issued s
  isEmpty : ∃ sheet, m'.sheet? s = some sheet ∧ sheet.rules = [] ∧ sheet.parentSheet = none
  address : ∀ sheet, m'.sheet? s = some sheet → sheet.href = href

namespace Coherent

variable (h : d.Coherent) (hw : d.model.Unwrapped)

/-! ### Sheets of elements -/

section Sheets

include h hw

theorem exec_addSheet (n : NodeId) (href : Option String) :
    (∃ e, (DocumentM.addSheet n href).exec d = (.error e, d)) ∨
      ∃ s m, (DocumentM.addSheet n href).exec d = (.ok s, { d with model := m }) ∧
        AddsSheet d.appliedSheets d.model m s href := by
  rw [DocumentM.addSheet, DocumentM.exec_element_bind]
  cases d.dom.element? n with
  | none => exact .inl ⟨_, rfl⟩
  | some e =>
    simp only
    generalize DocumentM.sheetAttributes e = attributes
    obtain ⟨media, title⟩ := attributes
    have h₁ := h.model.createSheet hw.sheets href media .author
    have he₁ := h.model.edits_createSheet hw.sheets href media .author
    have hr₁ := ObjectModel.Rewires.createSheet h.model hw.sheets href media .author
    have hu₁ := ObjectModel.Upholds.createSheet h.model hw.sheets href media .author
    have hfresh : ¬ d.model.sheets.Issued (d.model.createSheet href media .author).2 :=
      h.model.sheets.not_issued_fresh hw.sheets _
    have hs₁ : (d.model.createSheet href media .author).1.sheet?
        (d.model.createSheet href media .author).2 =
          some (.new href (.ofString media) .author) := by
      rw [h.model.sheet?_createSheet, if_pos rfl]
    simp only [DocumentM.exec_edit_bind, ModelM.createSheet, ModelM.exec_update] at he₁ ⊢
    generalize d.model.createSheet href media .author = created at *
    obtain ⟨m, s⟩ := created
    have hexec := ModelM.exec_setOwner_of_some hs₁ (some n) title
    have he₂ := he₁.sound.edits_setOwner s (some n) title
    have h₂ := (h₁.edits_setOwner s (some n) title).sound
    have hr₂ := ObjectModel.rewires_setOwner (m := m) s (some n) title
    have hu₂ : m.Upholds d.appliedSheets _ := ObjectModel.upholds_setOwner s (some n) title
    simp only [hexec] at he₂ h₂ hr₂ hu₂ ⊢
    refine .inr ⟨s, _, rfl, he₁.trans he₂, hr₁.trans hr₂, hu₁.trans hu₂, h₂, hfresh, ?_,
      fun sheet hsheet => ?_⟩
    · rw [ObjectModel.sheet?_modifySheet, if_pos rfl, hs₁]
      exact ⟨_, rfl, rfl, rfl⟩
    · rw [ObjectModel.sheet?_modifySheet, if_pos rfl, hs₁] at hsheet
      obtain rfl := Option.some.inj hsheet
      rfl

theorem addStyleElement (n : NodeId) (text : String) :
    ((DocumentM.addStyleElement n text).exec d).2.Coherent := by
  rw [DocumentM.addStyleElement, DocumentM.exec_bind]
  rcases h.exec_addSheet hw n none with ⟨e, he⟩ | ⟨s, m, he, hm⟩
  · rw [he]
    exact h
  · have hc := h.editModel (hm.edits.trans (hm.edits.sound.edits_replaceRules s text))
    have hs' := (hm.sound.edits_replaceRules s text).sound
    rw [he]
    simp only [DocumentM.exec_edit_bind]
    cases hrun : (ModelM.replaceRules s text).exec m with
    | mk x m' =>
      rw [hrun] at hc hs'
      cases x with
      | error e => exact hc
      | ok u => exact hc.register hs' (.inl (ModelM.changes_replaceRules hrun))

theorem addLinked (n : NodeId) : ((DocumentM.addLinked n).exec d).2.Coherent := by
  rw [DocumentM.addLinked, DocumentM.exec_element_bind]
  cases d.dom.element? n with
  | none => exact h
  | some e =>
    simp only [DocumentM.exec_bind, DocumentM.exec_get]
    generalize (resolveHref _ _).toOption = resolved
    rcases h.exec_addSheet hw n _ with ⟨e, he⟩ | ⟨s, m, he, hm⟩
    · rw [he]
      exact h
    · obtain ⟨sheet, hsheet, hrules, -⟩ := hm.isEmpty
      have hc := (h.editModel hm.edits).register hm.sound (.inr ⟨sheet, hsheet, hrules⟩)
      rw [he]
      cases resolved with
      | none => exact hc
      | some url =>
        obtain ⟨loads, hl, -⟩ := DocumentM.exec_loadLinked s url (e.attribute? "charset")
          { d with model := m, sheets := d.sheets ++ [s] }
        simp only [DocumentM.exec_modify, DocumentM.exec_bind, hl]
        exact hc.of_loads loads d.encodings

omit hw in
theorem removeStyleSheet (s : SheetId) :
    ((DocumentM.removeStyleSheet s).exec d).2.Coherent := by
  have hc := h.editModel (h.model.edits_removeSheet s)
  rw [DocumentM.removeStyleSheet, DocumentM.exec_edit_bind]
  cases hrun : (ModelM.removeSheet s).exec d.model with
  | mk x m =>
    rw [hrun] at hc
    cases x with
    | error e => exact hc
    | ok u =>
      exact (hc.forgetSheets List.filter_sublist.subset (ModelM.changes_removeSheet hrun)).notice _

end Sheets

/-! ### Results of loads -/

section Loads

include h hw

theorem fill (url : Url) (text : String) (target : LoadTarget) :
    (d.fill url text target).2.Coherent := by
  cases target with
  | linked s => exact h.editModel (h.model.edits_replaceRules s text)
  | imported r =>
    simp only [Document.fill, fillImport]
    cases ((d.model.rule? r).bind (·.parentSheet)).bind d.model.sheet? with
    | none => exact h
    | some parent =>
      have he := h.model.edits_createSheet hw.sheets (some url.text) "" parent.origin
      have hs := h.model.isSpare_createSheet hw.sheets (some url.text) "" parent.origin
      have hheld := h.model.createSheet hw.sheets (some url.text) "" parent.origin
      simp only [ModelM.createSheet, ModelM.exec_update] at he
      simp only
      generalize d.model.createSheet (some url.text) "" parent.origin = created at *
      obtain ⟨m, s⟩ := created
      have hfill := h.editModel (he.trans (hs.edits_fill hheld text r))
      simp only [edit_eq] at hfill ⊢
      generalize ModelM.exec _ m = run at *
      obtain ⟨x, m'⟩ := run
      cases x with
      | ok u => exact hfill
      | error e => exact hfill.editModel (hfill.model.edits_removeSheet s)

/-- The result of a load leaves styles right, of use or not. -/
theorem complete (ticket : Nat) (result : Except FetchError Response) :
    (d.complete ticket result).2.Coherent := by
  have hsync := h.notice false
  have hwsync := unwrapped_notice hw false
  simp only [Document.complete]
  split
  · exact hsync
  · split
    · exact hsync
    · rename_i loads load _
      have hloads : { d.sync with loads }.Coherent := hsync.of_loads loads d.sync.encodings
      split
      · exact hloads
      · rename_i sheet _
        have hfill := hloads.fill hwsync load.url sheet.text load.target
        generalize Document.fill _ load.url sheet.text load.target = filled at *
        obtain ⟨x, d'⟩ := filled
        cases x with
        | none => exact hfill
        | some s => exact (hfill.of_loads d'.loads _).notice true

end Loads

/-! ### Elements -/

section Elements

include h

omit hw in
theorem updateInline (n : NodeId) (f : DeclarationBlock → DeclarationBlock) :
    ((DocumentM.updateInline n fun b => (f b, ())).exec d).2.Coherent := by
  rw [DocumentM.updateInline, DocumentM.exec_element_bind]
  cases d.dom.element? n with
  | none => exact h
  | some e => exact h.editDom (.setAttribute n "style" (f (d.inlineBlock n)).text)

omit hw in
/-- The style of an element is the one as of now, and what is kept of it is right. -/
theorem computedStyle (he : d.dom.isElement n) (hn : d.CanStyle n)
    (pseudo : Option PseudoElement) :
    (d.computedStyle n pseudo).1 = d.currentContext.freshStyle n pseudo ∧
      (d.computedStyle n pseudo).2.Coherent := by
  obtain ⟨hg, hdoc⟩ := hn he
  have hsync : d.computedStyle n pseudo = d.sync.computedStyle n pseudo := by
    rw [Document.computedStyle, Document.computedStyle, sync, sync,
      notice_of_nil (d.notice false) false (changes_notice d false)]
  rw [hsync, ← (h.agrees_notice false).freshStyle_eq h.dom he hg pseudo]
  refine (h.notice false).computedStyle_of_nil (changes_notice d false) ?_ ?_ ?_ pseudo
  · rwa [dom_notice]
  · rwa [dom_notice]
  · rwa [dom_notice]

end Elements

/-- Every action leaves styles right. -/
theorem apply (h : d.Coherent) (hw : d.model.Unwrapped) (a : Action) (ha : a.IsProper d)
    (hw' : (a.apply d).model.Unwrapped) : (a.apply d).Coherent := by
  cases a with
  | editDom e => exact h.editDom e
  | editModel e => exact h.editModel (h.model.edits_apply e hw')
  | attachImport r s => exact h.editModel (h.model.edits_attachImport ha r)
  | addStyleElement n text => exact h.addStyleElement hw n text
  | addLinked n => exact h.addLinked hw n
  | removeStyleSheet s => exact h.removeStyleSheet s
  | pendingLoads => exact h.notice false
  | complete ticket result => exact h.complete hw ticket result
  | setLayout layout => exact h.setLayout layout
  | setCharset label => exact h.setCharset label
  | discard => exact h.discard
  | updateInline n f => exact h.updateInline n f
  | computedStyle n pseudo =>
    by_cases he : d.dom.isElement n
    · exact (h.computedStyle he ha pseudo).2
    · have hsync : (d.computedStyle n pseudo).2 = d.sync := by
        rw [← d.dom_notice false, ← sync, Bool.not_eq_true] at he
        rw [Document.computedStyle]
        simp only [he, Bool.not_false, ↓reduceIte]
      rw [Action.apply, hsync]
      exact h.notice false

end Coherent

theorem sound_initialModel (settings : DocumentSettings) :
    (initialModel settings).1.Sound (initialModel settings).2.toList ∧
      (initialModel settings).1.changes = [] := by
  have hempty := ObjectModel.sound_empty settings.compatibility
  rw [initialModel]
  cases settings.userAgent with
  | none => exact ⟨hempty, rfl⟩
  | some text =>
    have hcreate := hempty.createSheet Slots.unwrapped_empty none "" .userAgent
    simp only
    generalize (ObjectModel.empty settings.compatibility).createSheet none "" .userAgent =
      created at *
    obtain ⟨m, s⟩ := created
    have hs := (hcreate.edits_replaceRules s text).sound
    rw [ModelM.exec] at hs
    simp only at hs ⊢
    generalize ((ModelM.replaceRules s text).run).run m = run at *
    obtain ⟨x, m'⟩ := run
    cases x with
    | ok u => exact ⟨hs.congr rfl rfl, rfl⟩
    | error e => exact ⟨(hs.held_subset (List.nil_subset _)).congr rfl rfl, rfl⟩

theorem coherent_new (url : Option String) (settings : DocumentSettings) :
    (new url settings).Coherent := by
  obtain ⟨hsound, -⟩ := sound_initialModel settings
  refine ⟨Dom.consistent_empty, ?_, fun g hg => ?_, fun g hg => ?_, fun _ hi => ?_,
    fun _ _ hc => ?_⟩
  · rw [appliedSheets, new, List.append_nil]
    exact hsound
  · simp [new, GenerationCache.empty] at hg
  · simp [new] at hg
  · simp [new] at hi
  · simp [new, GenerationCache.empty] at hc

/-- Styles are right whatever was done. -/
theorem Reached.coherent {allowed : Document → Action → Prop} (h : Reached allowed d)
    (hproper : ∀ d a, allowed d a → a.IsProper d) : d.Coherent ∧ d.model.Unwrapped := by
  induction h with
  | new url settings hw => exact ⟨coherent_new url settings, hw⟩
  | act _ ha hw ih => exact ⟨ih.1.apply ih.2 _ (hproper _ _ ha) hw, hw⟩

/-- After any actions in any order, the style of an element is the one that is computed without a
cache from the tree, the object model, the sheets and the `style` attributes as they are. -/
theorem Reached.computedStyle_eq_uncached {d : Document}
    (h : Reached (fun d a => a.IsProper d) d) {n : NodeId} (he : d.dom.isElement n)
    (hg : d.dom.Grounded n) (hdoc : d.dom.Grounded d.dom.document)
    (pseudo : Option PseudoElement) :
    (d.computedStyle n pseudo).1 = d.currentContext.computedStyle n pseudo := by
  have hc := (h.coherent fun _ _ ha => ha).1
  rw [StyleContext.computedStyle_eq_freshStyle hc.dom he hg]
  exact (hc.computedStyle he (fun _ => ⟨hg, hdoc⟩) pseudo).1

/-- A document with one element and a rule about it. -/
def painted : Document :=
  [Action.editDom (.create (.element (.ofAttributes "a" []))),
    .editDom (.insertBefore ⟨0, 0⟩ ⟨1, 0⟩ none),
    .addStyleElement ⟨1, 0⟩ "a\x7bcolor:red\x7d"].foldl Action.apply
      (new none ⟨.screen 800.0 600.0, .standard, none, .full⟩)

/-- The rule is changed to be about other elements, after the style was asked for. -/
def repainted : Document :=
  (Action.editModel (.setSelectorText ⟨0, 0⟩ "b")).apply
    ((Action.computedStyle ⟨1, 0⟩ none).apply painted)

theorem computedStyle_repainted : repainted.dom.isElement ⟨1, 0⟩ ∧
    (repainted.computedStyle ⟨1, 0⟩ none).1 =
      repainted.currentContext.computedStyle ⟨1, 0⟩ none := by
  have hgrounded : ∀ d : Dom, d.parent? ⟨1, 0⟩ = some d.document → d.parent? d.document = none →
      d.Grounded ⟨1, 0⟩ ∧ d.Grounded d.document := fun d h₁ h₀ =>
    ⟨(Dom.IsWalk.up h₁ (.root h₀)).grounded, (Dom.IsWalk.root h₀).grounded⟩
  have hnew : Reached (fun d a => a.IsProper d)
      (new none ⟨.screen 800.0 600.0, .standard, none, .full⟩) := .new _ _ (by decide +kernel)
  have hcreated := hnew.act (a := .editDom (.create (.element (.ofAttributes "a" [])))) trivial
    (by decide +kernel)
  have hplaced := hcreated.act (a := .editDom (.insertBefore ⟨0, 0⟩ ⟨1, 0⟩ none)) trivial
    (by decide +kernel)
  have hpainted : Reached (fun d a => a.IsProper d) painted :=
    hplaced.act (a := .addStyleElement ⟨1, 0⟩ "a\x7bcolor:red\x7d") trivial (by decide +kernel)
  have hstyled := hpainted.act (a := .computedStyle ⟨1, 0⟩ none)
    (fun _ => hgrounded painted.dom (by decide +kernel) (by decide +kernel)) (by decide +kernel)
  have hrepainted : Reached (fun d a => a.IsProper d) repainted :=
    hstyled.act trivial (by decide +kernel)
  obtain ⟨hg, hdoc⟩ := hgrounded repainted.dom (by decide +kernel) (by decide +kernel)
  have he : repainted.dom.isElement ⟨1, 0⟩ := by decide +kernel
  exact ⟨he, hrepainted.computedStyle_eq_uncached he hg hdoc none⟩

end Document
end WebStyle
