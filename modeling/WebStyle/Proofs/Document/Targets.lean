import WebStyle.Proofs.Document.Actions
import WebStyle.Proofs.Document.Requests
import WebStyle.Proofs.ObjectModel.Chains
import WebStyle.Proofs.ObjectModel.Sources
/-!
What loads are for: sheets of links that belong to the document, and imports that wait for their
sheets. This is so as long as nobody outside gives sheets to imports.
-/
set_option autoImplicit false

namespace WebStyle

namespace ObjectModel

variable {m : ObjectModel} {held : List SheetId} {r : RuleId} {s : SheetId} {rule : Rule}
  {href : String} {l : MediaList}

theorem Nested.attached (hn : m.Nested held) (hs : s ∉ held) (hr : m.rule? r = some rule)
    (hfree : ∀ p, .sheet s ∉ m.ownedBy p) :
    (m.attached r s href l rule.parentSheet).Nested held where
  inner x y s' sheet' p hy hmem hsheet' hp := by
    rw [rule?_attached] at hy
    split at hy
    · rename_i hx
      subst hx
      rw [hr] at hy
      obtain rfl := Option.some.inj hy
      obtain rfl : s' = s := by simpa [RuleContent.owned] using hmem
      rw [sheet?_attached, if_pos rfl] at hsheet'
      obtain ⟨sheet, -, rfl⟩ := Option.map_eq_some_iff.1 hsheet'
      exact hp
    · have hne : s ≠ s' := by
        rintro rfl
        exact hfree (.rule x) ((mem_ownedBy_rule hy).2 hmem)
      rw [sheet?_attached, if_neg hne] at hsheet'
      exact hn.inner x y s' sheet' p hy hmem hsheet' hp
  outer x hx sheet hsheet := by
    have hne : s ≠ x := fun heq => hs (heq ▸ hx)
    rw [sheet?_attached, if_neg hne] at hsheet
    exact hn.outer x hx sheet hsheet

theorem MayOpen.attached {x : RuleId} (h : m.MayOpen x) (hx : x ≠ r) {parent : Option SheetId} :
    (m.attached r s href l parent).MayOpen x := by
  refine ⟨(Evolves.attached m r s href l parent).rulesGrow.issued x h.1, fun y hy => ?_⟩
  rw [rule?_attached, if_neg (Ne.symm hx)] at hy
  exact h.2 y hy

end ObjectModel

namespace Document

variable {d : Document} {m : ObjectModel} {s : SheetId} {r : RuleId} {t : LoadTarget}

/-- Whether loads are for what they can be given to. -/
structure Wired (d : Document) : Prop where
  nested : d.model.Nested d.appliedSheets
  loads : d.loads.Proper
  linked : ∀ s, .linked s ∈ d.loads.targets →
    d.model.sheets.Issued s ∧ ((d.model.sheet? s).isSome → s ∈ d.appliedSheets)
  imported : ∀ r, .imported r ∈ d.loads.targets → d.model.MayOpen r
  announced : ∀ s r, .imported s r ∈ d.model.changes → d.model.MayOpen r

namespace Wired

theorem congr {d' : Document} (h : d.Wired) (hm : d'.model = d.model)
    (hs : d'.appliedSheets = d.appliedSheets) (hl : d'.loads = d.loads) : d'.Wired := by
  constructor
  · rw [hm, hs]
    exact h.nested
  · rw [hl]
    exact h.loads
  · rw [hm, hs, hl]
    exact h.linked
  · rw [hm, hl]
    exact h.imported
  · rw [hm]
    exact h.announced

variable (h : d.Wired)
include h

theorem editModel (hs : d.model.Sound d.appliedSheets) (hr : d.model.Rewires m) :
    { d with model := m }.Wired where
  nested := h.nested.rewires hs hr
  loads := h.loads
  linked s ht := by
    obtain ⟨hi, happlied⟩ := h.linked s ht
    refine ⟨hr.sheetsGrow.issued s hi, fun hlive => ?_⟩
    obtain ⟨sheet', hs'⟩ := Option.isSome_iff_exists.1 hlive
    rcases hr.parent s sheet' hs' with ⟨sheet, hsheet, -⟩ | ⟨hfresh, -⟩
    · exact happlied (by simp [hsheet])
    · exact absurd hi hfresh
  imported r ht := hr.mayOpen r (h.imported r ht)
  announced s r hc := by
    rcases hr.announced s r hc with hc | hr'
    · exact hr.mayOpen r (h.announced s r hc)
    · exact hr'

theorem filterLoads (p : PendingLoad LoadTarget → Bool) :
    { d with loads := d.loads.filter p }.Wired :=
  ⟨h.nested, h.loads.filter p, fun s ht => h.linked s (d.loads.targets_filter_subset p ht),
    fun r ht => h.imported r (d.loads.targets_filter_subset p ht), h.announced⟩

theorem notice (first : Bool) : (d.notice first).Wired := by
  by_cases hch : d.model.changes = []
  · rwa [notice_of_nil d first hch]
  · have hloads := proper_notice h.loads first
    have htargets := fun t => @mem_targets_notice d t first
    obtain ⟨encodings, loads, heq⟩ := exists_notice d first hch
    rw [heq] at hloads htargets ⊢
    refine ⟨⟨h.nested.inner, h.nested.outer⟩, hloads, fun s ht => ?_, fun r ht => ?_, by simp⟩
    · rcases htargets _ ht with ht | ⟨_, _, -, heq⟩
      · exact h.linked s ht
      · exact LoadTarget.noConfusion heq
    · rcases htargets _ ht with ht | ⟨s, r', hc, heq⟩
      · exact h.imported r ht
      · obtain rfl := LoadTarget.imported.inj heq
        exact h.announced s r hc

/-- A sheet in no other may join those of the document. -/
theorem register (hs : ∀ sheet, d.model.sheet? s = some sheet → sheet.parentSheet = none) :
    { d with sheets := d.sheets ++ [s] }.Wired := by
  have happlied : { d with sheets := d.sheets ++ [s] }.appliedSheets = d.appliedSheets ++ [s] := by
    simp [appliedSheets]
  refine ⟨⟨h.nested.inner, fun x hx => ?_⟩, h.loads, fun x hx => ?_, h.imported, h.announced⟩
  · rw [happlied, List.mem_append, List.mem_singleton] at hx
    rcases hx with hx | rfl
    · exact h.nested.outer x hx
    · exact hs
  · refine ⟨(h.linked x hx).1, fun hlive => ?_⟩
    rw [happlied]
    exact List.mem_append_left _ ((h.linked x hx).2 hlive)

theorem forget (hs : d.model.sheet? s = none) :
    { d with sheets := d.sheets.filter (· != s) }.Wired := by
  refine ⟨h.nested.held_subset ?_, h.loads, fun x hx => ?_, h.imported, h.announced⟩
  · intro x hx
    simp only [appliedSheets, List.mem_append] at hx ⊢
    exact hx.imp id fun hx => List.mem_of_mem_filter hx
  · refine ⟨(h.linked x hx).1, fun hlive => ?_⟩
    have hne : x ≠ s := by
      rintro rfl
      simp [hs] at hlive
    have happlied := (h.linked x hx).2 hlive
    simp only [appliedSheets, List.mem_append] at happlied ⊢
    exact happlied.imp id fun hx => List.mem_filter.2 ⟨hx, by simpa using hne⟩

/-- A new sheet of the document may be loaded. -/
theorem loadLinked (hs : d.model.sheets.Issued s) (happlied : s ∈ d.appliedSheets)
    (hnew : .linked s ∉ d.loads.targets) (url : Url) (referrer : Option Encoding) (ticket : Nat)
    (label : Option String) : { d with loads :=
      (d.loads.pushBack url (.linked s) referrer).1.declare ticket label }.Wired := by
  have htargets : ∀ t, t ∈ ((d.loads.pushBack url (.linked s) referrer).1.declare ticket
      label).targets → t ∈ d.loads.targets ∨ t = .linked s := by
    intro t ht
    simpa [LoadQueue.targets_declare, LoadQueue.targets_pushBack] using ht
  refine ⟨h.nested, (h.loads.pushBack url referrer hnew).declare ticket label, fun x hx => ?_,
    fun r hr => ?_, h.announced⟩
  · rcases htargets _ hx with hx | hx
    · exact h.linked x hx
    · obtain rfl := LoadTarget.linked.inj hx
      exact ⟨hs, fun _ => happlied⟩
  · rcases htargets _ hr with hr | hr
    · exact h.imported r hr
    · exact LoadTarget.noConfusion hr

/-! ### Sheets of elements -/

section Sheets

variable (hc : d.Coherent) (hw : d.model.Unwrapped)
include hc hw

theorem addStyleElement (n : NodeId) (text : String)
    (hw' : ((DocumentM.addStyleElement n text).exec d).2.model.Unwrapped) :
    ((DocumentM.addStyleElement n text).exec d).2.Wired := by
  rw [DocumentM.addStyleElement, DocumentM.exec_bind] at hw' ⊢
  rcases hc.exec_addSheet hw n none with ⟨e, he⟩ | ⟨s, m, he, hm⟩
  · rw [he]
    exact h
  · rw [he] at hw' ⊢
    simp only [DocumentM.exec_edit_bind] at hw' ⊢
    have hrewires := hm.edits.sound.rewires_replaceRules s text
    cases hrun : (ModelM.replaceRules s text).exec m with
    | mk x m' =>
      rw [hrun] at hw' hrewires
      cases x with
      | error e => exact h.editModel hc.model (hm.rewires.trans (hrewires hw'))
      | ok u =>
        have hfilled := h.editModel hc.model (hm.rewires.trans (hrewires hw'))
        refine hfilled.register fun sheet' hsheet' => ?_
        obtain ⟨sheet, hsheet, -, hparent⟩ := hm.isEmpty
        rcases (hrewires hw').parent s sheet' hsheet' with ⟨sheet₁, hsheet₁, heq⟩ | ⟨-, heq⟩
        · obtain rfl := Option.some.inj (hsheet.symm.trans hsheet₁)
          exact heq.trans hparent
        · exact heq

theorem addLinked (n : NodeId) : ((DocumentM.addLinked n).exec d).2.Wired := by
  rw [DocumentM.addLinked, DocumentM.exec_element_bind]
  cases d.dom.element? n with
  | none => exact h
  | some e =>
    simp only [DocumentM.exec_bind, DocumentM.exec_get]
    generalize (resolveHref _ _).toOption = resolved
    rcases hc.exec_addSheet hw n _ with ⟨e, he⟩ | ⟨s, m, he, hm⟩
    · rw [he]
      exact h
    · obtain ⟨sheet, hsheet, -, hparent⟩ := hm.isEmpty
      have hadded := (h.editModel hc.model hm.rewires).register (s := s) fun sheet' hsheet' => by
        obtain rfl := Option.some.inj (hsheet.symm.trans hsheet')
        exact hparent
      rw [he]
      cases resolved with
      | none => exact hadded
      | some url =>
        obtain ⟨loads, hl, hloads⟩ := DocumentM.exec_loadLinked s url (e.attribute? "charset")
          { d with model := m, sheets := d.sheets ++ [s] }
        simp only [DocumentM.exec_modify, DocumentM.exec_bind, hl]
        rcases hloads with rfl | ⟨-, ticket, rfl⟩
        · exact hadded
        · refine hadded.loadLinked (Slots.issued_of_get? hsheet) (by simp [appliedSheets])
            (fun hmem => hm.fresh (h.linked s hmem).1) url _ ticket _

omit hw in
theorem removeStyleSheet (s : SheetId) : ((DocumentM.removeStyleSheet s).exec d).2.Wired := by
  have hmodel := h.editModel hc.model (ObjectModel.rewires_removeSheet s)
  rw [DocumentM.removeStyleSheet, DocumentM.exec_edit_bind]
  cases hrun : (ModelM.removeSheet s).exec d.model with
  | mk x m =>
    rw [hrun] at hmodel
    cases x with
    | error e => exact hmodel
    | ok u => exact (hmodel.forget (ObjectModel.sheet?_removeSheet hrun)).notice _

end Sheets

end Wired

end Document
end WebStyle
