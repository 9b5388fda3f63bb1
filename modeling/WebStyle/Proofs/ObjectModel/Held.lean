import WebStyle.Proofs.ObjectModel.Imports
/-!
What becomes of sheets that are held. They keep their addresses and come to lie in no others, and
each is there until it is removed itself, which is noted.
-/
set_option autoImplicit false

namespace WebStyle.ObjectModel

variable {m m' m'' : ObjectModel} {held : List SheetId} {ps : List ModelPart} {s : SheetId}
  {r : RuleId}
  {rule : Rule}

/-- A sheet that is held is reached from nothing else. -/
theorem Sound.not_reaches_held (h : m.Sound held) (hs : s ∈ held) (hps : .sheet s ∉ ps) :
    ¬ m.Reaches ps (.sheet s) := by
  rintro ⟨p, hp, hpath⟩
  rcases Relation.ReflTransGen.cases_tail hpath with heq | ⟨q, -, hq⟩
  · exact hps (heq ▸ hp)
  · exact h.heldFree s hs q hq

/-- What may be done around sheets that are held. -/
structure Upholds (held : List SheetId) (m m' : ObjectModel) : Prop where
  sheetsGrow : m.sheets.Grows m'.sheets
  changes : m.changes ⊆ m'.changes
  dead : ∀ s, m.sheets.Issued s → m.sheet? s = none → m'.sheet? s = none
  kept : ∀ s ∈ held, ∀ sheet, m.sheet? s = some sheet →
    (∃ sheet', m'.sheet? s = some sheet' ∧ sheet'.href = sheet.href ∧
      sheet'.parentSheet = sheet.parentSheet) ∨ m'.sheet? s = none ∧ .removed s ∈ m'.changes

namespace Upholds

theorem of_sheets (hs : m'.sheets = m.sheets) (hch : m.changes ⊆ m'.changes) :
    m.Upholds held m' where
  sheetsGrow := hs ▸ .refl _
  changes := hch
  dead s _ hdead := by rwa [sheet?, hs]
  kept s _ sheet hsheet := .inl ⟨sheet, by rwa [sheet?, hs], rfl, rfl⟩

theorem refl (m : ObjectModel) : m.Upholds held m := .of_sheets rfl (List.Subset.refl _)

theorem trans (h : m.Upholds held m') (h' : m'.Upholds held m'') : m.Upholds held m'' where
  sheetsGrow := h.sheetsGrow.trans h'.sheetsGrow
  changes := List.Subset.trans h.changes h'.changes
  dead s hi hdead := h'.dead s (h.sheetsGrow.issued s hi) (h.dead s hi hdead)
  kept s hs sheet hsheet := by
    rcases h.kept s hs sheet hsheet with ⟨sheet', hsheet', hhref, hp⟩ | ⟨hdead, hremoved⟩
    · rcases h'.kept s hs sheet' hsheet' with ⟨sheet'', hsheet'', hhref', hp'⟩ | hremoved
      · exact .inl ⟨sheet'', hsheet'', hhref'.trans hhref, hp'.trans hp⟩
      · exact .inr hremoved
    · have hi := h.sheetsGrow.issued s (Slots.issued_of_get? hsheet)
      exact .inr ⟨h'.dead s hi hdead, h'.changes hremoved⟩

theorem note (m : ObjectModel) (c : Change) : m.Upholds held (m.note c) :=
  .of_sheets rfl (List.subset_append_left _ _)

theorem noteChanged (m : ObjectModel) (x : Option SheetId) : m.Upholds held (m.noteChanged x) := by
  cases x with
  | none => exact .refl m
  | some s => exact .note m _

theorem setContent (m : ObjectModel) (r : RuleId) (c : RuleContent) :
    m.Upholds held (m.setContent r c) := .of_sheets rfl (List.Subset.refl _)

theorem modifySheet {f : StyleSheet → StyleSheet} (hf : s ∈ held → ∀ sheet,
    (f sheet).href = sheet.href ∧ (f sheet).parentSheet = sheet.parentSheet) :
    m.Upholds held (m.modifySheet s f) where
  sheetsGrow := Slots.grows_modify _ _ _
  changes := List.Subset.refl _
  dead x _ hdead := by
    rw [sheet?_modifySheet, hdead]
    exact ite_self _
  kept x hx sheet hsheet := by
    refine .inl ⟨if s = x then f sheet else sheet, ?_, ?_⟩
    · rw [sheet?_modifySheet, hsheet]
      split <;> rfl
    · split
      · rename_i heq
        exact hf (heq ▸ hx) sheet
      · exact ⟨rfl, rfl⟩

theorem modifyRules (m : ObjectModel) (f : List RuleId → List RuleId) (c : RuleContainer) :
    m.Upholds held (m.modifyRules f c) := by
  cases c with
  | sheet s => exact .modifySheet fun _ _ => ⟨rfl, rfl⟩
  | media r => exact .of_sheets rfl (List.Subset.refl _)

theorem orphan (m : ObjectModel) (r : RuleId) : m.Upholds held (m.orphan r) := by
  have ho := m.orphans_orphan r
  exact .of_sheets (by rw [ho.eq]) (by rw [ho.eq]; exact List.Subset.refl _)

theorem of_adopts {x : Option SheetId} {ids : List RuleId} (ha : m.Adopts held x m' ids) :
    m.Upholds held m' := by
  obtain ⟨l, hl, -⟩ := ha.noted
  exact .of_sheets ha.sheets (hl ▸ List.subset_append_left _ _)

theorem free (h : m.Sound held) (hps : ∀ s ∈ held, .sheet s ∉ ps) : m.Upholds held (m.free ps) := by
  have hf := m.frees_free ps
  refine ⟨hf.sheetsGrow, hf.changes ▸ List.Subset.refl _, fun x _ hdead => ?_,
    fun x hx sheet hsheet => .inl ⟨sheet, ?_, rfl, rfl⟩⟩
  · refine Option.eq_none_iff_forall_ne_some.2 fun sheet hsheet => ?_
    simp [hf.sheet?_eq_some hsheet] at hdead
  · have hsame := hf.other (.sheet x) (h.not_reaches_held hx (hps x hx))
    exact Eq.trans hsame hsheet

theorem createSheet (h : m.Sound held) (hw : m.sheets.Unwrapped) (href : Option String)
    (media : String) (origin : Origin) : m.Upholds held (m.createSheet href media origin).1 where
  sheetsGrow := Slots.grows_insert _ _
  changes := List.Subset.refl _
  dead x hi hdead := by
    rw [h.sheet?_createSheet, if_neg, hdead]
    rintro rfl
    exact h.sheets.not_issued_fresh hw _ hi
  kept x _ sheet hsheet := by
    refine .inl ⟨sheet, ?_, rfl, rfl⟩
    rw [h.sheet?_createSheet, if_neg, hsheet]
    rintro rfl
    exact h.sheets.not_issued_fresh hw _ (Slots.issued_of_get? hsheet)

end Upholds

/-! ### Edits -/

theorem upholds_setOwner (s : SheetId) (node : Option NodeId) (title : Option String) :
    m.Upholds held ((ModelM.setOwner s node title).exec m).2 := by
  simp only [ModelM.setOwner, ModelM.exec_sheet_bind]
  cases m.sheet? s with
  | none => exact .refl m
  | some sheet => exact .modifySheet fun _ _ => ⟨rfl, rfl⟩

section Edits

variable (h : m.Sound held)
include h

theorem Sound.upholds_replaceRules (s : SheetId) (text : String) :
    m.Upholds held ((ModelM.replaceRules s text).exec m).2 := by
  cases hs : m.sheet? s with
  | none =>
    rw [ModelM.exec_replaceRules_of_none hs]
    exact .refl m
  | some sheet =>
    have hfreed : (m.withoutRules s sheet).Sound held :=
      (h.clear hs).free fun r hr p => h.not_owned_of_clear hs hr p
    have hwithout : m.Upholds held (m.withoutRules s sheet) := by
      refine Upholds.trans ?_ (.free (h.clear hs) fun _ _ => by simp [StyleSheet.owned])
      exact .modifySheet fun _ _ => ⟨rfl, rfl⟩
    have ha : (m.withoutRules s sheet).Adopts held (some s) _ _ :=
      adopts_adoptAll none (SheetSource.ofString text).rules hfreed
    have hadopted := hwithout.trans (.of_adopts ha)
    rw [ModelM.exec_replaceRules_of_some hs rfl]
    split
    · refine (hadopted.trans ?_).trans (.note _ _)
      exact .modifySheet fun _ _ => ⟨rfl, rfl⟩
    · exact hadopted

/-- A sheet that is removed may be one that is held. -/
theorem Sound.upholds_removeSheet (s : SheetId) :
    m.Upholds held ((ModelM.removeSheet s).exec m).2 := by
  simp only [ModelM.removeSheet, ModelM.exec_sheet_bind]
  cases hs : m.sheet? s with
  | none => exact .refl m
  | some sheet =>
    have hf := m.frees_free [.sheet s]
    have hdead : ∀ x, m.sheet? x = none → (m.free [.sheet s]).sheet? x = none := fun x hx => by
      refine Option.eq_none_iff_forall_ne_some.2 fun sheet hsheet => ?_
      simp [hf.sheet?_eq_some hsheet] at hx
    refine ⟨hf.sheetsGrow, ?_, fun x _ => hdead x, fun x hx sheet hsheet => ?_⟩
    · exact List.Subset.trans (hf.changes ▸ List.Subset.refl _) (List.subset_append_left _ _)
    · by_cases hxs : x = s
      · subst hxs
        have hgone := hf.dead (.sheet x) ⟨_, List.mem_singleton_self _, .refl⟩
        exact .inr ⟨Option.not_isSome_iff_eq_none.1 hgone, by simp [ObjectModel.note]⟩
      · have hsame := hf.other (.sheet x) (h.not_reaches_held hx (by simp [hxs]))
        exact .inl ⟨sheet, Eq.trans hsame hsheet, rfl, rfl⟩

theorem Sound.upholds_insertRule (c : RuleContainer) (text : String) (index : Nat) :
    m.Upholds held ((ModelM.insertRule c text index).exec m).2 := by
  rcases ModelM.exec_insertRule c text index with ⟨e, he⟩ | ⟨list, source, x, -, -, he⟩
  · rw [he]
    exact .refl m
  · have ha : m.Adopts held x _ _ := adopts_adoptAll c.rule? [source] h
    rw [he]
    exact ((Upholds.of_adopts ha).trans (.modifyRules _ _ c)).trans (.noteChanged _ x)

theorem Sound.upholds_deleteRule (c : RuleContainer) (index : Nat) :
    m.Upholds held ((ModelM.deleteRule c index).exec m).2 := by
  rcases ModelM.exec_deleteRule c index with ⟨e, he⟩ | ⟨list, x, r, hl, hx, -, he⟩
  · rw [he]
    exact .refl m
  · have h₁ : m.Upholds held (m.modifyRules (·.eraseIdx index) c) := .modifyRules m _ c
    rw [he]
    cases x with
    | none => exact h₁.trans (.free (h.eraseIdx hl hx index) (by simp))
    | some s =>
      simp only
      split
      · refine ((h₁.trans (.orphan _ r)).trans ?_).trans (.note _ _)
        exact .modifySheet fun _ _ => ⟨rfl, rfl⟩
      · exact h₁.trans (.orphan _ r)

theorem Sound.upholds_setRuleText (r : RuleId) (text : String) :
    m.Upholds held ((ModelM.setRuleText r text).exec m).2 := by
  rcases ModelM.exec_setRuleText text (m := m) (r := r) with
    ⟨e, he⟩ | ⟨rule, source, m₂, content, hr, -, hb, he⟩
  · rw [he]
    exact .refl m
  · have hemptied : m.Upholds held (m.emptied r rule) := by
      refine (Upholds.setContent m r .placeholder).trans
        (.free (h.placeholder hr) fun s hs hmem => ?_)
      exact h.heldFree s hs (.rule r) ((mem_ownedBy_rule hr).2 hmem)
    have hbuilt := hemptied.trans (.of_adopts (h.builds_emptied hr hb).adopts)
    rw [he]
    split
    · obtain ⟨l, hl, -⟩ := mem_noteImport (m₂.setContent r content) rule.content.type
        rule.parentSheet r
      refine ((hbuilt.trans (.setContent m₂ r content)).trans ?_).trans (.noteChanged _ _)
      exact .of_sheets sheets_noteImport (hl ▸ List.subset_append_left _ _)
    · exact hbuilt

/-- Edits leave the sheets alone that are held, unless they remove them. -/
theorem Sound.upholds_apply (e : Edit) (hw : (e.apply m).Unwrapped) :
    m.Upholds held (e.apply m) := by
  cases e with
  | createSheet href media origin =>
    exact .createSheet h (hw.of_evolves (.createSheet m href media origin)).sheets href media origin
  | setOwner s node title => exact upholds_setOwner s node title
  | setDisabled s disabled =>
    simp only [Edit.apply, ModelM.setDisabled, ModelM.exec_sheet_bind]
    cases m.sheet? s with
    | none => exact .refl m
    | some sheet =>
      simp only
      split
      · rw [ModelM.exec_modify_bind, ModelM.exec_noteChanged]
        refine Upholds.trans ?_ (.noteChanged _ (some s))
        exact .modifySheet fun _ _ => ⟨rfl, rfl⟩
      · exact .refl m
  | replaceRules s text => exact h.upholds_replaceRules s text
  | removeSheet s => exact h.upholds_removeSheet s
  | insertRule c text index => exact h.upholds_insertRule c text index
  | deleteRule c index => exact h.upholds_deleteRule c index
  | setRuleText r text => exact h.upholds_setRuleText r text
  | setSelectorText r text =>
    rcases ModelM.exec_setSelectorText text (m := m) (r := r) with
      he | ⟨rule, selectors, block, new, -, -, he⟩
    · rw [Edit.apply, he]
      exact .refl m
    · rw [Edit.apply, he]
      exact (Upholds.setContent m r _).trans (.noteChanged _ _)
  | updateBlock r f =>
    rcases ModelM.exec_updateBlock (fun b => (f b, ())) (m := m) (r := r) with
      he | ⟨rule, block, -, he⟩
    · rw [Edit.apply, he]
      exact .refl m
    · rw [Edit.apply, he]
      exact (Upholds.setContent m r _).trans (.noteChanged _ _)
  | updateMedia o f =>
    rcases ModelM.exec_updateMedia o (fun l => (f l, ())) (m := m) with
      he | ⟨s, l, -, he⟩ | ⟨r, rule, l, -, -, he⟩
    · rw [Edit.apply, he]
      exact .refl m
    · rw [Edit.apply, he]
      refine Upholds.trans ?_ (.note _ _)
      exact .modifySheet fun _ _ => ⟨rfl, rfl⟩
    · rw [Edit.apply, he]
      exact (Upholds.setContent m r _).trans (.noteChanged _ _)

/-! ### Imports -/

/-- An import is given a sheet that is not held, and its old sheet is not held either. -/
theorem Sound.upholds_attachImport (hs : m.IsSpare held s) (r : RuleId) :
    m.Upholds held ((ModelM.attachImport r s).exec m).2 := by
  rcases ModelM.exec_attachImport (m := m) (r := r) (s := s) with
    ⟨e, he⟩ | ⟨sheet, rule, href, l, old, m₂, -, hr, hc, hm₂, he⟩
  · rw [he]
    exact .refl m
  · have h₂ : m.Upholds held m₂ := by
      rw [← hm₂]
      refine (Upholds.setContent m r _).trans
        (.free (hs.sound_setContent h hr href l) fun x hx hmem => ?_)
      simp only [List.mem_map, Option.mem_toList, Option.filter_eq_some_iff] at hmem
      obtain ⟨y, ⟨rfl, -⟩, heq⟩ := hmem
      obtain rfl := ModelPart.sheet.inj heq
      exact h.heldFree y hx (.rule r) ((mem_ownedBy_rule hr).2 (by simp [hc, RuleContent.owned]))
    rw [he]
    split
    · refine (h₂.trans ?_).trans (.noteChanged _ _)
      exact .modifySheet fun hheld => absurd hheld hs.notHeld
    · exact h₂

end Edits

/-- An import is given a new sheet that nobody else has. -/
theorem IsSpare.upholds_fill (hs : m.IsSpare held s) (h : m.Sound (s :: held)) (text : String)
    (r : RuleId) : m.Upholds held ((do
      ModelM.replaceRules s text
      ModelM.attachImport r s : ModelM Unit).exec m).2 := by
  have hheld := h.held_subset (List.subset_cons_self s held)
  have hreplaced := hheld.upholds_replaceRules s text
  have h' := (h.edits_replaceRules s text).sound
  rw [ModelM.exec_bind]
  cases hrun : (ModelM.replaceRules s text).exec m with
  | mk x m' =>
    rw [hrun] at hreplaced h'
    cases x with
    | error e => exact hreplaced
    | ok u =>
      simp only at hreplaced h' ⊢
      by_cases hlive : (m'.sheet? s).isSome
      · have hspare : m'.IsSpare held s :=
          ⟨hlive, hs.notHeld, h'.heldFree s List.mem_cons_self⟩
        exact hreplaced.trans
          ((h'.held_subset (List.subset_cons_self s held)).upholds_attachImport hspare r)
      · rw [Option.not_isSome_iff_eq_none] at hlive
        rw [ModelM.attachImport, ModelM.exec_sheet_bind, hlive]
        exact hreplaced

end WebStyle.ObjectModel
