import WebStyle.Proofs.ObjectModel.Edit
/-!
What becomes of imports. An import that waits for its sheet goes on waiting until it is given one or
is gone, and a sheet stays with its import, as long as nobody gives sheets to imports.
-/
set_option autoImplicit false

namespace WebStyle

/-- Whether a rule is an import that has no sheet. -/
def Rule.IsOpen (rule : Rule) : Prop := ∃ href l, rule.content = .importing href l none

namespace ObjectModel

variable {m m' m'' : ObjectModel} {held : List SheetId} {s : SheetId} {r : RuleId} {rule : Rule}

/-- Whether a rule may be waiting for its sheet: it was there once, and is an open import if it
still is there. -/
def MayOpen (m : ObjectModel) (r : RuleId) : Prop :=
  m.rules.Issued r ∧ ∀ rule, m.rule? r = some rule → rule.IsOpen

/-- How imports and their sheets may change, other than by an import being given a sheet. -/
structure Rewires (m m' : ObjectModel) : Prop where
  sheetsGrow : m.sheets.Grows m'.sheets
  rulesGrow : m.rules.Grows m'.rules
  attached : ∀ r rule' s, m'.rule? r = some rule' → .sheet s ∈ rule'.content.owned →
    ∃ rule, m.rule? r = some rule ∧ .sheet s ∈ rule.content.owned ∧
      (rule'.parentSheet = rule.parentSheet ∨ rule'.parentSheet = none)
  parent : ∀ s sheet', m'.sheet? s = some sheet' →
    (∃ sheet, m.sheet? s = some sheet ∧ sheet'.parentSheet = sheet.parentSheet) ∨
      ¬ m.sheets.Issued s ∧ sheet'.parentSheet = none
  mayOpen : ∀ r, m.MayOpen r → m'.MayOpen r
  announced : ∀ s r, .imported s r ∈ m'.changes → .imported s r ∈ m.changes ∨ m'.MayOpen r

namespace Rewires

theorem refl (m : ObjectModel) : m.Rewires m :=
  ⟨.refl _, .refl _, fun _ rule' _ h hs => ⟨rule', h, hs, .inl rfl⟩,
    fun _ sheet' h => .inl ⟨sheet', h, rfl⟩, fun _ h => h, fun _ _ h => .inl h⟩

theorem trans (h : m.Rewires m') (h' : m'.Rewires m'') : m.Rewires m'' where
  sheetsGrow := h.sheetsGrow.trans h'.sheetsGrow
  rulesGrow := h.rulesGrow.trans h'.rulesGrow
  attached r rule'' s hr hs := by
    obtain ⟨rule', hr', hs', hp'⟩ := h'.attached r rule'' s hr hs
    obtain ⟨rule, hr, hs, hp⟩ := h.attached r rule' s hr' hs'
    refine ⟨rule, hr, hs, ?_⟩
    rcases hp' with hp' | hp'
    · rwa [hp']
    · exact .inr hp'
  parent s sheet'' hs := by
    rcases h'.parent s sheet'' hs with ⟨sheet', hs', hp'⟩ | ⟨hfresh, hp'⟩
    · rcases h.parent s sheet' hs' with ⟨sheet, hs, hp⟩ | ⟨hfresh, hp⟩
      · exact .inl ⟨sheet, hs, hp'.trans hp⟩
      · exact .inr ⟨hfresh, hp'.trans hp⟩
    · exact .inr ⟨fun hi => hfresh (h.sheetsGrow.issued s hi), hp'⟩
  mayOpen r hr := h'.mayOpen r (h.mayOpen r hr)
  announced s r hc := by
    rcases h'.announced s r hc with hc | hr
    · rcases h.announced s r hc with hc | hr
      · exact .inl hc
      · exact .inr (h'.mayOpen r hr)
    · exact .inr hr

/-- What is only lost. -/
theorem of_kept (hsheets : m.sheets.Grows m'.sheets) (hrules : m.rules.Grows m'.rules)
    (hch : m'.changes = m.changes)
    (hs : ∀ s sheet', m'.sheet? s = some sheet' →
      ∃ sheet, m.sheet? s = some sheet ∧ sheet'.parentSheet = sheet.parentSheet)
    (hr : ∀ r rule', m'.rule? r = some rule' → ∃ rule, m.rule? r = some rule ∧
      (∀ s, .sheet s ∈ rule'.content.owned → .sheet s ∈ rule.content.owned) ∧
      (rule'.parentSheet = rule.parentSheet ∨ rule'.parentSheet = none) ∧
      (rule.IsOpen → rule'.IsOpen)) : m.Rewires m' where
  sheetsGrow := hsheets
  rulesGrow := hrules
  attached r rule' s h hmem := by
    obtain ⟨rule, hrule, howned, hp, -⟩ := hr r rule' h
    exact ⟨rule, hrule, howned s hmem, hp⟩
  parent s sheet' h := .inl (hs s sheet' h)
  mayOpen r h := by
    refine ⟨hrules.issued r h.1, fun rule' h' => ?_⟩
    obtain ⟨rule, hrule, -, -, hopen⟩ := hr r rule' h'
    exact hopen (h.2 rule hrule)
  announced s r h := .inl (hch ▸ h)

theorem free (m : ObjectModel) (ps : List ModelPart) : m.Rewires (m.free ps) := by
  have hf := m.frees_free ps
  exact .of_kept hf.sheetsGrow hf.rulesGrow hf.changes
    (fun s sheet' h => ⟨sheet', hf.sheet?_eq_some h, rfl⟩)
    fun r rule' h => ⟨rule', hf.rule?_eq_some h, fun _ hs => hs, .inl rfl, id⟩

theorem modifySheet {f : StyleSheet → StyleSheet}
    (hf : ∀ sheet, (f sheet).parentSheet = sheet.parentSheet) :
    m.Rewires (m.modifySheet s f) := by
  refine .of_kept (Slots.grows_modify _ _ _) (.refl _) rfl (fun x sheet' h => ?_)
    fun r rule' h => ⟨rule', h, fun _ hs => hs, .inl rfl, id⟩
  obtain ⟨sheet, hsheet, rfl⟩ := exists_sheet_of_modifySheet h
  refine ⟨sheet, hsheet, ?_⟩
  split
  · exact hf sheet
  · rfl

theorem modifyRule {f : Rule → Rule}
    (hf : ∀ rule, m.rule? r = some rule →
      (∀ s, .sheet s ∈ (f rule).content.owned → .sheet s ∈ rule.content.owned) ∧
      ((f rule).parentSheet = rule.parentSheet ∨ (f rule).parentSheet = none) ∧
      (rule.IsOpen → (f rule).IsOpen)) : m.Rewires (m.modifyRule r f) := by
  refine .of_kept (.refl _) (Slots.grows_modify _ _ _) rfl (fun s sheet' h => ⟨sheet', h, rfl⟩)
    fun x rule' h => ?_
  obtain ⟨rule, hrule, rfl⟩ := exists_rule_of_modifyRule h
  refine ⟨rule, hrule, ?_⟩
  split
  · rename_i hx
    subst hx
    exact hf rule hrule
  · exact ⟨fun _ hs => hs, .inl rfl, id⟩

theorem setContent (hr : m.rule? r = some rule) {c : RuleContent}
    (hs : ∀ s, .sheet s ∈ c.owned → .sheet s ∈ rule.content.owned)
    (ho : rule.IsOpen → ∃ href l, c = .importing href l none) :
    m.Rewires (m.setContent r c) := by
  refine .modifyRule fun rule' h => ?_
  obtain rfl := Option.some.inj (hr.symm.trans h)
  exact ⟨hs, .inl rfl, ho⟩

theorem orphan (m : ObjectModel) (r : RuleId) : m.Rewires (m.orphan r) := by
  have ho := m.orphans_orphan r
  have he := Evolves.orphan m r
  refine .of_kept he.sheetsGrow he.rulesGrow (by rw [ho.eq])
    (fun s sheet' h => ⟨sheet', by rwa [← ho.sheet?_eq], rfl⟩) fun x rule' h => ?_
  obtain ⟨rule, hrule, hc, -, hp⟩ := ho.rule x rule' h
  refine ⟨rule, hrule, fun s hs => hc ▸ hs, ?_, ?_⟩
  · rw [hp]
    split
    · exact .inr rfl
    · exact .inl rfl
  · rintro ⟨href, l, hopen⟩
    exact ⟨href, l, hc.trans hopen⟩

theorem modifyRules (m : ObjectModel) (f : List RuleId → List RuleId) (c : RuleContainer) :
    m.Rewires (m.modifyRules f c) := by
  cases c with
  | sheet s => exact .modifySheet fun _ => rfl
  | media r =>
    refine .modifyRule fun rule _ => ⟨fun s hs => ?_, .inl rfl, ?_⟩
    · cases hc : rule.content <;> simp_all [RuleContent.withChildren, RuleContent.owned]
    · rintro ⟨href, l, hopen⟩
      exact ⟨href, l, by simp [hopen, RuleContent.withChildren]⟩

/-- A change that is noted, unless it is about an import that cannot be waiting. -/
theorem note {c : Change} (hc : ∀ s r, c = .imported s r → m.MayOpen r) :
    m.Rewires (m.note c) where
  sheetsGrow := .refl _
  rulesGrow := .refl _
  attached _ rule' _ h hs := ⟨rule', h, hs, .inl rfl⟩
  parent _ sheet' h := .inl ⟨sheet', h, rfl⟩
  mayOpen _ h := h
  announced s r h := by
    rcases List.mem_append.1 h with h | h
    · exact .inl h
    · exact .inr (hc s r (List.mem_singleton.1 h).symm)

theorem noteChanged (m : ObjectModel) (x : Option SheetId) : m.Rewires (m.noteChanged x) := by
  cases x with
  | none => exact .refl m
  | some s => exact .note (by rintro _ _ ⟨⟩)

theorem createSheet (h : m.Sound held) (hw : m.sheets.Unwrapped) (href : Option String)
    (media : String) (origin : Origin) : m.Rewires (m.createSheet href media origin).1 where
  sheetsGrow := Slots.grows_insert _ _
  rulesGrow := .refl _
  attached _ rule' _ h hs := ⟨rule', h, hs, .inl rfl⟩
  parent s sheet' hs := by
    rw [h.sheet?_createSheet] at hs
    split at hs
    · rename_i hx
      subst hx
      obtain rfl := Option.some.inj hs
      exact .inr ⟨h.sheets.not_issued_fresh hw _, rfl⟩
    · exact .inl ⟨sheet', hs, rfl⟩
  mayOpen _ h := h
  announced _ _ h := .inl h

end Rewires

theorem isOpen_of_type (ht : rule.content.type = .importing)
    (hs : ∀ s, .sheet s ∉ rule.content.owned) : rule.IsOpen := by
  cases hc : rule.content with
  | importing href l x =>
    cases x with
    | none => exact ⟨href, l, hc⟩
    | some s =>
      refine absurd ?_ (hs s)
      simp [hc, RuleContent.owned]
  | _ => simp [hc, RuleContent.type] at ht

/-- A rule that was there once is not among the new ones. -/
theorem Adopts.rule?_of_issued {sheet : Option SheetId} {ids : List RuleId}
    (ha : m.Adopts held sheet m' ids) (hi : m.rules.Issued r) (hr : m'.rule? r = some rule)
    (hw : m'.rules.Unwrapped) : m.rule? r = some rule := by
  cases hm : m.rule? r with
  | none => exact absurd hi (ha.unissued r rule hr hm hw)
  | some y => rw [← ha.kept r y hm, hr]

theorem Adopts.rewires {sheet : Option SheetId} {ids : List RuleId}
    (ha : m.Adopts held sheet m' ids) (hw : m'.rules.Unwrapped) : m.Rewires m' where
  sheetsGrow := ha.evolves.sheetsGrow
  rulesGrow := ha.rulesGrow
  attached r rule' s hr hs := by
    cases hm : m.rule? r with
    | none => exact absurd hs ((ha.new r rule' hr hm).2 s)
    | some rule =>
      obtain rfl := Option.some.inj ((ha.kept r rule hm).symm.trans hr)
      exact ⟨rule, rfl, hs, .inl rfl⟩
  parent s sheet' hs := .inl ⟨sheet', by rwa [← ha.sheet?_eq], rfl⟩
  mayOpen r h := by
    exact ⟨ha.rulesGrow.issued r h.1, fun rule' hr => h.2 rule' (ha.rule?_of_issued h.1 hr hw)⟩
  announced s r hc := by
    obtain ⟨l, hl, hmem⟩ := ha.noted
    rw [hl, List.mem_append, hmem] at hc
    rcases hc with hc | ⟨s', x, y, -, heq, hx, hy, ht⟩
    · exact .inl hc
    · obtain ⟨-, rfl⟩ := Change.imported.inj heq
      refine .inr ⟨Slots.issued_of_get? hy, fun rule hr => ?_⟩
      obtain rfl := Option.some.inj (hy.symm.trans hr)
      exact isOpen_of_type ht (ha.new r y hy hx).2

/-- A rule that is replaced stays an import if it was one, although it has no content meanwhile. -/
theorem Builds.rewires {m₃ : ObjectModel} {source : RuleSource} {content : RuleContent}
    (hb : (m.emptied r rule).Builds held rule.parentSheet source m' content)
    (hr : m.rule? r = some rule) (hw : m'.rules.Unwrapped) (hsheets : m₃.sheets = m'.sheets)
    (hgrows : m'.rules.Grows m₃.rules) (hother : ∀ x, x ≠ r → m₃.rule? x = m'.rule? x)
    (hself : ∀ y, m₃.rule? r = some y →
      (∀ s, .sheet s ∉ y.content.owned) ∧ (rule.IsOpen → y.IsOpen))
    (hch : ∀ s x, .imported s x ∈ m₃.changes → .imported s x ∈ m'.changes ∨ m₃.MayOpen x) :
    m.Rewires m₃ := by
  have ha := hb.adopts
  have hf := (m.setContent r .placeholder).frees_free rule.content.owned
  have he := Evolves.emptied m r rule
  have hback : ∀ {x y}, x ≠ r → (m.emptied r rule).rule? x = some y → m.rule? x = some y := by
    intro x y hx hy
    have := hf.rule?_eq_some hy
    rwa [rule?_setContent, if_neg (Ne.symm hx)] at this
  refine ⟨?_, ?_, fun x y s hy hs => ?_, fun s sheet' hs => .inl ⟨sheet', ?_, rfl⟩, fun x hx => ?_,
    fun s x hc => ?_⟩
  · rw [hsheets]
    exact he.sheetsGrow.trans ha.evolves.sheetsGrow
  · exact (he.rulesGrow.trans ha.rulesGrow).trans hgrows
  · by_cases hxr : x = r
    · subst hxr
      exact absurd hs ((hself y hy).1 s)
    · rw [hother x hxr] at hy
      cases hx : (m.emptied r rule).rule? x with
      | none => exact absurd hs ((ha.new x y hy hx).2 s)
      | some y₁ =>
        obtain rfl := Option.some.inj ((ha.kept x y₁ hx).symm.trans hy)
        exact ⟨y₁, hback hxr hx, hs, .inl rfl⟩
  · rw [sheet?, hsheets, ← sheet?, ha.sheet?_eq] at hs
    exact hf.sheet?_eq_some hs
  · refine ⟨hgrows.issued x (ha.rulesGrow.issued x (he.rulesGrow.issued x hx.1)), fun y hy => ?_⟩
    by_cases hxr : x = r
    · subst hxr
      exact (hself y hy).2 (hx.2 rule hr)
    · rw [hother x hxr] at hy
      exact hx.2 y (hback hxr (ha.rule?_of_issued (he.rulesGrow.issued x hx.1) hy hw))
  · rcases hch s x hc with hc | hc
    · obtain ⟨l, hl, hmem⟩ := ha.noted
      rw [hl, List.mem_append, hmem] at hc
      rcases hc with hc | ⟨s', x', y, -, heq, hx, hy, ht⟩
      · exact .inl (hf.changes ▸ hc)
      · obtain ⟨-, rfl⟩ := Change.imported.inj heq
        have hxr : x ≠ r := by
          rintro rfl
          exact ha.unissued x y hy hx hw (he.rulesGrow.issued x (Slots.issued_of_get? hr))
        refine .inr ⟨hgrows.issued x (Slots.issued_of_get? hy), fun y' hy' => ?_⟩
        rw [hother x hxr] at hy'
        obtain rfl := Option.some.inj (hy.symm.trans hy')
        exact isOpen_of_type ht (ha.new x y hy hx).2
    · exact .inr hc

/-! ### Edits -/

/-- A sheet that was removed is gone. -/
theorem sheet?_removeSheet {u : Unit} (h : (ModelM.removeSheet s).exec m = (.ok u, m')) :
    m'.sheet? s = none := by
  rw [ModelM.removeSheet, ModelM.exec_sheet_bind] at h
  cases hs : m.sheet? s with
  | none => simp [hs] at h
  | some sheet =>
    rw [hs, ModelM.exec_modify] at h
    obtain ⟨-, rfl⟩ := Prod.mk.inj h
    have hdead := (m.frees_free [.sheet s]).dead (.sheet s) ⟨_, List.mem_singleton_self _, .refl⟩
    exact Option.not_isSome_iff_eq_none.1 hdead

theorem rewires_removeSheet (s : SheetId) : m.Rewires ((ModelM.removeSheet s).exec m).2 := by
  simp only [ModelM.removeSheet, ModelM.exec_sheet_bind]
  cases m.sheet? s with
  | none => exact .refl m
  | some sheet => exact (Rewires.free m _).trans (.note (by rintro _ _ ⟨⟩))

theorem rewires_setOwner (s : SheetId) (node : Option NodeId) (title : Option String) :
    m.Rewires ((ModelM.setOwner s node title).exec m).2 := by
  simp only [ModelM.setOwner, ModelM.exec_sheet_bind]
  cases m.sheet? s with
  | none => exact .refl m
  | some sheet => exact .modifySheet fun _ => rfl

theorem rewires_setDisabled (s : SheetId) (disabled : Bool) :
    m.Rewires ((ModelM.setDisabled s disabled).exec m).2 := by
  simp only [ModelM.setDisabled, ModelM.exec_sheet_bind]
  cases m.sheet? s with
  | none => exact .refl m
  | some sheet =>
    simp only
    split
    · rw [ModelM.exec_modify_bind, ModelM.exec_noteChanged]
      refine Rewires.trans ?_ (.noteChanged _ (some s))
      exact .modifySheet fun _ => rfl
    · exact .refl m

/-- Content that is changed within a rule. -/
theorem Rewires.setContent_noteChanged (hr : m.rule? r = some rule) {c : RuleContent}
    (hs : c.owned = rule.content.owned)
    (ho : rule.IsOpen → ∃ href l, c = .importing href l none) :
    m.Rewires ((m.setContent r c).noteChanged rule.parentSheet) :=
  (Rewires.setContent hr (fun _ hmem => hs ▸ hmem) ho).trans (.noteChanged _ _)

theorem rewires_deleteRule (c : RuleContainer) (index : Nat) :
    m.Rewires ((ModelM.deleteRule c index).exec m).2 := by
  rcases ModelM.exec_deleteRule c index with ⟨e, he⟩ | ⟨list, x, r, -, -, -, he⟩
  · rw [he]
    exact .refl m
  · have h₁ := Rewires.modifyRules m (·.eraseIdx index) c
    rw [he]
    cases x with
    | none => exact h₁.trans (.free _ _)
    | some s =>
      simp only
      split
      · refine ((h₁.trans (.orphan _ r)).trans ?_).trans (.note (by rintro _ _ ⟨⟩))
        exact .modifySheet fun _ => rfl
      · exact h₁.trans (.orphan _ r)

section Edits

variable (h : m.Sound held)
include h

theorem Sound.rewires_replaceRules (s : SheetId) (text : String)
    (hw : ((ModelM.replaceRules s text).exec m).2.Unwrapped) :
    m.Rewires ((ModelM.replaceRules s text).exec m).2 := by
  cases hs : m.sheet? s with
  | none =>
    rw [ModelM.exec_replaceRules_of_none hs]
    exact .refl m
  | some sheet =>
    have hfreed : (m.withoutRules s sheet).Sound held :=
      (h.clear hs).free fun r hr p => h.not_owned_of_clear hs hr p
    have hwithout : m.Rewires (m.withoutRules s sheet) := by
      refine Rewires.trans ?_ (.free _ sheet.owned)
      exact .modifySheet fun _ => rfl
    have ha : (m.withoutRules s sheet).Adopts held (some s) _ _ :=
      adopts_adoptAll none (SheetSource.ofString text).rules hfreed
    rw [ModelM.exec_replaceRules_of_some hs rfl] at hw ⊢
    generalize (m.withoutRules s sheet).adoptAll (some s) none (SheetSource.ofString text).rules =
      result at *
    obtain ⟨m₂, ids⟩ := result
    simp only at ha hw ⊢
    split at hw
    · rename_i hlive
      rw [if_pos hlive]
      have hw₂ := (hw.of_evolves (.note _ _)).of_evolves (.modifySheet m₂ s _)
      refine ((hwithout.trans (ha.rewires hw₂.rules)).trans ?_).trans (.note (by rintro _ _ ⟨⟩))
      exact .modifySheet fun _ => rfl
    · rename_i hdead
      rw [if_neg hdead]
      exact hwithout.trans (ha.rewires hw.rules)

theorem Sound.rewires_insertRule (c : RuleContainer) (text : String) (index : Nat)
    (hw : ((ModelM.insertRule c text index).exec m).2.Unwrapped) :
    m.Rewires ((ModelM.insertRule c text index).exec m).2 := by
  rcases ModelM.exec_insertRule c text index with ⟨e, he⟩ | ⟨list, source, x, -, -, he⟩
  · rw [he]
    exact .refl m
  · have ha : m.Adopts held x _ _ := adopts_adoptAll c.rule? [source] h
    rw [he] at hw ⊢
    have hw₁ := (hw.of_evolves (.noteChanged _ x)).of_evolves (.modifyRules _ _ c)
    exact ((ha.rewires hw₁.rules).trans (.modifyRules _ _ c)).trans (.noteChanged _ x)

/-- A rule that is replaced stays an import if it was one, although it has no content meanwhile. -/
theorem Sound.rewires_setRuleText (r : RuleId) (text : String)
    (hw : ((ModelM.setRuleText r text).exec m).2.Unwrapped) :
    m.Rewires ((ModelM.setRuleText r text).exec m).2 := by
  rcases ModelM.exec_setRuleText text (m := m) (r := r) with
    ⟨e, he⟩ | ⟨rule, source, m₂, content, hr, ⟨-, ht⟩, hb, he⟩
  · rw [he]
    exact .refl m
  · have hbuilds := h.builds_emptied hr hb
    have hnone : ∀ s, .sheet s ∉ content.owned := by simp [hbuilds.owned]
    rw [he] at hw ⊢
    split at hw
    · rename_i hlive
      rw [if_pos hlive]
      have hw₂ := (((hw.of_evolves (.noteChanged _ _)).of_evolves
        (.noteImport _ _ _ _)).of_evolves (.modifyRule m₂ r _)).rules
      have hself : ∀ y, ((m₂.setContent r content).noteImport rule.content.type rule.parentSheet
          r).rule? r = some y → y.content = content := by
        intro y hy
        rw [rule?_noteImport, rule?_setContent, if_pos rfl] at hy
        obtain ⟨y₀, -, rfl⟩ := Option.map_eq_some_iff.1 hy
        rfl
      have hgrows : m₂.rules.Grows ((m₂.setContent r content).noteImport rule.content.type
          rule.parentSheet r).rules := by
        rw [rules_noteImport]
        exact Slots.grows_modify _ _ _
      have htype : content.type = rule.content.type := hbuilds.type.trans ht
      refine Rewires.trans ?_ (.noteChanged _ rule.parentSheet)
      refine hbuilds.rewires hr hw₂ sheets_noteImport hgrows (fun x hx => ?_) (fun y hy => ?_)
        fun s x hc => ?_
      · rw [rule?_noteImport, rule?_setContent, if_neg (Ne.symm hx)]
      · have hy' := hself y hy
        refine ⟨fun s => hy' ▸ hnone s, fun ⟨href, l, ho⟩ => isOpen_of_type ?_ fun s => ?_⟩
        · rw [hy', htype, ho]
          rfl
        · rw [hy']
          exact hnone s
      · obtain ⟨l, hl, hmem⟩ := mem_noteImport (m₂.setContent r content) rule.content.type
          rule.parentSheet r
        rw [hl, List.mem_append, hmem] at hc
        rcases hc with hc | ⟨s', -, heq, himport⟩
        · exact .inl hc
        · obtain ⟨-, rfl⟩ := Change.imported.inj heq
          have hissued := ((Evolves.emptied m x rule).rulesGrow.trans
            hbuilds.adopts.rulesGrow).issued x (Slots.issued_of_get? hr)
          refine .inr ⟨hgrows.issued x hissued, fun y hy => isOpen_of_type ?_ fun s => ?_⟩
          · rw [hself y hy, htype, himport]
          · rw [hself y hy]
            exact hnone s
    · rename_i hdead
      rw [if_neg hdead]
      refine hbuilds.rewires hr hw.rules rfl (.refl _) (fun _ _ => rfl) (fun y hy => ?_)
        fun s x hc => .inl hc
      simp [hy] at hdead

/-- Every edit leaves imports and their sheets together. -/
theorem Sound.rewires_apply (e : Edit) (hw : (e.apply m).Unwrapped) : m.Rewires (e.apply m) := by
  cases e with
  | createSheet href media origin =>
    exact .createSheet h (hw.of_evolves (.createSheet m href media origin)).sheets href media origin
  | setOwner s node title => exact rewires_setOwner s node title
  | setDisabled s disabled => exact rewires_setDisabled s disabled
  | replaceRules s text => exact h.rewires_replaceRules s text hw
  | removeSheet s => exact rewires_removeSheet s
  | insertRule c text index => exact h.rewires_insertRule c text index hw
  | deleteRule c index => exact rewires_deleteRule c index
  | setRuleText r text => exact h.rewires_setRuleText r text hw
  | setSelectorText r text =>
    rcases ModelM.exec_setSelectorText text (m := m) (r := r) with
      he | ⟨rule, selectors, block, new, hr, hc, he⟩
    · rw [Edit.apply, he]
      exact .refl m
    · rw [Edit.apply, he]
      refine .setContent_noteChanged hr (by rw [hc]; rfl) fun ⟨href, l, ho⟩ => ?_
      simp [hc] at ho
  | updateBlock r f =>
    rcases ModelM.exec_updateBlock (fun b => (f b, ())) (m := m) (r := r) with
      he | ⟨rule, block, hr, he⟩
    · rw [Edit.apply, he]
      exact .refl m
    · rw [Edit.apply, he]
      refine .setContent_noteChanged hr (owned_withBlock _ _) fun ⟨href, l, ho⟩ => ⟨href, l, ?_⟩
      rw [ho, RuleContent.withBlock]
      all_goals simp
  | updateMedia o f =>
    rcases ModelM.exec_updateMedia o (fun l => (f l, ())) (m := m) with
      he | ⟨s, l, -, he⟩ | ⟨r, rule, l, -, hr, he⟩
    · rw [Edit.apply, he]
      exact .refl m
    · rw [Edit.apply, he]
      refine Rewires.trans ?_ (.note (by rintro _ _ ⟨⟩))
      exact .modifySheet fun _ => rfl
    · rw [Edit.apply, he]
      refine .setContent_noteChanged hr (owned_withMedia _ _) fun ⟨href, l', ho⟩ => ⟨href, l, ?_⟩
      rw [ho, RuleContent.withMedia]

end Edits

end ObjectModel
end WebStyle
