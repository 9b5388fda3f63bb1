import WebStyle.Proofs.ObjectModel.Imports
import WebStyle.Proofs.ObjectModel.Settling
/-!
What sheets and rules keep for as long as they live. A sheet keeps its address. A rule keeps its
sheet until it is deleted, and the reference of an import that belongs to a sheet is only written
anew together with a note.
-/
set_option autoImplicit false

namespace WebStyle

/-- What an import refers to, as written. -/
def RuleContent.href? : RuleContent → Option String
  | .importing href _ _ => some href
  | _ => none

theorem RuleContent.href?_withChildren (f : List RuleId → List RuleId) (c : RuleContent) :
    (c.withChildren f).href? = c.href? := by
  cases c <;> rfl

theorem RuleContent.href?_withBlock (block : DeclarationBlock) (c : RuleContent) :
    (c.withBlock block).href? = c.href? := by
  cases c <;> rfl

theorem RuleContent.href?_withMedia (l : MediaList) (c : RuleContent) :
    (c.withMedia l).href? = c.href? := by
  cases c <;> rfl

namespace ObjectModel

variable {m m' m'' : ObjectModel} {held : List SheetId} {s : SheetId} {r : RuleId} {rule : Rule}

theorem importHref_eq_ok {href : String} (hr : m.rule? r = some rule) :
    m.importHref r = .ok href ↔ rule.content.href? = some href := by
  simp only [importHref, ObjectModel.rule, live, hr, bind, Except.bind]
  cases rule.content <;> simp [RuleContent.href?, pure, Except.pure, throw, throwThe,
    MonadExceptOf.throw]

/-- Whether a rule belongs to the given sheet, unless it belongs to none or is gone. -/
def MayBelong (m : ObjectModel) (r : RuleId) (s : SheetId) : Prop :=
  ∀ rule, m.rule? r = some rule → rule.parentSheet = none ∨ rule.parentSheet = some s

/-- How sheets, rules and what is noted of them may change, other than by an import being given a
sheet. -/
structure Inherits (m m' : ObjectModel) : Prop extends m.Rewires m' where
  changes : m.changes ⊆ m'.changes
  address : ∀ s sheet sheet', m.sheet? s = some sheet → m'.sheet? s = some sheet' →
    sheet'.href = sheet.href
  rule : ∀ r rule', m'.rule? r = some rule' → m.rules.Issued r →
    ∃ rule, m.rule? r = some rule ∧ (rule'.parentSheet = none ∨
      rule'.parentSheet = rule.parentSheet ∧
        (rule'.content.href? = rule.content.href? ∨ ∃ s, .imported s r ∈ m'.changes))
  noted : ∀ s r, .imported s r ∈ m'.changes → .imported s r ∈ m.changes ∨ m'.MayBelong r s

namespace Inherits

theorem refl (m : ObjectModel) : m.Inherits m where
  toRewires := .refl m
  changes := List.Subset.refl _
  address s sheet sheet' hs hs' := by rw [Option.some.inj (hs.symm.trans hs')]
  rule r rule' hr _ := ⟨rule', hr, .inr ⟨rfl, .inl rfl⟩⟩
  noted _ _ h := .inl h

theorem mayBelong (h : m.Inherits m') (hi : m.rules.Issued r) (hb : m.MayBelong r s) :
    m'.MayBelong r s := by
  intro rule' hr'
  obtain ⟨rule, hr, hp⟩ := h.rule r rule' hr' hi
  rcases hp with hp | ⟨hp, -⟩
  · exact .inl hp
  · rw [hp]
    exact hb rule hr

theorem trans (h : m.Inherits m') (h' : m'.Inherits m'') : m.Inherits m'' where
  toRewires := h.toRewires.trans h'.toRewires
  changes := List.Subset.trans h.changes h'.changes
  address s sheet sheet'' hs hs'' := by
    rcases h'.parent s sheet'' hs'' with ⟨sheet', hs', -⟩ | ⟨hfresh, -⟩
    · rw [h'.address s sheet' sheet'' hs' hs'', h.address s sheet sheet' hs hs']
    · exact absurd (h.sheetsGrow.issued s (Slots.issued_of_get? hs)) hfresh
  rule r rule'' hr'' hi := by
    obtain ⟨rule', hr', hp'⟩ := h'.rule r rule'' hr'' (h.rulesGrow.issued r hi)
    obtain ⟨rule, hr, hp⟩ := h.rule r rule' hr' hi
    refine ⟨rule, hr, ?_⟩
    rcases hp' with hp' | ⟨hp', hhref'⟩
    · exact .inl hp'
    · rcases hp with hp | ⟨hp, hhref⟩
      · exact .inl (hp'.trans hp)
      · refine .inr ⟨hp'.trans hp, ?_⟩
        rcases hhref' with hhref' | hnoted
        · rw [hhref']
          exact hhref.imp id fun ⟨s, hs⟩ => ⟨s, h'.changes hs⟩
        · exact .inr hnoted
  noted s r hc := by
    rcases h'.noted s r hc with hc | hb
    · rcases h.announced s r hc with hc | hopen
      · exact .inl hc
      · exact (h.noted s r hc).imp id fun hb => h'.mayBelong hopen.1 hb
    · exact .inr hb

/-- What is only lost. -/
theorem of_kept (h : m.Rewires m') (hch : m'.changes = m.changes)
    (hs : ∀ s sheet sheet', m.sheet? s = some sheet → m'.sheet? s = some sheet' →
      sheet'.href = sheet.href)
    (hr : ∀ r rule', m'.rule? r = some rule' → ∃ rule, m.rule? r = some rule ∧
      (rule'.parentSheet = none ∨ rule'.parentSheet = rule.parentSheet) ∧
      rule'.content.href? = rule.content.href?) : m.Inherits m' where
  toRewires := h
  changes := by rw [hch]; exact List.Subset.refl _
  address := hs
  rule r rule' h' _ := by
    obtain ⟨rule, hrule, hp, hhref⟩ := hr r rule' h'
    exact ⟨rule, hrule, hp.imp id fun hp => ⟨hp, .inl hhref⟩⟩
  noted s r hc := .inl (hch ▸ hc)

theorem free (m : ObjectModel) (ps : List ModelPart) : m.Inherits (m.free ps) := by
  have hf := m.frees_free ps
  refine .of_kept (.free m ps) hf.changes (fun s sheet sheet' hs hs' => ?_)
    fun r rule' hr => ⟨rule', hf.rule?_eq_some hr, .inr rfl, rfl⟩
  rw [Option.some.inj (hs.symm.trans (hf.sheet?_eq_some hs'))]

theorem modifySheet {f : StyleSheet → StyleSheet}
    (hp : ∀ sheet, (f sheet).parentSheet = sheet.parentSheet)
    (hf : ∀ sheet, (f sheet).href = sheet.href) : m.Inherits (m.modifySheet s f) := by
  refine .of_kept (.modifySheet hp) rfl (fun x sheet sheet' hs hs' => ?_)
    fun r rule' hr => ⟨rule', hr, .inr rfl, rfl⟩
  obtain ⟨y, hy, rfl⟩ := exists_sheet_of_modifySheet hs'
  obtain rfl := Option.some.inj (hs.symm.trans hy)
  split
  · exact hf sheet
  · rfl

theorem setContent (hr : m.rule? r = some rule) {c : RuleContent} (h : m.Rewires (m.setContent r c))
    (hc : c.href? = rule.content.href?) : m.Inherits (m.setContent r c) := by
  refine .of_kept h rfl (fun x sheet sheet' hs hs' => ?_) fun x rule' h' => ?_
  · rw [Option.some.inj (hs.symm.trans hs')]
  · obtain ⟨y, hy, rfl⟩ := exists_rule_of_modifyRule h'
    refine ⟨y, hy, ?_⟩
    split
    · rename_i hx
      subst hx
      obtain rfl := Option.some.inj (hr.symm.trans hy)
      exact ⟨.inr rfl, hc⟩
    · exact ⟨.inr rfl, rfl⟩

theorem orphan (m : ObjectModel) (r : RuleId) : m.Inherits (m.orphan r) := by
  have ho := m.orphans_orphan r
  refine .of_kept (.orphan m r) (by rw [ho.eq]) (fun s sheet sheet' hs hs' => ?_)
    fun x rule' h => ?_
  · rw [ho.sheet?_eq] at hs'
    rw [Option.some.inj (hs.symm.trans hs')]
  · obtain ⟨rule, hrule, hc, -, hp⟩ := ho.rule x rule' h
    refine ⟨rule, hrule, ?_, by rw [hc]⟩
    rw [hp]
    split
    · exact .inl rfl
    · exact .inr rfl

theorem modifyRules (m : ObjectModel) (f : List RuleId → List RuleId) (c : RuleContainer) :
    m.Inherits (m.modifyRules f c) := by
  have h := Rewires.modifyRules m f c
  cases c with
  | sheet s => exact .modifySheet (fun _ => rfl) fun _ => rfl
  | media r =>
    refine .of_kept h rfl (fun s sheet sheet' hs hs' => ?_) fun x rule' h' => ?_
    · rw [Option.some.inj (hs.symm.trans hs')]
    · obtain ⟨y, hy, rfl⟩ := exists_rule_of_modifyRule h'
      refine ⟨y, hy, ?_⟩
      split
      · exact ⟨.inr rfl, RuleContent.href?_withChildren f _⟩
      · exact ⟨.inr rfl, rfl⟩

/-- A change that is noted of a sheet, not of an import. -/
theorem note {c : Change} (hc : ∀ s r, c ≠ .imported s r) : m.Inherits (m.note c) where
  toRewires := .note fun s r h => absurd h (hc s r)
  changes := List.subset_append_left _ _
  address s sheet sheet' hs hs' := by rw [Option.some.inj (hs.symm.trans hs')]
  rule r rule' hr _ := ⟨rule', hr, .inr ⟨rfl, .inl rfl⟩⟩
  noted s r h := by
    rcases List.mem_append.1 h with h | h
    · exact .inl h
    · exact absurd (List.mem_singleton.1 h).symm (hc s r)

theorem noteChanged (m : ObjectModel) (x : Option SheetId) : m.Inherits (m.noteChanged x) := by
  cases x with
  | none => exact .refl m
  | some s => exact .note (by rintro _ _ ⟨⟩)

theorem createSheet (h : m.Sound held) (hw : m.sheets.Unwrapped) (href : Option String)
    (media : String) (origin : Origin) : m.Inherits (m.createSheet href media origin).1 := by
  refine .of_kept (.createSheet h hw href media origin) rfl (fun s sheet sheet' hs hs' => ?_)
    fun r rule' hr => ⟨rule', hr, .inr rfl, rfl⟩
  rw [h.sheet?_createSheet] at hs'
  split at hs'
  · rename_i hx
    subst hx
    exact absurd (Slots.issued_of_get? hs) (h.sheets.not_issued_fresh hw _)
  · rw [Option.some.inj (hs.symm.trans hs')]

end Inherits

/-- Rules that are added belong to their sheet. -/
theorem Adopts.inherits {sheet : Option SheetId} {ids : List RuleId}
    (ha : m.Adopts held sheet m' ids) (hw : m'.rules.Unwrapped) : m.Inherits m' where
  toRewires := ha.rewires hw
  changes := by
    obtain ⟨l, hl, -⟩ := ha.noted
    rw [hl]
    exact List.subset_append_left _ _
  address s sheet sheet' hs hs' := by
    rw [ha.sheet?_eq] at hs'
    rw [Option.some.inj (hs.symm.trans hs')]
  rule r rule' hr hi := ⟨rule', ha.rule?_of_issued hi hr hw, .inr ⟨rfl, .inl rfl⟩⟩
  noted s r hc := by
    obtain ⟨l, hl, hmem⟩ := ha.noted
    rw [hl, List.mem_append, hmem] at hc
    rcases hc with hc | ⟨s', x, y, hs, heq, hx, hy, -⟩
    · exact .inl hc
    · obtain ⟨rfl, rfl⟩ := Change.imported.inj heq
      refine .inr fun rule hr => .inr ?_
      rw [(ha.new r rule hr hx).1, hs]

/-! ### Edits -/

theorem inherits_removeSheet (s : SheetId) : m.Inherits ((ModelM.removeSheet s).exec m).2 := by
  simp only [ModelM.removeSheet, ModelM.exec_sheet_bind]
  cases m.sheet? s with
  | none => exact .refl m
  | some sheet => exact (Inherits.free m _).trans (.note (by rintro _ _ ⟨⟩))

theorem inherits_setOwner (s : SheetId) (node : Option NodeId) (title : Option String) :
    m.Inherits ((ModelM.setOwner s node title).exec m).2 := by
  simp only [ModelM.setOwner, ModelM.exec_sheet_bind]
  cases m.sheet? s with
  | none => exact .refl m
  | some sheet => exact .modifySheet (fun _ => rfl) fun _ => rfl

theorem inherits_setDisabled (s : SheetId) (disabled : Bool) :
    m.Inherits ((ModelM.setDisabled s disabled).exec m).2 := by
  simp only [ModelM.setDisabled, ModelM.exec_sheet_bind]
  cases m.sheet? s with
  | none => exact .refl m
  | some sheet =>
    simp only
    split
    · rw [ModelM.exec_modify_bind, ModelM.exec_noteChanged]
      refine Inherits.trans ?_ (.noteChanged _ (some s))
      exact .modifySheet (fun _ => rfl) fun _ => rfl
    · exact .refl m

theorem inherits_deleteRule (c : RuleContainer) (index : Nat) :
    m.Inherits ((ModelM.deleteRule c index).exec m).2 := by
  rcases ModelM.exec_deleteRule c index with ⟨e, he⟩ | ⟨list, x, r, -, -, -, he⟩
  · rw [he]
    exact .refl m
  · have h₁ := Inherits.modifyRules m (·.eraseIdx index) c
    rw [he]
    cases x with
    | none => exact h₁.trans (.free _ _)
    | some s =>
      simp only
      split
      · refine ((h₁.trans (.orphan _ r)).trans ?_).trans (.note (by rintro _ _ ⟨⟩))
        exact .modifySheet (fun _ => rfl) fun _ => rfl
      · exact h₁.trans (.orphan _ r)

/-- Content that is changed within a rule, with all else the same. -/
theorem Inherits.setContent_noteChanged (hr : m.rule? r = some rule) {c : RuleContent}
    (hs : c.owned = rule.content.owned)
    (ho : rule.IsOpen → ∃ href l, c = .importing href l none)
    (hc : c.href? = rule.content.href?) :
    m.Inherits ((m.setContent r c).noteChanged rule.parentSheet) := by
  have h := Rewires.setContent hr (fun _ hmem => hs ▸ hmem) ho
  exact (Inherits.setContent hr h hc).trans (.noteChanged _ _)

section Edits

variable (h : m.Sound held)
include h

theorem Sound.inherits_replaceRules (s : SheetId) (text : String)
    (hw : ((ModelM.replaceRules s text).exec m).2.Unwrapped) :
    m.Inherits ((ModelM.replaceRules s text).exec m).2 := by
  cases hs : m.sheet? s with
  | none =>
    rw [ModelM.exec_replaceRules_of_none hs]
    exact .refl m
  | some sheet =>
    have hfreed : (m.withoutRules s sheet).Sound held :=
      (h.clear hs).free fun r hr p => h.not_owned_of_clear hs hr p
    have hwithout : m.Inherits (m.withoutRules s sheet) := by
      refine Inherits.trans ?_ (.free _ sheet.owned)
      exact .modifySheet (fun _ => rfl) fun _ => rfl
    have ha : (m.withoutRules s sheet).Adopts held (some s) _ _ :=
      adopts_adoptAll none (SheetSource.ofString text).rules hfreed
    rw [ModelM.exec_replaceRules_of_some hs rfl] at hw ⊢
    generalize (m.withoutRules s sheet).adoptAll (some s) none (SheetSource.ofString text).rules =
      result at *
    obtain ⟨m₂, ids⟩ := result
    simp only at ha hw ⊢
    split at hw
    · rename_i hlive
      rw [if_pos hlive]
      have hw₂ := (hw.of_evolves (.note _ _)).of_evolves (.modifySheet m₂ s _)
      refine ((hwithout.trans (ha.inherits hw₂.rules)).trans ?_).trans
        (.note (by rintro _ _ ⟨⟩))
      exact .modifySheet (fun _ => rfl) fun _ => rfl
    · rename_i hdead
      rw [if_neg hdead]
      exact hwithout.trans (ha.inherits hw.rules)

theorem Sound.inherits_insertRule (c : RuleContainer) (text : String) (index : Nat)
    (hw : ((ModelM.insertRule c text index).exec m).2.Unwrapped) :
    m.Inherits ((ModelM.insertRule c text index).exec m).2 := by
  rcases ModelM.exec_insertRule c text index with ⟨e, he⟩ | ⟨list, source, x, -, -, he⟩
  · rw [he]
    exact .refl m
  · have ha : m.Adopts held x _ _ := adopts_adoptAll c.rule? [source] h
    rw [he] at hw ⊢
    have hw₁ := (hw.of_evolves (.noteChanged _ x)).of_evolves (.modifyRules _ _ c)
    exact ((ha.inherits hw₁.rules).trans (.modifyRules _ _ c)).trans (.noteChanged _ x)

end Edits

theorem RuleContent.href?_of_type {c : RuleContent} (h : c.type ≠ .importing) : c.href? = none := by
  cases c with
  | importing => exact absurd rfl h
  | _ => rfl

/-- A rule has new content, and that is noted. -/
def renewed (m : ObjectModel) (r : RuleId) (rule : Rule) (c : RuleContent) : ObjectModel :=
  ((m.setContent r c).noteImport rule.content.type rule.parentSheet r).noteChanged rule.parentSheet

theorem rule?_renewed (m : ObjectModel) (r : RuleId) (rule : Rule) (c : RuleContent) (x : RuleId) :
    (m.renewed r rule c).rule? x = (m.setContent r c).rule? x := by
  have hnote : ((m.setContent r c).noteImport rule.content.type rule.parentSheet r).rule? x =
      (m.setContent r c).rule? x := rule?_noteImport
  rw [renewed, ← hnote]
  cases rule.parentSheet <;> rfl

theorem sheet?_renewed (m : ObjectModel) (r : RuleId) (rule : Rule) (c : RuleContent)
    (s : SheetId) : (m.renewed r rule c).sheet? s = m.sheet? s := by
  have hnote : ((m.setContent r c).noteImport rule.content.type rule.parentSheet r).sheets =
      m.sheets := sheets_noteImport
  rw [renewed, sheet?, sheet?, ← hnote]
  cases rule.parentSheet <;> rfl

theorem imported_mem_renewed (m : ObjectModel) (r : RuleId) (rule : Rule) (c : RuleContent)
    (s : SheetId) (x : RuleId) :
    .imported s x ∈ (m.renewed r rule c).changes ↔
      .imported s x ∈ m.changes ∨
        rule.parentSheet = some s ∧ x = r ∧ rule.content.type = .importing := by
  have hlast : .imported s x ∈ (m.renewed r rule c).changes ↔
      .imported s x ∈
        ((m.setContent r c).noteImport rule.content.type rule.parentSheet r).changes := by
    rw [renewed]
    cases rule.parentSheet with
    | none => rfl
    | some p => simp [ObjectModel.noteChanged, ObjectModel.note]
  obtain ⟨changes, hchanges, hmem⟩ :=
    mem_noteImport (m.setContent r c) rule.content.type rule.parentSheet r
  rw [hlast, hchanges, List.mem_append, hmem]
  refine or_congr Iff.rfl ⟨?_, ?_⟩
  · rintro ⟨s', hs', heq, ht⟩
    obtain ⟨rfl, rfl⟩ := Change.imported.inj heq
    exact ⟨hs', rfl, ht⟩
  · rintro ⟨hs, rfl, ht⟩
    exact ⟨s, hs, rfl, ht⟩

/-- An import whose reference is written anew is noted with its sheet. -/
theorem Forest.inherits_setRuleText (h : m.Forest []) (r : RuleId) (text : String)
    (hw : ((ModelM.setRuleText r text).exec m).2.Unwrapped) :
    m.Inherits ((ModelM.setRuleText r text).exec m).2 := by
  have hrewires := h.sound.rewires_setRuleText r text hw
  have hevolves := (h.sound.edits_setRuleText r text hw).evolves
  rcases ModelM.exec_setRuleText text (m := m) (r := r) with
    ⟨e, he⟩ | ⟨rule, source, m₂, content, hr, ⟨-, ht⟩, hb, he⟩
  · rw [he]
    exact .refl m
  have hbuilds := h.sound.builds_emptied hr hb
  have ha := hbuilds.adopts
  have hf := (m.setContent r .placeholder).frees_free rule.content.owned
  have hr₂ := ha.kept r _ (h.rule?_emptied hr)
  rw [he, if_pos (by rw [hr₂]; rfl)] at hw hrewires hevolves ⊢
  have hw₂ : m₂.rules.Unwrapped := (((hw.of_evolves (.noteChanged _ _)).of_evolves
    (.noteImport _ _ _ _)).of_evolves (.modifyRule m₂ r _)).rules
  change m.Rewires (m₂.renewed r rule content) at hrewires
  change m.Evolves (m₂.renewed r rule content) at hevolves
  change m.Inherits (m₂.renewed r rule content)
  refine ⟨hrewires, ?_, fun s sheet sheet' hs hs' => ?_, fun x y hy hi => ?_, fun s x hc => ?_⟩
  · obtain ⟨l, hl⟩ := hevolves.changes
    rw [hl]
    exact List.subset_append_left _ _
  · rw [sheet?_renewed, ha.sheet?_eq] at hs'
    have hs₀ := hf.sheet?_eq_some hs'
    rw [Option.some.inj (hs.symm.trans hs₀)]
  · rw [rule?_renewed] at hy
    by_cases hxr : x = r
    · subst hxr
      rw [rule?_setContent, if_pos rfl, hr₂] at hy
      obtain rfl := Option.some.inj hy
      refine ⟨rule, hr, ?_⟩
      by_cases himport : rule.content.type = .importing
      · cases hp : rule.parentSheet with
        | none => exact .inl rfl
        | some p => exact .inr ⟨rfl, .inr ⟨p, (imported_mem_renewed ..).2 (.inr ⟨hp, rfl, himport⟩)⟩⟩
      · have hcontent : content.type ≠ .importing := by rwa [hbuilds.type, ht]
        exact .inr ⟨rfl, .inl (by
          rw [RuleContent.href?_of_type himport, RuleContent.href?_of_type hcontent])⟩
    · rw [rule?_setContent, if_neg (Ne.symm hxr)] at hy
      have hi₁ := (Evolves.emptied m r rule).rulesGrow.issued x hi
      have hy₁ := hf.rule?_eq_some (ha.rule?_of_issued hi₁ hy hw₂)
      rw [rule?_setContent, if_neg (Ne.symm hxr)] at hy₁
      exact ⟨y, hy₁, .inr ⟨rfl, .inl rfl⟩⟩
  · rw [imported_mem_renewed] at hc
    rcases hc with hc | ⟨hs, rfl, -⟩
    · have h₂ : (m.emptied r rule).Inherits m₂ := ha.inherits hw₂
      rcases h₂.noted s x hc with hc | hb
      · exact .inl (hf.changes ▸ hc)
      · refine .inr fun y hy => ?_
        rw [rule?_renewed] at hy
        obtain ⟨y₀, hy₀, rfl⟩ := exists_rule_of_modifyRule hy
        split
        · exact hb y₀ hy₀
        · exact hb y₀ hy₀
    · refine .inr fun y hy => ?_
      rw [rule?_renewed, rule?_setContent, if_pos rfl, hr₂] at hy
      obtain rfl := Option.some.inj hy
      exact .inr hs

/-- Every edit leaves to sheets and rules what they keep. -/
theorem Forest.inherits_apply (h : m.Forest []) (e : Edit) (hw : (e.apply m).Unwrapped) :
    m.Inherits (e.apply m) := by
  cases e with
  | createSheet href media origin =>
    exact .createSheet h.sound (hw.of_evolves (.createSheet m href media origin)).sheets href media
      origin
  | setOwner s node title => exact inherits_setOwner s node title
  | setDisabled s disabled => exact inherits_setDisabled s disabled
  | replaceRules s text => exact h.sound.inherits_replaceRules s text hw
  | removeSheet s => exact inherits_removeSheet s
  | insertRule c text index => exact h.sound.inherits_insertRule c text index hw
  | deleteRule c index => exact inherits_deleteRule c index
  | setRuleText r text => exact h.inherits_setRuleText r text hw
  | setSelectorText r text =>
    rcases ModelM.exec_setSelectorText text (m := m) (r := r) with
      he | ⟨rule, selectors, block, new, hr, hc, he⟩
    · rw [Edit.apply, he]
      exact .refl m
    · rw [Edit.apply, he]
      refine .setContent_noteChanged hr (by rw [hc]; rfl) ?_ (by rw [hc]; rfl)
      rintro ⟨href, l, ho⟩
      simp [hc] at ho
  | updateBlock r f =>
    rcases ModelM.exec_updateBlock (fun b => (f b, ())) (m := m) (r := r) with
      he | ⟨rule, block, hr, he⟩
    · rw [Edit.apply, he]
      exact .refl m
    · rw [Edit.apply, he]
      refine .setContent_noteChanged hr (owned_withBlock _ _) ?_ (RuleContent.href?_withBlock _ _)
      rintro ⟨href, l, ho⟩
      refine ⟨href, l, ?_⟩
      rw [ho, RuleContent.withBlock]
      all_goals simp
  | updateMedia o f =>
    rcases ModelM.exec_updateMedia o (fun l => (f l, ())) (m := m) with
      he | ⟨s, l, -, he⟩ | ⟨r, rule, l, -, hr, he⟩
    · rw [Edit.apply, he]
      exact .refl m
    · rw [Edit.apply, he]
      refine Inherits.trans ?_ (.note (by rintro _ _ ⟨⟩))
      exact .modifySheet (fun _ => rfl) fun _ => rfl
    · rw [Edit.apply, he]
      refine .setContent_noteChanged hr (owned_withMedia _ _) ?_ (RuleContent.href?_withMedia _ _)
      rintro ⟨href, l', ho⟩
      refine ⟨href, l, ?_⟩
      rw [ho, RuleContent.withMedia]

end ObjectModel
end WebStyle
