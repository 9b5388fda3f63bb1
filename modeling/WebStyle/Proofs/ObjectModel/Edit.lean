import WebStyle.Proofs.ObjectModel.Adoption
import WebStyle.Proofs.ObjectModel.Containers
import WebStyle.Proofs.ObjectModel.Request
/-!
What the edits of an object model keep. Each leaves the model sound, and notes a change unless it
made no difference to the sheets that are held.
-/
set_option autoImplicit false

namespace WebStyle
namespace ObjectModel

/-- An edit of the object model. -/
inductive Edit where
  | createSheet (href : Option String) (media : String) (origin : Origin)
  | setOwner (s : SheetId) (node : Option NodeId) (title : Option String)
  | setDisabled (s : SheetId) (disabled : Bool)
  | replaceRules (s : SheetId) (text : String)
  | removeSheet (s : SheetId)
  | insertRule (c : RuleContainer) (text : String) (index : Nat)
  | deleteRule (c : RuleContainer) (index : Nat)
  | setRuleText (r : RuleId) (text : String)
  | setSelectorText (r : RuleId) (text : String)
  | updateBlock (r : RuleId) (f : DeclarationBlock → DeclarationBlock)
  | updateMedia (o : MediaOwner) (f : MediaList → MediaList)

/-- The model after an edit. -/
def Edit.apply (m : ObjectModel) : Edit → ObjectModel
  | .createSheet href media origin => ((ModelM.createSheet href media origin).exec m).2
  | .setOwner s node title => ((ModelM.setOwner s node title).exec m).2
  | .setDisabled s disabled => ((ModelM.setDisabled s disabled).exec m).2
  | .replaceRules s text => ((ModelM.replaceRules s text).exec m).2
  | .removeSheet s => ((ModelM.removeSheet s).exec m).2
  | .insertRule c text index => ((ModelM.insertRule c text index).exec m).2
  | .deleteRule c index => ((ModelM.deleteRule c index).exec m).2
  | .setRuleText r text => ((ModelM.setRuleText r text).exec m).2
  | .setSelectorText r text => ((ModelM.setSelectorText r text).exec m).2
  | .updateBlock r f => ((ModelM.updateBlock r fun b => (f b, ())).exec m).2
  | .updateMedia o f => ((ModelM.updateMedia o fun l => (f l, ())).exec m).2

/-- Whether no slot of the model was freed so often that its generation came round. -/
structure Unwrapped (m : ObjectModel) : Prop where
  sheets : m.sheets.Unwrapped
  rules : m.rules.Unwrapped

instance (m : ObjectModel) : Decidable m.Unwrapped :=
  decidable_of_iff (m.sheets.Unwrapped ∧ m.rules.Unwrapped)
    ⟨fun h => ⟨h.1, h.2⟩, fun h => ⟨h.sheets, h.rules⟩⟩

theorem Unwrapped.of_evolves {m m' : ObjectModel} (h : m'.Unwrapped) (he : m.Evolves m') :
    m.Unwrapped :=
  ⟨h.sheets.of_grows he.sheetsGrow, h.rules.of_grows he.rulesGrow⟩

/-- What each edit does to a sound model. -/
structure Edits (held : List SheetId) (m m' : ObjectModel) : Prop where
  sound : m'.Sound held
  evolves : m.Evolves m'
  quiet : m'.changes = m.changes → Quiet held m m'

variable {m m' : ObjectModel} {held : List SheetId} {s : SheetId} {r : RuleId} {sheet : StyleSheet}
  {rule : Rule}

namespace Edits

theorem refl (h : m.Sound held) : m.Edits held m := ⟨h, .refl m, fun _ => .refl held m⟩

theorem of_quiet (h : m'.Sound held) (he : m.Evolves m') (hq : Quiet held m m') :
    m.Edits held m' :=
  ⟨h, he, fun _ => hq⟩

theorem note (h : m'.Sound held) (he : m.Evolves m') (c : Change) : m.Edits held (m'.note c) := by
  refine ⟨h.congr rfl rfl, he.trans (.note m' c), fun hc => ?_⟩
  obtain ⟨l, hl⟩ := he.changes
  have hlength := congrArg List.length hc
  simp only [ObjectModel.note, hl, List.length_append, List.length_cons, List.length_nil] at hlength
  omega

theorem trans {m'' : ObjectModel} (h : m.Edits held m') (h' : m'.Edits held m'') :
    m.Edits held m'' := by
  refine ⟨h'.sound, h.evolves.trans h'.evolves, fun hc => ?_⟩
  obtain ⟨l, hl⟩ := h.evolves.changes
  obtain ⟨l', hl'⟩ := h'.evolves.changes
  have hnil : l ++ l' = [] := by
    have happend : m.changes ++ (l ++ l') = m.changes := by
      rw [← List.append_assoc, ← hl, ← hl', hc]
    simpa using happend
  obtain ⟨rfl, rfl⟩ := List.append_eq_nil_iff.1 hnil
  rw [List.append_nil] at hl hl'
  exact (h.quiet hl).trans (h'.quiet hl')

/-- A change is noted unless the rule that changed belongs to no sheet. -/
theorem noteChanged {x : Option SheetId} (h : m'.Sound held) (he : m.Evolves m')
    (hq : x = none → Quiet held m m') : m.Edits held (m'.noteChanged x) := by
  cases x with
  | none => exact of_quiet h he (hq rfl)
  | some s => exact note h he _

end Edits

theorem Sound.not_visits_of_no_sheet (h : m.Sound held) (hr : m.rule? r = some rule)
    (hp : rule.parentSheet = none) : ¬ m.Visits held (.rule r) := by
  intro hv
  obtain ⟨rule', s, hr', hs, -⟩ := h.exists_sheet_of_visits_rule hv
  obtain rfl := Option.some.inj (hr.symm.trans hr')
  simp [hp] at hs

/-! ### Sheets -/

theorem Sound.edits_createSheet (h : m.Sound held) (hw : m.sheets.Unwrapped)
    (href : Option String) (media : String) (origin : Origin) :
    m.Edits held ((ModelM.createSheet href media origin).exec m).2 :=
  .of_quiet (h.addSheet href media origin)
    (.createSheet m href media origin) (h.quiet_createSheet hw href media origin)

theorem Sound.edits_setOwner (h : m.Sound held) (s : SheetId) (node : Option NodeId)
    (title : Option String) : m.Edits held ((ModelM.setOwner s node title).exec m).2 := by
  simp only [ModelM.setOwner, ModelM.exec_sheet_bind]
  cases m.sheet? s with
  | none => exact .refl h
  | some sheet =>
    exact .of_quiet (h.modifySheet_of_rules s (fun _ => rfl) fun _ => rfl) (.modifySheet m s _)
      (.modifySheet_of_shown fun _ => rfl)

theorem Sound.edits_setDisabled (h : m.Sound held) (s : SheetId) (disabled : Bool) :
    m.Edits held ((ModelM.setDisabled s disabled).exec m).2 := by
  simp only [ModelM.setDisabled, ModelM.exec_sheet_bind]
  cases m.sheet? s with
  | none => exact .refl h
  | some sheet =>
    simp only
    split
    · rw [ModelM.exec_modify_bind, ModelM.exec_noteChanged]
      refine .note ?_ (.modifySheet m s _) _
      exact (h.modifySheet_of_rules s (fun _ => rfl) fun _ => rfl)
    · exact .refl h

theorem Sound.edits_removeSheet (h : m.Sound held) (s : SheetId) :
    m.Edits held ((ModelM.removeSheet s).exec m).2 := by
  simp only [ModelM.removeSheet, ModelM.exec_sheet_bind]
  cases m.sheet? s with
  | none => exact .refl h
  | some sheet => exact .note (h.free (by simp)) (.free m _) _

/-- A sheet without its rules. -/
theorem Sound.clear (h : m.Sound held) (hs : m.sheet? s = some sheet) :
    (m.modifySheet s fun sheet => { sheet with rules := [], deleted := [] }).Sound held :=
  h.modifySheet_of_subset hs (by simp [StyleSheet.owned]) (by simp [StyleSheet.owned]) (by simp)

theorem Sound.not_owned_of_clear (h : m.Sound held) (hs : m.sheet? s = some sheet)
    {q : ModelPart} (hq : q ∈ sheet.owned) (p : ModelPart) :
    q ∉ (m.modifySheet s fun sheet => { sheet with rules := [], deleted := [] }).ownedBy p := by
  intro hp
  rw [ownedBy_modifySheet hs] at hp
  split at hp
  · simp [StyleSheet.owned] at hp
  · rename_i hne
    exact hne (h.unique _ _ q hp ((mem_ownedBy_sheet hs).2 hq))

theorem reaches_of_subset (hs : ∀ p, m'.ownedBy p ⊆ m.ownedBy p) {ps : List ModelPart}
    {q : ModelPart} (h : m'.Reaches ps q) : m.Reaches ps q := by
  obtain ⟨p, hp, hpq⟩ := h
  exact ⟨p, hp, Relation.ReflTransGen.mono (fun a _ hb => hs a hb) _ _ hpq⟩

/-- A sheet that freeing its rules frees as well is not visited. -/
theorem Sound.not_visits_of_clear (h : m.Sound held) (hs : m.sheet? s = some sheet)
    (hdead : (m.withoutRules s sheet).sheet? s = none) : ¬ m.Visits held (.sheet s) := by
  have hsub : ∀ p, (m.modifySheet s fun sheet =>
      { sheet with rules := [], deleted := [] }).ownedBy p ⊆ m.ownedBy p := by
    intro p q hq
    rw [ownedBy_modifySheet hs] at hq
    split at hq
    · simp [StyleSheet.owned] at hq
    · exact hq
  have hlive : (m.modifySheet s fun sheet => { sheet with rules := [], deleted := [] }).sheet? s ≠
      none := by
    simp [sheet?_modifySheet, hs]
  have hreach : (m.modifySheet s fun sheet => { sheet with rules := [], deleted := [] }).Reaches
      sheet.owned (.sheet s) := by
    by_contra hno
    have := (frees_free _ sheet.owned).other (.sheet s) hno
    exact hlive (Eq.trans (Eq.symm this) hdead)
  refine h.not_visits_of_reaches_self ?_
  have howned : m.ownedBy (.sheet s) = sheet.owned := by simp [ownedBy, hs]
  rw [howned]
  exact reaches_of_subset hsub hreach

/-- Freeing what an unvisited sheet owned makes no difference. -/
theorem Sound.quiet_clear (h : m.Sound held) (hs : m.sheet? s = some sheet)
    (hv : ¬ m.Visits held (.sheet s)) : Quiet held m (m.withoutRules s sheet) := by
  have hq : Quiet held m (m.modifySheet s fun sheet => { sheet with rules := [], deleted := [] }) :=
    .modifySheet hv
  refine hq.trans ((h.clear hs).quiet_free fun p hp hvp => hv ?_)
  exact h.visits_of_mem_ownedBy (hq.visits_iff.1 hvp) ((mem_ownedBy_sheet hs).2 hp)

theorem Sound.edits_replaceRules (h : m.Sound held) (s : SheetId) (text : String) :
    m.Edits held ((ModelM.replaceRules s text).exec m).2 := by
  cases hs : m.sheet? s with
  | none =>
    rw [ModelM.exec_replaceRules_of_none hs]
    exact .refl h
  | some sheet =>
    have hfreed : (m.withoutRules s sheet).Sound held :=
      (h.clear hs).free fun r hr p => h.not_owned_of_clear hs hr p
    have hevolves : m.Evolves (m.withoutRules s sheet) :=
      (Evolves.modifySheet m s _).trans (.free _ _)
    have hclear := h.not_visits_of_clear hs
    have hquiet := h.quiet_clear hs
    have ha : (m.withoutRules s sheet).Adopts held (some s) _ _ :=
      adopts_adoptAll none (SheetSource.ofString text).rules hfreed
    rw [ModelM.exec_replaceRules_of_some hs rfl]
    generalize (m.withoutRules s sheet).adoptAll (some s) none (SheetSource.ofString text).rules =
      result at *
    obtain ⟨m₂, ids⟩ := result
    generalize m.withoutRules s sheet = m₁ at *
    simp only at ha ⊢
    split
    · rename_i hlive
      obtain ⟨sheet₂, hs₂⟩ := Option.isSome_iff_exists.1 hlive
      refine .note ?_ ((hevolves.trans ha.evolves).trans (.modifySheet m₂ s _)) _
      refine ha.sound.setRules hs₂ ha.nodup (fun x hx => ⟨fun hd => ?_, fun p hp => ?_⟩)
        fun x hx => ha.exists_rule hx
      · exact ha.free x hx (.sheet s)
          ((mem_ownedBy_sheet hs₂).2 (by simp [StyleSheet.owned, hd]))
      · exact absurd hp (ha.free x hx p)
    · rename_i hdead
      -- the sheet was freed with its rules, as one of them had imported it
      have hdead₁ : m₁.sheet? s = none := by
        rw [← ha.sheet?_eq s]
        simpa using hdead
      exact .of_quiet ha.sound (hevolves.trans ha.evolves)
        ((hquiet (hclear hdead₁)).trans (ha.quiet hfreed))

/-! ### Rules -/

section Adopts

variable {x : Option SheetId} {ids list : List RuleId} {c : RuleContainer}
  (ha : m.Adopts held x m' ids)
include ha

theorem Adopts.rulesOf_eq (hl : m.rulesOf c = .ok list) : m'.rulesOf c = .ok list := by
  cases c with
  | sheet s =>
    obtain ⟨sheet, hs, hrules⟩ := rulesOf_sheet_eq_ok.1 hl
    exact rulesOf_sheet_eq_ok.2 ⟨sheet, (ha.sheet?_eq s).trans hs, hrules⟩
  | media r =>
    obtain ⟨rule, l, hr, hc⟩ := rulesOf_media_eq_ok.1 hl
    exact rulesOf_media_eq_ok.2 ⟨rule, l, ha.kept r rule hr, hc⟩

theorem Adopts.ownerSheet_eq (hx : m.ownerSheet c = .ok x) : m'.ownerSheet c = .ok x := by
  cases c with
  | sheet s =>
    obtain ⟨hs, rfl⟩ := ownerSheet_sheet_eq_ok.1 hx
    exact ownerSheet_sheet_eq_ok.2 ⟨by rwa [ha.sheet?_eq s], rfl⟩
  | media r =>
    obtain ⟨rule, hr, rfl⟩ := ownerSheet_media_eq_ok.1 hx
    exact ownerSheet_media_eq_ok.2 ⟨rule, ha.kept r rule hr, rfl⟩

end Adopts

theorem Sound.edits_insertRule (h : m.Sound held) (c : RuleContainer) (text : String)
    (index : Nat) : m.Edits held ((ModelM.insertRule c text index).exec m).2 := by
  rcases ModelM.exec_insertRule c text index with ⟨e, he⟩ | ⟨list, source, x, hl, hx, he⟩
  · rw [he]
    exact .refl h
  · have ha : m.Adopts held x (m.adoptAll x c.rule? [source]).1
        (m.adoptAll x c.rule? [source]).2 := adopts_adoptAll c.rule? [source] h
    rw [he]
    generalize m.adoptAll x c.rule? [source] = result at *
    obtain ⟨m₁, added⟩ := result
    simp only at ha ⊢
    have hl₁ := ha.rulesOf_eq hl
    have hx₁ := ha.ownerSheet_eq hx
    have hmem : ∀ y, y ∈ list.take index ++ added ++ list.drop index → y ∈ list ∨ y ∈ added := by
      intro y hy
      simp only [List.mem_append] at hy
      rcases hy with (hy | hy) | hy
      · exact .inl (List.mem_of_mem_take hy)
      · exact .inr hy
      · exact .inl (List.mem_of_mem_drop hy)
    refine .noteChanged (ha.sound.modifyRules hl₁ hx₁ ?_ (fun y hy => ?_) fun y hy => ?_)
      (ha.evolves.trans (.modifyRules m₁ _ c)) fun hnone => ?_
    · have hperm : (list.take index ++ added ++ list.drop index).Perm (added ++ list) := by
        have hswap : (list.take index ++ added).Perm (added ++ list.take index) :=
          List.perm_append_comm
        have happend := hswap.append_right (list.drop index)
        rwa [List.append_assoc added, List.take_append_drop] at happend
      refine hperm.nodup_iff.2 (List.nodup_append.2 ⟨ha.nodup, h.nodup_rulesOf hl, ?_⟩)
      rintro y hy _ hy' rfl
      exact ha.free y hy _ (mem_ownedBy_of_rulesOf hl₁ hy')
    · rcases hmem y hy with hy | hy
      · exact .inl hy
      · exact .inr (ha.free y hy)
    · rcases hmem y hy with hy | hy
      · exact ha.sound.exists_rule_of_rulesOf hl₁ hx₁ hy
      · exact ha.exists_rule hy
    · exact (ha.quiet h).trans
        (.modifyRules (ha.sound.not_visits_container hx₁ (by simp [hnone])))

theorem Sound.edits_deleteRule (h : m.Sound held) (c : RuleContainer) (index : Nat) :
    m.Edits held ((ModelM.deleteRule c index).exec m).2 := by
  rcases ModelM.exec_deleteRule c index with ⟨e, he⟩ | ⟨list, x, r, hl, hx, hr, he⟩
  · rw [he]
    exact .refl h
  · have hmem : r ∈ list := List.mem_of_getElem? hr
    have h₁ := h.eraseIdx hl hx index
    have he₁ := Evolves.modifyRules m (·.eraseIdx index) c
    have hq₁ : ¬ m.Visits held c.part → Quiet held m (m.modifyRules (·.eraseIdx index) c) :=
      .modifyRules
    have howner : .rule r ∈ m.ownedBy c.part := mem_ownedBy_of_rulesOf hl hmem
    have hfree := h.not_owned_of_eraseIdx hl hr
    have hlive : ((m.modifyRules (·.eraseIdx index) c).rule? r).isSome := by
      have hrule := h.live _ r howner
      cases c with
      | sheet s => exact hrule
      | media r' => exact rule?_modifyRule_isSome.trans hrule
    have hsheet : ∀ s, ((m.modifyRules (·.eraseIdx index) c).sheet? s).isSome =
        (m.sheet? s).isSome := fun s => sheet?_modifyRules_isSome
    rw [he]
    generalize m.modifyRules (·.eraseIdx index) c = m₁ at *
    cases x with
    | none =>
      have hv := h.not_visits_container hx (by simp)
      refine .of_quiet (h₁.free (by simpa using hfree)) (he₁.trans (.free m₁ _))
        ((hq₁ hv).trans (h₁.quiet_free fun p hp hvp => hv ?_))
      obtain rfl := List.mem_singleton.1 hp
      exact h.visits_of_mem_ownedBy ((hq₁ hv).visits_iff.1 hvp) howner
    | some s =>
      have ho := m₁.orphans_orphan r
      have h₂ := ho.sound h₁ hfree
      have he₂ := he₁.trans (.orphan m₁ r)
      have hq₂ : Quiet held m₁ (m₁.orphan r) := .orphan r
      generalize m₁.orphan r = m₂ at *
      simp only
      split
      · rename_i hs
        obtain ⟨sheet, hs⟩ := Option.isSome_iff_exists.1 hs
        refine .note (h₂.deleted hs ?_ ?_) (he₂.trans (.modifySheet m₂ s _)) _
        · intro p
          rw [ho.ownedBy_eq]
          exact hfree p
        · rw [ho.isSome]
          exact hlive
      · rename_i hdead
        refine .of_quiet h₂ he₂ ((hq₁ (h.not_visits_container hx ?_)).trans hq₂)
        rintro s' ⟨⟩
        rw [ho.sheet?_eq, hsheet] at hdead
        simpa using hdead

/-! ### Changing rules -/

/-- A rule whose content was taken away, with what it owned. -/
def emptied (m : ObjectModel) (r : RuleId) (rule : Rule) : ObjectModel :=
  (m.setContent r .placeholder).free rule.content.owned

theorem ownedBy_placeholder_subset (hr : m.rule? r = some rule) (p : ModelPart) :
    (m.setContent r .placeholder).ownedBy p ⊆ m.ownedBy p := by
  intro q hq
  rw [ObjectModel.setContent, ownedBy_modifyRule hr] at hq
  split at hq
  · simp [RuleContent.placeholder, RuleContent.owned] at hq
  · exact hq

section Emptied

variable (h : m.Sound held) (hr : m.rule? r = some rule)
include h hr

theorem Sound.placeholder : (m.setContent r .placeholder).Sound held :=
  h.setContent_of_subset hr (by simp [RuleContent.placeholder, RuleContent.owned])
    (by simp [RuleContent.placeholder, RuleContent.owned])

theorem Sound.emptied : (m.emptied r rule).Sound held := by
  refine (h.placeholder hr).free fun x hx p hp => ?_
  rw [ObjectModel.setContent, ownedBy_modifyRule hr] at hp
  split at hp
  · simp [RuleContent.placeholder, RuleContent.owned] at hp
  · rename_i hne
    exact hne (h.unique _ _ _ hp ((mem_ownedBy_rule hr).2 hx))

/-- What takes the place of the content that was taken away. -/
theorem Sound.builds_emptied {source : RuleSource} {m₂ : ObjectModel} {content : RuleContent}
    (hb : ((m.setContent r .placeholder).free rule.content.owned).build rule.parentSheet r source =
      (m₂, content)) : (m.emptied r rule).Builds held rule.parentSheet source m₂ content := by
  have hbuilds : (m.emptied r rule).Builds held rule.parentSheet source _ _ :=
    builds_build r source (h.emptied hr)
  rwa [show (m.emptied r rule).build rule.parentSheet r source = _ from hb] at hbuilds

theorem Sound.quiet_emptied (hv : ¬ m.Visits held (.rule r)) :
    Quiet held m (m.emptied r rule) := by
  have hq : Quiet held m (m.setContent r .placeholder) := .modifyRule hv
  refine hq.trans ((h.placeholder hr).quiet_free fun p hp hvp => hv ?_)
  exact h.visits_of_mem_ownedBy (hq.visits_iff.1 hvp) ((mem_ownedBy_rule hr).2 hp)

/-- A rule that is freed with what it owned is not visited. -/
theorem Sound.not_visits_of_emptied (hdead : (m.emptied r rule).rule? r = none) :
    ¬ m.Visits held (.rule r) := by
  have hlive : (m.setContent r .placeholder).rule? r ≠ none := by simp [rule?_setContent, hr]
  have hreach : (m.setContent r .placeholder).Reaches rule.content.owned (.rule r) := by
    by_contra hno
    have hsame := (frees_free _ rule.content.owned).other (.rule r) hno
    exact hlive (Eq.trans (Eq.symm hsame) hdead)
  refine h.not_visits_of_reaches_self ?_
  have howned : m.ownedBy (.rule r) = rule.content.owned := by simp [ownedBy, hr]
  rw [howned]
  exact reaches_of_subset (ownedBy_placeholder_subset hr) hreach

omit h in
theorem rule?_emptied {y : Rule} (hy : (m.emptied r rule).rule? r = some y) :
    y = { rule with content := .placeholder } := by
  have := (frees_free _ rule.content.owned).rule?_eq_some hy
  rw [rule?_setContent, if_pos rfl, hr] at this
  exact (Option.some.inj this).symm

end Emptied

theorem Evolves.emptied (m : ObjectModel) (r : RuleId) (rule : Rule) :
    m.Evolves (m.emptied r rule) :=
  (Evolves.modifyRule m r _).trans (.free _ _)

theorem Quiet.noteImport (m : ObjectModel) (type : RuleType) (x : Option SheetId) (r : RuleId) :
    Quiet held m (m.noteImport type x r) := by
  refine .of_lookups (fun s => ?_) fun _ => rule?_noteImport
  rw [ObjectModel.sheet?, ObjectModel.sheet?, sheets_noteImport]

theorem Sound.edits_setRuleText (h : m.Sound held) (r : RuleId) (text : String)
    (hw : ((ModelM.setRuleText r text).exec m).2.Unwrapped) :
    m.Edits held ((ModelM.setRuleText r text).exec m).2 := by
  rcases ModelM.exec_setRuleText text (m := m) (r := r) with
    ⟨e, he⟩ | ⟨rule, source, m₂, content, hr, ⟨-, ht⟩, hb, he⟩
  · rw [he]
    exact .refl h
  · have h₁ := h.emptied hr
    have he₁ := Evolves.emptied m r rule
    have hbuilds := h.builds_emptied hr hb
    have ha := hbuilds.adopts
    have hq₂ : ¬ m.Visits held (.rule r) → Quiet held m m₂ := fun hv =>
      (h.quiet_emptied hr hv).trans (ha.quiet h₁)
    rw [he] at hw ⊢
    split at hw
    · rename_i hlive
      rw [if_pos hlive]
      obtain ⟨y, hy⟩ := Option.isSome_iff_exists.1 hlive
      have hwrap : m₂.rules.Unwrapped := by
        have hw₃ := hw.of_evolves (.noteChanged _ _)
        have hw₂ := hw₃.of_evolves (.noteImport _ _ _ _)
        exact (hw₂.of_evolves (.modifyRule m₂ r _)).rules
      -- new rules get other handles, so that the rule was not freed before
      have hkept : (m.emptied r rule).rule? r = some y := by
        cases hy₁ : (m.emptied r rule).rule? r with
        | none =>
          have hissued := he₁.rulesGrow.issued r (Slots.issued_of_get? hr)
          exact absurd hissued (ha.unissued r y hy hy₁ hwrap)
        | some y₁ => exact (ha.kept r y₁ hy₁).symm.trans hy
      have hyp : y.parentSheet = rule.parentSheet := by rw [rule?_emptied hr hkept]
      refine .noteChanged ?_ (((he₁.trans ha.evolves).trans (.modifyRule m₂ r _)).trans
        (.noteImport _ _ _ _)) fun hnone => ?_
      · exact (hbuilds.sound_setContent hy hyp).congr sheets_noteImport rules_noteImport
      · have hv := h.not_visits_of_no_sheet hr hnone
        have hv₂ : ¬ m₂.Visits held (.rule r) := fun hv' => hv ((hq₂ hv).visits_iff.1 hv')
        exact ((hq₂ hv).trans (.modifyRule hv₂)).trans (.noteImport _ _ _ _)
    · rename_i hdead
      rw [if_neg hdead]
      have hdead₁ : (m.emptied r rule).rule? r = none :=
        ha.fresh_of_fresh (by simpa using hdead)
      exact .of_quiet ha.sound (he₁.trans ha.evolves) (hq₂ (h.not_visits_of_emptied hr hdead₁))

/-- Content that is changed and owns the same. -/
theorem Sound.edits_setContent (h : m.Sound held) (hr : m.rule? r = some rule)
    {content : RuleContent} (hc : content.owned = rule.content.owned) :
    m.Edits held ((m.setContent r content).noteChanged rule.parentSheet) := by
  refine .noteChanged (h.setContent_of_subset hr ?_ ?_) (.modifyRule m r _) fun hnone => ?_
  · have hn := h.nodup (.rule r)
    simp only [ownedBy, hr, Option.map_some, Option.getD_some] at hn
    rwa [hc]
  · rw [hc]
    exact fun _ hq => hq
  · exact .modifyRule (h.not_visits_of_no_sheet hr hnone)

theorem Sound.edits_setSelectorText (h : m.Sound held) (r : RuleId) (text : String) :
    m.Edits held ((ModelM.setSelectorText r text).exec m).2 := by
  rcases ModelM.exec_setSelectorText text (m := m) (r := r) with
    he | ⟨rule, selectors, block, new, hr, hc, he⟩
  · rw [he]
    exact .refl h
  · rw [he]
    exact h.edits_setContent hr (by rw [hc]; rfl)

theorem owned_withBlock (c : RuleContent) (block : DeclarationBlock) :
    (c.withBlock block).owned = c.owned := by
  cases c <;> rfl

theorem owned_withMedia (c : RuleContent) (l : MediaList) : (c.withMedia l).owned = c.owned := by
  cases c with
  | importing href l' sheet => cases sheet <;> rfl
  | _ => rfl

theorem Sound.edits_updateBlock {α : Type} (h : m.Sound held) (r : RuleId)
    (f : DeclarationBlock → DeclarationBlock × α) :
    m.Edits held ((ModelM.updateBlock r f).exec m).2 := by
  rcases ModelM.exec_updateBlock f (m := m) (r := r) with he | ⟨rule, block, hr, he⟩
  · rw [he]
    exact .refl h
  · rw [he]
    exact h.edits_setContent hr (owned_withBlock _ _)

theorem Sound.edits_updateMedia {α : Type} (h : m.Sound held) (o : MediaOwner)
    (f : MediaList → MediaList × α) : m.Edits held ((ModelM.updateMedia o f).exec m).2 := by
  rcases ModelM.exec_updateMedia o f (m := m) with
    he | ⟨s, l, -, he⟩ | ⟨r, rule, l, -, hr, he⟩
  · rw [he]
    exact .refl h
  · rw [he]
    refine .note ?_ (.modifySheet m s _) _
    exact h.modifySheet_of_rules s (fun _ => rfl) fun _ => rfl
  · rw [he]
    exact h.edits_setContent hr (owned_withMedia _ _)

/-! ### Imports -/

/-- Whether a sheet may be given to an import: it is live, nobody holds it, and no import has it. -/
structure IsSpare (held : List SheetId) (m : ObjectModel) (s : SheetId) : Prop where
  live : (m.sheet? s).isSome
  notHeld : s ∉ held
  free : ∀ p : ModelPart, .sheet s ∉ m.ownedBy p

section Attach

variable (h : m.Sound held) (hr : m.rule? r = some rule) {href : String} {l : MediaList}
  {old : Option SheetId} (hc : rule.content = .importing href l old)
include h hr hc

theorem Sound.quiet_attach (hv : ¬ m.Visits held (.rule r))
    (h₁ : (m.setContent r (.importing href l (some s))).Sound held) :
    Quiet held m ((m.setContent r (.importing href l (some s))).free
      ((old.filter (· != s)).toList.map .sheet)) := by
  have hq : Quiet held m (m.setContent r (.importing href l (some s))) := .modifyRule hv
  refine hq.trans (h₁.quiet_free fun p hp hvp => hv ?_)
  refine h.visits_of_mem_ownedBy (hq.visits_iff.1 hvp) ((mem_ownedBy_rule hr).2 ?_)
  simp only [List.mem_map, Option.mem_toList, Option.filter_eq_some_iff] at hp
  obtain ⟨x, ⟨rfl, -⟩, rfl⟩ := hp
  simp [hc, RuleContent.owned]

/-- An import whose new sheet is freed with its old one is not visited. -/
theorem Sound.not_visits_of_attach (hs : m.IsSpare held s)
    (hdead : ((m.setContent r (.importing href l (some s))).free
      ((old.filter (· != s)).toList.map .sheet)).sheet? s = none) :
    ¬ m.Visits held (.rule r) := by
  have howned : ∀ p, p ≠ .rule r →
      (m.setContent r (.importing href l (some s))).ownedBy p = m.ownedBy p := by
    intro p hp
    rw [ObjectModel.setContent, ownedBy_modifyRule hr, if_neg hp]
  have hreach : (m.setContent r (.importing href l (some s))).Reaches
      ((old.filter (· != s)).toList.map .sheet) (.sheet s) := by
    by_contra hno
    have hsame := (frees_free _ ((old.filter (· != s)).toList.map ModelPart.sheet)).other
      (.sheet s) hno
    have hlive := hs.live
    rw [Option.isSome_iff_ne_none] at hlive
    exact hlive (Eq.trans (Eq.symm hsame) hdead)
  obtain ⟨p, hp, hpath⟩ := hreach
  simp only [List.mem_map, Option.mem_toList, Option.filter_eq_some_iff, bne_iff_ne] at hp
  obtain ⟨x, ⟨rfl, hx⟩, rfl⟩ := hp
  -- only the import owns the new sheet, so that the path comes through it
  have hrule : Relation.ReflTransGen
      (fun p q => q ∈ (m.setContent r (.importing href l (some s))).ownedBy p)
      (.sheet x) (.rule r) := by
    rcases Relation.ReflTransGen.cases_tail hpath with heq | ⟨b, hb, hbs⟩
    · exact absurd (ModelPart.sheet.inj heq).symm hx
    · by_cases hbr : b = .rule r
      · rwa [← hbr]
      · rw [howned b hbr] at hbs
        exact absurd hbs (hs.free b)
  have hbefore : ∀ q, Relation.ReflTransGen
      (fun p q => q ∈ (m.setContent r (.importing href l (some s))).ownedBy p) (.sheet x) q →
      m.Reaches [.sheet x] q ∨ m.Reaches [.sheet x] (.rule r) := by
    intro q hq
    induction hq with
    | refl => exact .inl ⟨_, List.mem_singleton_self _, .refl⟩
    | @tail b c _ hbc ih =>
      rcases ih with ⟨a, ha, hab⟩ | ih
      · by_cases hbr : b = .rule r
        · exact .inr ⟨a, ha, hbr ▸ hab⟩
        · rw [howned b hbr] at hbc
          exact .inl ⟨a, ha, hab.tail hbc⟩
      · exact .inr ih
  refine h.not_visits_of_reaches_self ?_
  obtain ⟨a, ha, har⟩ := (hbefore _ hrule).elim id id
  obtain rfl := List.mem_singleton.1 ha
  exact ⟨_, (mem_ownedBy_rule hr).2 (by simp [hc, RuleContent.owned]), har⟩

end Attach

theorem IsSpare.sound_setContent (hs : m.IsSpare held s) (h : m.Sound held)
    (hr : m.rule? r = some rule) (href : String) (l : MediaList) :
    (m.setContent r (.importing href l (some s))).Sound held := by
  obtain ⟨sheet, hsheet⟩ := Option.isSome_iff_exists.1 hs.live
  refine h.setContent hr (by simp [RuleContent.owned]) (fun q hq p hp => ?_)
    (by simp [RuleContent.children]) fun x hx => ?_
  · obtain rfl : q = .sheet s := by simpa [RuleContent.owned] using hq
    exact absurd hp (hs.free p)
  · obtain rfl : x = s := by simpa [RuleContent.owned] using hx
    exact ⟨Slots.issued_of_get? hsheet, hs.notHeld⟩

theorem Sound.edits_attachImport (h : m.Sound held) (hs : m.IsSpare held s) (r : RuleId) :
    m.Edits held ((ModelM.attachImport r s).exec m).2 := by
  rcases ModelM.exec_attachImport (m := m) (r := r) (s := s) with
    ⟨e, he⟩ | ⟨sheet, rule, href, l, old, m₂, hsheet, hr, hc, hm₂, he⟩
  · rw [he]
    exact .refl h
  · have h₁ := hs.sound_setContent h hr href l
    have h₂ : m₂.Sound held := by
      rw [← hm₂]
      exact h₁.free (by simp)
    have he₂ : m.Evolves m₂ := by
      rw [← hm₂]
      exact (Evolves.modifyRule m r _).trans (.free _ _)
    have hq₂ : ¬ m.Visits held (.rule r) → Quiet held m m₂ := by
      rw [← hm₂]
      exact fun hv => h.quiet_attach hr hc hv h₁
    rw [he]
    split
    · refine .noteChanged ?_ (he₂.trans (.modifySheet m₂ s _)) fun hnone => ?_
      · exact h₂.modifySheet_of_rules s (fun _ => rfl) fun _ => rfl
      · refine (hq₂ (h.not_visits_of_no_sheet hr hnone)).trans (.modifySheet_of_shown ?_)
        exact fun _ => rfl
    · rename_i hdead
      rw [Option.not_isSome_iff_eq_none, ← hm₂] at hdead
      exact .of_quiet h₂ he₂ (hq₂ (h.not_visits_of_attach hr hc hs hdead))

/-! ### New sheets -/

theorem Sound.isSpare_createSheet (h : m.Sound held) (hw : m.sheets.Unwrapped)
    (href : Option String) (media : String) (origin : Origin) :
    (m.createSheet href media origin).1.IsSpare held (m.createSheet href media origin).2 where
  live := by
    rw [h.sheet?_createSheet, if_pos rfl]
    rfl
  notHeld hs := h.sheets.not_issued_fresh hw _ (h.heldIssued _ hs)
  free := (h.createSheet hw href media origin).heldFree _ List.mem_cons_self

/-- An import is given a new sheet that nobody else has. -/
theorem IsSpare.edits_fill (hs : m.IsSpare held s) (h : m.Sound (s :: held)) (text : String)
    (r : RuleId) : m.Edits held ((do
      ModelM.replaceRules s text
      ModelM.attachImport r s : ModelM Unit).exec m).2 := by
  have hheld := h.held_subset (List.subset_cons_self s held)
  have he := hheld.edits_replaceRules s text
  have h' := (h.edits_replaceRules s text).sound
  rw [ModelM.exec_bind]
  cases hrun : (ModelM.replaceRules s text).exec m with
  | mk x m' =>
    rw [hrun] at he h'
    cases x with
    | error e => exact he
    | ok u =>
      simp only at he h' ⊢
      by_cases hlive : (m'.sheet? s).isSome
      · have hspare : m'.IsSpare held s :=
          ⟨hlive, hs.notHeld, h'.heldFree s List.mem_cons_self⟩
        exact he.trans (he.sound.edits_attachImport hspare r)
      · rw [Option.not_isSome_iff_eq_none] at hlive
        rw [ModelM.attachImport, ModelM.exec_sheet_bind, hlive]
        exact he

/-- Every edit leaves a sound model, and notes a change unless it made no difference to the sheets
that are held. -/
theorem Sound.edits_apply (h : m.Sound held) (e : Edit) (hw : (e.apply m).Unwrapped) :
    m.Edits held (e.apply m) := by
  cases e with
  | createSheet href media origin =>
    exact h.edits_createSheet (hw.of_evolves (.createSheet m href media origin)).sheets href media
      origin
  | setOwner s node title => exact h.edits_setOwner s node title
  | setDisabled s disabled => exact h.edits_setDisabled s disabled
  | replaceRules s text => exact h.edits_replaceRules s text
  | removeSheet s => exact h.edits_removeSheet s
  | insertRule c text index => exact h.edits_insertRule c text index
  | deleteRule c index => exact h.edits_deleteRule c index
  | setRuleText r text => exact h.edits_setRuleText r text hw
  | setSelectorText r text => exact h.edits_setSelectorText r text
  | updateBlock r f => exact h.edits_updateBlock r _
  | updateMedia o f => exact h.edits_updateMedia o _

end ObjectModel
end WebStyle
