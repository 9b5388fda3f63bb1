import WebStyle.Proofs.ObjectModel.Lists
/-!
What requests make of a forest of sheets and rules: another one, or nothing at all where they are
refused. A sheet or rule that a request looks up again is still there, as nothing owns itself.
-/
set_option autoImplicit false

namespace WebStyle

theorem RuleContainer.rule?_part (c : RuleContainer) : c.part.rule? = c.rule? := by
  cases c <;> rfl

namespace ObjectModel

open Relation

variable {α : Type} {m m' : ObjectModel} {loose loose' : List RuleId} {p : ModelPart}
  {l : RuleList} {s : SheetId} {r x : RuleId} {sheet : StyleSheet} {rule : Rule}
  {c : RuleContainer} {list : List RuleId}

/-- What a request makes of a model, with what it answers. -/
structure Settles (m : ObjectModel) (result : Except ModelError α × ObjectModel) : Prop where
  forest : result.2.Forest []
  kept : ∀ e, result.1 = .error e → result.2 = m

namespace Settles

theorem refused (h : m.Forest []) (e : ModelError) :
    m.Settles ((.error e, m) : Except ModelError α × ObjectModel) :=
  ⟨h, fun _ _ => rfl⟩

theorem done (h : m'.Forest []) (a : α) : m.Settles (.ok a, m') :=
  ⟨h, by simp⟩

end Settles

theorem ComesFrom.transGen (hx : m.ComesFrom l x) : TransGen m.Owns l.owner (.rule x) := by
  induction hx with
  | listed hx => exact .single (mem_ownedBy_owner hx)
  | inner _ hx ih => exact ih.tail (mem_ownedBy_owner hx)

namespace Forest

theorem not_reaches_self (h : m.Forest loose) : ¬ m.Reaches (m.ownedBy p) p := by
  rintro ⟨q, hq, hqp⟩
  exact h.acyclic p (.head' hq hqp)

/-! ### Sheets -/

theorem settles_setOwner (h : m.Forest []) (s : SheetId) (node : Option NodeId)
    (title : Option String) : m.Settles ((ModelM.setOwner s node title).exec m) := by
  cases hs : m.sheet? s with
  | none =>
    rw [ModelM.setOwner, ModelM.exec_sheet_bind, hs]
    exact .refused h _
  | some sheet =>
    rw [ModelM.exec_setOwner_of_some hs]
    refine .done ?_ _
    exact h.modifySheet_of_rules s (fun _ => rfl) fun _ => rfl

theorem settles_setDisabled (h : m.Forest []) (s : SheetId) (disabled : Bool) :
    m.Settles ((ModelM.setDisabled s disabled).exec m) := by
  simp only [ModelM.setDisabled, ModelM.exec_sheet_bind]
  cases m.sheet? s with
  | none => exact .refused h _
  | some sheet =>
    simp only
    split
    · rw [ModelM.exec_modify_bind, ModelM.exec_noteChanged]
      refine .done (noteChanged ?_ _) _
      exact h.modifySheet_of_rules s (fun _ => rfl) fun _ => rfl
    · exact .done h _

theorem settles_removeSheet (h : m.Forest []) (s : SheetId) :
    m.Settles ((ModelM.removeSheet s).exec m) := by
  simp only [ModelM.removeSheet, ModelM.exec_sheet_bind]
  cases m.sheet? s with
  | none => exact .refused h _
  | some sheet => exact .done ((h.free (by simp) (by simp)).note _) _

/-- A sheet is not freed with its rules. -/
theorem sheet?_withoutRules (h : m.Forest loose) (hs : m.sheet? s = some sheet) :
    (m.withoutRules s sheet).sheet? s = some { sheet with rules := [], deleted := [] } := by
  have hsub : ∀ p, (m.modifySheet s fun sheet =>
      { sheet with rules := [], deleted := [] }).ownedBy p ⊆ m.ownedBy p := by
    intro p q hq
    rw [ownedBy_modifySheet hs] at hq
    split at hq
    · simp [StyleSheet.owned] at hq
    · exact hq
  have hno : ¬ (m.modifySheet s fun sheet => { sheet with rules := [], deleted := [] }).Reaches
      sheet.owned (.sheet s) := by
    intro hr
    refine h.not_reaches_self (p := .sheet s) ?_
    rw [ownedBy, hs]
    exact reaches_of_subset hsub hr
  have huntouched := (frees_free _ sheet.owned).other (.sheet s) hno
  refine Eq.trans huntouched ?_
  simp [sheet?_modifySheet, hs]

theorem withoutRules (h : m.Forest []) (hs : m.sheet? s = some sheet) :
    (m.withoutRules s sheet).Forest [] := by
  have h₁ : (m.modifySheet s fun sheet => { sheet with rules := [], deleted := [] }).Forest
      (sheet.rules ++ sheet.deleted) := by
    refine h.modifySheet hs (h.sound.clear hs) (by simp [StyleSheet.owned]) (by simp) fun x hx => ?_
    simpa [StyleSheet.owned] using hx
  refine h₁.free (fun r hr p => h.sound.not_owned_of_clear hs hr p) fun x hx => .inl ?_
  simpa [StyleSheet.owned] using hx

theorem settles_replaceRules (h : m.Forest []) (s : SheetId) (text : String) :
    m.Settles ((ModelM.replaceRules s text).exec m) := by
  cases hs : m.sheet? s with
  | none =>
    rw [ModelM.exec_replaceRules_of_none hs]
    exact .refused h _
  | some sheet =>
    have hsound := (h.sound.edits_replaceRules s text).sound
    have h₁ := h.withoutRules hs
    have hs₁ := h.sheet?_withoutRules hs
    have hg := h₁.grown_adoptAll (some s) none (SheetSource.ofString text).rules
    have ha : (m.withoutRules s sheet).Adopts [] (some s) _ _ :=
      adopts_adoptAll none (SheetSource.ofString text).rules h₁.sound
    have hs₂ := (ha.sheet?_eq s).trans hs₁
    rw [ModelM.exec_replaceRules_of_some hs rfl] at hsound ⊢
    rw [if_pos (by rw [hs₂]; rfl)] at hsound ⊢
    refine .done (note (hg.forest.modifySheet hs₂ (hsound.congr rfl rfl) (fun q hq => .inr ?_)
      (by simp) fun x hx => .inr ?_) _) _
    · simp only [StyleSheet.owned, List.append_nil, List.mem_map] at hq
      obtain ⟨x, hx, rfl⟩ := hq
      exact fits_of_adopts ha (p := .sheet s) (by simp [IsLive, hs₁]) hg.parent hx
    · simpa [StyleSheet.owned] using hx

/-! ### Rules -/

theorem modifyRules {f : List RuleId → List RuleId} (h : m.Forest loose)
    (hl : m.rulesOf c = .ok list) (hsound : (m.modifyRules f c).Sound [])
    (hjoin : ∀ x ∈ f list, x ∈ list ∨ m.Fits c.part (.rule x))
    (hleft : ∀ x, x ∈ loose ∨ x ∈ list → x ∈ loose' ∨ x ∈ f list) :
    (m.modifyRules f c).Forest loose' := by
  cases c with
  | sheet s =>
    obtain ⟨sheet, hs, rfl⟩ := rulesOf_sheet_eq_ok.1 hl
    refine h.modifySheet hs hsound (fun q hq => ?_) (fun x hx => .inl hx) fun x hx => ?_
    · simp only [StyleSheet.owned, List.mem_map, List.mem_append] at hq ⊢
      obtain ⟨x, hx | hx, rfl⟩ := hq
      · exact (hjoin x hx).imp (fun hx => ⟨x, .inl hx, rfl⟩) id
      · exact .inl ⟨x, .inr hx, rfl⟩
    · have hx' : x ∈ loose ∨ x ∈ sheet.rules ∨ x ∈ sheet.deleted := by
        simpa [StyleSheet.owned] using hx
      have hgoal : x ∈ loose' ∨ x ∈ f sheet.rules ∨ x ∈ sheet.deleted := by
        rcases hx' with hx | hx | hx
        · exact (hleft x (.inl hx)).imp id .inl
        · exact (hleft x (.inr hx)).imp id .inl
        · exact .inr (.inr hx)
      simpa [StyleSheet.owned] using hgoal
  | media r =>
    obtain ⟨rule, l, hr, hc⟩ := rulesOf_media_eq_ok.1 hl
    rw [modifyRules_media hr hc] at hsound ⊢
    refine h.setContent hr hsound (fun q hq => ?_) fun x hx => ?_
    · obtain ⟨x, hx, rfl⟩ := List.mem_map.1 hq
      rw [RuleContent.mem_owned_rule, hc]
      exact hjoin x hx
    · rw [hc] at hx
      exact hleft x hx

theorem settles_insertRule (h : m.Forest []) (c : RuleContainer) (text : String) (index : Nat) :
    m.Settles ((ModelM.insertRule c text index).exec m) := by
  have hsound := (h.sound.edits_insertRule c text index).sound
  rcases ModelM.exec_insertRule c text index with ⟨e, he⟩ | ⟨list, source, x, hl, hx, he⟩
  · rw [he]
    exact .refused h e
  · have ha : m.Adopts [] x _ _ := adopts_adoptAll c.rule? [source] h.sound
    have hg := h.grown_adoptAll x c.rule? [source]
    rw [he] at hsound ⊢
    refine .done (noteChanged (hg.forest.modifyRules (ha.rulesOf_eq hl) ?_ (fun y hy => ?_)
      fun y hy => .inr ?_) x) _
    · exact hsound.congr (by cases x <;> rfl) (by cases x <;> rfl)
    · simp only [List.mem_append] at hy
      rcases hy with (hy | hy) | hy
      · exact .inl (List.mem_of_mem_take hy)
      · refine .inr (fits_of_adopts ha (isLive_of_rulesOf hl) ?_ hy)
        rw [c.rule?_part]
        exact hg.parent
      · exact .inl (List.mem_of_mem_drop hy)
    · have hsplit := List.take_append_drop index list
      rw [← hsplit] at hy
      simp only [List.append_nil, List.mem_append] at hy ⊢
      tauto

/-- A rule that was taken out of a list does not lead to the sheet that it belonged to. -/
theorem settles_deleteRule (h : m.Forest []) (c : RuleContainer) (index : Nat) :
    m.Settles ((ModelM.deleteRule c index).exec m) := by
  have hsound := (h.sound.edits_deleteRule c index).sound
  rcases ModelM.exec_deleteRule c index with ⟨e, he⟩ | ⟨list, x, r, hl, hx, hr, he⟩
  · rw [he]
    exact .refused h e
  · have hmem : r ∈ list := List.mem_of_getElem? hr
    have hfree := h.sound.not_owned_of_eraseIdx hl hr
    have h₁ : (m.modifyRules (·.eraseIdx index) c).Forest [r] := by
      refine h.modifyRules hl (h.sound.eraseIdx hl hx index)
        (fun y hy => .inl (List.mem_of_mem_eraseIdx hy)) fun y hy => ?_
      have hy : y ∈ list := hy.resolve_left List.not_mem_nil
      by_cases hyr : y = r
      · exact .inl (by simp [hyr])
      · obtain ⟨i, hi, rfl⟩ := List.mem_iff_getElem.1 hy
        refine .inr (List.mem_eraseIdx_iff_getElem?.2 ⟨i, ?_, List.getElem?_eq_getElem hi⟩)
        rintro rfl
        rw [List.getElem?_eq_getElem hi] at hr
        exact hyr (Option.some.inj hr)
    rw [he] at hsound ⊢
    cases x with
    | none => exact .done (h₁.free (by simpa using hfree) (by simp)) _
    | some s =>
      have ho := (m.modifyRules (·.eraseIdx index) c).orphans_orphan r
      have h₂ := h₁.orphan hfree
      obtain ⟨rule, hrule, hparent⟩ := h.sound.exists_rule_of_rulesOf hl hx hmem
      have hlive : (((m.modifyRules (·.eraseIdx index) c).orphan r).sheet? s).isSome := by
        rw [ho.sheet?_eq, sheet?_modifyRules_isSome]
        exact h.isSome_parentSheet hrule hparent
      obtain ⟨sheet, hs⟩ := Option.isSome_iff_exists.1 hlive
      have horphan : ∀ y, ((m.modifyRules (·.eraseIdx index) c).orphan r).rule? r = some y →
          y.parentRule = none ∧ y.parentSheet = none := by
        intro y hy
        obtain ⟨y₀, -, -, hrule, hsheet⟩ := ho.rule r y hy
        exact ⟨by simp [hrule], by simp [hsheet]⟩
      -- the sheet leads to the rule, so that the rule does not lead back
      have hno : ¬ ReflTransGen ((m.modifyRules (·.eraseIdx index) c).orphan r).Owns (.rule r)
          (.sheet s) := by
        intro hback
        have hfrom := ((h.parentSheet_eq_some_iff hrule).1 hparent).transGen
        refine h.acyclic (.sheet s) (hfrom.trans_left (ReflTransGen.mono ?_ _ _ hback))
        intro a b hab
        rw [Owns, ho.ownedBy_eq] at hab
        exact ownedBy_modifyRules_subset hl (fun _ hy => List.mem_of_mem_eraseIdx hy) a hab
      simp only [hlive, ↓reduceIte] at hsound ⊢
      refine .done (note (h₂.modifySheet hs (hsound.congr rfl rfl) (fun q hq => ?_) (fun y hy => ?_)
        fun y hy => .inr ?_) _) _
      · have hq' : q ∈ sheet.owned ∨ q = .rule r := by
          simp only [StyleSheet.owned, List.mem_map, List.mem_append, List.mem_singleton] at hq ⊢
          obtain ⟨y, hy | hy | rfl, rfl⟩ := hq
          · exact .inl ⟨y, .inl hy, rfl⟩
          · exact .inl ⟨y, .inr hy, rfl⟩
          · exact .inr rfl
        rcases hq' with hq | rfl
        · exact .inl hq
        · refine .inr ⟨hno, ?_⟩
          rintro _ y ⟨⟩ hy
          exact (horphan y hy).1
      · rcases List.mem_append.1 hy with hy | hy
        · exact .inl hy
        · obtain rfl := List.mem_singleton.1 hy
          exact .inr fun y hy => (horphan y hy).2
      · rcases hy with hy | hy
        · simp [StyleSheet.owned, List.mem_singleton.1 hy]
        · simp only [StyleSheet.owned, List.mem_map, List.mem_append, ModelPart.rule.injEq,
            exists_eq_right] at hy ⊢
          tauto

/-- A rule is not freed with what it owns. -/
theorem rule?_emptied (h : m.Forest loose) (hr : m.rule? r = some rule) :
    (m.emptied r rule).rule? r = some { rule with content := .placeholder } := by
  have hno : ¬ (m.setContent r .placeholder).Reaches rule.content.owned (.rule r) := by
    intro hreach
    refine h.not_reaches_self (p := .rule r) ?_
    rw [ownedBy, hr]
    exact reaches_of_subset (ownedBy_placeholder_subset hr) hreach
  refine Eq.trans ((frees_free _ rule.content.owned).other (.rule r) hno) ?_
  rw [rule?_setContent, if_pos rfl, hr]
  rfl

theorem emptied (h : m.Forest []) (hr : m.rule? r = some rule) : (m.emptied r rule).Forest [] := by
  have h₁ : (m.setContent r .placeholder).Forest rule.content.children := by
    refine h.setContent hr (h.sound.placeholder hr) (by simp [RuleContent.placeholder,
      RuleContent.owned]) fun x hx => .inl (hx.resolve_left List.not_mem_nil)
  refine h₁.free (fun x hx p hp => ?_) fun x hx => .inl (RuleContent.mem_owned_rule.2 hx)
  rw [ObjectModel.setContent, ownedBy_modifyRule hr] at hp
  split at hp
  · simp [RuleContent.placeholder, RuleContent.owned] at hp
  · rename_i hne
    exact hne (h.sound.unique _ _ _ hp ((mem_ownedBy_rule hr).2 hx))

theorem settles_setRuleText (h : m.Forest []) (r : RuleId) (text : String) :
    m.Settles ((ModelM.setRuleText r text).exec m) := by
  rcases ModelM.exec_setRuleText text (m := m) (r := r) with
    ⟨e, he⟩ | ⟨rule, source, m₂, content, hr, -, hb, he⟩
  · rw [he]
    exact .refused h e
  · have h₁ := h.emptied hr
    have hr₁ := h.rule?_emptied hr
    have hg := h₁.grown_build rule.parentSheet source r
    have hbuilds := h.sound.builds_emptied hr hb
    rw [show (m.emptied r rule).build rule.parentSheet r source = (m₂, content) from hb] at hg
    have hr₂ := hbuilds.adopts.kept r _ hr₁
    rw [he, if_pos (by rw [hr₂]; rfl)]
    have hset := setBuilt hg hbuilds (by simp [hr₁]) hr₂ rfl rfl
    exact .done ((hset.noteImport _ _ _).noteChanged _) _

theorem settles_setSelectorText (h : m.Forest []) (r : RuleId) (text : String) :
    m.Settles ((ModelM.setSelectorText r text).exec m) := by
  simp only [ModelM.setSelectorText, ModelM.exec_rule_bind]
  cases hr : m.rule? r with
  | none => exact .refused h _
  | some rule =>
    simp only
    cases hc : rule.content with
    | style selectors block =>
      simp only
      cases SelectorList.ofString? text with
      | none => exact .done h _
      | some new => exact .done ((h.setContent_of_owned hr (by rw [hc]; rfl)).noteChanged _) _
    | media l rules => exact .refused h _
    | importing href l sheet => exact .refused h _
    | fontFace block => exact .refused h _
    | page selector block => exact .refused h _

theorem settles_updateBlock (h : m.Forest []) (r : RuleId)
    (f : DeclarationBlock → DeclarationBlock × α) :
    m.Settles ((ModelM.updateBlock r f).exec m) := by
  simp only [ModelM.updateBlock]
  cases hb : m.block r with
  | error e =>
    rw [ModelM.exec_ask_bind_error hb]
    exact .refused h e
  | ok block =>
    rw [ModelM.exec_ask_bind_ok hb, ModelM.exec_rule_bind]
    cases hr : m.rule? r with
    | none => exact .refused h _
    | some rule =>
      exact .done ((h.setContent_of_owned hr (owned_withBlock _ _)).noteChanged _) _

theorem settles_updateMedia (h : m.Forest []) (o : MediaOwner)
    (f : MediaList → MediaList × α) : m.Settles ((ModelM.updateMedia o f).exec m) := by
  simp only [ModelM.updateMedia]
  cases hl : m.media o with
  | error e =>
    rw [ModelM.exec_ask_bind_error hl]
    exact .refused h e
  | ok l =>
    rw [ModelM.exec_ask_bind_ok hl]
    cases o with
    | sheet s =>
      refine .done (noteChanged ?_ (some s)) _
      exact h.modifySheet_of_rules s (fun _ => rfl) fun _ => rfl
    | rule r =>
      simp only [ModelM.exec_rule_bind]
      cases hr : m.rule? r with
      | none => exact .refused h _
      | some rule =>
        exact .done ((h.setContent_of_owned hr (owned_withMedia _ _)).noteChanged _) _

end Forest

/-! ### Imports -/

/-- Whether an import may be given a sheet: nothing has it, and it does not hold the import. -/
structure IsAttachable (m : ObjectModel) (r : RuleId) (s : SheetId) : Prop where
  spare : m.IsSpare [] s
  apart : ¬ m.Reaches [.sheet s] (.rule r)

/-- A new sheet holds nothing. -/
theorem Forest.isAttachable_createSheet (h : m.Forest loose) (hw : m.sheets.Unwrapped)
    (href : Option String) (media : String) (origin : Origin) (r : RuleId) :
    (m.createSheet href media origin).1.IsAttachable r (m.createSheet href media origin).2 := by
  refine ⟨h.sound.isSpare_createSheet hw href media origin, ?_⟩
  rintro ⟨_, ha, hpath⟩
  obtain rfl := List.mem_singleton.1 ha
  rcases ReflTransGen.cases_head hpath with heq | ⟨q, hq, -⟩
  · exact ModelPart.noConfusion heq
  · rw [h.sound.ownedBy_createSheet] at hq
    exact absurd (isLive_of_mem_ownedBy hq) (by simp [IsLive, h.sound.sheet?_fresh])

namespace IsAttachable

variable {href : String} {media : MediaList} {old : Option SheetId}
  (hs : m.IsAttachable r s) (hr : m.rule? r = some rule)
include hs hr

theorem owns_of_owns {q q' : ModelPart}
    (hq : (m.setContent r (.importing href media (some s))).Owns q q') :
    m.Owns q q' ∨ q = .rule r ∧ ¬ ReflTransGen m.Owns q' (.rule r) := by
  rw [Owns, ObjectModel.setContent, ownedBy_modifyRule hr] at hq
  split at hq
  · obtain rfl : q' = .sheet s := by simpa [RuleContent.owned] using hq
    exact .inr ⟨by assumption, fun hback => hs.apart ⟨_, List.mem_singleton_self _, hback⟩⟩
  · exact .inl hq

theorem forest_setContent (h : m.Forest []) (hc : rule.content = .importing href media old) :
    (m.setContent r (.importing href media (some s))).Forest [] := by
  refine h.setContent hr (hs.spare.sound_setContent h.sound hr href media) (fun q hq => .inr ?_)
    (by simp [hc, RuleContent.children])
  obtain rfl : q = .sheet s := by simpa [RuleContent.owned] using hq
  refine ⟨fun hback => hs.apart ⟨_, List.mem_singleton_self _, hback⟩, ?_⟩
  rintro x y ⟨⟩

/-- The sheet that an import had does not lead to the one that it gets. -/
theorem not_reaches_old (h : m.Forest []) (hc : rule.content = .importing href media old) :
    ¬ (m.setContent r (.importing href media (some s))).Reaches
      ((old.filter (· != s)).toList.map .sheet) (.sheet s) := by
  rintro ⟨p, hp, hpath⟩
  simp only [List.mem_map, Option.mem_toList, Option.filter_eq_some_iff, bne_iff_ne] at hp
  obtain ⟨x, ⟨rfl, hx⟩, rfl⟩ := hp
  rcases ReflTransGen.cases_tail hpath with heq | ⟨b, hb, hbs⟩
  · exact hx (ModelPart.sheet.inj heq).symm
  · rcases hs.owns_of_owns hr hbs with hbs | ⟨rfl, -⟩
    · exact hs.spare.free b hbs
    · have hback := reaches_of_new (fun _ _ => hs.owns_of_owns hr) hb
      have hold : m.Owns (.rule r) (.sheet x) :=
        (mem_ownedBy_rule hr).2 (by simp [hc, RuleContent.owned])
      exact h.acyclic _ (.head' hold hback)

end IsAttachable

theorem Forest.settles_attachImport (h : m.Forest []) (hs : m.IsAttachable r s) :
    m.Settles ((ModelM.attachImport r s).exec m) := by
  rcases ModelM.exec_attachImport (m := m) (r := r) (s := s) with
    ⟨e, he⟩ | ⟨sheet, rule, href, media, old, m₂, hsheet, hr, hc, rfl, he⟩
  · rw [he]
    exact .refused h e
  · have h₁ := hs.forest_setContent hr h hc
    have hsame := (frees_free _ _).other (.sheet s) (hs.not_reaches_old hr h hc)
    have hlive : (((m.setContent r (.importing href media (some s))).free
        ((old.filter (· != s)).toList.map .sheet)).sheet? s).isSome := by
      rw [show ObjectModel.sheet? _ s = _ from hsame]
      simp [hsheet]
    rw [he, if_pos hlive]
    refine .done (Forest.noteChanged ?_ rule.parentSheet) _
    exact (h₁.free (by simp) (by simp)).modifySheet_of_rules s (fun _ => rfl) fun _ => rfl

/-! ### Runs -/

/-- Why a request is refused, if it is. -/
def refusal? (m : ObjectModel) (f : ModelM α) : Option ModelError :=
  match (f.exec m).1 with
  | .ok _ => none
  | .error e => some e

/-- Why an edit is refused, if it is. -/
def Edit.refusal? (m : ObjectModel) : Edit → Option ModelError
  | .createSheet href media origin => m.refusal? (ModelM.createSheet href media origin)
  | .setOwner s node title => m.refusal? (ModelM.setOwner s node title)
  | .setDisabled s disabled => m.refusal? (ModelM.setDisabled s disabled)
  | .replaceRules s text => m.refusal? (ModelM.replaceRules s text)
  | .removeSheet s => m.refusal? (ModelM.removeSheet s)
  | .insertRule c text index => m.refusal? (ModelM.insertRule c text index)
  | .deleteRule c index => m.refusal? (ModelM.deleteRule c index)
  | .setRuleText r text => m.refusal? (ModelM.setRuleText r text)
  | .setSelectorText r text => m.refusal? (ModelM.setSelectorText r text)
  | .updateBlock r f => m.refusal? (ModelM.updateBlock r fun b => (f b, ()))
  | .updateMedia o f => m.refusal? (ModelM.updateMedia o fun l => (f l, ()))

theorem Settles.eq_of_refusal {f : ModelM α} (h : m.Settles (f.exec m)) {e : ModelError}
    (he : m.refusal? f = some e) : (f.exec m).2 = m := by
  simp only [refusal?] at he
  split at he
  · simp at he
  · rename_i e' herror
    exact h.kept e' herror

theorem Forest.edit (h : m.Forest []) (e : Edit) :
    (e.apply m).Forest [] ∧ ∀ error, e.refusal? m = some error → e.apply m = m := by
  have done : ∀ {β : Type} {f : ModelM β}, m.Settles (f.exec m) → (f.exec m).2.Forest [] ∧
      ∀ error, m.refusal? f = some error → (f.exec m).2 = m :=
    fun hs => ⟨hs.forest, fun _ he => hs.eq_of_refusal he⟩
  cases e with
  | createSheet href media origin => exact done (.done (h.createSheet href media origin) _)
  | setOwner s node title => exact done (h.settles_setOwner s node title)
  | setDisabled s disabled => exact done (h.settles_setDisabled s disabled)
  | replaceRules s text => exact done (h.settles_replaceRules s text)
  | removeSheet s => exact done (h.settles_removeSheet s)
  | insertRule c text index => exact done (h.settles_insertRule c text index)
  | deleteRule c index => exact done (h.settles_deleteRule c index)
  | setRuleText r text => exact done (h.settles_setRuleText r text)
  | setSelectorText r text => exact done (h.settles_setSelectorText r text)
  | updateBlock r f => exact done (h.settles_updateBlock r _)
  | updateMedia o f => exact done (h.settles_updateMedia o _)

/-- The models that come about by edits, and by imports that get sheets of their own. -/
inductive Built (compatibility : Compatibility) : ObjectModel → Prop where
  | empty : Built compatibility (empty compatibility)
  | edit {m : ObjectModel} (h : Built compatibility m) (e : Edit) : Built compatibility (e.apply m)
  | attach {m : ObjectModel} {r : RuleId} {s : SheetId} (h : Built compatibility m)
      (hs : m.IsAttachable r s) : Built compatibility ((ModelM.attachImport r s).exec m).2
  | takeChanges {m : ObjectModel} (h : Built compatibility m) : Built compatibility m.takeChanges.2

theorem Built.edits {compatibility : Compatibility} (h : Built compatibility m) (l : List Edit) :
    Built compatibility (l.foldl Edit.apply m) := by
  induction l generalizing m with
  | nil => exact h
  | cons e l ih => exact ih (h.edit e)

theorem Built.forest {compatibility : Compatibility} (h : Built compatibility m) : m.Forest [] := by
  induction h with
  | empty => exact forest_empty compatibility
  | edit _ e ih => exact (ih.edit e).1
  | attach _ hs ih => exact (ih.settles_attachImport hs).forest
  | takeChanges _ ih => exact ih.congr rfl rfl

/-! ### Refusals -/

/-- As long as imports only get sheets of their own, what is refused changes nothing. -/
theorem Built.unchanged_of_refusal {compatibility : Compatibility} (h : Built compatibility m) :
    (∀ (e : Edit) (error : ModelError), e.refusal? m = some error → e.apply m = m) ∧
      ∀ (r : RuleId) (s : SheetId) (error : ModelError), m.IsAttachable r s →
        m.refusal? (ModelM.attachImport r s) = some error →
          ((ModelM.attachImport r s).exec m).2 = m :=
  ⟨fun e => (h.forest.edit e).2,
    fun _ _ _ hs he => (h.forest.settles_attachImport hs).eq_of_refusal he⟩

/-- A sheet with an import that has no sheet. -/
def opened : ObjectModel :=
  [Edit.createSheet none "" .author, .replaceRules ⟨0, 0⟩ "@import 'a';"].foldl Edit.apply
    (empty .full)

theorem deleteRule_opened_refused :
    (Edit.deleteRule (.sheet ⟨0, 0⟩) 1).refusal? opened = some (.indexOutside 1 1) ∧
      (Edit.deleteRule (.sheet ⟨0, 0⟩) 1).apply opened = opened := by
  have hrefused : (Edit.deleteRule (.sheet ⟨0, 0⟩) 1).refusal? opened =
    some (.indexOutside 1 1) := by
    decide +kernel
  have hopened : Built .full opened := Built.empty.edits _
  exact ⟨hrefused, hopened.unchanged_of_refusal.1 _ _ hrefused⟩

/-- A sheet that imports itself. -/
def looped : ObjectModel := ((ModelM.attachImport ⟨0, 0⟩ ⟨0, 0⟩).exec opened).2

/-- The sheet is freed with its old rules, so that there is none to put the new ones into. -/
theorem replaceRules_looped_refused_late :
    (looped.sheet? ⟨0, 0⟩).isSome ∧
      (Edit.replaceRules ⟨0, 0⟩ "p \x7b\x7d").refusal? looped = some .stale ∧
      ((Edit.replaceRules ⟨0, 0⟩ "p \x7b\x7d").apply looped).sheet? ⟨0, 0⟩ = none := by
  decide +kernel

end ObjectModel
end WebStyle
