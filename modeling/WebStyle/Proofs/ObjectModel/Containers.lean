import WebStyle.Proofs.ObjectModel.Visits
/-!
The rules of sheets and of media rules, and how their lists change.
-/
set_option autoImplicit false

namespace WebStyle

def RuleContainer.part : RuleContainer → ModelPart
  | .sheet s => .sheet s
  | .media r => .rule r

namespace ObjectModel

variable {m : ObjectModel} {held : List SheetId} {s : SheetId} {r : RuleId} {sheet : StyleSheet}
  {rule : Rule} {c : RuleContainer} {list : List RuleId} {x : Option SheetId}

theorem Sound.setRules (h : m.Sound held) (hs : m.sheet? s = some sheet) {ids : List RuleId}
    (hn : ids.Nodup)
    (hfree : ∀ x ∈ ids, x ∉ sheet.deleted ∧ ∀ p, .rule x ∈ m.ownedBy p → p = .sheet s)
    (hlive : ∀ x ∈ ids, ∃ y, m.rule? x = some y ∧ y.parentSheet = some s) :
    (m.modifySheet s fun sheet => { sheet with rules := ids }).Sound held := by
  have howned : m.ownedBy (.sheet s) = sheet.owned := by simp [ownedBy, hs]
  have hdeleted : ∀ x ∈ sheet.deleted, .rule x ∈ m.ownedBy (.sheet s) := by
    intro x hx
    rw [howned]
    simp [StyleSheet.owned, hx]
  refine h.modifySheet hs ?_ (fun q hq p hp => ?_) (fun x hx => ?_) fun x hx y hy => ?_
  · have hold := h.nodup (.sheet s)
    rw [howned] at hold
    have hdel : sheet.deleted.Nodup := (List.nodup_append.1 (List.Nodup.of_map _ hold)).2.1
    refine List.Nodup.map (fun _ _ hxy => ModelPart.rule.inj hxy)
      (List.nodup_append.2 ⟨hn, hdel, ?_⟩)
    rintro x hx _ hx' rfl
    exact (hfree x hx).1 hx'
  · simp only [StyleSheet.owned, List.mem_map, List.mem_append] at hq
    obtain ⟨x, hx | hx, rfl⟩ := hq
    · exact (hfree x hx).2 p hp
    · exact h.unique _ _ _ hp (hdeleted x hx)
  · simp only [StyleSheet.owned, List.mem_map, List.mem_append] at hx
    obtain ⟨x', hx', hxx⟩ := hx
    obtain rfl := ModelPart.rule.inj hxx
    rcases hx' with hx | hx
    · obtain ⟨y, hy, -⟩ := hlive x' hx
      simp [hy]
    · exact h.live _ x' (hdeleted x' hx)
  · obtain ⟨y', hy', hp⟩ := hlive x hx
    obtain rfl := Option.some.inj (hy.symm.trans hy')
    exact hp

/-- A rule that nothing owns may join those that were deleted from a sheet. -/
theorem Sound.deleted (h : m.Sound held) (hs : m.sheet? s = some sheet)
    (hfree : ∀ p, .rule r ∉ m.ownedBy p) (hlive : (m.rule? r).isSome) :
    (m.modifySheet s fun sheet => { sheet with deleted := sheet.deleted ++ [r] }).Sound held := by
  have howned : m.ownedBy (.sheet s) = sheet.owned := by simp [ownedBy, hs]
  have hmem : ∀ q, q ∈ ({ sheet with deleted := sheet.deleted ++ [r] } : StyleSheet).owned →
      q ∈ m.ownedBy (.sheet s) ∨ q = .rule r := by
    intro q hq
    rw [howned]
    simp only [StyleSheet.owned, List.mem_map, List.mem_append, List.mem_singleton] at hq ⊢
    obtain ⟨y, hy | hy | rfl, rfl⟩ := hq
    · exact .inl ⟨y, .inl hy, rfl⟩
    · exact .inl ⟨y, .inr hy, rfl⟩
    · exact .inr rfl
  refine h.modifySheet hs ?_ (fun q hq p hp => ?_) (fun y hy => ?_) (h.inSheet s sheet hs)
  · have hold := h.nodup (.sheet s)
    have hr := hfree (.sheet s)
    rw [howned] at hold hr
    have hsplit : ({ sheet with deleted := sheet.deleted ++ [r] } : StyleSheet).owned =
        sheet.owned ++ [.rule r] := by simp [StyleSheet.owned]
    rw [hsplit]
    refine List.nodup_append.2 ⟨hold, by simp, ?_⟩
    rintro q hq _ hq' rfl
    exact hr (List.mem_singleton.1 hq' ▸ hq)
  · rcases hmem q hq with hq | rfl
    · exact h.unique _ _ _ hp hq
    · exact absurd hp (hfree p)
  · rcases hmem _ hy with hy | hy
    · exact h.live _ y hy
    · rwa [ModelPart.rule.inj hy]

theorem rulesOf_sheet_eq_ok :
    m.rulesOf (.sheet s) = .ok list ↔ ∃ sheet, m.sheet? s = some sheet ∧ sheet.rules = list := by
  cases hs : m.sheet? s <;>
    simp [rulesOf, ObjectModel.sheet, live, hs, bind, Except.bind, pure, Except.pure]

theorem rulesOf_media_eq_ok : m.rulesOf (.media r) = .ok list ↔
    ∃ rule l, m.rule? r = some rule ∧ rule.content = .media l list := by
  cases hr : m.rule? r with
  | none => simp [rulesOf, ObjectModel.rule, live, hr, bind, Except.bind]
  | some rule =>
    cases hc : rule.content <;>
      simp [rulesOf, ObjectModel.rule, live, hr, hc, bind, Except.bind, pure, Except.pure, throw,
        throwThe, MonadExceptOf.throw]

theorem ownerSheet_sheet_eq_ok :
    m.ownerSheet (.sheet s) = .ok x ↔ (m.sheet? s).isSome ∧ x = some s := by
  cases hs : m.sheet? s <;>
    simp [ownerSheet, ObjectModel.sheet, live, hs, bind, Except.bind, pure, Except.pure, eq_comm]

theorem ownerSheet_media_eq_ok :
    m.ownerSheet (.media r) = .ok x ↔ ∃ rule, m.rule? r = some rule ∧ rule.parentSheet = x := by
  cases hr : m.rule? r <;>
    simp [ownerSheet, ObjectModel.rule, live, hr, bind, Except.bind, pure, Except.pure]

theorem modifyRule_eq_setContent {f : Rule → Rule} {content : RuleContent}
    (hr : m.rule? r = some rule) (hf : f rule = { rule with content }) :
    m.modifyRule r f = m.setContent r content := by
  simp only [modifyRule, setContent, Slots.modify, show m.rules.get? r = some rule from hr, hf]

/-- The rules of a media rule, changed. -/
theorem modifyRules_media {l : MediaList} {f : List RuleId → List RuleId}
    (hr : m.rule? r = some rule) (hc : rule.content = .media l list) :
    m.modifyRules f (.media r) = m.setContent r (.media l (f list)) :=
  modifyRule_eq_setContent hr (by simp [hc, RuleContent.withChildren])

theorem Evolves.modifyRules (m : ObjectModel) (f : List RuleId → List RuleId) (c : RuleContainer) :
    m.Evolves (m.modifyRules f c) := by
  cases c with
  | sheet s => exact .modifySheet m s _
  | media r => exact .modifyRule m r _

theorem Quiet.modifyRules {f : List RuleId → List RuleId} (h : ¬ m.Visits held c.part) :
    Quiet held m (m.modifyRules f c) := by
  cases c with
  | sheet s => exact .modifySheet h
  | media r => exact .modifyRule h

theorem mem_ownedBy_of_rulesOf (hl : m.rulesOf c = .ok list) {y : RuleId} (hy : y ∈ list) :
    .rule y ∈ m.ownedBy c.part := by
  cases c with
  | sheet s =>
    obtain ⟨sheet, hs, rfl⟩ := rulesOf_sheet_eq_ok.1 hl
    exact (mem_ownedBy_sheet hs).2 (by simp [StyleSheet.owned, hy])
  | media r =>
    obtain ⟨rule, l, hr, hc⟩ := rulesOf_media_eq_ok.1 hl
    exact (mem_ownedBy_rule hr).2 (by simp [hc, RuleContent.owned, hy])

theorem isLive_of_rulesOf (hl : m.rulesOf c = .ok list) : m.IsLive c.part := by
  cases c with
  | sheet s =>
    obtain ⟨sheet, hs, -⟩ := rulesOf_sheet_eq_ok.1 hl
    simp [RuleContainer.part, IsLive, hs]
  | media r =>
    obtain ⟨rule, l, hr, -⟩ := rulesOf_media_eq_ok.1 hl
    simp [RuleContainer.part, IsLive, hr]

/-- A container that loses rules comes to own nothing else. -/
theorem ownedBy_modifyRules_subset (hl : m.rulesOf c = .ok list) {f : List RuleId → List RuleId}
    (hf : f list ⊆ list) (p : ModelPart) : (m.modifyRules f c).ownedBy p ⊆ m.ownedBy p := by
  intro q hq
  cases c with
  | sheet s =>
    obtain ⟨sheet, hs, rfl⟩ := rulesOf_sheet_eq_ok.1 hl
    rw [modifyRules, ownedBy_modifySheet hs] at hq
    split at hq
    · rename_i hp
      rw [hp]
      refine (mem_ownedBy_sheet hs).2 ?_
      simp only [StyleSheet.owned, List.mem_map, List.mem_append] at hq ⊢
      obtain ⟨y, hy, rfl⟩ := hq
      exact ⟨y, hy.imp (fun hy => hf hy) id, rfl⟩
    · exact hq
  | media r =>
    obtain ⟨rule, l, hr, hc⟩ := rulesOf_media_eq_ok.1 hl
    rw [modifyRules_media hr hc, setContent, ownedBy_modifyRule hr] at hq
    split at hq
    · rename_i hp
      rw [hp]
      obtain ⟨y, hy, rfl⟩ := List.mem_map.1 hq
      exact (mem_ownedBy_rule hr).2 (RuleContent.mem_owned_rule.2 (by rw [hc]; exact hf hy))
    · exact hq

/-- Changed rules of a container are the rules that it owns, beside what was deleted from it. -/
theorem mem_ownedBy_modifyRules (hl : m.rulesOf c = .ok list) {f : List RuleId → List RuleId}
    {p : ModelPart} {y : RuleId} (hy : .rule y ∈ (m.modifyRules f c).ownedBy p) :
    p ≠ c.part ∧ .rule y ∈ m.ownedBy p ∨ p = c.part ∧ y ∈ f list ∨
      ∃ s sheet, c = .sheet s ∧ m.sheet? s = some sheet ∧ y ∈ sheet.deleted := by
  cases c with
  | sheet s =>
    obtain ⟨sheet, hs, rfl⟩ := rulesOf_sheet_eq_ok.1 hl
    rw [modifyRules, ownedBy_modifySheet hs] at hy
    split at hy
    · rename_i hp
      simp only [StyleSheet.owned, List.mem_map, List.mem_append, ModelPart.rule.injEq,
        exists_eq_right] at hy
      rcases hy with hy | hy
      · exact .inr (.inl ⟨hp, hy⟩)
      · exact .inr (.inr ⟨s, sheet, rfl, hs, hy⟩)
    · rename_i hp
      exact .inl ⟨hp, hy⟩
  | media r =>
    obtain ⟨rule, l, hr, hc⟩ := rulesOf_media_eq_ok.1 hl
    rw [modifyRules_media hr hc, setContent, ownedBy_modifyRule hr] at hy
    split at hy
    · rename_i hp
      exact .inr (.inl ⟨hp, by simpa [RuleContent.owned] using hy⟩)
    · rename_i hp
      exact .inl ⟨hp, hy⟩

section Containers

variable (h : m.Sound held) (hl : m.rulesOf c = .ok list) (hx : m.ownerSheet c = .ok x)
include h

include hl in
theorem Sound.nodup_rulesOf : list.Nodup := by
  cases c with
  | sheet s =>
    obtain ⟨sheet, hs, rfl⟩ := rulesOf_sheet_eq_ok.1 hl
    have hn := h.nodup (.sheet s)
    simp only [ownedBy, hs, Option.map_some, Option.getD_some, StyleSheet.owned] at hn
    exact (List.nodup_append.1 (List.Nodup.of_map _ hn)).1
  | media r =>
    obtain ⟨rule, l, hr, hc⟩ := rulesOf_media_eq_ok.1 hl
    have hn := h.nodup (.rule r)
    simp only [ownedBy, hr, Option.map_some, Option.getD_some, hc, RuleContent.owned] at hn
    exact List.Nodup.of_map _ hn

include hl hx in
/-- The rules of a container belong to its sheet. -/
theorem Sound.exists_rule_of_rulesOf {y : RuleId} (hy : y ∈ list) :
    ∃ rule, m.rule? y = some rule ∧ rule.parentSheet = x := by
  obtain ⟨rule, hrule⟩ := Option.isSome_iff_exists.1
    (h.live _ y (mem_ownedBy_of_rulesOf hl hy))
  refine ⟨rule, hrule, ?_⟩
  cases c with
  | sheet s =>
    obtain ⟨sheet, hs, rfl⟩ := rulesOf_sheet_eq_ok.1 hl
    obtain ⟨-, rfl⟩ := ownerSheet_sheet_eq_ok.1 hx
    exact h.inSheet s sheet hs y hy rule hrule
  | media r =>
    obtain ⟨outer, l, hr, hc⟩ := rulesOf_media_eq_ok.1 hl
    obtain ⟨outer', hr', rfl⟩ := ownerSheet_media_eq_ok.1 hx
    obtain rfl := Option.some.inj (hr.symm.trans hr')
    exact h.inMedia r outer hr y (by simp [hc, RuleContent.children, hy]) rule hrule

include hl in
/-- What is deleted from a container has no owner any more. -/
theorem Sound.not_owned_of_eraseIdx {index : Nat} (hr : list[index]? = some r) (p : ModelPart) :
    .rule r ∉ (m.modifyRules (·.eraseIdx index) c).ownedBy p := by
  intro hp
  have hmem : r ∈ list := List.mem_of_getElem? hr
  rcases mem_ownedBy_modifyRules hl hp with ⟨hne, hp⟩ | ⟨-, hp⟩ | ⟨s, sheet, rfl, hs, hd⟩
  · exact hne (h.unique _ _ _ hp (mem_ownedBy_of_rulesOf hl hmem))
  · obtain ⟨i, hi, hir⟩ := List.mem_eraseIdx_iff_getElem?.1 hp
    have hlt := (List.getElem?_eq_some_iff.1 hir).1
    exact hi ((List.getElem?_inj hlt (h.nodup_rulesOf hl)).1 (hir.trans hr.symm))
  · obtain ⟨sheet', hs', rfl⟩ := rulesOf_sheet_eq_ok.1 hl
    obtain rfl := Option.some.inj (hs.symm.trans hs')
    have hn := h.nodup (.sheet s)
    simp only [ownedBy, hs, Option.map_some, Option.getD_some, StyleSheet.owned] at hn
    exact (List.nodup_append.1 (List.Nodup.of_map _ hn)).2.2 r hmem r hd rfl

include hx in
/-- A container is not visited if the sheet is gone that its rules belong to. -/
theorem Sound.not_visits_container (hdead : ∀ s, x = some s → m.sheet? s = none) :
    ¬ m.Visits held c.part := by
  intro hv
  cases c with
  | sheet s =>
    obtain ⟨hs, rfl⟩ := ownerSheet_sheet_eq_ok.1 hx
    simp [hdead s rfl] at hs
  | media r =>
    obtain ⟨rule, hr, rfl⟩ := ownerSheet_media_eq_ok.1 hx
    obtain ⟨rule', s, hr', hps, -, hs⟩ := h.exists_sheet_of_visits_rule hv
    obtain rfl := Option.some.inj (hr.symm.trans hr')
    simp [hdead s hps] at hs

include hl hx in
/-- A container may get new rules of its sheet that nothing owns. -/
theorem Sound.modifyRules {f : List RuleId → List RuleId} (hn : (f list).Nodup)
    (hfree : ∀ y ∈ f list, y ∈ list ∨ ∀ p, .rule y ∉ m.ownedBy p)
    (hrule : ∀ y ∈ f list, ∃ rule, m.rule? y = some rule ∧ rule.parentSheet = x) :
    (m.modifyRules f c).Sound held := by
  have howner : ∀ y ∈ f list, ∀ p, .rule y ∈ m.ownedBy p → p = c.part := by
    intro y hy p hp
    rcases hfree y hy with hy | hy
    · exact h.unique _ _ _ hp (mem_ownedBy_of_rulesOf hl hy)
    · exact absurd hp (hy p)
  cases c with
  | sheet s =>
    obtain ⟨sheet, hs, rfl⟩ := rulesOf_sheet_eq_ok.1 hl
    obtain ⟨-, rfl⟩ := ownerSheet_sheet_eq_ok.1 hx
    have heq : m.modifyRules f (.sheet s) =
        m.modifySheet s fun y => { y with rules := f sheet.rules } := by
      simp only [ObjectModel.modifyRules, ObjectModel.modifySheet, Slots.modify,
        show m.sheets.get? s = some sheet from hs]
    rw [heq]
    refine h.setRules hs hn (fun y hy => ⟨fun hd => ?_, howner y hy⟩) hrule
    have hn' := h.nodup (.sheet s)
    simp only [ownedBy, hs, Option.map_some, Option.getD_some, StyleSheet.owned] at hn'
    rcases hfree y hy with hy | hy
    · exact (List.nodup_append.1 (List.Nodup.of_map _ hn')).2.2 y hy y hd rfl
    · exact hy (.sheet s) ((mem_ownedBy_sheet hs).2 (by simp [StyleSheet.owned, hd]))
  | media r =>
    obtain ⟨rule, l, hr, hc⟩ := rulesOf_media_eq_ok.1 hl
    obtain ⟨rule', hr', rfl⟩ := ownerSheet_media_eq_ok.1 hx
    obtain rfl := Option.some.inj (hr.symm.trans hr')
    rw [modifyRules_media hr hc]
    refine h.setContent hr ?_ (fun q hq p hp => ?_) hrule fun s hs => ?_
    · exact hn.map fun _ _ hxy => ModelPart.rule.inj hxy
    · obtain ⟨y, hy, rfl⟩ := List.mem_map.1 hq
      exact howner y hy p hp
    · simp [RuleContent.owned] at hs

include hl hx in
theorem Sound.eraseIdx (index : Nat) : (m.modifyRules (·.eraseIdx index) c).Sound held := by
  have hsub : ∀ y ∈ list.eraseIdx index, y ∈ list := fun y hy => List.mem_of_mem_eraseIdx hy
  exact h.modifyRules hl hx ((h.nodup_rulesOf hl).eraseIdx index) (fun y hy => .inl (hsub y hy))
    fun y hy => h.exists_rule_of_rulesOf hl hx (hsub y hy)

end Containers

theorem sheet?_modifyRules_isSome {f : List RuleId → List RuleId} :
    ((m.modifyRules f c).sheet? s).isSome = (m.sheet? s).isSome := by
  cases c with
  | media r => rfl
  | sheet s' =>
    rw [modifyRules, sheet?_modifySheet]
    split <;> simp

/-! ### The lists of all containers -/

/-- The list of a container depends on the container only. -/
theorem rulesOf_congr {m' : ObjectModel} (h : m.Untouched m' c.part) :
    m'.rulesOf c = m.rulesOf c := by
  cases c with
  | sheet s => simp only [rulesOf, ObjectModel.sheet, show m'.sheet? s = m.sheet? s from h]
  | media r => simp only [rulesOf, ObjectModel.rule, show m'.rule? r = m.rule? r from h]

theorem RuleContainer.part_injective {c d : RuleContainer} (h : c.part = d.part) : c = d := by
  cases c <;> cases d <;> cases h <;> rfl

theorem untouched_modifyRules {f : List RuleId → List RuleId} {p : ModelPart} (h : p ≠ c.part) :
    m.Untouched (m.modifyRules f c) p := by
  cases c with
  | sheet s =>
    cases p with
    | rule x => rfl
    | sheet t =>
      have hne : s ≠ t := fun heq => h (heq ▸ rfl)
      simp [Untouched, ObjectModel.modifyRules, sheet?_modifySheet, hne]
  | media r =>
    cases p with
    | sheet t => rfl
    | rule x =>
      have hne : r ≠ x := fun heq => h (heq ▸ rfl)
      simp [Untouched, ObjectModel.modifyRules, rule?_modifyRule, hne]

theorem rulesOf_modifyRules {f : List RuleId → List RuleId} (hl : m.rulesOf c = .ok list) :
    (m.modifyRules f c).rulesOf c = .ok (f list) := by
  cases c with
  | sheet s =>
    obtain ⟨sheet, hs, rfl⟩ := rulesOf_sheet_eq_ok.1 hl
    refine rulesOf_sheet_eq_ok.2 ⟨{ sheet with rules := f sheet.rules }, ?_, rfl⟩
    rw [modifyRules, sheet?_modifySheet, if_pos rfl, hs]
    rfl
  | media r =>
    obtain ⟨rule, l, hr, hc⟩ := rulesOf_media_eq_ok.1 hl
    refine rulesOf_media_eq_ok.2 ⟨{ rule with content := .media l (f list) }, l, ?_, rfl⟩
    rw [modifyRules_media hr hc, rule?_setContent, if_pos rfl, hr]
    rfl

/-- A rule whose list is changed stays where it is. -/
theorem exists_rule_of_modifyRules {f : List RuleId → List RuleId} (hr : m.rule? r = some rule) :
    ∃ y, (m.modifyRules f c).rule? r = some y ∧ y.parentRule = rule.parentRule ∧
      y.parentSheet = rule.parentSheet := by
  cases c with
  | sheet s => exact ⟨rule, hr, rfl, rfl⟩
  | media x =>
    rw [modifyRules, rule?_modifyRule, hr]
    split <;> exact ⟨_, rfl, rfl, rfl⟩

end ObjectModel
end WebStyle
