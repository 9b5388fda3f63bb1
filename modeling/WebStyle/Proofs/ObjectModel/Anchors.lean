import WebStyle.Proofs.ObjectModel.Deallocation
import WebStyle.Proofs.ObjectModel.Sources
/-!
Imported sheets lie within the sheets that they were imported by, also where the import was deleted
meanwhile. Sheets hold what they held, at any depth, unless it is freed.
-/
set_option autoImplicit false

namespace WebStyle
namespace ObjectModel

open Relation

variable {m m' m'' : ObjectModel} {ps : List ModelPart} {p q : ModelPart} {s : SheetId}
  {r x : RuleId} {sheet : StyleSheet} {rule : Rule} {c : RuleContainer} {list : List RuleId}

/-! ### Growing -/

/-- What a container owns is still owned there, unless it is taken out of the list. -/
theorem owns_modifyRules {f : List RuleId → List RuleId} (hl : m.rulesOf c = .ok list)
    (hq : m.Owns p q) (hf : ∀ y ∈ list, q = .rule y → y ∈ f list) :
    (m.modifyRules f c).Owns p q := by
  cases c with
  | sheet s =>
    obtain ⟨sheet, hs, rfl⟩ := rulesOf_sheet_eq_ok.1 hl
    rw [Owns, modifyRules, ownedBy_modifySheet hs]
    split
    · rename_i hp
      rw [Owns, hp, mem_ownedBy_sheet hs] at hq
      simp only [StyleSheet.owned, List.mem_map, List.mem_append] at hq ⊢
      obtain ⟨y, hy, rfl⟩ := hq
      exact ⟨y, hy.imp (fun hy => hf y hy rfl) id, rfl⟩
    · exact hq
  | media r =>
    obtain ⟨rule, l, hr, hc⟩ := rulesOf_media_eq_ok.1 hl
    rw [Owns, modifyRules_media hr hc, setContent, ownedBy_modifyRule hr]
    split
    · rename_i hp
      rw [Owns, hp, mem_ownedBy_rule hr, hc] at hq
      obtain ⟨y, hy, rfl⟩ := List.mem_map.1 hq
      exact List.mem_map.2 ⟨y, hf y hy rfl, rfl⟩
    · exact hq

theorem mem_eraseIdx_of_ne {index : Nat} (hr : list[index]? = some r) (hx : x ∈ list)
    (hne : x ≠ r) : x ∈ list.eraseIdx index := by
  obtain ⟨i, hi⟩ := List.mem_iff_getElem?.1 hx
  refine List.mem_eraseIdx_iff_getElem?.2 ⟨i, ?_, hi⟩
  rintro rfl
  exact hne (Option.some.inj (hi.symm.trans hr))

/-- Whether nothing is given up. -/
def OwnsMore (m m' : ObjectModel) : Prop := ∀ p, m.ownedBy p ⊆ m'.ownedBy p

namespace OwnsMore

theorem refl (m : ObjectModel) : m.OwnsMore m := fun _ => List.Subset.refl _

theorem trans (h : m.OwnsMore m') (h' : m'.OwnsMore m'') : m.OwnsMore m'' :=
  fun p => List.Subset.trans (h p) (h' p)

theorem note (m : ObjectModel) (c : Change) : m.OwnsMore (m.note c) := by
  intro p
  cases p <;> exact List.Subset.refl _

theorem noteChanged (m : ObjectModel) (x : Option SheetId) : m.OwnsMore (m.noteChanged x) := by
  cases x with
  | none => exact .refl m
  | some s => exact .note m _

theorem modifySheet {f : StyleSheet → StyleSheet} (hf : ∀ sheet, sheet.owned ⊆ (f sheet).owned) :
    m.OwnsMore (m.modifySheet s f) := by
  cases hs : m.sheet? s with
  | none =>
    have hsame : m.modifySheet s f = m := by rw [ObjectModel.modifySheet, Slots.modify_of_none hs]
    rw [hsame]
    exact .refl m
  | some sheet =>
    intro p q hq
    rw [ownedBy_modifySheet hs]
    split
    · rename_i hp
      rw [hp] at hq
      exact hf sheet ((mem_ownedBy_sheet hs).1 hq)
    · exact hq

theorem setContent (hr : m.rule? r = some rule) {content : RuleContent}
    (hc : rule.content.owned ⊆ content.owned) : m.OwnsMore (m.setContent r content) := by
  intro p q hq
  rw [ObjectModel.setContent, ownedBy_modifyRule hr]
  split
  · rename_i hp
    rw [hp] at hq
    exact hc ((mem_ownedBy_rule hr).1 hq)
  · exact hq

theorem modifyRules {f : List RuleId → List RuleId} (hl : m.rulesOf c = .ok list)
    (hf : list ⊆ f list) : m.OwnsMore (m.modifyRules f c) :=
  fun _ _ hq => owns_modifyRules hl hq fun _ hy _ => hf hy

theorem of_adopts {held : List SheetId} {parent : Option SheetId} {ids : List RuleId}
    (ha : m.Adopts held parent m' ids) : m.OwnsMore m' := by
  intro p q hq
  have hlive := isLive_of_mem_ownedBy hq
  cases p with
  | sheet s =>
    have hsame : m.Untouched m' (.sheet s) := ha.sheet?_eq s
    rwa [hsame.ownedBy]
  | rule x =>
    obtain ⟨y, hy⟩ := Option.isSome_iff_exists.1 hlive
    have hsame : m.Untouched m' (.rule x) := (ha.kept x y hy).trans hy.symm
    rwa [hsame.ownedBy]

end OwnsMore

/-! ### Holding -/

/-- Whether sheets hold what they held, at any depth, unless it is gone. -/
def Holds (m m' : ObjectModel) : Prop := ∀ (s : SheetId) (q : ModelPart),
  ReflTransGen m.Owns (.sheet s) q → m'.IsLive q → ReflTransGen m'.Owns (.sheet s) q

theorem OwnsMore.holds (h : m.OwnsMore m') : m.Holds m' :=
  fun _ _ hpath _ => ReflTransGen.mono (fun a _ hb => h a hb) _ _ hpath

/-- Nothing that is left was held through something that is gone. -/
theorem Deallocates.holds (h : Deallocates ps p m m') (hp : ∀ b ∈ m.ownedBy p, m.Reaches ps b) :
    m.Holds m' := by
  intro s q hpath
  induction hpath with
  | refl => exact fun _ => .refl
  | @tail b c _ hbc ih =>
    intro hlive
    have hno : ¬ m.Reaches ps b := fun ⟨a, ha, hab⟩ => h.gone c ⟨a, ha, hab.tail hbc⟩ hlive
    have hb : b ≠ p := by
      rintro rfl
      exact h.gone c (hp c hbc) hlive
    have hb' := isLive_of_mem_ownedBy hbc
    refine (ih (h.left b hb' hno)).tail ?_
    rwa [Owns, (h.same b hb' hno hb).ownedBy]

/-- Ways to what is left are left. -/
theorem Frees.reaches_of_left (h : m.Frees m' ps) (hno : ¬ m.Reaches ps q)
    (hpath : ReflTransGen m.Owns p q) : ReflTransGen m'.Owns p q := by
  induction hpath with
  | refl => exact .refl
  | @tail b c _ hbc ih =>
    have hb : ¬ m.Reaches ps b := fun ⟨a, ha, hab⟩ => hno ⟨a, ha, hab.tail hbc⟩
    refine (ih hb).tail ?_
    rwa [Owns, (h.other b hb).ownedBy]

/-- What leads to a rule that comes from a sheet leads to the sheet, unless it is inside. -/
theorem Sound.reaches_sheet_of_comesFrom {held : List SheetId} {t : SheetId} {l : RuleList}
    (h : m.Sound held) (hx : m.ComesFrom l x) (hl : l.owner = .sheet s)
    (hpath : ReflTransGen m.Owns (.sheet t) (.rule x)) :
    ReflTransGen m.Owns (.sheet t) (.sheet s) := by
  -- the way to a rule passes its owner
  have hback : ∀ {l' : RuleList} {y : RuleId}, y ∈ m.listed l' →
      ReflTransGen m.Owns (.sheet t) (.rule y) → ReflTransGen m.Owns (.sheet t) l'.owner := by
    intro l' y hy hpath
    rcases ReflTransGen.cases_tail hpath with heq | ⟨b, hb, hby⟩
    · exact ModelPart.noConfusion heq
    · rwa [h.unique _ _ _ hby (mem_ownedBy_owner hy)] at hb
  induction hx with
  | listed hx => exact hl ▸ hback hx hpath
  | inner _ hx ih => exact ih (hback hx hpath)

/-- What was reached before a rule was taken out of its list is still reached, or it was reached
through the rule. -/
theorem reaches_of_taken (hedge : ∀ a b, m.Owns a b → b = .rule r ∨ m'.Owns a b)
    (hpath : ReflTransGen m.Owns p q) : ReflTransGen m'.Owns p q ∨
      ReflTransGen m.Owns p (.rule r) ∧ ReflTransGen m.Owns (.rule r) q := by
  induction hpath with
  | refl => exact .inl .refl
  | @tail b c hab hbc ih =>
    rcases hedge b c hbc with rfl | hbc'
    · exact .inr ⟨hab.tail hbc, .refl⟩
    · exact ih.imp (·.tail hbc') fun ⟨hr, hb⟩ => ⟨hr, hb.tail hbc⟩

/-- A rule that is deleted moves from its list to its sheet. -/
theorem Forest.holds_deleteRule (h : m.Forest []) (c : RuleContainer) (index : Nat) :
    m.Holds ((ModelM.deleteRule c index).exec m).2 := by
  rcases ModelM.exec_deleteRule c index with ⟨e, he⟩ | ⟨list, x, r, hl, hx, hr, he⟩
  · rw [he]
    exact (OwnsMore.refl m).holds
  have hmem : r ∈ list := List.mem_of_getElem? hr
  have hedge : ∀ a b, m.Owns a b → b = .rule r ∨ (m.modifyRules (·.eraseIdx index) c).Owns a b := by
    intro a b hab
    refine or_iff_not_imp_left.2 fun hb => owns_modifyRules hl hab fun y hy heq => ?_
    exact mem_eraseIdx_of_ne hr hy fun hyr => hb (heq.trans (hyr ▸ rfl))
  -- nothing leads back from the rule, so that it holds what it held
  have hinner : ∀ q, ReflTransGen m.Owns (.rule r) q →
      ReflTransGen (m.modifyRules (·.eraseIdx index) c).Owns (.rule r) q := by
    intro q hpath
    induction hpath with
    | refl => exact .refl
    | @tail b q hb hbq ih =>
      rcases hedge b q hbq with rfl | hbq'
      · exact absurd (TransGen.tail' hb hbq) (h.acyclic _)
      · exact ih.tail hbq'
  intro s q hpath
  rw [he]
  cases x with
  | none =>
    have hf := (m.modifyRules (·.eraseIdx index) c).frees_free [.rule r]
    intro hlive
    have hno : ¬ (m.modifyRules (·.eraseIdx index) c).Reaches [.rule r] q :=
      fun hq => hf.dead q hq hlive
    rcases reaches_of_taken hedge hpath with hpath | ⟨-, hrq⟩
    · exact hf.reaches_of_left hno hpath
    · exact absurd ⟨_, List.mem_singleton_self _, hinner q hrq⟩ hno
  | some t =>
    have ho := (m.modifyRules (·.eraseIdx index) c).orphans_orphan r
    obtain ⟨rule, hrule, hparent⟩ := h.sound.exists_rule_of_rulesOf hl hx hmem
    have hfrom := (h.parentSheet_eq_some_iff hrule).1 hparent
    have hlive : (((m.modifyRules (·.eraseIdx index) c).orphan r).sheet? t).isSome := by
      rw [ho.sheet?_eq, sheet?_modifyRules_isSome]
      exact h.isSome_parentSheet hrule hparent
    simp only [hlive, ↓reduceIte]
    obtain ⟨sheet, hs⟩ := Option.isSome_iff_exists.1 hlive
    generalize (m.modifyRules (·.eraseIdx index) c).orphan r = m₂ at *
    have hmore : m₂.OwnsMore ((m₂.modifySheet t fun sheet =>
        { sheet with deleted := sheet.deleted ++ [r] }).note (.changed t)) := by
      refine OwnsMore.trans (.modifySheet fun sheet q hq => ?_) (.note _ _)
      simp only [StyleSheet.owned, List.mem_map, List.mem_append] at hq ⊢
      obtain ⟨y, hy, rfl⟩ := hq
      exact ⟨y, hy.imp id .inl, rfl⟩
    have hkept : ∀ {a b}, ReflTransGen (m.modifyRules (·.eraseIdx index) c).Owns a b →
        ReflTransGen ((m₂.modifySheet t fun sheet =>
          { sheet with deleted := sheet.deleted ++ [r] }).note (.changed t)).Owns a b := by
      refine fun hab => ReflTransGen.mono (fun a b hb => hmore a ?_) _ _ hab
      rwa [ho.ownedBy_eq]
    intro _
    rcases reaches_of_taken hedge hpath with hpath | ⟨hsr, hrq⟩
    · exact hkept hpath
    · have hst := h.sound.reaches_sheet_of_comesFrom hfrom rfl hsr
      have hnew : Owns ((m₂.modifySheet t fun sheet =>
          { sheet with deleted := sheet.deleted ++ [r] }).note (.changed t)) (.sheet t)
            (.rule r) := by
        refine OwnsMore.note _ _ _ ?_
        rw [ownedBy_modifySheet hs, if_pos rfl]
        simp [StyleSheet.owned]
      rcases reaches_of_taken hedge hst with hst | ⟨-, hrt⟩
      · exact ((hkept hst).tail hnew).trans (hkept (hinner q hrq))
      · exact absurd (hfrom.transGen.trans_left hrt) (h.acyclic _)

/-! ### Edits -/

theorem Sound.ownsMore_createSheet {held : List SheetId} (h : m.Sound held) (href : Option String)
    (media : String) (origin : Origin) : m.OwnsMore (m.createSheet href media origin).1 := by
  intro p
  rw [h.ownedBy_createSheet]
  exact List.Subset.refl _

/-- Content that is changed within a rule. -/
theorem OwnsMore.setContent_noteChanged (hr : m.rule? r = some rule) {content : RuleContent}
    (hc : content.owned = rule.content.owned) :
    m.OwnsMore ((m.setContent r content).noteChanged rule.parentSheet) :=
  (OwnsMore.setContent hr (hc ▸ List.Subset.refl _)).trans (.noteChanged _ _)

theorem ownsMore_setOwner (s : SheetId) (node : Option NodeId) (title : Option String) :
    m.OwnsMore ((ModelM.setOwner s node title).exec m).2 := by
  simp only [ModelM.setOwner, ModelM.exec_sheet_bind]
  cases m.sheet? s with
  | none => exact .refl m
  | some sheet => exact .modifySheet fun _ => List.Subset.refl _

theorem ownsMore_setDisabled (s : SheetId) (disabled : Bool) :
    m.OwnsMore ((ModelM.setDisabled s disabled).exec m).2 := by
  simp only [ModelM.setDisabled, ModelM.exec_sheet_bind]
  cases m.sheet? s with
  | none => exact .refl m
  | some sheet =>
    simp only
    split
    · rw [ModelM.exec_modify_bind, ModelM.exec_noteChanged]
      refine OwnsMore.trans ?_ (.noteChanged _ (some s))
      exact .modifySheet fun _ => List.Subset.refl _
    · exact .refl m

theorem Sound.ownsMore_insertRule {held : List SheetId} (h : m.Sound held) (c : RuleContainer)
    (text : String) (index : Nat) : m.OwnsMore ((ModelM.insertRule c text index).exec m).2 := by
  rcases ModelM.exec_insertRule c text index with ⟨e, he⟩ | ⟨list, source, x, hl, -, he⟩
  · rw [he]
    exact .refl m
  · have ha : m.Adopts held x _ _ := adopts_adoptAll c.rule? [source] h
    rw [he]
    refine ((OwnsMore.of_adopts ha).trans (.modifyRules (ha.rulesOf_eq hl) fun y hy => ?_)).trans
      (.noteChanged _ x)
    have hsplit := List.take_append_drop index list
    rw [← hsplit] at hy
    simp only [List.mem_append] at hy ⊢
    tauto

/-- Edits leave to sheets what they hold, unless it is freed. -/
theorem Forest.holds_apply (h : m.Forest []) (e : Edit) : m.Holds (e.apply m) := by
  cases e with
  | createSheet href media origin => exact (h.sound.ownsMore_createSheet href media origin).holds
  | setOwner s node title => exact (ownsMore_setOwner s node title).holds
  | setDisabled s disabled => exact (ownsMore_setDisabled s disabled).holds
  | insertRule c text index => exact (h.sound.ownsMore_insertRule c text index).holds
  | deleteRule c index => exact h.holds_deleteRule c index
  | replaceRules s text =>
    cases hs : m.sheet? s with
    | none =>
      rw [Edit.apply, ModelM.exec_replaceRules_of_none hs]
      exact (OwnsMore.refl m).holds
    | some sheet =>
      obtain ⟨m', he, hd⟩ := h.deallocates_replaceRules (s := s) (by simp [hs]) text
      rw [Edit.apply, he]
      exact hd.holds fun b hb => ⟨b, hb, .refl⟩
  | removeSheet s =>
    cases hs : m.sheet? s with
    | none =>
      simp only [Edit.apply, ModelM.removeSheet, ModelM.exec_sheet_bind, hs]
      exact (OwnsMore.refl m).holds
    | some sheet =>
      obtain ⟨m', he, hd⟩ := deallocates_removeSheet (m := m) (s := s) (by simp [hs])
      rw [Edit.apply, he]
      exact hd.holds fun b hb => ⟨_, List.mem_singleton_self _, .single hb⟩
  | setRuleText r text =>
    have hsettles := h.settles_setRuleText r text
    rw [Edit.apply]
    cases hrun : (ModelM.setRuleText r text).exec m with
    | mk result m' =>
      rw [hrun] at hsettles
      cases result with
      | error e =>
        rw [show m' = m from hsettles.kept e rfl]
        exact (OwnsMore.refl m).holds
      | ok u => exact (h.deallocates_setRuleText hrun).holds fun b hb => ⟨b, hb, .refl⟩
  | setSelectorText r text =>
    rcases ModelM.exec_setSelectorText text (m := m) (r := r) with
      he | ⟨rule, selectors, block, new, hr, hc, he⟩
    · rw [Edit.apply, he]
      exact (OwnsMore.refl m).holds
    · rw [Edit.apply, he]
      exact (OwnsMore.setContent_noteChanged hr (by rw [hc]; rfl)).holds
  | updateBlock r f =>
    rcases ModelM.exec_updateBlock (fun b => (f b, ())) (m := m) (r := r) with
      he | ⟨rule, block, hr, he⟩
    · rw [Edit.apply, he]
      exact (OwnsMore.refl m).holds
    · rw [Edit.apply, he]
      exact (OwnsMore.setContent_noteChanged hr (owned_withBlock _ _)).holds
  | updateMedia o f =>
    rcases ModelM.exec_updateMedia o (fun l => (f l, ())) (m := m) with
      he | ⟨s, l, -, he⟩ | ⟨r, rule, l, -, hr, he⟩
    · rw [Edit.apply, he]
      exact (OwnsMore.refl m).holds
    · rw [Edit.apply, he]
      refine OwnsMore.holds (OwnsMore.trans ?_ (.note _ _))
      exact .modifySheet fun _ => List.Subset.refl _
    · rw [Edit.apply, he]
      exact (OwnsMore.setContent_noteChanged hr (owned_withMedia _ _)).holds

end ObjectModel
end WebStyle
