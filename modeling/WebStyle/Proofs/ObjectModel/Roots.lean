import WebStyle.Proofs.ObjectModel.Anchors
import WebStyle.Proofs.ObjectModel.Chains
import WebStyle.Proofs.ObjectModel.Lineage
/-!
The sheets around a sheet stay the same for as long as it lives. All of them are there, so that a
way out from each sheet ends at one that was imported by none.
-/
set_option autoImplicit false

namespace WebStyle
namespace ObjectModel

open Relation

variable {m m' m'' : ObjectModel} {s p : SheetId} {r : RuleId} {l : List SheetId} {rule : Rule}
  {sheet : StyleSheet} {href : String} {media : MediaList}

/-- Whether each sheet lies within the one that it was imported by. -/
def Anchored (m : ObjectModel) : Prop := ∀ s sheet p, m.sheet? s = some sheet →
  sheet.parentSheet = some p → ReflTransGen m.Owns (.sheet p) (.sheet s)

theorem Anchored.isSome_parent (ha : m.Anchored) (hs : m.sheet? s = some sheet)
    (hp : sheet.parentSheet = some p) : (m.sheet? p).isSome := by
  rcases ReflTransGen.cases_head (ha s sheet p hs hp) with heq | ⟨q, hq, -⟩
  · obtain rfl := ModelPart.sheet.inj heq
    simp [hs]
  · exact isLive_of_mem_ownedBy hq

/-! ### What is kept -/

/-- What sheets and rules keep for as long as they live, also where an import is given a new
sheet. -/
structure Keeps (m m' : ObjectModel) : Prop where
  sheetsGrow : m.sheets.Grows m'.sheets
  rulesGrow : m.rules.Grows m'.rules
  sheet : ∀ s sheet', m'.sheet? s = some sheet' → m.sheets.Issued s → ∃ sheet,
    m.sheet? s = some sheet ∧ sheet'.href = sheet.href ∧ sheet'.parentSheet = sheet.parentSheet
  rule : ∀ r rule', m'.rule? r = some rule' → m.rules.Issued r → ∃ rule, m.rule? r = some rule ∧
    (rule'.parentSheet = none ∨ rule'.parentSheet = rule.parentSheet)

/-- Whether what is kept, and imports that refer to something else are noted. -/
structure Reports (m m' : ObjectModel) : Prop extends m.Keeps m' where
  changes : m.changes ⊆ m'.changes
  href : ∀ r rule rule', m.rule? r = some rule → m'.rule? r = some rule' →
    rule'.parentSheet = none ∨ rule'.content.href? = rule.content.href? ∨
      ∃ s, .imported s r ∈ m'.changes

theorem Keeps.refl (m : ObjectModel) : m.Keeps m where
  sheetsGrow := .refl _
  rulesGrow := .refl _
  sheet _ sheet' h _ := ⟨sheet', h, rfl, rfl⟩
  rule _ rule' h _ := ⟨rule', h, .inr rfl⟩

namespace Reports

theorem refl (m : ObjectModel) : m.Reports m where
  toKeeps := .refl m
  changes := List.Subset.refl _
  href r rule rule' h h' := .inr (.inl (by rw [Option.some.inj (h.symm.trans h')]))

theorem of_inherits (h : m.Inherits m') : m.Reports m' where
  sheetsGrow := h.sheetsGrow
  rulesGrow := h.rulesGrow
  changes := h.changes
  sheet s sheet' hs hi := by
    rcases h.parent s sheet' hs with ⟨sheet, hsheet, hp⟩ | ⟨hfresh, -⟩
    · exact ⟨sheet, hsheet, h.address s sheet sheet' hsheet hs, hp⟩
    · exact absurd hi hfresh
  rule r rule' hr hi := by
    obtain ⟨rule, hrule, hp⟩ := h.rule r rule' hr hi
    exact ⟨rule, hrule, hp.imp id And.left⟩
  href r rule rule' hr hr' := by
    obtain ⟨y, hy, hp⟩ := h.rule r rule' hr' (Slots.issued_of_get? hr)
    obtain rfl := Option.some.inj (hr.symm.trans hy)
    exact hp.imp id And.right

/-- An import is given a sheet that was not there. -/
theorem attached (h : m.Reports m') (hs : ¬ m.sheets.Issued s) (hr : m'.rule? r = some rule)
    (hc : rule.content = .importing href media none) (parent : Option SheetId) :
    m.Reports (m'.attached r s href media parent) := by
  have he := Evolves.attached m' r s href media parent
  have hchanges : m'.changes ⊆ (m'.attached r s href media parent).changes := by
    obtain ⟨later, hl⟩ := he.changes
    rw [hl]
    exact List.subset_append_left _ _
  have hkept : ∀ x y', (m'.attached r s href media parent).rule? x = some y' →
      ∃ y, m'.rule? x = some y ∧ y'.parentSheet = y.parentSheet ∧
        y'.content.href? = y.content.href? := by
    intro x y' hx
    rw [rule?_attached] at hx
    split at hx
    · rename_i heq
      subst heq
      rw [hr] at hx
      obtain rfl := Option.some.inj hx
      exact ⟨rule, hr, rfl, by rw [hc]; rfl⟩
    · exact ⟨y', hx, rfl, rfl⟩
  refine ⟨⟨h.sheetsGrow.trans he.sheetsGrow, h.rulesGrow.trans he.rulesGrow,
    fun x sheet' hx hi => ?_,
    fun x y' hx hi => ?_⟩, List.Subset.trans h.changes hchanges, fun x z y' hz hx => ?_⟩
  · have hne : s ≠ x := fun heq => hs (heq ▸ hi)
    rw [sheet?_attached, if_neg hne] at hx
    exact h.sheet x sheet' hx hi
  · obtain ⟨y, hy, hparent, -⟩ := hkept x y' hx
    rw [hparent]
    exact h.rule x y hy hi
  · obtain ⟨y, hy, hparent, hhref⟩ := hkept x y' hx
    rw [hparent, hhref]
    exact (h.href x z y hz hy).imp id fun hh => hh.imp id fun ⟨t, ht⟩ => ⟨t, hchanges ht⟩

end Reports

/-- The sheets around a sheet are there as long as it is, and stay the same. -/
theorem IsChain.keeps (h : m.IsChain s l) (hk : m.Keeps m') (ha : m'.Anchored)
    (hs : (m'.sheet? s).isSome) : m'.IsChain s l := by
  induction h with
  | @outer s sheet hsheet hp =>
    obtain ⟨sheet', hs'⟩ := Option.isSome_iff_exists.1 hs
    obtain ⟨y, hy, -, hparent⟩ := hk.sheet s sheet' hs' (Slots.issued_of_get? hsheet)
    obtain rfl := Option.some.inj (hsheet.symm.trans hy)
    exact .outer hs' (hparent.trans hp)
  | @inner s p sheet l hsheet hp _ ih =>
    obtain ⟨sheet', hs'⟩ := Option.isSome_iff_exists.1 hs
    obtain ⟨y, hy, -, hparent⟩ := hk.sheet s sheet' hs' (Slots.issued_of_get? hsheet)
    obtain rfl := Option.some.inj (hsheet.symm.trans hy)
    exact .inner hs' (hparent.trans hp) (ih (ha.isSome_parent hs' (hparent.trans hp)))

/-! ### What always holds -/

/-- What holds of sheets and of the imports that are noted, as long as nobody outside gives sheets
to imports. -/
structure Rooted (m : ObjectModel) : Prop where
  forest : m.Forest []
  anchored : m.Anchored
  chained : ∀ s, (m.sheet? s).isSome → ∃ l, m.IsChain s l
  noted : ∀ s r, .imported s r ∈ m.changes → m.rules.Issued r ∧ m.MayBelong r s

theorem rooted_empty (compatibility : Compatibility) : (empty compatibility).Rooted := by
  have hsheet : ∀ s, (empty compatibility).sheet? s = none := Slots.get?_empty
  exact ⟨forest_empty compatibility, fun s sheet p hs => by simp [hsheet] at hs,
    fun s hs => by simp [hsheet] at hs, fun s r hc => by simp [empty] at hc⟩

namespace Rooted

theorem takeChanges (h : m.Rooted) : Rooted { m with changes := [] } where
  forest := h.forest.congr rfl rfl
  anchored := h.anchored
  chained s hs := by
    obtain ⟨l, hl⟩ := h.chained s hs
    exact ⟨l, hl.congr fun _ _ => rfl⟩
  noted _ _ hc := absurd hc List.not_mem_nil

/-- The sheets around a sheet are the same for as long as it lives. -/
theorem importChain_eq (h : m.Rooted) (h' : m'.Rooted) (hk : m.Keeps m')
    (hs : (m.sheet? s).isSome) (hs' : (m'.sheet? s).isSome) :
    m'.importChain s = m.importChain s := by
  obtain ⟨l, hl⟩ := h.chained s hs
  rw [(hl.keeps hk h'.anchored hs').importChain_eq, hl.importChain_eq]

/-- No edit changes which sheets lie around others. -/
theorem edit (h : m.Rooted) (e : Edit) (hw : (e.apply m).Unwrapped) : (e.apply m).Rooted := by
  have hi := h.forest.inherits_apply e hw
  have hholds := h.forest.holds_apply e
  have hanchored : (e.apply m).Anchored := by
    intro s sheet' p hs hp
    rcases hi.parent s sheet' hs with ⟨sheet, hsheet, hparent⟩ | ⟨-, hparent⟩
    · exact hholds p (.sheet s) (h.anchored s sheet p hsheet (hparent.symm.trans hp))
        (by simp [IsLive, hs])
    · simp [hp] at hparent
  refine ⟨(h.forest.edit e).1, hanchored, fun s hs => ?_, fun s r hc => ?_⟩
  · obtain ⟨sheet', hs'⟩ := Option.isSome_iff_exists.1 hs
    rcases hi.parent s sheet' hs' with ⟨sheet, hsheet, -⟩ | ⟨-, hparent⟩
    · obtain ⟨l, hl⟩ := h.chained s (by simp [hsheet])
      exact ⟨l, hl.keeps (Reports.of_inherits hi).toKeeps hanchored hs⟩
    · exact ⟨[s], .outer hs' hparent⟩
  · rcases hi.noted s r hc with hold | hb
    · obtain ⟨hissued, hb⟩ := h.noted s r hold
      exact ⟨hi.rulesGrow.issued r hissued, hi.mayBelong hissued hb⟩
    · refine ⟨?_, hb⟩
      rcases hi.announced s r hc with hold | hopen
      · exact hi.rulesGrow.issued r (h.noted s r hold).1
      · exact hopen.1

end Rooted

/-- Edits move on, whether or not slots are used so often that handles come round. -/
theorem Forest.evolves_apply (h : m.Forest []) (e : Edit) : m.Evolves (e.apply m) := by
  cases e with
  | createSheet href media origin => exact .createSheet m href media origin
  | setOwner s node title => exact (h.sound.edits_setOwner s node title).evolves
  | setDisabled s disabled => exact (h.sound.edits_setDisabled s disabled).evolves
  | replaceRules s text => exact (h.sound.edits_replaceRules s text).evolves
  | removeSheet s => exact (h.sound.edits_removeSheet s).evolves
  | insertRule c text index => exact (h.sound.edits_insertRule c text index).evolves
  | deleteRule c index => exact (h.sound.edits_deleteRule c index).evolves
  | setSelectorText r text => exact (h.sound.edits_setSelectorText r text).evolves
  | updateBlock r f => exact (h.sound.edits_updateBlock r _).evolves
  | updateMedia o f => exact (h.sound.edits_updateMedia o _).evolves
  | setRuleText r text =>
    rcases ModelM.exec_setRuleText text (m := m) (r := r) with
      ⟨e, he⟩ | ⟨rule, source, m₂, content, hr, -, hb, he⟩
    · rw [Edit.apply, he]
      exact .refl m
    · have hbuilds := h.sound.builds_emptied hr hb
      have he₂ := (Evolves.emptied m r rule).trans hbuilds.adopts.evolves
      rw [Edit.apply, he]
      split
      · exact ((he₂.trans (.modifyRule m₂ r _)).trans (.noteImport _ _ _ _)).trans
          (.noteChanged _ _)
      · exact he₂

theorem Rooted.edits (h : m.Rooted) (l : List Edit) (hw : (l.foldl Edit.apply m).Unwrapped) :
    (l.foldl Edit.apply m).Rooted ∧ m.Inherits (l.foldl Edit.apply m) := by
  have hevolves : ∀ (l : List Edit) {m : ObjectModel}, m.Forest [] →
      m.Evolves (l.foldl Edit.apply m) := by
    intro l
    induction l with
    | nil => exact fun _ => .refl _
    | cons e l ih => exact fun h => (h.evolves_apply e).trans (ih (h.edit e).1)
  induction l generalizing m with
  | nil => exact ⟨h, .refl m⟩
  | cons e l ih =>
    have hw₁ : (e.apply m).Unwrapped := hw.of_evolves (hevolves l (h.forest.edit e).1)
    obtain ⟨hl, hi⟩ := ih (h.edit e hw₁) hw
    exact ⟨hl, (h.forest.inherits_apply e hw₁).trans hi⟩

/-! ### Imports -/

/-- A sheet that came up without imported sheets in it holds its own rules only. -/
theorem Inherits.comesFrom_of_reaches (hi : m.Inherits m') (h : m.Forest []) (h' : m'.Forest [])
    (hfresh : ¬ m.sheets.Issued s) (hs : m'.listed (.deleted s) = []) {q : ModelPart}
    (hq : ReflTransGen m'.Owns (.sheet s) q) :
    q = .sheet s ∨ ∃ x, q = .rule x ∧ m'.ComesFrom (.rules s) x := by
  induction hq with
  | refl => exact .inl rfl
  | @tail b q _ hbq ih =>
    refine .inr ?_
    cases q with
    | rule x =>
      obtain ⟨l, hl, hx⟩ := mem_ownedBy_iff_listed.1 hbq
      rcases ih with rfl | ⟨o, rfl, ho⟩
      · cases l with
        | rules t =>
          obtain rfl := ModelPart.sheet.inj hl
          exact ⟨x, rfl, .listed hx⟩
        | deleted t =>
          obtain rfl := ModelPart.sheet.inj hl
          simp [hs] at hx
        | inner o => exact ModelPart.noConfusion hl
      · cases l with
        | inner o' =>
          obtain rfl := ModelPart.rule.inj hl
          exact ⟨x, rfl, ho.inner hx⟩
        | rules t | deleted t => exact ModelPart.noConfusion hl
    | sheet t =>
      rcases ih with rfl | ⟨x, rfl, hx⟩
      · obtain ⟨sheet, hsheet⟩ := Option.isSome_iff_exists.1 (isLive_of_mem_ownedBy hbq)
        simp [Owns, ownedBy, hsheet, StyleSheet.owned] at hbq
      · -- an import that has a sheet was there before, and so was its own sheet
        obtain ⟨rule, hrule⟩ := Option.isSome_iff_exists.1 (isLive_of_mem_ownedBy hbq)
        obtain ⟨old, hold, -, hparent⟩ :=
          hi.attached x rule t hrule ((mem_ownedBy_rule hrule).1 hbq)
        have hs' := h'.sound.parentSheet_of_rules hx hrule
        rw [hs'] at hparent
        exact absurd (Slots.issued_of_get? (Option.some_get (h.isSome_parentSheet hold
          (hparent.resolve_right (by simp)).symm)).symm) hfresh

theorem OwnsMore.attached (hr : m.rule? r = some rule)
    (hc : rule.content = .importing href media none) (parent : Option SheetId) :
    m.OwnsMore (m.attached r s href media parent) := by
  refine OwnsMore.trans (OwnsMore.trans (.setContent hr ?_) (.modifySheet fun _ => ?_))
    (.noteChanged _ parent)
  · rw [hc]
    exact List.nil_subset _
  · exact List.Subset.refl _

section Attached

variable (h : m.Rooted) (h' : m'.Rooted) (hi : m.Inherits m') (hfresh : ¬ m.sheets.Issued s)
  (hr : m.rule? r = some rule) (hr' : m'.rule? r = some rule)
  (hc : rule.content = .importing href media none) (hp : rule.parentSheet = some p)
  (hs : m'.sheet? s = some sheet) (hdeleted : sheet.deleted = [])
  (hfree : ∀ q, .sheet s ∉ m'.ownedBy q)
include h h' hi hfresh hr hr' hc hp hs hdeleted hfree

theorem forest_attached : (m'.attached r s href media (some p)).Forest [] := by
  have hne : s ≠ p := by
    rintro rfl
    exact hfresh (Slots.issued_of_get? (Option.some_get (h.forest.isSome_parentSheet hr hp)).symm)
  have hattachable : m'.IsAttachable r s := by
    refine ⟨⟨by simp [hs], List.not_mem_nil, hfree⟩, ?_⟩
    rintro ⟨_, hmem, hpath⟩
    obtain rfl := List.mem_singleton.1 hmem
    rcases hi.comesFrom_of_reaches h.forest h'.forest hfresh (by simp [listed, hs, hdeleted])
      hpath with heq | ⟨x, heq, hx⟩
    · exact ModelPart.noConfusion heq
    · obtain rfl := ModelPart.rule.inj heq
      have hself := h'.forest.sound.parentSheet_of_rules hx hr'
      exact hne (Option.some.inj (hself.symm.trans hp))
  have hsettles := h'.forest.settles_attachImport hattachable
  rw [exec_attachImport_of_open hs hr' hc, hp] at hsettles
  exact hsettles.forest

/-- A new sheet of an import lies within the sheet of the import. -/
theorem rooted_attached : (m'.attached r s href media (some p)).Rooted := by
  have hk : m.Keeps (m'.attached r s href media (some p)) :=
    ((Reports.of_inherits hi).attached hfresh hr' hc _).toKeeps
  have hmore := OwnsMore.attached (s := s) hr' hc (some p)
  have hgiven : (m'.attached r s href media (some p)).Owns (.rule r) (.sheet s) := by
    have hr : (m'.attached r s href media (some p)).rule? r =
        some { rule with content := .importing href media (some s) } := by
      rw [rule?_attached, if_pos rfl, hr']
      rfl
    exact (mem_ownedBy_rule hr).2 (by simp [RuleContent.owned])
  have hself : (m'.attached r s href media (some p)).sheet? s =
      some { sheet with parentSheet := some p, ownerRule := some r } := by
    rw [sheet?_attached, if_pos rfl, hs]
    rfl
  have hmono : ∀ {a b}, ReflTransGen m'.Owns a b →
      ReflTransGen (m'.attached r s href media (some p)).Owns a b :=
    fun hab => ReflTransGen.mono (fun a _ hb => hmore a hb) _ _ hab
  have hanchored : (m'.attached r s href media (some p)).Anchored := by
    intro x sheet' t hx ht
    by_cases hxs : x = s
    · subst hxs
      rw [hself] at hx
      obtain rfl := Option.some.inj hx
      obtain rfl := Option.some.inj ht
      have hfrom := (h'.forest.parentSheet_eq_some_iff hr').1 hp
      exact (hmono hfrom.transGen.to_reflTransGen).tail hgiven
    · rw [sheet?_attached, if_neg (Ne.symm hxs)] at hx
      exact hmono (h'.anchored x sheet' t hx ht)
  have hold : ∀ x, x ≠ s → ((m'.attached r s href media (some p)).sheet? x).isSome →
      ∃ l, (m'.attached r s href media (some p)).IsChain x l := by
    intro x hxs hx
    obtain ⟨sheet', hx'⟩ := Option.isSome_iff_exists.1 hx
    have hx₁ := hx'
    rw [sheet?_attached, if_neg (Ne.symm hxs)] at hx₁
    rcases hi.parent x sheet' hx₁ with ⟨old, hx₀, -⟩ | ⟨-, hnone⟩
    · obtain ⟨l, hl⟩ := h.chained x (by simp [hx₀])
      exact ⟨l, hl.keeps hk hanchored hx⟩
    · exact ⟨[x], .outer hx' hnone⟩
  refine ⟨forest_attached h h' hi hfresh hr hr' hc hp hs hdeleted hfree, hanchored,
    fun x hx => ?_, fun x y hxy => ?_⟩
  · by_cases hxs : x = s
    · have hp' := hanchored.isSome_parent hself rfl
      have hne : p ≠ s := by
        rintro rfl
        exact hfresh (Slots.issued_of_get?
          (Option.some_get (h.forest.isSome_parentSheet hr hp)).symm)
      obtain ⟨l, hl⟩ := hold p hne hp'
      subst hxs
      exact ⟨_, .inner hself rfl hl⟩
    · exact hold x hxs hx
  · obtain ⟨hissued, hb⟩ := h'.noted x y (mem_changes_attached hxy)
    refine ⟨(Evolves.attached m' r s href media _).rulesGrow.issued y hissued, fun z hz => ?_⟩
    rw [rule?_attached] at hz
    split at hz
    · obtain ⟨z₀, hz₀, rfl⟩ := Option.map_eq_some_iff.1 hz
      exact hb z₀ hz₀
    · exact hb z hz

end Attached

/-- An import is given a new sheet with the rules of a text. -/
theorem Rooted.exec_fill (h : m.Rooted) (hwm : m.sheets.Unwrapped) (hr : m.rule? r = some rule)
    (hc : rule.content = .importing href media none) (hp : rule.parentSheet = some p)
    (url text : String) (origin : Origin) {created : ObjectModel × SheetId}
    (hcreated : m.createSheet (some url) "" origin = created)
    (hw : ((do
      ModelM.replaceRules created.2 text
      ModelM.attachImport r created.2 : ModelM Unit).exec created.1).2.Unwrapped) :
    m.Reports ((do
        ModelM.replaceRules created.2 text
        ModelM.attachImport r created.2 : ModelM Unit).exec created.1).2 ∧
      ((do
        ModelM.replaceRules created.2 text
        ModelM.attachImport r created.2 : ModelM Unit).exec created.1).2.Rooted := by
  have hw₂ := unwrapped_of_fill hw
  obtain ⟨m₂, hrun, hfills, -, hfree, hother⟩ :=
    h.forest.sound.fills_created hwm url text origin hcreated hw₂
  obtain rfl : (Edit.replaceRules created.2 text).apply created.1 = m₂ := congrArg Prod.snd hrun
  have happly : (Edit.createSheet (some url) "" origin).apply m = created.1 := by
    rw [← hcreated]
    rfl
  have h₀ : created.1.Sound [created.2] := hcreated ▸ h.forest.sound.createSheet hwm _ _ _
  have hw₁ := hw₂.of_evolves (h₀.edits_replaceRules created.2 text).evolves
  have h₁ : created.1.Rooted := happly ▸ h.edit _ (happly.symm ▸ hw₁)
  have hi₁ : m.Inherits created.1 := happly ▸ h.forest.inherits_apply _ (happly.symm ▸ hw₁)
  have hi₂ := hi₁.trans (h₁.forest.inherits_apply (.replaceRules created.2 text) hw₂)
  have h₂ := h₁.edit (.replaceRules created.2 text) hw₂
  have hfresh : ¬ m.sheets.Issued created.2 :=
    hcreated ▸ h.forest.sound.sheets.not_issued_fresh hwm _
  obtain ⟨ids, hs₂, -⟩ := hfills.filled
  have hr₂ : ((Edit.replaceRules created.2 text).apply created.1).rule? r = some rule :=
    rule?_of_untouched hother hr
  have hexec := exec_attachImport_of_open hs₂ hr₂ hc
  rw [hp] at hexec
  rw [ModelM.exec_bind, hrun]
  simp only [hexec]
  exact ⟨(Reports.of_inherits hi₂).attached hfresh hr₂ hc _,
    rooted_attached h h₂ hi₂ hfresh hr hr₂ hc hp hs₂ rfl hfree⟩

end ObjectModel
end WebStyle
