import WebStyle.Proofs.ObjectModel.Settling
/-!
What freeing leaves of a forest. A handle that was freed stays dead while new rules are added, also
where these take its slot.
-/
set_option autoImplicit false

namespace WebStyle
namespace ObjectModel

open Relation

variable {m m' : ObjectModel} {held : List SheetId} {ps : List ModelPart} {p q : ModelPart}
  {s : SheetId} {r x : RuleId} {sheet : StyleSheet} {rule y : Rule}

/-! ### Freed handles -/

theorem vacated_free (h : m.rules.Vacated x) : (m.free ps).rules.Vacated x := by
  fun_induction free m ps with
  | case1 m => exact h
  | case2 m s rest _ ih => exact ih h
  | case3 m s rest sheet _ _ ih => exact ih h
  | case4 m r rest _ ih => exact ih h
  | case5 m r rest rule _ _ ih => exact ih (h.erase r)

/-- A rule that is freed leaves its slot empty. -/
theorem vacated_of_freed (hx : m.rule? x = some y) (hfreed : (m.free ps).rule? x = none) :
    (m.free ps).rules.Vacated x := by
  fun_induction free m ps with
  | case1 m => simp [hx] at hfreed
  | case2 m s rest _ ih => exact ih hx hfreed
  | case3 m s rest sheet _ _ ih => exact ih hx hfreed
  | case4 m r rest _ ih => exact ih hx hfreed
  | case5 m r rest rule _ _ ih =>
    by_cases hr : r = x
    · subst hr
      exact vacated_free (Slots.vacated_erase hx)
    · refine ih ?_ hfreed
      rw [rule?, eraseRule, Slots.get?_erase, if_neg hr]
      exact hx

theorem retired_adoptAll (sheet : Option SheetId) (parent : Option RuleId)
    (sources : List RuleSource) (h : m.rules.Retired x) :
    (m.adoptAll sheet parent sources).1.rules.Retired x := by
  refine adoptAll.induct_unfolding sheet
    (fun m _ _ result => m.rules.Retired x → result.1.rules.Retired x)
    (fun m _ _ result => m.rules.Retired x → result.1.rules.Retired x)
    ?style ?media ?importing ?fontFace ?page ?nil ?kept ?dropped m parent sources h
  case media =>
    intro m r l rules m₁ ids heq ih h
    rw [heq] at ih
    exact ih h
  case kept =>
    intro m parent source rest _ m₁ r hreserve m₂ content hbuild m₃ m₄ ids hrest ihb iha h
    obtain rfl : (m.reserve sheet parent).1 = m₁ := by rw [hreserve]
    rw [hbuild] at ihb
    rw [hrest] at iha
    refine iha ?_
    simp only [m₃, rules_noteImport]
    exact (ihb (h.insert _)).modify _ _
  case dropped => exact fun m parent source rest _ ih h => ih h
  all_goals intros; assumption

theorem retired_build (sheet : Option SheetId) (r : RuleId) (source : RuleSource)
    (h : m.rules.Retired x) : (m.build sheet r source).1.rules.Retired x := by
  cases source with
  | media l rules =>
    simp only [build]
    exact retired_adoptAll sheet (some r) rules h
  | style | importing | fontFace | page => exact h

/-! ### What is gone and what is left -/

/-- Whether all that the given parts reach is gone, all else that was there is left, and none of it
but one part is changed. -/
structure Deallocates (ps : List ModelPart) (p : ModelPart) (m m' : ObjectModel) : Prop where
  gone : ∀ q, m.Reaches ps q → ¬ m'.IsLive q
  left : ∀ q, m.IsLive q → ¬ m.Reaches ps q → m'.IsLive q
  same : ∀ q, m.IsLive q → ¬ m.Reaches ps q → q ≠ p → m.Untouched m' q

/-- Ways do not depend on what one part owns, unless they pass it, and then the way to it does not. -/
theorem reaches_or_of_others (hother : ∀ q, q ≠ p → m'.ownedBy q = m.ownedBy q)
    (h : m.Reaches ps q) : m'.Reaches ps q ∨ m'.Reaches ps p := by
  obtain ⟨a, ha, hpath⟩ := h
  induction hpath with
  | refl => exact .inl ⟨a, ha, .refl⟩
  | @tail b c _ hbc ih =>
    rcases ih with hb | hp
    · by_cases hbp : b = p
      · exact .inr (hbp ▸ hb)
      · obtain ⟨a', ha', hpath'⟩ := hb
        refine .inl ⟨a', ha', hpath'.tail ?_⟩
        rwa [hother b hbp]
    · exact .inr hp

theorem reaches_iff_of_others (hother : ∀ q, q ≠ p → m'.ownedBy q = m.ownedBy q) :
    m'.Reaches ps p ↔ m.Reaches ps p :=
  ⟨fun h => or_self_iff.1 (reaches_or_of_others (fun q hq => (hother q hq).symm) h),
    fun h => or_self_iff.1 (reaches_or_of_others hother h)⟩

/-- Ways that do not pass a part do not depend on what it owns. -/
theorem reaches_of_others (hother : ∀ q, q ≠ p → m'.ownedBy q = m.ownedBy q)
    (hno : ¬ m.Reaches ps p) (h : m.Reaches ps q) : m'.Reaches ps q :=
  (reaches_or_of_others hother h).resolve_right fun hp => hno ((reaches_iff_of_others hother).1 hp)

/-- A rule that is reached from what a part owns was there. -/
theorem Sound.isSome_of_reaches (h : m.Sound held) (hx : m.Reaches (m.ownedBy p) (.rule x)) :
    (m.rule? x).isSome := by
  obtain ⟨q, hq, hpath⟩ := hx
  rcases ReflTransGen.cases_tail hpath with heq | ⟨b, -, hb⟩
  · exact h.live p x (heq ▸ hq)
  · exact h.live b x hb

/-- A part loses what it owns, which is freed, and rules are added after that. -/
theorem Forest.deallocates {m₂ : ObjectModel} (h : m.Forest []) (m₀ : ObjectModel)
    (hother : ∀ q, q ≠ p → m.Untouched m₀ q) (hlive : m.IsLive p → m₀.IsLive p)
    (hempty : m₀.ownedBy p = []) (hsheets : m₂.sheets = (m₀.free (m.ownedBy p)).sheets)
    (hkept : ∀ x y, (m₀.free (m.ownedBy p)).rule? x = some y → m₂.rule? x = some y)
    (hretired : ∀ x, (m₀.free (m.ownedBy p)).rules.Retired x → m₂.rules.Retired x) :
    Deallocates (m.ownedBy p) p m m₂ := by
  have hf := m₀.frees_free (m.ownedBy p)
  have howned : ∀ q, q ≠ p → m₀.ownedBy q = m.ownedBy q := fun q hq => (hother q hq).ownedBy
  have hsub : ∀ q, m₀.ownedBy q ⊆ m.ownedBy q := by
    intro q
    by_cases hq : q = p
    · simp [hq, hempty]
    · simp [howned q hq]
  have hback : ∀ {q}, m₀.Reaches (m.ownedBy p) q → m.Reaches (m.ownedBy p) q :=
    reaches_of_subset hsub
  have hsheet : ∀ s, m₂.sheet? s = (m₀.free (m.ownedBy p)).sheet? s := fun s => by
    rw [sheet?, sheet?, hsheets]
  refine ⟨fun q hq => ?_, fun q hq hno => ?_, fun q hq hno hqp => ?_⟩
  · have hdead := hf.dead q (reaches_of_others howned h.not_reaches_self hq)
    have hqp : q ≠ p := fun heq => h.not_reaches_self (heq ▸ hq)
    cases q with
    | sheet t => rwa [IsLive, hsheet]
    | rule x =>
      obtain ⟨y, hy⟩ := Option.isSome_iff_exists.1 (h.sound.isSome_of_reaches hq)
      have hy₀ : m₀.rule? x = some y := (hother _ hqp).trans hy
      have hvacated := vacated_of_freed hy₀ (by simpa [IsLive] using hdead)
      simp [IsLive, rule?, (hretired x hvacated.retired).get?_eq_none]
  · have hq₀ : m₀.IsLive q := by
      by_cases hqp : q = p
      · subst hqp
        exact hlive hq
      · exact (hother q hqp).isLive.2 hq
    have hfreed := (hf.other q fun hr => hno (hback hr)).isLive.2 hq₀
    cases q with
    | sheet t => rwa [IsLive, hsheet]
    | rule x =>
      obtain ⟨y, hy⟩ := Option.isSome_iff_exists.1 hfreed
      simp [IsLive, hkept x y hy]
  · have hfreed := hf.other q fun hr => hno (hback hr)
    have hsame := hother q hqp
    cases q with
    | sheet t => exact (hsheet t).trans (Eq.trans hfreed hsame)
    | rule x =>
      obtain ⟨y, hy⟩ := Option.isSome_iff_exists.1 hq
      have hy₁ : (m₀.free (m.ownedBy p)).rule? x = some y :=
        Eq.trans hfreed (Eq.trans hsame hy)
      exact (hkept x y hy₁).trans hy.symm

theorem Deallocates.congr {m'' : ObjectModel} (h : Deallocates ps p m m')
    (hlive : m'.IsLive p ↔ m''.IsLive p) (hother : ∀ q, q ≠ p → m'.Untouched m'' q) :
    Deallocates ps p m m'' := by
  have hiff : ∀ q, m''.IsLive q ↔ m'.IsLive q := by
    intro q
    by_cases hq : q = p
    · rw [hq, hlive]
    · exact (hother q hq).isLive
  refine ⟨fun q hq => by rw [hiff]; exact h.gone q hq, fun q hq hno => (hiff q).2 (h.left q hq hno),
    fun q hq hno hqp => ?_⟩
  have hsame := h.same q hq hno hqp
  have hsame' := hother q hqp
  cases q with
  | sheet t => exact Eq.trans hsame' hsame
  | rule x => exact Eq.trans hsame' hsame

theorem deallocates_removeSheet (hs : (m.sheet? s).isSome) :
    ∃ m', (ModelM.removeSheet s).exec m = (.ok (), m') ∧
      Deallocates [.sheet s] (.sheet s) m m' := by
  obtain ⟨sheet, hs⟩ := Option.isSome_iff_exists.1 hs
  refine ⟨_, by rw [ModelM.removeSheet, ModelM.exec_sheet_bind, hs, ModelM.exec_modify], ?_⟩
  have hf := m.frees_free [.sheet s]
  refine ⟨fun q hq => ?_, fun q hq hno => ?_, fun q hq hno _ => ?_⟩
  · cases q <;> exact hf.dead _ hq
  · cases q <;> exact (hf.other _ hno).isLive.2 hq
  · cases q <;> exact hf.other _ hno

namespace Forest

variable (h : m.Forest [])
include h

theorem deallocates_replaceRules (hs : (m.sheet? s).isSome) (text : String) :
    ∃ m', (ModelM.replaceRules s text).exec m = (.ok (), m') ∧
      Deallocates (m.ownedBy (.sheet s)) (.sheet s) m m' := by
  obtain ⟨sheet, hs⟩ := Option.isSome_iff_exists.1 hs
  have h₁ := h.withoutRules hs
  have ha : (m.withoutRules s sheet).Adopts [] (some s) _ _ :=
    adopts_adoptAll none (SheetSource.ofString text).rules h₁.sound
  have hs₂ := (ha.sheet?_eq s).trans (h.sheet?_withoutRules hs)
  have howned : m.ownedBy (.sheet s) = sheet.owned := by simp [ownedBy, hs]
  have hretired := fun x => retired_adoptAll (m := m.withoutRules s sheet) (x := x) (some s) none
    (SheetSource.ofString text).rules
  refine ⟨_, by rw [ModelM.exec_replaceRules_of_some hs rfl, if_pos (by rw [hs₂]; rfl)], ?_⟩
  generalize (m.withoutRules s sheet).adoptAll (some s) none (SheetSource.ofString text).rules =
    result at *
  obtain ⟨m₂, ids⟩ := result
  simp only at *
  have hd : Deallocates (m.ownedBy (.sheet s)) (.sheet s) m m₂ := by
    refine h.deallocates (m.modifySheet s fun sheet =>
      { sheet with rules := [], deleted := [] }) (fun q hq => ?_) (fun _ => ?_) ?_ ?_ ?_ ?_
    · cases q with
      | rule x => rfl
      | sheet t =>
        have hne : s ≠ t := fun heq => hq (heq ▸ rfl)
        simp [Untouched, sheet?_modifySheet, hne]
    · simp [IsLive, sheet?_modifySheet, hs]
    · rw [ownedBy_modifySheet hs, if_pos rfl]
      rfl
    all_goals rw [howned]
    · exact ha.sheets
    · exact ha.kept
    · exact hretired
  refine hd.congr ?_ fun q hq => ?_
  · change _ ↔ ((m₂.modifySheet s _).sheet? s).isSome
    simp [IsLive, sheet?_modifySheet]
  · cases q with
    | rule x => rfl
    | sheet t =>
      have hne : s ≠ t := fun heq => hq (heq ▸ rfl)
      change (m₂.modifySheet s _).sheet? t = _
      simp [sheet?_modifySheet, hne]

theorem deallocates_setRuleText {text : String}
    (hok : (ModelM.setRuleText r text).exec m = (.ok (), m')) :
    Deallocates (m.ownedBy (.rule r)) (.rule r) m m' := by
  rcases ModelM.exec_setRuleText text (m := m) (r := r) with
    ⟨e, he⟩ | ⟨rule, source, m₂, content, hr, -, hb, he⟩
  · rw [he] at hok
    simp at hok
  have hbuilds := h.sound.builds_emptied hr hb
  have hretired := fun x => retired_build (m := m.emptied r rule) (x := x) rule.parentSheet r source
  have hbuild : (m.emptied r rule).build rule.parentSheet r source = (m₂, content) := hb
  rw [hbuild] at hretired
  have ha := hbuilds.adopts
  have howned : m.ownedBy (.rule r) = rule.content.owned := by simp [ownedBy, hr]
  have hd : Deallocates (m.ownedBy (.rule r)) (.rule r) m m₂ := by
    refine h.deallocates (m.setContent r .placeholder) (fun q hq => ?_) (fun _ => ?_)
      ?_ ?_ ?_ ?_
    · cases q with
      | sheet t => rfl
      | rule x =>
        have hne : r ≠ x := fun heq => hq (heq ▸ rfl)
        simp [Untouched, rule?_setContent, hne]
    · simp [IsLive, rule?_setContent, hr]
    · rw [ObjectModel.setContent, ownedBy_modifyRule hr, if_pos rfl]
      rfl
    all_goals rw [howned]
    · exact ha.sheets
    · exact ha.kept
    · exact hretired
  rw [he, if_pos (by rw [ha.kept r _ (h.rule?_emptied hr)]; rfl)] at hok
  obtain rfl := (Prod.mk.inj hok).2
  have hsame : ∀ q, Untouched (m₂.setContent r content) (((m₂.setContent r content).noteImport
      rule.content.type rule.parentSheet r).noteChanged rule.parentSheet) q := by
    intro q
    cases q <;> cases rule.parentSheet <;>
      simp [Untouched, sheet?, rule?, ObjectModel.noteChanged, ObjectModel.note,
        sheets_noteImport, rules_noteImport]
  refine hd.congr ?_ fun q hq => ?_
  · rw [(hsame _).isLive]
    simp [IsLive, rule?_setContent]
  · cases q with
    | sheet t => exact hsame (.sheet t)
    | rule x =>
      have hne : r ≠ x := fun heq => hq (heq ▸ rfl)
      refine Eq.trans (hsame (.rule x)) ?_
      simp [rule?_setContent, hne]

end Forest

/-! ### Owners -/

/-- What the lists of rules amount to, and what rules know about them. -/
structure WellOwned (m : ObjectModel) : Prop where
  once : ∀ x, (m.rule? x).isSome → ∃ l : RuleList, (m.listed l).count x = 1 ∧ m.IsLive l.owner ∧
    ∀ l', x ∈ m.listed l' → l' = l
  live : ∀ l, ∀ x ∈ m.listed l, (m.rule? x).isSome
  parentRule : ∀ x y, m.rule? x = some y → ∀ o, y.parentRule = some o ↔ x ∈ m.listed (.inner o)
  parentSheet : ∀ x y, m.rule? x = some y → ∀ s, y.parentSheet = some s ↔ m.ComesFrom (.rules s) x
  deleted : ∀ x y, m.rule? x = some y → ∀ s, m.ComesFrom (.deleted s) x → y.parentSheet = none

/-- What the requests free that take rules away for good. -/
structure FreesOwned (m : ObjectModel) : Prop where
  removeSheet : ∀ s, (m.sheet? s).isSome → ∃ m', (ModelM.removeSheet s).exec m = (.ok (), m') ∧
    Deallocates [.sheet s] (.sheet s) m m'
  replaceRules : ∀ s text, (m.sheet? s).isSome → ∃ m',
    (ModelM.replaceRules s text).exec m = (.ok (), m') ∧
      Deallocates (m.ownedBy (.sheet s)) (.sheet s) m m'
  setRuleText : ∀ r text m', (ModelM.setRuleText r text).exec m = (.ok (), m') →
    Deallocates (m.ownedBy (.rule r)) (.rule r) m m'

theorem Forest.wellOwned (h : m.Forest []) : m.WellOwned where
  once x hx := by
    obtain ⟨l, hl, hunique⟩ := h.existsUnique_listed hx
    exact ⟨l, hl, isLive_owner (x := x) (List.count_pos_iff.1 (by omega)), hunique⟩
  live l x hx := h.sound.live _ x (mem_ownedBy_owner hx)
  parentRule _ _ hy _ := h.parentRule_eq_some_iff hy
  parentSheet _ _ hy _ := h.parentSheet_eq_some_iff hy
  deleted _ _ hy _ hx := h.parentSheet_of_deleted hx hy

/-- Rules are in one list each, they know where they are, and freeing one thing frees what it owns
and nothing else. -/
theorem Built.wellOwned_and_freesOwned {compatibility : Compatibility} (h : Built compatibility m) :
    m.WellOwned ∧ m.FreesOwned :=
  have hforest := h.forest
  ⟨hforest.wellOwned, fun _ hs => deallocates_removeSheet hs,
    fun _ text hs => hforest.deallocates_replaceRules hs text,
    fun _ _ _ hok => hforest.deallocates_setRuleText hok⟩

/-- A sheet with an import, a media rule around another rule, and a rule that was deleted. -/
def unfilled : ObjectModel :=
  [Edit.createSheet none "" .author,
    .replaceRules ⟨0, 0⟩ "@import 'a'; @media print \x7b p \x7b\x7d \x7d q \x7b\x7d",
    .deleteRule (.sheet ⟨0, 0⟩) 2].foldl Edit.apply (empty .full)

/-- The import got a sheet of its own. -/
def filled : ObjectModel :=
  ((ModelM.attachImport ⟨0, 0⟩ (unfilled.createSheet none "" .author).2).exec
    (unfilled.createSheet none "" .author).1).2

theorem wellOwned_filled : filled.listed (.rules ⟨0, 0⟩) = [⟨0, 0⟩, ⟨1, 0⟩] ∧
    filled.listed (.inner ⟨1, 0⟩) = [⟨2, 0⟩] ∧ filled.listed (.deleted ⟨0, 0⟩) = [⟨3, 0⟩] ∧
    filled.ownedBy (.rule ⟨0, 0⟩) = [.sheet ⟨1, 0⟩] ∧ filled.WellOwned ∧ filled.FreesOwned := by
  have hunfilled : Built .full unfilled := Built.empty.edits _
  have hattachable := hunfilled.forest.isAttachable_createSheet (by decide +kernel) none "" .author
    ⟨0, 0⟩
  have hcreated : Built .full (unfilled.createSheet none "" .author).1 :=
    hunfilled.edit (.createSheet none "" .author)
  have hfilled : Built .full filled := .attach hcreated hattachable
  exact ⟨by decide +kernel, by decide +kernel, by decide +kernel, by decide +kernel,
    hfilled.wellOwned_and_freesOwned⟩

end ObjectModel
end WebStyle
