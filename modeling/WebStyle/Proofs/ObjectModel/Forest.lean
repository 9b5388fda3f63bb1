import Mathlib.Data.Finite.Defs
import Mathlib.Order.WellFounded
import Mathlib.Data.Fintype.EquivFin
import WebStyle.Proofs.ObjectModel.Edit
/-!
Sheets and rules as a forest: nothing owns itself, not even through others, and each rule is in one
list, unless it was taken out of its list and has not been put into another one yet.
-/
set_option autoImplicit false

namespace WebStyle

section Acyclic

open Relation

variable {α : Type} {R R' : α → α → Prop} {a : α}
  (hnew : ∀ x y, R' x y → R x y ∨ x = a ∧ ¬ ReflTransGen R y a)
include hnew

/-- Steps from one place that lead away from it for good open no new ways to it. -/
theorem reaches_of_new {x : α} (h : ReflTransGen R' x a) : ReflTransGen R x a := by
  induction h using ReflTransGen.head_induction_on with
  | refl => exact .refl
  | head hxy _ ih =>
    rcases hnew _ _ hxy with hxy | ⟨rfl, hno⟩
    · exact .head hxy ih
    · exact absurd ih hno

theorem acyclic_of_new (h : ∀ x, ¬ TransGen R x x) (x : α) : ¬ TransGen R' x x := by
  -- a way either was there before, or passes the place that the new steps are from
  have hsplit : ∀ {x y}, TransGen R' x y →
      TransGen R x y ∨ ReflTransGen R' x a ∧ TransGen R' a y := by
    intro x y hxy
    induction hxy with
    | single hxy =>
      rcases hnew _ _ hxy with h' | ⟨rfl, -⟩
      · exact .inl (.single h')
      · exact .inr ⟨.refl, .single hxy⟩
    | tail hxb hbc ih =>
      rcases ih with ih | ⟨hxa, hab⟩
      · rcases hnew _ _ hbc with h' | ⟨rfl, -⟩
        · exact .inl (.tail ih h')
        · exact .inr ⟨hxb.to_reflTransGen, .single hbc⟩
      · exact .inr ⟨hxa, .tail hab hbc⟩
  intro hx
  rcases hsplit hx with hx | ⟨hxa, hax⟩
  · exact h x hx
  · obtain ⟨y, hay, hya⟩ := TransGen.head'_iff.1 (hax.trans_left hxa)
    have hback := reaches_of_new hnew hya
    rcases hnew _ _ hay with hay | ⟨-, hno⟩
    · exact h a (.head' hay hback)
    · exact hno hback

end Acyclic

namespace ObjectModel

open Relation

variable {m m' : ObjectModel} {loose loose' : List RuleId} {p q : ModelPart} {s : SheetId}
  {r : RuleId} {sheet : StyleSheet} {rule : Rule}

abbrev Owns (m : ObjectModel) (p q : ModelPart) : Prop := q ∈ m.ownedBy p

/-- What holds of sheets and rules, where only the given rules may be without an owner. -/
structure Forest (loose : List RuleId) (m : ObjectModel) : Prop where
  sound : m.Sound []
  acyclic : ∀ p : ModelPart, ¬ TransGen m.Owns p p
  parent : ∀ (p : ModelPart) (r : RuleId) (rule : Rule), .rule r ∈ m.ownedBy p →
    m.rule? r = some rule → rule.parentRule = p.rule?
  deleted : ∀ (s : SheetId) (sheet : StyleSheet) (r : RuleId) (rule : Rule),
    m.sheet? s = some sheet → r ∈ sheet.deleted → m.rule? r = some rule → rule.parentSheet = none
  covered : ∀ r : RuleId, (m.rule? r).isSome → r ∈ loose ∨ ∃ p, .rule r ∈ m.ownedBy p

/-- Whether one part may come to own another one. -/
def Fits (m : ObjectModel) (p q : ModelPart) : Prop :=
  ¬ ReflTransGen m.Owns q p ∧
    ∀ x y, q = .rule x → m.rule? x = some y → y.parentRule = p.rule?

theorem forest_empty (compatibility : Compatibility) : (empty compatibility).Forest [] := by
  have hsheet : ∀ s, (empty compatibility).sheet? s = none := Slots.get?_empty
  have hrule : ∀ r, (empty compatibility).rule? r = none := Slots.get?_empty
  have howned : ∀ p, (empty compatibility).ownedBy p = [] := by
    intro p
    cases p <;> simp [ownedBy, hsheet, hrule]
  refine ⟨sound_empty compatibility, fun p hp => ?_, ?_, ?_, ?_⟩
  · obtain ⟨q, hq, -⟩ := TransGen.head'_iff.1 hp
    simp [Owns, howned] at hq
  all_goals simp [howned, hsheet, hrule]

namespace Forest

theorem mono (h : m.Forest loose) (hl : loose ⊆ loose') : m.Forest loose' :=
  { h with covered := fun r hr => (h.covered r hr).imp (fun hx => hl hx) id }

theorem congr (h : m.Forest loose) (hs : m'.sheets = m.sheets) (hr : m'.rules = m.rules) :
    m'.Forest loose := by
  have hsheet : ∀ s, m'.sheet? s = m.sheet? s := fun s => by rw [sheet?, sheet?, hs]
  have hrule : ∀ r, m'.rule? r = m.rule? r := fun r => by rw [rule?, rule?, hr]
  have hpart : ∀ p, m'.ownedBy p = m.ownedBy p := by
    intro p
    cases p <;> simp [ownedBy, hsheet, hrule]
  have howned : m'.Owns = m.Owns := by
    funext p q
    simp [Owns, hpart]
  refine ⟨h.sound.congr hs hr, howned ▸ h.acyclic, fun p r rule hx => ?_,
    fun s sheet r rule => ?_, fun r hx => ?_⟩
  · rw [hpart] at hx
    rw [hrule]
    exact h.parent p r rule hx
  · rw [hsheet, hrule]
    exact h.deleted s sheet r rule
  · rw [hrule] at hx
    refine (h.covered r hx).imp id (.imp fun p hp => ?_)
    rwa [hpart]

theorem note (h : m.Forest loose) (c : Change) : (m.note c).Forest loose := h.congr rfl rfl

theorem noteChanged (h : m.Forest loose) (x : Option SheetId) : (m.noteChanged x).Forest loose := by
  cases x with
  | none => exact h
  | some s => exact h.note _

theorem noteImport (h : m.Forest loose) (type : RuleType) (x : Option SheetId) (r : RuleId) :
    (m.noteImport type x r).Forest loose :=
  h.congr sheets_noteImport rules_noteImport

/-- One part comes to own other things. What it gives up has to be loose or taken in again. -/
theorem reown (h : m.Forest loose) (hsound : m'.Sound [])
    (hrules : ∀ x y, m'.rule? x = some y → ∃ y₀, m.rule? x = some y₀ ∧
      y.parentRule = y₀.parentRule ∧ y.parentSheet = y₀.parentSheet)
    (hother : ∀ q, q ≠ p → m'.ownedBy q = m.ownedBy q)
    (hjoin : ∀ q ∈ m'.ownedBy p, q ∈ m.ownedBy p ∨ m.Fits p q)
    (hdeleted : ∀ s sheet x, m'.sheet? s = some sheet → x ∈ sheet.deleted →
      (∃ old, m.sheet? s = some old ∧ x ∈ old.deleted) ∨
        ∀ y, m.rule? x = some y → y.parentSheet = none)
    (hleft : ∀ x, x ∈ loose ∨ .rule x ∈ m.ownedBy p → x ∈ loose' ∨ .rule x ∈ m'.ownedBy p) :
    m'.Forest loose' := by
  refine ⟨hsound, acyclic_of_new (a := p) (fun q q' hq => ?_) h.acyclic, fun q x y hx hy => ?_,
    fun s sheet x y hs hx hy => ?_, fun x hx => ?_⟩
  · by_cases hqp : q = p
    · subst hqp
      exact (hjoin q' hq).imp id fun hfits => ⟨rfl, hfits.1⟩
    · rw [Owns, hother q hqp] at hq
      exact .inl hq
  · obtain ⟨y₀, hy₀, hparent, -⟩ := hrules x y hy
    rw [hparent]
    by_cases hqp : q = p
    · subst hqp
      rcases hjoin _ hx with hx | hfits
      · exact h.parent q x y₀ hx hy₀
      · exact hfits.2 x y₀ rfl hy₀
    · exact h.parent q x y₀ (hother q hqp ▸ hx) hy₀
  · obtain ⟨y₀, hy₀, -, hsheet⟩ := hrules x y hy
    rw [hsheet]
    rcases hdeleted s sheet x hs hx with ⟨old, hold, hx⟩ | hno
    · exact h.deleted s old x y₀ hold hx hy₀
    · exact hno y₀ hy₀
  · obtain ⟨y, hy⟩ := Option.isSome_iff_exists.1 hx
    obtain ⟨y₀, hy₀, -⟩ := hrules x y hy
    have hmoved : x ∈ loose ∨ .rule x ∈ m.ownedBy p →
        x ∈ loose' ∨ ∃ q, .rule x ∈ m'.ownedBy q :=
      fun hx => (hleft x hx).imp id fun hp => ⟨p, hp⟩
    rcases h.covered x (by simp [hy₀]) with hx | ⟨q, hq⟩
    · exact hmoved (.inl hx)
    · by_cases hqp : q = p
      · exact hmoved (.inr (hqp ▸ hq))
      · exact .inr ⟨q, hother q hqp ▸ hq⟩

theorem setContent {c : RuleContent} (h : m.Forest loose) (hr : m.rule? r = some rule)
    (hsound : (m.setContent r c).Sound [])
    (hjoin : ∀ q ∈ c.owned, q ∈ rule.content.owned ∨ m.Fits (.rule r) q)
    (hleft : ∀ x, x ∈ loose ∨ x ∈ rule.content.children → x ∈ loose' ∨ x ∈ c.children) :
    (m.setContent r c).Forest loose' := by
  have howned : ∀ q, (m.setContent r c).ownedBy q = if q = .rule r then c.owned else m.ownedBy q :=
    fun q => ownedBy_modifyRule hr
  refine h.reown (p := .rule r) hsound (fun x y hy => ?_) (fun q hq => by rw [howned, if_neg hq])
    (fun q hq => ?_) (fun s sheet x hs hx => .inl ⟨sheet, hs, hx⟩) fun x hx => ?_
  · obtain ⟨y₀, hy₀, rfl⟩ := exists_rule_of_modifyRule hy
    exact ⟨y₀, hy₀, by split <;> rfl, by split <;> rfl⟩
  · rw [howned, if_pos rfl] at hq
    rw [mem_ownedBy_rule hr]
    exact hjoin q hq
  · rw [howned, if_pos rfl, RuleContent.mem_owned_rule]
    exact hleft x (hx.imp id fun hx => RuleContent.mem_owned_rule.1 ((mem_ownedBy_rule hr).1 hx))

/-- Content that owns the same. -/
theorem setContent_of_owned {c : RuleContent} (h : m.Forest loose) (hr : m.rule? r = some rule)
    (hc : c.owned = rule.content.owned) : (m.setContent r c).Forest loose := by
  have hn : c.owned.Nodup := by
    have hn := h.sound.nodup (.rule r)
    simp only [ownedBy, hr, Option.map_some, Option.getD_some] at hn
    rwa [hc]
  refine h.setContent hr (h.sound.setContent_of_subset hr hn (by simp [hc]))
    (fun q hq => .inl (hc ▸ hq)) fun x hx => hx.imp id fun hx => ?_
  rw [← RuleContent.mem_owned_rule] at hx ⊢
  rwa [hc]

theorem modifySheet {f : StyleSheet → StyleSheet} (h : m.Forest loose)
    (hs : m.sheet? s = some sheet) (hsound : (m.modifySheet s f).Sound [])
    (hjoin : ∀ q ∈ (f sheet).owned, q ∈ sheet.owned ∨ m.Fits (.sheet s) q)
    (hdeleted : ∀ x ∈ (f sheet).deleted, x ∈ sheet.deleted ∨
      ∀ y, m.rule? x = some y → y.parentSheet = none)
    (hleft : ∀ x, x ∈ loose ∨ .rule x ∈ sheet.owned → x ∈ loose' ∨ .rule x ∈ (f sheet).owned) :
    (m.modifySheet s f).Forest loose' := by
  have howned : ∀ q, (m.modifySheet s f).ownedBy q =
      if q = .sheet s then (f sheet).owned else m.ownedBy q := fun q => ownedBy_modifySheet hs
  refine h.reown (p := .sheet s) hsound (fun x y hy => ⟨y, hy, rfl, rfl⟩)
    (fun q hq => by rw [howned, if_neg hq]) (fun q hq => ?_) (fun t sheet' x ht hx => ?_)
    fun x hx => ?_
  · rw [howned, if_pos rfl] at hq
    rw [mem_ownedBy_sheet hs]
    exact hjoin q hq
  · obtain ⟨old, hold, rfl⟩ := exists_sheet_of_modifySheet ht
    split at hx
    · rename_i hst
      subst hst
      obtain rfl := Option.some.inj (hs.symm.trans hold)
      exact (hdeleted x hx).imp (fun hx => ⟨_, hs, hx⟩) id
    · exact .inl ⟨old, hold, hx⟩
  · rw [howned, if_pos rfl]
    exact hleft x (hx.imp id (mem_ownedBy_sheet hs).1)

/-- A change of what is not about rules. -/
theorem modifySheet_of_rules {f : StyleSheet → StyleSheet} (h : m.Forest loose) (s : SheetId)
    (hr : ∀ y, (f y).rules = y.rules) (hd : ∀ y, (f y).deleted = y.deleted) :
    (m.modifySheet s f).Forest loose := by
  have hsound := h.sound.modifySheet_of_rules s hr hd
  cases hs : m.sheet? s with
  | none => exact h.congr (Slots.modify_of_none hs) rfl
  | some sheet =>
    have ho : (f sheet).owned = sheet.owned := by simp [StyleSheet.owned, hr, hd]
    refine h.modifySheet hs hsound (fun q hq => .inl (ho ▸ hq)) (fun x hx => .inl (hd sheet ▸ hx))
      fun x hx => ?_
    rwa [ho]

/-- What is freed takes all along that it owns. -/
theorem free {ps : List ModelPart} (h : m.Forest loose)
    (hps : ∀ r, .rule r ∈ ps → ∀ q, .rule r ∉ m.ownedBy q)
    (hleft : ∀ x ∈ loose, .rule x ∈ ps ∨ x ∈ loose') : (m.free ps).Forest loose' := by
  have hf := m.frees_free ps
  refine ⟨h.sound.free hps, acyclic_of_new (a := .sheet ⟨0, 0⟩)
    (fun q q' hq => .inl (hf.ownedBy_subset q hq)) h.acyclic, fun q x y hx hy => ?_,
    fun s sheet x y hs hx hy => ?_, fun x hx => ?_⟩
  · exact h.parent q x y (hf.ownedBy_subset q hx) (hf.rule?_eq_some hy)
  · exact h.deleted s sheet x y (hf.sheet?_eq_some hs) hx (hf.rule?_eq_some hy)
  · have hno : ¬ m.Reaches ps (.rule x) := fun hr => hf.dead _ hr hx
    obtain ⟨y, hy⟩ := Option.isSome_iff_exists.1 hx
    rcases h.covered x (by simp [hf.rule?_eq_some hy]) with hx | ⟨q, hq⟩
    · exact .inl ((hleft x hx).resolve_left fun hp => hno ⟨_, hp, .refl⟩)
    · have hq' : ¬ m.Reaches ps q := fun ⟨a, ha, haq⟩ => hno ⟨a, ha, haq.tail hq⟩
      exact .inr ⟨q, (hf.other q hq').ownedBy ▸ hq⟩

theorem createSheet (h : m.Forest loose) (href : Option String) (media : String) (origin : Origin) :
    (m.createSheet href media origin).1.Forest loose := by
  have howned : (m.createSheet href media origin).1.Owns = m.Owns := by
    funext p q
    simp [Owns, h.sound.ownedBy_createSheet]
  refine ⟨h.sound.addSheet href media origin, howned ▸ h.acyclic, fun p x y hx => ?_,
    fun s sheet x y hs hx hy => ?_, fun x hx => ?_⟩
  · rw [h.sound.ownedBy_createSheet] at hx
    exact h.parent p x y hx
  · rw [h.sound.sheet?_createSheet] at hs
    split at hs
    · obtain rfl := Option.some.inj hs
      simp [StyleSheet.new] at hx
    · exact h.deleted s sheet x y hs hx hy
  · refine (h.covered x hx).imp id (.imp fun p hp => ?_)
    rwa [h.sound.ownedBy_createSheet]

theorem reserve (h : m.Forest loose) (sheet : Option SheetId) (parent : Option RuleId) :
    (m.reserve sheet parent).1.Forest ((m.reserve sheet parent).2 :: loose) := by
  have howned : (m.reserve sheet parent).1.Owns = m.Owns := by
    funext p q
    simp [Owns, h.sound.ownedBy_reserve]
  have hold : ∀ {x y}, (m.reserve sheet parent).1.rule? x = some y →
      x = (m.reserve sheet parent).2 ∨ m.rule? x = some y := by
    intro x y hy
    rw [h.sound.rule?_reserve] at hy
    split at hy
    · exact .inl (by assumption)
    · exact .inr hy
  -- the new rule is in no list, as only live rules are
  have hnew : ∀ p, .rule (m.reserve sheet parent).2 ∉ m.ownedBy p := by
    intro p hp
    have := h.sound.live p _ hp
    simp [h.sound.rule?_fresh] at this
  refine ⟨h.sound.reserve sheet parent, howned ▸ h.acyclic, fun p x y hx hy => ?_,
    fun s sheet' x y hs hx hy => ?_, fun x hx => ?_⟩
  · rw [h.sound.ownedBy_reserve] at hx
    rcases hold hy with rfl | hy
    · exact absurd hx (hnew p)
    · exact h.parent p x y hx hy
  · rcases hold hy with rfl | hy
    · exact absurd ((mem_ownedBy_sheet (m := m) hs).2 (by simp [StyleSheet.owned, hx])) (hnew _)
    · exact h.deleted s sheet' x y hs hx hy
  · obtain ⟨y, hy⟩ := Option.isSome_iff_exists.1 hx
    rcases hold hy with rfl | hy
    · exact .inl List.mem_cons_self
    · refine (h.covered x (by simp [hy])).imp (List.mem_cons_of_mem _) (.imp fun p hp => ?_)
      rwa [h.sound.ownedBy_reserve]

theorem orphan (h : m.Forest loose) (hr : ∀ p, .rule r ∉ m.ownedBy p) :
    (m.orphan r).Forest loose := by
  have ho := m.orphans_orphan r
  have howned : (m.orphan r).Owns = m.Owns := by
    funext p q
    simp [Owns, ho.ownedBy_eq]
  refine ⟨ho.sound h.sound hr, howned ▸ h.acyclic, fun p x y hx hy => ?_,
    fun s sheet x y hs hx hy => ?_, fun x hx => ?_⟩
  · rw [ho.ownedBy_eq] at hx
    obtain ⟨y₀, hy₀, -, hparent, -⟩ := ho.rule x y hy
    have hne : x ≠ r := by
      rintro rfl
      exact hr p hx
    rw [hparent, if_neg hne]
    exact h.parent p x y₀ hx hy₀
  · rw [ho.sheet?_eq] at hs
    obtain ⟨y₀, hy₀, -, -, hsheet⟩ := ho.rule x y hy
    rw [hsheet]
    split
    · rfl
    · exact h.deleted s sheet x y₀ hs hx hy₀
  · rw [ho.isSome] at hx
    refine (h.covered x hx).imp id (.imp fun p hp => ?_)
    rwa [ho.ownedBy_eq]

/-! ### Adding rules -/

/-- New rules lead to new rules only. -/
theorem not_reaches_of_fresh {held : List SheetId} {sheet : Option SheetId} {ids : List RuleId}
    (ha : m.Adopts held sheet m' ids) {x : RuleId} (hx : m.rule? x = none) (hp : m.IsLive p) :
    ¬ ReflTransGen m'.Owns (.rule x) p := by
  intro h
  have hfresh : ∃ y, p = .rule y ∧ m.rule? y = none := by
    clear hp
    induction h with
    | refl => exact ⟨x, rfl, hx⟩
    | tail _ hbc ih =>
      obtain ⟨y, rfl, hy⟩ := ih
      rcases ha.added _ _ hbc with hbc | hbc
      · exact absurd (isLive_of_mem_ownedBy hbc) (by simp [IsLive, hy])
      · exact hbc
  obtain ⟨y, rfl, hy⟩ := hfresh
  simp [IsLive, hy] at hp

/-- Added rules fit under what was there, if it is what they were added for. -/
theorem fits_of_adopts {held : List SheetId} {sheet : Option SheetId} {ids : List RuleId}
    (ha : m.Adopts held sheet m' ids) (hp : m.IsLive p)
    (hparent : ∀ x ∈ ids, ∀ y, m'.rule? x = some y → y.parentRule = p.rule?) {x : RuleId}
    (hx : x ∈ ids) : m'.Fits p (.rule x) := by
  refine ⟨not_reaches_of_fresh ha (ha.fresh x hx) hp, ?_⟩
  rintro _ y ⟨⟩ hy
  exact hparent x hx y hy

/-- Where rules are added, they are loose, and name the rule that they were added for. -/
structure Grown (loose : List RuleId) (parent : Option RuleId) (m : ObjectModel)
    (ids : List RuleId) : Prop where
  forest : m.Forest (ids ++ loose)
  parent : ∀ x ∈ ids, ∀ y, m.rule? x = some y → y.parentRule = parent

/-- Built content is put into the rule that it was built for. -/
theorem setBuilt {x : Option SheetId} {source : RuleSource} {c : RuleContent}
    (h : Grown loose (some r) m' c.children) (hb : m.Builds [] x source m' c)
    (hlive : (m.rule? r).isSome) (hr : m'.rule? r = some rule) (hx : rule.parentSheet = x)
    (hempty : rule.content.owned = []) : (m'.setContent r c).Forest loose := by
  refine h.forest.setContent hr (hb.sound_setContent hr hx) (fun q hq => .inr ?_) fun y hy => ?_
  · obtain ⟨y, hy, rfl⟩ := hb.exists_child hq
    exact fits_of_adopts hb.adopts (p := .rule r) hlive h.parent hy
  · rcases hy with hy | hy
    · exact (List.mem_append.1 hy).symm
    · have := RuleContent.mem_owned_rule.2 hy
      simp [hempty] at this

theorem grown_adoptAll (x : Option SheetId) (parent : Option RuleId) (sources : List RuleSource)
    (h : m.Forest loose) : Grown loose parent (m.adoptAll x parent sources).1
      (m.adoptAll x parent sources).2 := by
  refine adoptAll.induct_unfolding x
    (fun m r source result => ∀ loose, m.Forest loose → (m.rule? r).isSome →
      Grown loose (some r) result.1 result.2.children)
    (fun m parent _ result => ∀ loose, m.Forest loose → Grown loose parent result.1 result.2)
    ?style ?media ?importing ?fontFace ?page ?nil ?kept ?dropped m parent sources loose h
  case style => exact fun m r selectors declarations loose h _ =>
    ⟨h, by simp [RuleContent.children]⟩
  case media =>
    intro m r l rules m₁ ids heq ih loose h _
    rw [heq] at ih
    exact ih loose h
  case importing => exact fun m r href l loose h _ => ⟨h, by simp [RuleContent.children]⟩
  case fontFace => exact fun m r declarations loose h _ => ⟨h, by simp [RuleContent.children]⟩
  case page => exact fun m r selector declarations loose h _ => ⟨h, by simp [RuleContent.children]⟩
  case nil => exact fun m parent loose h => ⟨h, by simp⟩
  case kept =>
    intro m parent source rest _ m₁ r hreserve m₂ content hbuild m₃ m₄ ids hrest ihb iha loose h
    obtain rfl : (m.reserve x parent).1 = m₁ := by rw [hreserve]
    obtain rfl : (m.reserve x parent).2 = r := by rw [hreserve]
    have h₁ := h.reserve x parent
    have hr₁ : (m.reserve x parent).1.rule? (m.reserve x parent).2 =
        some ⟨.placeholder, parent, x⟩ := by rw [h.sound.rule?_reserve, if_pos rfl]
    have hb : (m.reserve x parent).1.Builds [] x source _ _ :=
      builds_build (m.reserve x parent).2 source h₁.sound
    rw [hbuild] at ihb hb
    have hr₂ := hb.adopts.kept _ _ hr₁
    have h₂ := ihb _ h₁ (by simp [hr₁])
    have h₃ : m₃.Forest ((m.reserve x parent).2 :: loose) :=
      (setBuilt h₂ hb (by simp [hr₁]) hr₂ rfl rfl).noteImport _ _ _
    have hr₃ : m₃.rule? (m.reserve x parent).2 = some ⟨content, parent, x⟩ := by
      simp [m₃, rule?_setContent, hr₂]
    have ha₃ : m₃.Adopts [] x _ _ := adopts_adoptAll parent rest h₃.sound
    rw [hrest] at iha ha₃
    have h₄ := iha _ h₃
    refine ⟨h₄.forest.mono (by simp), fun y hy z hz => ?_⟩
    rcases List.mem_cons.1 hy with rfl | hy
    · obtain rfl := Option.some.inj ((ha₃.kept _ _ hr₃).symm.trans hz)
      rfl
    · exact h₄.parent y hy z hz
  case dropped => exact fun m parent source rest _ ih loose h => ih loose h

theorem grown_build (x : Option SheetId) (source : RuleSource) (h : m.Forest loose) (r : RuleId) :
    Grown loose (some r) (m.build x r source).1 (m.build x r source).2.children := by
  cases source with
  | media l rules =>
    simp only [build]
    exact grown_adoptAll x (some r) rules h
  | style selectors declarations => exact ⟨h, by simp [build, RuleContent.children]⟩
  | importing href l => exact ⟨h, by simp [build, RuleContent.children]⟩
  | fontFace declarations => exact ⟨h, by simp [build, RuleContent.children]⟩
  | page selector declarations => exact ⟨h, by simp [build, RuleContent.children]⟩

end Forest

end ObjectModel
end WebStyle
