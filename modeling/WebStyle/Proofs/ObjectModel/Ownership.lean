import Mathlib.Data.List.Flatten
import Mathlib.Logic.Relation
import WebStyle.ObjectModel.Ownership
import WebStyle.Proofs.Depth
import WebStyle.Proofs.Slots
/-!
Who owns what in an object model. Each sheet and each rule has one owner at most, and rules that are
owned are live, so that freeing something frees what it owns and nothing that others own.
-/
set_option autoImplicit false

namespace WebStyle

/-- The sheet that a part is, if it is one. -/
def ModelPart.sheet? : ModelPart → Option SheetId
  | .sheet s => some s
  | .rule _ => none

/-- The rule that a part is, if it is one. -/
def ModelPart.rule? : ModelPart → Option RuleId
  | .sheet _ => none
  | .rule r => some r

theorem ModelPart.length_filterMap (l : List ModelPart) :
    (l.filterMap sheet?).length + (l.filterMap rule?).length = l.length := by
  induction l with
  | nil => rfl
  | cons p l ih => cases p <;> simp [List.filterMap_cons, sheet?, rule?] <;> omega

theorem RuleContent.mem_owned_rule {c : RuleContent} {r : RuleId} :
    .rule r ∈ c.owned ↔ r ∈ c.children := by
  cases c with
  | importing href l sheet => cases sheet <;> simp [owned, children]
  | _ => simp [owned, children]

namespace ObjectModel

variable {m m' : ObjectModel} {p q : ModelPart} {ps : List ModelPart} {s : SheetId} {r : RuleId}

/-- What a sheet or rule owns. A stale handle owns nothing. -/
def ownedBy (m : ObjectModel) : ModelPart → List ModelPart
  | .sheet s => ((m.sheet? s).map (·.owned)).getD []
  | .rule r => ((m.rule? r).map (·.content.owned)).getD []

def IsLive (m : ObjectModel) : ModelPart → Prop
  | .sheet s => (m.sheet? s).isSome
  | .rule r => (m.rule? r).isSome

/-- Whether a part is the same in both models. -/
def Untouched (m m' : ObjectModel) : ModelPart → Prop
  | .sheet s => m'.sheet? s = m.sheet? s
  | .rule r => m'.rule? r = m.rule? r

/-- Whether a part is one of those given, or owned by one of them at any depth. -/
def Reaches (m : ObjectModel) (ps : List ModelPart) (q : ModelPart) : Prop :=
  ∃ p ∈ ps, Relation.ReflTransGen (fun p q => q ∈ m.ownedBy p) p q

/-- What holds of every object model. The sheets that are held from outside have no owner. -/
structure Sound (held : List SheetId) (m : ObjectModel) : Prop where
  sheets : m.sheets.Valid
  rules : m.rules.Valid
  nodup : ∀ p : ModelPart, (m.ownedBy p).Nodup
  unique : ∀ p p' q : ModelPart, q ∈ m.ownedBy p → q ∈ m.ownedBy p' → p = p'
  live : ∀ (p : ModelPart) (r : RuleId), .rule r ∈ m.ownedBy p → (m.rule? r).isSome
  issued : ∀ (p : ModelPart) (s : SheetId), .sheet s ∈ m.ownedBy p → m.sheets.Issued s
  inSheet : ∀ (s : SheetId) (sheet : StyleSheet), m.sheet? s = some sheet → ∀ r ∈ sheet.rules,
    ∀ rule, m.rule? r = some rule → rule.parentSheet = some s
  inMedia : ∀ (r : RuleId) (rule : Rule), m.rule? r = some rule → ∀ c ∈ rule.content.children,
    ∀ child, m.rule? c = some child → child.parentSheet = rule.parentSheet
  heldIssued : ∀ s ∈ held, m.sheets.Issued s
  heldFree : ∀ s ∈ held, ∀ p : ModelPart, .sheet s ∉ m.ownedBy p

theorem mem_ownedBy_sheet {sheet : StyleSheet} (h : m.sheet? s = some sheet) :
    q ∈ m.ownedBy (.sheet s) ↔ q ∈ sheet.owned := by
  simp [ownedBy, h]

theorem mem_ownedBy_rule {rule : Rule} (h : m.rule? r = some rule) :
    q ∈ m.ownedBy (.rule r) ↔ q ∈ rule.content.owned := by
  simp [ownedBy, h]

theorem isLive_of_mem_ownedBy (h : q ∈ m.ownedBy p) : m.IsLive p := by
  cases p with
  | sheet s => cases hs : m.sheet? s <;> simp_all [ownedBy, IsLive]
  | rule r => cases hr : m.rule? r <;> simp_all [ownedBy, IsLive]

theorem untouched_trans {m'' : ObjectModel} (h : m.Untouched m' p) (h' : m'.Untouched m'' p) :
    m.Untouched m'' p := by
  cases p <;> exact Eq.trans h' h

theorem Untouched.ownedBy (h : m.Untouched m' p) : m'.ownedBy p = m.ownedBy p := by
  cases p with
  | sheet s => rw [ObjectModel.ownedBy, ObjectModel.ownedBy, show m'.sheet? s = m.sheet? s from h]
  | rule r => rw [ObjectModel.ownedBy, ObjectModel.ownedBy, show m'.rule? r = m.rule? r from h]

theorem Untouched.isLive (h : m.Untouched m' p) : m'.IsLive p ↔ m.IsLive p := by
  cases p with
  | sheet s => rw [IsLive, IsLive, show m'.sheet? s = m.sheet? s from h]
  | rule r => rw [IsLive, IsLive, show m'.rule? r = m.rule? r from h]

/-! ### Freeing -/

/-- Whether exactly one part is gone. -/
structure Erases (m m' : ObjectModel) (p : ModelPart) : Prop where
  dead : ¬ m'.IsLive p
  other : ∀ q, q ≠ p → m.Untouched m' q

theorem erases_eraseSheet (m : ObjectModel) (s : SheetId) :
    m.Erases (m.eraseSheet s) (.sheet s) where
  dead := by simp [IsLive, sheet?, eraseSheet, Slots.get?_erase]
  other q hq := by
    cases q with
    | sheet s' =>
      have hne : s ≠ s' := fun h => hq (h ▸ rfl)
      simp [Untouched, sheet?, eraseSheet, Slots.get?_erase, hne]
    | rule r => rfl

theorem erases_eraseRule (m : ObjectModel) (r : RuleId) : m.Erases (m.eraseRule r) (.rule r) where
  dead := by simp [IsLive, rule?, eraseRule, Slots.get?_erase]
  other q hq := by
    cases q with
    | sheet s => rfl
    | rule r' =>
      have hne : r ≠ r' := fun h => hq (h ▸ rfl)
      simp [Untouched, rule?, eraseRule, Slots.get?_erase, hne]

theorem Erases.ownedBy_subset (h : m.Erases m' p) (q : ModelPart) :
    m'.ownedBy q ⊆ m.ownedBy q := by
  by_cases hq : q = p
  · intro x hx
    exact absurd (hq ▸ isLive_of_mem_ownedBy hx) h.dead
  · rw [(h.other q hq).ownedBy]
    exact fun _ hx => hx

/-- What is reached from a part and others is that part, or reached without it from what it owns and
from the others. -/
theorem Erases.reaches_iff (h : m.Erases m' p) :
    m.Reaches (p :: ps) q ↔ q = p ∨ m'.Reaches (m.ownedBy p ++ ps) q := by
  have hback : ∀ {a b}, Relation.ReflTransGen (fun p q => q ∈ m'.ownedBy p) a b →
      Relation.ReflTransGen (fun p q => q ∈ m.ownedBy p) a b :=
    fun hab => Relation.ReflTransGen.mono (fun a _ hb => h.ownedBy_subset a hb) _ _ hab
  constructor
  · rintro ⟨a, ha, hab⟩
    induction hab with
    | refl =>
      rcases List.mem_cons.1 ha with rfl | ha
      · exact .inl rfl
      · exact .inr ⟨a, List.mem_append_right _ ha, .refl⟩
    | @tail b c _ hbc ih =>
      by_cases hb : b = p
      · exact .inr ⟨c, List.mem_append_left _ (hb ▸ hbc), .refl⟩
      · rcases ih with hb' | ⟨a', ha', hab'⟩
        · exact absurd hb' hb
        · refine .inr ⟨a', ha', hab'.tail ?_⟩
          rwa [(h.other b hb).ownedBy]
  · rintro (rfl | ⟨a, ha, hab⟩)
    · exact ⟨q, by simp, .refl⟩
    · rcases List.mem_append.1 ha with ha | ha
      · exact ⟨p, by simp, .head ha (hback hab)⟩
      · exact ⟨a, List.mem_cons_of_mem _ ha, hback hab⟩

theorem reaches_cons_of_dead (hp : ¬ m.IsLive p) :
    m.Reaches (p :: ps) q ↔ q = p ∨ m.Reaches ps q := by
  have howned : m.ownedBy p = [] :=
    List.eq_nil_iff_forall_not_mem.2 fun x hx => hp (isLive_of_mem_ownedBy hx)
  have herases : m.Erases m p := ⟨hp, fun q _ => by cases q <;> rfl⟩
  rw [herases.reaches_iff, howned, List.nil_append]

/-- What freeing does to parts that were there: the ones reached are gone, the others the same. -/
structure Frees (m m' : ObjectModel) (ps : List ModelPart) : Prop where
  dead : ∀ q, m.Reaches ps q → ¬ m'.IsLive q
  other : ∀ q, ¬ m.Reaches ps q → m.Untouched m' q
  changes : m'.changes = m.changes
  compatibility : m'.compatibility = m.compatibility
  sheetsGrow : m.sheets.Grows m'.sheets
  rulesGrow : m.rules.Grows m'.rules
  sheetsValid : m.sheets.Valid → m'.sheets.Valid
  rulesValid : m.rules.Valid → m'.rules.Valid

theorem Frees.of_dead (hp : ¬ m.IsLive p) (h : m.Frees m' ps) : m.Frees m' (p :: ps) where
  dead q hq := by
    rcases (reaches_cons_of_dead hp).1 hq with rfl | hq
    · by_cases hr : m.Reaches ps q
      · exact h.dead q hr
      · rwa [(h.other q hr).isLive]
    · exact h.dead q hq
  other q hq := h.other q fun hr => hq ((reaches_cons_of_dead hp).2 (.inr hr))
  changes := h.changes
  compatibility := h.compatibility
  sheetsGrow := h.sheetsGrow
  rulesGrow := h.rulesGrow
  sheetsValid := h.sheetsValid
  rulesValid := h.rulesValid

theorem Frees.of_erases {m₁ : ObjectModel} (he : m.Erases m₁ p) (hch : m₁.changes = m.changes)
    (hco : m₁.compatibility = m.compatibility) (hs : m.sheets.Grows m₁.sheets)
    (hr : m.rules.Grows m₁.rules) (hvs : m.sheets.Valid → m₁.sheets.Valid)
    (hvr : m.rules.Valid → m₁.rules.Valid) (h : m₁.Frees m' (m.ownedBy p ++ ps)) :
    m.Frees m' (p :: ps) where
  dead q hq := by
    rcases he.reaches_iff.1 hq with rfl | hq
    · by_cases hr : m₁.Reaches (m.ownedBy q ++ ps) q
      · exact h.dead q hr
      · rw [(h.other q hr).isLive]
        exact he.dead
    · exact h.dead q hq
  other q hq := by
    have hne : q ≠ p := fun hqp => hq (he.reaches_iff.2 (.inl hqp))
    have hfree := h.other q fun hr => hq (he.reaches_iff.2 (.inr hr))
    have herase := he.other q hne
    cases q with
    | sheet s => exact Eq.trans hfree herase
    | rule r => exact Eq.trans hfree herase
  changes := h.changes.trans hch
  compatibility := h.compatibility.trans hco
  sheetsGrow := hs.trans h.sheetsGrow
  rulesGrow := hr.trans h.rulesGrow
  sheetsValid hv := h.sheetsValid (hvs hv)
  rulesValid hv := h.rulesValid (hvr hv)

theorem frees_free (m : ObjectModel) (ps : List ModelPart) : m.Frees (m.free ps) ps := by
  fun_induction free m ps with
  | case1 m =>
    have hno : ∀ q, ¬ m.Reaches [] q := by
      rintro q ⟨p, hp, -⟩
      simp at hp
    exact ⟨fun q hq => absurd hq (hno q), fun q _ => by cases q <;> rfl, rfl, rfl, .refl _, .refl _,
      id, id⟩
  | case2 m s rest h ih => exact ih.of_dead (by simp [IsLive, h])
  | case3 m s rest sheet h _ ih =>
    refine Frees.of_erases (erases_eraseSheet m s) rfl rfl (Slots.grows_erase _ _) (.refl _)
      (fun hv => hv.erase s) id ?_
    simpa [ownedBy, h] using ih
  | case4 m r rest h ih => exact ih.of_dead (by simp [IsLive, h])
  | case5 m r rest rule h _ ih =>
    refine Frees.of_erases (erases_eraseRule m r) rfl rfl (.refl _) (Slots.grows_erase _ _)
      id (fun hv => hv.erase r) ?_
    simpa [ownedBy, h] using ih

theorem Frees.ownedBy_subset (h : m.Frees m' ps) (q : ModelPart) :
    m'.ownedBy q ⊆ m.ownedBy q := by
  by_cases hq : m.Reaches ps q
  · exact fun x hx => absurd (isLive_of_mem_ownedBy hx) (h.dead q hq)
  · rw [(h.other q hq).ownedBy]
    exact fun _ hx => hx

/-- What is left is what it was. -/
theorem Frees.untouched_of_isLive (h : m.Frees m' ps) (hq : m'.IsLive q) : m.Untouched m' q :=
  h.other q fun hr => h.dead q hr hq

theorem Frees.isLive_iff (h : m.Frees m' ps) (hq : m.IsLive q) :
    m'.IsLive q ↔ ¬ m.Reaches ps q :=
  ⟨fun hq' hr => h.dead q hr hq', fun hr => (h.other q hr).isLive.2 hq⟩

theorem Frees.sheet?_eq_some {sheet : StyleSheet} (h : m.Frees m' ps)
    (hs : m'.sheet? s = some sheet) : m.sheet? s = some sheet := by
  have hu : m'.sheet? s = m.sheet? s :=
    h.untouched_of_isLive (q := .sheet s) (by simp [IsLive, hs])
  rw [← hu, hs]

theorem Frees.rule?_eq_some {rule : Rule} (h : m.Frees m' ps) (hr : m'.rule? r = some rule) :
    m.rule? r = some rule := by
  have hu : m'.rule? r = m.rule? r := h.untouched_of_isLive (q := .rule r) (by simp [IsLive, hr])
  rw [← hu, hr]

section Sound

variable {held : List SheetId} (h : m.Sound held)
include h

/-- Rules of what is left are not reached: their one owner would have been freed. -/
theorem Sound.not_reaches_rule (hps : ∀ r, .rule r ∈ ps → ∀ q, .rule r ∉ m.ownedBy q)
    (hr : .rule r ∈ m.ownedBy p) (hp : ¬ m.Reaches ps p) : ¬ m.Reaches ps (.rule r) := by
  rintro ⟨a, ha, har⟩
  rcases Relation.ReflTransGen.cases_tail har with rfl | ⟨b, hab, hbr⟩
  · exact hps r ha p hr
  · rw [h.unique b p (.rule r) hbr hr] at hab
    exact hp ⟨a, ha, hab⟩

theorem Sound.free (hps : ∀ r, .rule r ∈ ps → ∀ q, .rule r ∉ m.ownedBy q) :
    (m.free ps).Sound held := by
  have hf := m.frees_free ps
  refine ⟨hf.sheetsValid h.sheets, hf.rulesValid h.rules, fun p => ?_, fun p p' q hq hq' => ?_,
    fun p r hr => ?_, fun p s hs => ?_, fun s sheet hs r hr rule hrule => ?_,
    fun r rule hr c hc child hchild => ?_, fun s hs => hf.sheetsGrow.issued s (h.heldIssued s hs),
    fun s hs p hp => h.heldFree s hs p (hf.ownedBy_subset p hp)⟩
  · by_cases hp : m.Reaches ps p
    · have hnil : (m.free ps).ownedBy p = [] :=
        List.eq_nil_iff_forall_not_mem.2 fun x hx => hf.dead p hp (isLive_of_mem_ownedBy hx)
      rw [hnil]
      exact List.nodup_nil
    · rw [(hf.other p hp).ownedBy]
      exact h.nodup p
  · exact h.unique p p' q (hf.ownedBy_subset p hq) (hf.ownedBy_subset p' hq')
  · have hp : ¬ m.Reaches ps p := fun hp => hf.dead p hp (isLive_of_mem_ownedBy hr)
    have hm := hf.ownedBy_subset p hr
    exact (hf.other _ (h.not_reaches_rule hps hm hp)).isLive.2 (h.live p r hm)
  · exact hf.sheetsGrow.issued s (h.issued p s (hf.ownedBy_subset p hs))
  · exact h.inSheet s sheet (hf.sheet?_eq_some hs) r hr rule (hf.rule?_eq_some hrule)
  · exact h.inMedia r rule (hf.rule?_eq_some hr) c hc child (hf.rule?_eq_some hchild)

end Sound

end ObjectModel
end WebStyle
