import WebStyle.ObjectModel.Edit
import WebStyle.Proofs.ObjectModel.Ownership
/-!
How the single changes that edits are made of keep an object model sound.
-/
set_option autoImplicit false

namespace WebStyle.ObjectModel

variable {m : ObjectModel} {held : List SheetId} {s : SheetId} {r : RuleId} {p : ModelPart}
  {sheet : StyleSheet} {rule : Rule}

/-! ### Lookup -/

theorem rule?_modifyRule {f : Rule → Rule} {x : RuleId} :
    (m.modifyRule r f).rule? x = if r = x then (m.rule? x).map f else m.rule? x :=
  Slots.get?_modify

theorem sheet?_modifySheet {f : StyleSheet → StyleSheet} {x : SheetId} :
    (m.modifySheet s f).sheet? x = if s = x then (m.sheet? x).map f else m.sheet? x :=
  Slots.get?_modify

@[simp] theorem sheet?_modifyRule {f : Rule → Rule} : (m.modifyRule r f).sheet? s = m.sheet? s :=
  rfl

@[simp] theorem sheet?_setContent {c : RuleContent} : (m.setContent r c).sheet? s = m.sheet? s :=
  rfl

@[simp] theorem rule?_modifySheet {f : StyleSheet → StyleSheet} :
    (m.modifySheet s f).rule? r = m.rule? r := rfl

theorem rule?_setContent {c : RuleContent} {x : RuleId} :
    (m.setContent r c).rule? x =
      if r = x then (m.rule? x).map fun rule => { rule with content := c } else m.rule? x :=
  rule?_modifyRule

/-- A rule that was changed was there before, in the same sheet. -/
theorem exists_rule_of_modifyRule {f : Rule → Rule} {x : RuleId} {y : Rule}
    (h : (m.modifyRule r f).rule? x = some y) :
    ∃ y₀, m.rule? x = some y₀ ∧ y = if r = x then f y₀ else y₀ := by
  rw [rule?_modifyRule] at h
  split at h
  · rename_i hx
    obtain ⟨y₀, hy₀, rfl⟩ := Option.map_eq_some_iff.1 h
    exact ⟨y₀, hy₀, by rw [if_pos hx]⟩
  · rename_i hx
    exact ⟨y, h, by rw [if_neg hx]⟩

theorem exists_sheet_of_modifySheet {f : StyleSheet → StyleSheet} {x : SheetId} {y : StyleSheet}
    (h : (m.modifySheet s f).sheet? x = some y) :
    ∃ y₀, m.sheet? x = some y₀ ∧ y = if s = x then f y₀ else y₀ := by
  rw [sheet?_modifySheet] at h
  split at h
  · rename_i hx
    obtain ⟨y₀, hy₀, rfl⟩ := Option.map_eq_some_iff.1 h
    exact ⟨y₀, hy₀, by rw [if_pos hx]⟩
  · rename_i hx
    exact ⟨y, h, by rw [if_neg hx]⟩

theorem rule?_modifyRule_isSome {f : Rule → Rule} {x : RuleId} :
    ((m.modifyRule r f).rule? x).isSome = (m.rule? x).isSome := by
  rw [rule?_modifyRule]
  split <;> simp

theorem rule?_setContent_isSome {c : RuleContent} {x : RuleId} :
    ((m.setContent r c).rule? x).isSome = (m.rule? x).isSome :=
  rule?_modifyRule_isSome

theorem ownedBy_modifyRule {f : Rule → Rule} (hr : m.rule? r = some rule) :
    (m.modifyRule r f).ownedBy p =
      if p = .rule r then (f rule).content.owned else m.ownedBy p := by
  cases p with
  | sheet s => simp [ownedBy]
  | rule x =>
    simp only [ownedBy, rule?_modifyRule, ModelPart.rule.injEq]
    by_cases hx : r = x
    · subst hx
      simp [hr]
    · simp [hx, Ne.symm hx]

theorem ownedBy_modifySheet {f : StyleSheet → StyleSheet} (hs : m.sheet? s = some sheet) :
    (m.modifySheet s f).ownedBy p = if p = .sheet s then (f sheet).owned else m.ownedBy p := by
  cases p with
  | rule r => simp [ownedBy]
  | sheet x =>
    simp only [ownedBy, sheet?_modifySheet, ModelPart.sheet.injEq]
    by_cases hx : s = x
    · subst hx
      simp [hs]
    · simp [hx, Ne.symm hx]

/-! ### Keeping sound -/

theorem sound_empty (compatibility : Compatibility) : (empty compatibility).Sound [] := by
  have hsheet : ∀ s, (empty compatibility).sheet? s = none := Slots.get?_empty
  have hrule : ∀ r, (empty compatibility).rule? r = none := Slots.get?_empty
  have howned : ∀ p, (empty compatibility).ownedBy p = [] := by
    intro p
    cases p <;> simp [ownedBy, hsheet, hrule]
  constructor
  · exact Slots.valid_empty
  · exact Slots.valid_empty
  all_goals simp [howned, hsheet, hrule]

namespace Sound

/-- Only the sheets and rules count. -/
theorem congr {m' : ObjectModel} (h : m.Sound held) (hs : m'.sheets = m.sheets)
    (hr : m'.rules = m.rules) : m'.Sound held := by
  obtain ⟨sheets, rules, compatibility, changes⟩ := m
  obtain ⟨sheets', rules', compatibility', changes'⟩ := m'
  obtain rfl : sheets' = sheets := hs
  obtain rfl : rules' = rules := hr
  exact ⟨h.sheets, h.rules, h.nodup, h.unique, h.live, h.issued, h.inSheet, h.inMedia,
    h.heldIssued, h.heldFree⟩

theorem held_subset {held' : List SheetId} (h : m.Sound held) (hs : held' ⊆ held) :
    m.Sound held' :=
  { h with
    heldIssued := fun s hs' => h.heldIssued s (hs hs')
    heldFree := fun s hs' => h.heldFree s (hs hs') }

theorem setContent {c : RuleContent} (h : m.Sound held) (hr : m.rule? r = some rule)
    (hn : c.owned.Nodup) (hfree : ∀ q ∈ c.owned, ∀ p, q ∈ m.ownedBy p → p = .rule r)
    (hrules : ∀ x ∈ c.children, ∃ y, m.rule? x = some y ∧ y.parentSheet = rule.parentSheet)
    (hsheets : ∀ x, .sheet x ∈ c.owned → m.sheets.Issued x ∧ x ∉ held) :
    (m.setContent r c).Sound held := by
  have howned : ∀ p, (m.setContent r c).ownedBy p =
      if p = .rule r then c.owned else m.ownedBy p := fun p => ownedBy_modifyRule hr
  have hlookup : ∀ {x y}, (m.setContent r c).rule? x = some y →
      ∃ y₀, m.rule? x = some y₀ ∧ y.parentSheet = y₀.parentSheet ∧
        y.content = if r = x then c else y₀.content := by
    intro x y hy
    obtain ⟨y₀, hy₀, rfl⟩ := exists_rule_of_modifyRule hy
    exact ⟨y₀, hy₀, by split <;> rfl, by split <;> rfl⟩
  refine ⟨h.sheets, h.rules.modify _ _, fun p => ?_, fun p p' q hq hq' => ?_, fun p x hx => ?_,
    fun p x hx => ?_, fun x y hy z hz w hw => ?_, fun x y hy z hz w hw => ?_, h.heldIssued,
    fun x hx p hp => ?_⟩
  · rw [howned]
    split
    · exact hn
    · exact h.nodup p
  · rw [howned] at hq hq'
    split at hq <;> split at hq'
    · simp_all
    · exact absurd (hfree q hq p' hq') (by assumption)
    · exact absurd (hfree q hq' p hq) (by assumption)
    · exact h.unique p p' q hq hq'
  · rw [rule?_setContent_isSome]
    rw [howned] at hx
    split at hx
    · obtain ⟨y, hy, -⟩ := hrules x (RuleContent.mem_owned_rule.1 hx)
      simp [hy]
    · exact h.live p x hx
  · rw [howned] at hx
    split at hx
    · exact (hsheets x hx).1
    · exact h.issued p x hx
  · obtain ⟨w₀, hw₀, hps, -⟩ := hlookup hw
    rw [hps]
    exact h.inSheet x y hy z hz w₀ hw₀
  · obtain ⟨y₀, hy₀, hps, hc⟩ := hlookup hy
    obtain ⟨w₀, hw₀, hps', -⟩ := hlookup hw
    rw [hps, hps']
    rw [hc] at hz
    split at hz
    · rename_i hx
      subst hx
      obtain rfl := Option.some.inj (hr.symm.trans hy₀)
      obtain ⟨w₁, hw₁, hw₁'⟩ := hrules z hz
      obtain rfl := Option.some.inj (hw₁.symm.trans hw₀)
      exact hw₁'
    · exact h.inMedia x y₀ hy₀ z hz w₀ hw₀
  · rw [howned] at hp
    split at hp
    · exact (hsheets x hp).2 hx
    · exact h.heldFree x hx p hp

/-- Content that owns no more than before. -/
theorem setContent_of_subset {c : RuleContent} (h : m.Sound held) (hr : m.rule? r = some rule)
    (hn : c.owned.Nodup) (hs : c.owned ⊆ rule.content.owned) :
    (m.setContent r c).Sound held := by
  have hmem : ∀ q ∈ c.owned, q ∈ m.ownedBy (.rule r) := fun q hq =>
    (mem_ownedBy_rule hr).2 (hs hq)
  refine h.setContent hr hn (fun q hq p hp => h.unique _ _ q hp (hmem q hq)) (fun x hx => ?_)
    fun x hx => ⟨h.issued _ x (hmem _ hx), fun hh => h.heldFree x hh _ (hmem _ hx)⟩
  have hx' := RuleContent.mem_owned_rule.2 hx
  obtain ⟨y, hy⟩ := Option.isSome_iff_exists.1 (h.live _ x (hmem _ hx'))
  exact ⟨y, hy, h.inMedia r rule hr x (RuleContent.mem_owned_rule.1 (hs hx')) y hy⟩

theorem modifySheet {f : StyleSheet → StyleSheet} (h : m.Sound held) (hs : m.sheet? s = some sheet)
    (hn : (f sheet).owned.Nodup)
    (hfree : ∀ q ∈ (f sheet).owned, ∀ p, q ∈ m.ownedBy p → p = .sheet s)
    (hlive : ∀ x, .rule x ∈ (f sheet).owned → (m.rule? x).isSome)
    (hrules : ∀ x ∈ (f sheet).rules, ∀ y, m.rule? x = some y → y.parentSheet = some s) :
    (m.modifySheet s f).Sound held := by
  have howned : ∀ p, (m.modifySheet s f).ownedBy p =
      if p = .sheet s then (f sheet).owned else m.ownedBy p := fun p => ownedBy_modifySheet hs
  have hsheet : ∀ x, .sheet x ∉ (f sheet).owned := by simp [StyleSheet.owned]
  have hgrows := Slots.grows_modify m.sheets s f
  refine ⟨h.sheets.modify _ _, h.rules, fun p => ?_, fun p p' q hq hq' => ?_, fun p x hx => ?_,
    fun p x hx => ?_, fun x y hy z hz w hw => ?_, h.inMedia,
    fun x hx => hgrows.issued x (h.heldIssued x hx), fun x hx p hp => ?_⟩
  · rw [howned]
    split
    · exact hn
    · exact h.nodup p
  · rw [howned] at hq hq'
    split at hq <;> split at hq'
    · simp_all
    · exact absurd (hfree q hq p' hq') (by assumption)
    · exact absurd (hfree q hq' p hq) (by assumption)
    · exact h.unique p p' q hq hq'
  · rw [howned] at hx
    split at hx
    · exact hlive x hx
    · exact h.live p x hx
  · rw [howned] at hx
    split at hx
    · exact absurd hx (hsheet x)
    · exact hgrows.issued x (h.issued p x hx)
  · obtain ⟨y₀, hy₀, rfl⟩ := exists_sheet_of_modifySheet hy
    split at hz
    · rename_i hx
      subst hx
      obtain rfl := Option.some.inj (hs.symm.trans hy₀)
      exact hrules z hz w hw
    · exact h.inSheet x y₀ hy₀ z hz w hw
  · rw [howned] at hp
    split at hp
    · exact hsheet x hp
    · exact h.heldFree x hx p hp

/-- A sheet that owns no more than before. -/
theorem modifySheet_of_subset {f : StyleSheet → StyleSheet} (h : m.Sound held)
    (hs : m.sheet? s = some sheet) (hn : (f sheet).owned.Nodup)
    (ho : (f sheet).owned ⊆ sheet.owned) (hr : (f sheet).rules ⊆ sheet.rules) :
    (m.modifySheet s f).Sound held := by
  have hmem : ∀ q ∈ (f sheet).owned, q ∈ m.ownedBy (.sheet s) := fun q hq =>
    (mem_ownedBy_sheet hs).2 (ho hq)
  refine h.modifySheet hs hn (fun q hq p hp => h.unique _ _ q hp (hmem q hq))
    (fun x hx => h.live _ x (hmem _ hx)) fun x hx y hy => h.inSheet s sheet hs x (hr hx) y hy

/-- A change of what is not about rules. -/
theorem modifySheet_of_rules {f : StyleSheet → StyleSheet} (h : m.Sound held) (s : SheetId)
    (hr : ∀ y, (f y).rules = y.rules) (hd : ∀ y, (f y).deleted = y.deleted) :
    (m.modifySheet s f).Sound held := by
  cases hs : m.sheet? s with
  | none =>
    refine h.congr (Slots.modify_of_none hs) rfl
  | some sheet =>
    have ho : (f sheet).owned = sheet.owned := by simp [StyleSheet.owned, hr, hd]
    refine h.modifySheet_of_subset hs ?_ ?_ ?_
    · rw [ho]
      simpa [ownedBy, hs] using h.nodup (.sheet s)
    · rw [ho]
      exact fun _ hx => hx
    · rw [hr]
      exact fun _ hx => hx

end Sound

/-! ### New sheets and rules -/

theorem Sound.rule?_reserve (h : m.Sound held) {sheet : Option SheetId} {parent : Option RuleId}
    (x : RuleId) : (m.reserve sheet parent).1.rule? x =
      if x = (m.reserve sheet parent).2 then some ⟨.placeholder, parent, sheet⟩ else m.rule? x :=
  h.rules.get?_insert _ x

theorem Sound.rule?_fresh (h : m.Sound held) {sheet : Option SheetId} {parent : Option RuleId} :
    m.rule? (m.reserve sheet parent).2 = none :=
  h.rules.get?_fresh _

theorem Sound.ownedBy_reserve (h : m.Sound held) {sheet : Option SheetId} {parent : Option RuleId} :
    (m.reserve sheet parent).1.ownedBy p = m.ownedBy p := by
  cases p with
  | sheet s => rfl
  | rule x =>
    simp only [ownedBy, h.rule?_reserve]
    split
    · rename_i hx
      subst hx
      simp [h.rule?_fresh, RuleContent.placeholder, RuleContent.owned]
    · rfl

theorem Sound.reserve (h : m.Sound held) (sheet : Option SheetId) (parent : Option RuleId) :
    (m.reserve sheet parent).1.Sound held := by
  have hlookup : ∀ {x y}, (m.reserve sheet parent).1.rule? x = some y →
      x = (m.reserve sheet parent).2 ∧ y = ⟨.placeholder, parent, sheet⟩ ∨ m.rule? x = some y := by
    intro x y hy
    rw [h.rule?_reserve] at hy
    split at hy
    · rename_i hx
      exact .inl ⟨hx, (Option.some.inj hy).symm⟩
    · exact .inr hy
  -- the new rule is in no list, as only live rules are
  have hnew : ∀ p, .rule (m.reserve sheet parent).2 ∉ m.ownedBy p := by
    intro p hp
    have := h.live p _ hp
    simp [h.rule?_fresh] at this
  refine ⟨h.sheets, h.rules.insert _, fun p => ?_, fun p p' q hq hq' => ?_, fun p x hx => ?_,
    fun p x hx => ?_, fun x y hy z hz w hw => ?_, fun x y hy z hz w hw => ?_, h.heldIssued,
    fun x hx p hp => ?_⟩
  · rw [h.ownedBy_reserve]
    exact h.nodup p
  · rw [h.ownedBy_reserve] at hq hq'
    exact h.unique p p' q hq hq'
  · rw [h.ownedBy_reserve] at hx
    rw [h.rule?_reserve]
    split
    · rfl
    · exact h.live p x hx
  · rw [h.ownedBy_reserve] at hx
    exact h.issued p x hx
  · rcases hlookup hw with ⟨rfl, -⟩ | hw
    · have hmem : .rule (m.reserve sheet parent).2 ∈ m.ownedBy (.sheet x) :=
        (mem_ownedBy_sheet hy).2 (by simp [StyleSheet.owned, hz])
      exact absurd hmem (hnew _)
    · exact h.inSheet x y hy z hz w hw
  · rcases hlookup hy with ⟨rfl, rfl, -⟩ | hy
    · simp [RuleContent.placeholder, RuleContent.children] at hz
    · rcases hlookup hw with ⟨rfl, -⟩ | hw
      · have hmem : .rule (m.reserve sheet parent).2 ∈ m.ownedBy (.rule x) :=
          (mem_ownedBy_rule hy).2 (RuleContent.mem_owned_rule.2 hz)
        exact absurd hmem (hnew _)
      · exact h.inMedia x y hy z hz w hw
  · rw [h.ownedBy_reserve] at hp
    exact h.heldFree x hx p hp

theorem Sound.sheet?_createSheet (h : m.Sound held) {href : Option String} {media : String}
    {origin : Origin} (x : SheetId) : (m.createSheet href media origin).1.sheet? x =
      if x = (m.createSheet href media origin).2 then some (.new href (.ofString media) origin)
      else m.sheet? x :=
  h.sheets.get?_insert _ x

theorem Sound.sheet?_fresh (h : m.Sound held) {href : Option String} {media : String}
    {origin : Origin} : m.sheet? (m.createSheet href media origin).2 = none :=
  h.sheets.get?_fresh _

theorem Sound.ownedBy_createSheet (h : m.Sound held) {href : Option String} {media : String}
    {origin : Origin} : (m.createSheet href media origin).1.ownedBy p = m.ownedBy p := by
  cases p with
  | rule r => rfl
  | sheet x =>
    simp only [ownedBy, h.sheet?_createSheet]
    split
    · rename_i hx
      subst hx
      simp [h.sheet?_fresh, StyleSheet.owned, StyleSheet.new]
    · rfl

theorem Sound.addSheet (h : m.Sound held) (href : Option String) (media : String)
    (origin : Origin) : (m.createSheet href media origin).1.Sound held := by
  have hgrows : m.sheets.Grows (m.createSheet href media origin).1.sheets := Slots.grows_insert _ _
  refine ⟨h.sheets.insert _, h.rules, fun p => ?_, fun p p' q hq hq' => ?_, fun p x hx => ?_,
    fun p x hx => ?_, fun x y hy z hz w hw => ?_, h.inMedia,
    fun x hx => hgrows.issued x (h.heldIssued x hx), fun x hx p hp => ?_⟩
  · rw [h.ownedBy_createSheet]
    exact h.nodup p
  · rw [h.ownedBy_createSheet] at hq hq'
    exact h.unique p p' q hq hq'
  · rw [h.ownedBy_createSheet] at hx
    exact h.live p x hx
  · rw [h.ownedBy_createSheet] at hx
    exact hgrows.issued x (h.issued p x hx)
  · rw [h.sheet?_createSheet] at hy
    split at hy
    · obtain rfl := Option.some.inj hy
      simp [StyleSheet.new] at hz
    · exact h.inSheet x y hy z hz w hw
  · rw [h.ownedBy_createSheet] at hp
    exact h.heldFree x hx p hp

/-- A new sheet has no owner, so that it may be held. -/
theorem Sound.createSheet (h : m.Sound held) (hw : m.sheets.Unwrapped) (href : Option String)
    (media : String) (origin : Origin) : (m.createSheet href media origin).1.Sound
      ((m.createSheet href media origin).2 :: held) := by
  have hadd := h.addSheet href media origin
  refine { hadd with heldIssued := fun x hx => ?_, heldFree := fun x hx p hp => ?_ }
  · rcases List.mem_cons.1 hx with rfl | hx
    · exact h.sheets.issued_fresh _
    · exact hadd.heldIssued x hx
  · rcases List.mem_cons.1 hx with rfl | hx
    · rw [h.ownedBy_createSheet] at hp
      exact h.sheets.not_issued_fresh hw _ (h.issued p _ hp)
    · exact hadd.heldFree x hx p hp

/-! ### Deleted rules -/

/-- The rules inside a rule that a walk finds. -/
def innerOf (m : ObjectModel) (r : RuleId) : List RuleId :=
  ((m.rule? r).map (·.content.children)).getD []

theorem mem_innerOf {x : RuleId} : x ∈ m.innerOf r ↔ .rule x ∈ m.ownedBy (.rule r) := by
  cases hr : m.rule? r with
  | none => simp [innerOf, ownedBy, hr]
  | some rule => simp [innerOf, ownedBy, hr, RuleContent.mem_owned_rule]

/-- With enough fuel, all rules inside a rule are found. -/
theorem mem_innerRules {k : Nat} {x y : RuleId} (hd : DepthAtMost m.innerOf k r)
    (hx : x = r ∨ x ∈ m.innerRules k r) (hy : y ∈ m.innerOf x) : y ∈ m.innerRules k r := by
  induction k generalizing r with
  | zero =>
    obtain rfl : x = r := by simpa [innerRules] using hx
    rw [show m.innerOf x = [] from hd] at hy
    simp at hy
  | succ k ih =>
    rw [innerRules, List.mem_flatMap]
    rcases hx with rfl | hx
    · exact ⟨y, hy, by simp⟩
    · rw [innerRules, List.mem_flatMap] at hx
      obtain ⟨c, hc, hx⟩ := hx
      exact ⟨c, hc, List.mem_cons_of_mem _ (ih (hd c hc) (List.mem_cons.1 hx))⟩

/-- What is found inside a rule stands in a media rule. -/
theorem exists_outer_of_mem_innerRules {k : Nat} {x : RuleId} (hx : x ∈ m.innerRules k r) :
    ∃ y, (y = r ∨ y ∈ m.innerRules k r) ∧ x ∈ m.innerOf y := by
  induction k generalizing r with
  | zero => simp [innerRules] at hx
  | succ k ih =>
    rw [innerRules, List.mem_flatMap] at hx
    obtain ⟨c, hc, hx⟩ := hx
    rcases List.mem_cons.1 hx with rfl | hx
    · exact ⟨r, .inl rfl, hc⟩
    · obtain ⟨y, hy, hxy⟩ := ih hx
      refine ⟨y, .inr ?_, hxy⟩
      rw [innerRules, List.mem_flatMap]
      exact ⟨c, hc, List.mem_cons.2 hy⟩

theorem Sound.depth_innerOf (h : m.Sound held) (hr : ∀ p, .rule r ∉ m.ownedBy p) :
    DepthAtMost m.innerOf m.rules.slots.size r := by
  refine depthAtMost_of_unique (fun x y z hx hy => ?_) (fun x hx => hr _ (mem_innerOf.1 hx))
    fun l hl hne => Slots.length_le_size hl fun x hx => ?_
  · simpa using h.unique _ _ _ (mem_innerOf.1 hx) (mem_innerOf.1 hy)
  · obtain ⟨y, hy⟩ := List.exists_mem_of_ne_nil _ (hne x hx)
    exact isLive_of_mem_ownedBy (mem_innerOf.1 hy)

/-- Rules lose their sheets, and nothing else changes. -/
theorem rule?_foldl_orphan {l : List RuleId} {x : RuleId} {y : Rule}
    (h : (l.foldl (fun m c => m.modifyRule c fun rule => { rule with parentSheet := none }) m).rule?
      x = some y) : ∃ y₀, m.rule? x = some y₀ ∧ y.content = y₀.content ∧
        y.parentRule = y₀.parentRule ∧
        y.parentSheet = if x ∈ l then none else y₀.parentSheet := by
  induction l generalizing m with
  | nil => exact ⟨y, h, rfl, rfl, by simp⟩
  | cons c l ih =>
    obtain ⟨y₁, hy₁, hc, hr, hp⟩ := ih h
    obtain ⟨y₀, hy₀, rfl⟩ := exists_rule_of_modifyRule hy₁
    refine ⟨y₀, hy₀, by rw [hc]; split <;> rfl, by rw [hr]; split <;> rfl, ?_⟩
    rw [hp]
    by_cases hx : x ∈ l
    · simp [hx]
    · by_cases hcx : c = x
      · simp [hcx]
      · simp [hx, hcx, Ne.symm hcx]

theorem foldl_orphan_eq {l : List RuleId} : ∃ rules,
    l.foldl (fun m c => m.modifyRule c fun rule => { rule with parentSheet := none }) m =
        { m with rules } ∧ (m.rules.Valid → rules.Valid) ∧ m.rules.Grows rules ∧
      ∀ x, (rules.get? x).isSome = (m.rule? x).isSome := by
  induction l generalizing m with
  | nil => exact ⟨m.rules, rfl, id, .refl _, fun _ => rfl⟩
  | cons c l ih =>
    obtain ⟨rules, hrules, hv, hg, hs⟩ :=
      @ih (m.modifyRule c fun rule => { rule with parentSheet := none })
    refine ⟨rules, by rw [List.foldl_cons, hrules]; rfl, fun h => hv (h.modify _ _),
      (Slots.grows_modify _ _ _).trans hg, fun x => ?_⟩
    rw [hs, rule?_modifyRule_isSome]

/-- What taking a rule out of its sheet does: it and the rules inside it belong to none, and nothing
else changes. -/
structure Orphans (m m' : ObjectModel) (r : RuleId) : Prop where
  eq : m' = { m with rules := m'.rules }
  valid : m.rules.Valid → m'.rules.Valid
  grows : m.rules.Grows m'.rules
  isSome : ∀ x, (m'.rule? x).isSome = (m.rule? x).isSome
  rule : ∀ x y, m'.rule? x = some y → ∃ y₀, m.rule? x = some y₀ ∧ y.content = y₀.content ∧
    y.parentRule = (if x = r then none else y₀.parentRule) ∧
    y.parentSheet =
      if x = r ∨ x ∈ m.innerRules m.rules.slots.size r then none else y₀.parentSheet

theorem orphans_orphan (m : ObjectModel) (r : RuleId) : m.Orphans (m.orphan r) r := by
  obtain ⟨rules, hrules, hv, hg, hs⟩ := @foldl_orphan_eq
    (m.modifyRule r fun rule => { rule with parentRule := none, parentSheet := none })
    (m.innerRules m.rules.slots.size r)
  have heq : m.orphan r = { m with rules } := hrules
  refine ⟨by rw [heq], fun h => ?_, ?_, fun x => ?_, fun x y hy => ?_⟩
  · rw [heq]
    exact hv (h.modify _ _)
  · rw [heq]
    exact (Slots.grows_modify _ _ _).trans hg
  · rw [heq]
    exact (hs x).trans rule?_modifyRule_isSome
  · obtain ⟨y₁, hy₁, hc, hparent, hp⟩ := rule?_foldl_orphan hy
    obtain ⟨y₀, hy₀, rfl⟩ := exists_rule_of_modifyRule hy₁
    refine ⟨y₀, hy₀, by rw [hc]; split <;> rfl, ?_, ?_⟩
    · rw [hparent]
      by_cases hrx : r = x
      · simp [hrx]
      · simp [hrx, Ne.symm hrx]
    rw [hp]
    by_cases hx : x ∈ m.innerRules m.rules.slots.size r
    · simp [hx]
    · by_cases hrx : r = x
      · simp [hrx]
      · simp [hx, hrx, Ne.symm hrx]

namespace Orphans

variable {m' : ObjectModel} (ho : m.Orphans m' r)
include ho

theorem sheet?_eq (x : SheetId) : m'.sheet? x = m.sheet? x := by
  rw [ho.eq]
  rfl

theorem content_eq (x : RuleId) : (m'.rule? x).map (·.content) = (m.rule? x).map (·.content) := by
  cases hx : m'.rule? x with
  | none =>
    have hn := ho.isSome x
    rw [hx] at hn
    cases hx' : m.rule? x <;> simp_all
  | some y =>
    obtain ⟨y₀, hy₀, hc, -⟩ := ho.rule x y hx
    simp [hy₀, hc]

theorem ownedBy_eq (p : ModelPart) : m'.ownedBy p = m.ownedBy p := by
  cases p with
  | sheet s => rw [ownedBy, ownedBy, ho.sheet?_eq]
  | rule x =>
    have h := congrArg (Option.map RuleContent.owned) (ho.content_eq x)
    rw [Option.map_map, Option.map_map] at h
    exact congrArg (Option.getD · []) h

theorem sound (h : m.Sound held) (hr : ∀ p, .rule r ∉ m.ownedBy p) : m'.Sound held := by
  have hinner : ∀ x z, z ∈ m.innerOf x → (z = r ∨ z ∈ m.innerRules m.rules.slots.size r ↔
      x = r ∨ x ∈ m.innerRules m.rules.slots.size r) := by
    intro x z hz
    constructor
    · rintro (rfl | hzr)
      · exact absurd (mem_innerOf.1 hz) (hr _)
      · obtain ⟨y, hy, hzy⟩ := exists_outer_of_mem_innerRules hzr
        have := h.unique _ _ _ (mem_innerOf.1 hzy) (mem_innerOf.1 hz)
        rwa [ModelPart.rule.inj this] at hy
    · exact fun hx => .inr (mem_innerRules (h.depth_innerOf hr) hx hz)
  have hs : m'.sheets = m.sheets := by rw [ho.eq]
  refine ⟨hs ▸ h.sheets, ho.valid h.rules, fun p => ?_, fun p p' q hq hq' => ?_, fun p x hx => ?_,
    fun p x hx => ?_, fun x y hy z hz w hw => ?_, fun x y hy z hz w hw => ?_, hs ▸ h.heldIssued,
    fun x hx p hp => ?_⟩
  · rw [ho.ownedBy_eq]
    exact h.nodup p
  · rw [ho.ownedBy_eq] at hq hq'
    exact h.unique p p' q hq hq'
  · rw [ho.ownedBy_eq] at hx
    rw [ho.isSome]
    exact h.live p x hx
  · rw [ho.ownedBy_eq] at hx
    rw [hs]
    exact h.issued p x hx
  · rw [ho.sheet?_eq] at hy
    obtain ⟨w₀, hw₀, -, -, hp⟩ := ho.rule z w hw
    have hmem : .rule z ∈ m.ownedBy (.sheet x) :=
      (mem_ownedBy_sheet hy).2 (by simp [StyleSheet.owned, hz])
    have hnot : ¬ (z = r ∨ z ∈ m.innerRules m.rules.slots.size r) := by
      rintro (rfl | hzr)
      · exact hr _ hmem
      · obtain ⟨y', -, hzy⟩ := exists_outer_of_mem_innerRules hzr
        exact ModelPart.noConfusion (h.unique _ _ _ (mem_innerOf.1 hzy) hmem)
    rw [hp, if_neg hnot]
    exact h.inSheet x y hy z hz w₀ hw₀
  · obtain ⟨y₀, hy₀, hc, -, hp⟩ := ho.rule x y hy
    obtain ⟨w₀, hw₀, -, -, hp'⟩ := ho.rule z w hw
    rw [hc] at hz
    have hzx : z ∈ m.innerOf x := by simp [innerOf, hy₀, hz]
    simp only [hp, hp', hinner x z hzx, h.inMedia x y₀ hy₀ z hz w₀ hw₀]
  · rw [ho.ownedBy_eq] at hp
    exact h.heldFree x hx p hp

end Orphans

end WebStyle.ObjectModel
