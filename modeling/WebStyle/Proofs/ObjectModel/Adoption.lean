import WebStyle.Proofs.ObjectModel.Visits
/-!
What adding rules does: they are new and owned by nothing yet, they belong to their sheet, their
imports are noted, and nothing else changes.
-/
set_option autoImplicit false

namespace WebStyle.ObjectModel

variable {m m' : ObjectModel} {held : List SheetId} {sheet : Option SheetId} {ids : List RuleId}
  {r : RuleId}

/-- What adding rules with the given handles to a sound model does. -/
structure Adopts (held : List SheetId) (sheet : Option SheetId) (m m' : ObjectModel)
    (ids : List RuleId) : Prop where
  sound : m'.Sound held
  sheets : m'.sheets = m.sheets
  rulesGrow : m.rules.Grows m'.rules
  compatibility : m'.compatibility = m.compatibility
  kept : ∀ x y, m.rule? x = some y → m'.rule? x = some y
  added : ∀ p q, q ∈ m'.ownedBy p → q ∈ m.ownedBy p ∨ ∃ x, q = .rule x ∧ m.rule? x = none
  new : ∀ x y, m'.rule? x = some y → m.rule? x = none →
    y.parentSheet = sheet ∧ ∀ s, .sheet s ∉ y.content.owned
  unissued : ∀ x y, m'.rule? x = some y → m.rule? x = none → m'.rules.Unwrapped →
    ¬ m.rules.Issued x
  nodup : ids.Nodup
  fresh : ∀ x ∈ ids, m.rule? x = none
  live : ∀ x ∈ ids, (m'.rule? x).isSome
  free : ∀ x ∈ ids, ∀ p, .rule x ∉ m'.ownedBy p
  noted : ∃ l, m'.changes = m.changes ++ l ∧ ∀ c, c ∈ l ↔ ∃ s x y, sheet = some s ∧
    c = .imported s x ∧ m.rule? x = none ∧ m'.rule? x = some y ∧ y.content.type = .importing

namespace Adopts

theorem none (h : m.Sound held) : m.Adopts held sheet m [] where
  sound := h
  sheets := rfl
  rulesGrow := .refl _
  compatibility := rfl
  kept _ _ h := h
  added _ _ h := .inl h
  new x y h h' := by simp [h] at h'
  unissued x y h h' := by simp [h] at h'
  nodup := List.nodup_nil
  fresh := by simp
  live := by simp
  free := by simp
  noted := by
    refine ⟨[], by simp, fun c => ?_⟩
    simp only [List.not_mem_nil, false_iff]
    rintro ⟨s, x, y, -, -, hx, hy, -⟩
    simp [hx] at hy

variable (ha : m.Adopts held sheet m' ids)
include ha

theorem sheet?_eq (s : SheetId) : m'.sheet? s = m.sheet? s := by
  rw [sheet?, sheet?, ha.sheets]

theorem evolves : m.Evolves m' where
  sheetsGrow := by
    rw [ha.sheets]
    exact .refl _
  rulesGrow := ha.rulesGrow
  compatibility := ha.compatibility
  changes := by
    obtain ⟨l, hl, -⟩ := ha.noted
    exact ⟨l, hl⟩

theorem exists_rule {x : RuleId} (hx : x ∈ ids) :
    ∃ y, m'.rule? x = some y ∧ y.parentSheet = sheet := by
  obtain ⟨y, hy⟩ := Option.isSome_iff_exists.1 (ha.live x hx)
  exact ⟨y, hy, (ha.new x y hy (ha.fresh x hx)).1⟩

theorem fresh_of_fresh {x : RuleId} (hx : m'.rule? x = Option.none) : m.rule? x = Option.none := by
  cases hm : m.rule? x with
  | none => rfl
  | some y => simp [ha.kept x y hm] at hx

theorem quiet (h : m.Sound held) : Quiet held m m' := by
  intro p hp
  cases p with
  | sheet s => exact Untouched.looksSame (p := .sheet s) (ha.sheet?_eq s)
  | rule x =>
    obtain ⟨y, -, hy, -⟩ := h.exists_sheet_of_visits_rule hp
    exact Untouched.looksSame (p := .rule x) ((ha.kept x y hy).trans hy.symm)

end Adopts

/-- What building the content of a rule does: it adds what the content owns. -/
structure Builds (held : List SheetId) (sheet : Option SheetId) (source : RuleSource)
    (m m' : ObjectModel) (c : RuleContent) : Prop where
  adopts : m.Adopts held sheet m' c.children
  owned : c.owned = c.children.map .rule
  type : c.type = source.type

theorem Builds.exists_child {source : RuleSource} {c : RuleContent}
    (hb : m.Builds held sheet source m' c) {q : ModelPart} (hq : q ∈ c.owned) :
    ∃ x ∈ c.children, q = .rule x := by
  rw [hb.owned, List.mem_map] at hq
  obtain ⟨x, hx, rfl⟩ := hq
  exact ⟨x, hx, rfl⟩

/-- Content may be put into a rule of the sheet that it was built for. -/
theorem Builds.sound_setContent {source : RuleSource} {c : RuleContent} {rule : Rule}
    (hb : m.Builds held sheet source m' c) (hr : m'.rule? r = some rule)
    (hs : rule.parentSheet = sheet) : (m'.setContent r c).Sound held := by
  have ha := hb.adopts
  refine ha.sound.setContent hr ?_ (fun q hq p hp => ?_) (fun x hx => ?_) fun x hx => ?_
  · rw [hb.owned]
    exact ha.nodup.map fun _ _ hxy => ModelPart.rule.inj hxy
  · obtain ⟨x, hx, rfl⟩ := hb.exists_child hq
    exact absurd hp (ha.free x hx p)
  · rw [hs]
    exact ha.exists_rule hx
  · obtain ⟨y, -, hy⟩ := hb.exists_child hx
    exact ModelPart.noConfusion hy

theorem mem_noteImport (m : ObjectModel) (type : RuleType) (sheet : Option SheetId) (r : RuleId) :
    ∃ l, (m.noteImport type sheet r).changes = m.changes ++ l ∧ ∀ c, c ∈ l ↔
      ∃ s, sheet = some s ∧ c = .imported s r ∧ type = .importing := by
  unfold noteImport
  split
  · exact ⟨[_], rfl, by simp⟩
  · rename_i hno
    refine ⟨[], by simp, fun c => ?_⟩
    simp only [List.not_mem_nil, false_iff]
    rintro ⟨s, rfl, -, rfl⟩
    exact hno s rfl rfl

@[simp] theorem rule?_noteImport {type : RuleType} {x : RuleId} :
    (m.noteImport type sheet r).rule? x = m.rule? x := by
  unfold noteImport
  split <;> rfl

theorem sheets_noteImport {type : RuleType} : (m.noteImport type sheet r).sheets = m.sheets := by
  unfold noteImport
  split <;> rfl

theorem rules_noteImport {type : RuleType} : (m.noteImport type sheet r).rules = m.rules := by
  unfold noteImport
  split <;> rfl

theorem compatibility_noteImport {type : RuleType} :
    (m.noteImport type sheet r).compatibility = m.compatibility := by
  unfold noteImport
  split <;> rfl

namespace Adopts

/-- Rules that are added after others. -/
theorem append {m'' : ObjectModel} {ids' : List RuleId} (h : m.Adopts held sheet m' ids)
    (h' : m'.Adopts held sheet m'' ids') : m.Adopts held sheet m'' (ids ++ ids') where
  sound := h'.sound
  sheets := h'.sheets.trans h.sheets
  rulesGrow := h.rulesGrow.trans h'.rulesGrow
  compatibility := h'.compatibility.trans h.compatibility
  kept x y hx := h'.kept x y (h.kept x y hx)
  added p q hq := by
    rcases h'.added p q hq with hq | ⟨x, rfl, hx⟩
    · exact h.added p q hq
    · exact .inr ⟨x, rfl, h.fresh_of_fresh hx⟩
  new x y hy hx := by
    cases hx' : m'.rule? x with
    | none => exact h'.new x y hy hx'
    | some y' =>
      obtain rfl := Option.some.inj ((h'.kept x y' hx').symm.trans hy)
      exact h.new x y' hx' hx
  unissued x y hy hx hw := by
    cases hx' : m'.rule? x with
    | none => exact fun hi => h'.unissued x y hy hx' hw (h.rulesGrow.issued x hi)
    | some y' => exact h.unissued x y' hx' hx (hw.of_grows h'.rulesGrow)
  nodup := by
    refine List.nodup_append.2 ⟨h.nodup, h'.nodup, ?_⟩
    rintro x hx _ hx' rfl
    have := h.live x hx
    simp [h'.fresh x hx'] at this
  fresh x hx := by
    rcases List.mem_append.1 hx with hx | hx
    · exact h.fresh x hx
    · exact h.fresh_of_fresh (h'.fresh x hx)
  live x hx := by
    rcases List.mem_append.1 hx with hx | hx
    · obtain ⟨y, hy, -⟩ := h.exists_rule hx
      simp [h'.kept x y hy]
    · exact h'.live x hx
  free x hx p hp := by
    rcases List.mem_append.1 hx with hx | hx
    · rcases h'.added p _ hp with hp | ⟨x', hx', hnew⟩
      · exact h.free x hx p hp
      · obtain rfl := ModelPart.rule.inj hx'
        have := h.live x hx
        simp [hnew] at this
    · exact h'.free x hx p hp
  noted := by
    obtain ⟨l, hl, hmem⟩ := h.noted
    obtain ⟨l', hl', hmem'⟩ := h'.noted
    refine ⟨l ++ l', by rw [hl', hl, List.append_assoc], fun c => ?_⟩
    rw [List.mem_append, hmem, hmem']
    constructor
    · rintro (⟨s, x, y, hs, hc, hx, hy, ht⟩ | ⟨s, x, y, hs, hc, hx, hy, ht⟩)
      · exact ⟨s, x, y, hs, hc, hx, h'.kept x y hy, ht⟩
      · exact ⟨s, x, y, hs, hc, h.fresh_of_fresh hx, hy, ht⟩
    · rintro ⟨s, x, y, hs, hc, hx, hy, ht⟩
      cases hx' : m'.rule? x with
      | none => exact .inr ⟨s, x, y, hs, hc, hx', hy, ht⟩
      | some y' =>
        obtain rfl := Option.some.inj ((h'.kept x y' hx').symm.trans hy)
        exact .inl ⟨s, x, y', hs, hc, hx, hx', ht⟩

/-- One rule: it is reserved, its content is built, and then put there. -/
theorem singleton {parent : Option RuleId} {source : RuleSource} {c : RuleContent}
    (h : m.Sound held) (hb : (m.reserve sheet parent).1.Builds held sheet source m' c) :
    m.Adopts held sheet ((m'.setContent (m.reserve sheet parent).2 c).noteImport source.type sheet
      (m.reserve sheet parent).2) [(m.reserve sheet parent).2] := by
  have hreserve : ∀ x, (m.reserve sheet parent).1.rule? x = if x = (m.reserve sheet parent).2 then
      some ⟨.placeholder, parent, sheet⟩ else m.rule? x := h.rule?_reserve
  have hfresh : m.rule? (m.reserve sheet parent).2 = Option.none := h.rule?_fresh
  have howned : ∀ p, (m.reserve sheet parent).1.ownedBy p = m.ownedBy p := fun p =>
    h.ownedBy_reserve
  have hgrow : m.rules.Grows (m.reserve sheet parent).1.rules := Slots.grows_insert _ _
  have hissued : m.rules.Unwrapped → ¬ m.rules.Issued (m.reserve sheet parent).2 := fun hw =>
    h.rules.not_issued_fresh hw _
  have hnoOwner : ∀ p, .rule (m.reserve sheet parent).2 ∉ m.ownedBy p := by
    intro p hp
    have := h.live p _ hp
    simp [hfresh] at this
  have hsheets₁ : (m.reserve sheet parent).1.sheets = m.sheets := rfl
  have hchanges₁ : (m.reserve sheet parent).1.changes = m.changes := rfl
  have hcompat₁ : (m.reserve sheet parent).1.compatibility = m.compatibility := rfl
  generalize (m.reserve sheet parent).1 = m₁ at *
  generalize (m.reserve sheet parent).2 = r at *
  have ha := hb.adopts
  have hr : m'.rule? r = some ⟨.placeholder, parent, sheet⟩ :=
    ha.kept r _ (by rw [hreserve, if_pos rfl])
  have hlookup : ∀ x, ((m'.setContent r c).noteImport source.type sheet r).rule? x =
      if r = x then some ⟨c, parent, sheet⟩ else m'.rule? x := by
    intro x
    rw [rule?_noteImport, rule?_setContent]
    split
    · rename_i hx
      rw [← hx, hr]
      rfl
    · rfl
  -- what the content owns is new, and was owned by nothing
  have hne : ∀ {x}, m.rule? x = Option.none → x ≠ r → m₁.rule? x = Option.none := by
    intro x hx hxr
    rw [hreserve, if_neg hxr, hx]
  have hsound : (m'.setContent r c).Sound held := hb.sound_setContent hr rfl
  have hadded : ∀ p q, q ∈ (m'.setContent r c).ownedBy p →
      q ∈ m.ownedBy p ∨ ∃ x, q = .rule x ∧ m₁.rule? x = Option.none := by
    intro p q hq
    rw [setContent, ownedBy_modifyRule hr] at hq
    split at hq
    · obtain ⟨x, hx, rfl⟩ := hb.exists_child hq
      exact .inr ⟨x, rfl, ha.fresh x hx⟩
    · rcases ha.added p q hq with hq | hq
      · exact .inl (howned p ▸ hq)
      · exact .inr hq
  have hpart : ∀ p, ((m'.setContent r c).noteImport source.type sheet r).ownedBy p =
      (m'.setContent r c).ownedBy p := by
    intro p
    cases p with
    | sheet s => simp only [ownedBy, sheet?, sheets_noteImport]
    | rule x => simp only [ownedBy, rule?_noteImport]
  have hfreshOf : ∀ {x}, m₁.rule? x = Option.none → x ≠ r ∧ m.rule? x = Option.none := by
    intro x hx
    rw [hreserve] at hx
    split at hx
    · simp at hx
    · rename_i hxr
      exact ⟨hxr, hx⟩
  refine ⟨hsound.congr sheets_noteImport rules_noteImport, ?_, ?_, ?_, fun x y hx => ?_,
    fun p q hq => ?_, fun x y hy hx => ?_, fun x y hy hx hw => ?_, by simp, by simpa using hfresh,
    ?_, fun x hx p hp => ?_, ?_⟩
  · rw [sheets_noteImport]
    exact ha.sheets.trans hsheets₁
  · rw [rules_noteImport]
    exact (hgrow.trans ha.rulesGrow).trans (Slots.grows_modify _ _ _)
  · rw [compatibility_noteImport]
    exact ha.compatibility.trans hcompat₁
  · have hxr : x ≠ r := by
      rintro rfl
      simp [hfresh] at hx
    rw [hlookup, if_neg (Ne.symm hxr)]
    exact ha.kept x y (by rw [hreserve, if_neg hxr, hx])
  · rw [hpart] at hq
    rcases hadded p q hq with hq | ⟨x, rfl, hx⟩
    · exact .inl hq
    · exact .inr ⟨x, rfl, (hfreshOf hx).2⟩
  · rw [hlookup] at hy
    split at hy
    · obtain rfl := Option.some.inj hy
      refine ⟨rfl, fun s hs => ?_⟩
      obtain ⟨z, -, hz⟩ := hb.exists_child hs
      exact ModelPart.noConfusion hz
    · rename_i hxr
      exact ha.new x y hy (hne hx (Ne.symm hxr))
  · rw [rules_noteImport] at hw
    have hw' : m'.rules.Unwrapped := hw.of_grows (Slots.grows_modify _ _ _)
    by_cases hxr : x = r
    · rw [hxr]
      exact hissued (hw'.of_grows (hgrow.trans ha.rulesGrow))
    · rw [hlookup, if_neg (Ne.symm hxr)] at hy
      exact fun hi => ha.unissued x y hy (hne hx hxr) hw' (hgrow.issued x hi)
  · simp [hlookup]
  · obtain rfl := List.mem_singleton.1 hx
    rw [hpart] at hp
    rcases hadded p _ hp with hp | ⟨z, hz, hnew⟩
    · exact hnoOwner p hp
    · obtain rfl := ModelPart.rule.inj hz
      exact (hfreshOf hnew).1 rfl
  · obtain ⟨l, hl, hmem⟩ := ha.noted
    obtain ⟨l', hl', hmem'⟩ := mem_noteImport (m'.setContent r c) source.type sheet r
    have hchanges : (m'.setContent r c).changes = m'.changes := rfl
    refine ⟨l ++ l', by rw [hl', hchanges, hl, hchanges₁, List.append_assoc], fun x => ?_⟩
    rw [List.mem_append, hmem, hmem']
    constructor
    · rintro (⟨s, x, y, hs, rfl, hx, hy, ht⟩ | ⟨s, hs, rfl, ht⟩)
      · obtain ⟨hxr, hx⟩ := hfreshOf hx
        exact ⟨s, x, y, hs, rfl, hx, by rw [hlookup, if_neg (Ne.symm hxr), hy], ht⟩
      · exact ⟨s, r, ⟨c, parent, sheet⟩, hs, rfl, hfresh, by rw [hlookup, if_pos rfl],
          hb.type.trans ht⟩
    · rintro ⟨s, x, y, hs, rfl, hx, hy, ht⟩
      rw [hlookup] at hy
      split at hy
      · rename_i hxr
        obtain rfl := Option.some.inj hy
        exact .inr ⟨s, hs, by rw [hxr], hb.type.symm.trans ht⟩
      · rename_i hxr
        exact .inl ⟨s, x, y, hs, rfl, hne hx (Ne.symm hxr), hy, ht⟩

end Adopts

/-- Content that owns nothing is built without adding anything. -/
theorem Builds.of_owned_nil {source : RuleSource} {c : RuleContent} (h : m.Sound held)
    (hc : c.owned = []) (ht : c.type = source.type) : m.Builds held sheet source m c := by
  have hch : c.children = [] := by
    refine List.eq_nil_iff_forall_not_mem.2 fun x hx => ?_
    have := RuleContent.mem_owned_rule.2 hx
    simp [hc] at this
  refine ⟨?_, by rw [hc, hch, List.map_nil], ht⟩
  rw [hch]
  exact .none h

theorem sheets_adoptAll (x : Option SheetId) (parent : Option RuleId)
    (sources : List RuleSource) : (m.adoptAll x parent sources).1.sheets = m.sheets := by
  refine adoptAll.induct_unfolding x (fun m _ _ result => result.1.sheets = m.sheets)
    (fun m _ _ result => result.1.sheets = m.sheets)
    ?style ?media ?importing ?fontFace ?page ?nil ?kept ?dropped m parent sources
  case style => exact fun m r selectors declarations => rfl
  case media => exact fun m r l rules m₁ ids heq ih => by rwa [heq] at ih
  case importing => exact fun m r href l => rfl
  case fontFace => exact fun m r declarations => rfl
  case page => exact fun m r selector declarations => rfl
  case nil => exact fun m parent => rfl
  case kept =>
    intro m parent source rest _ m₁ r hreserve m₂ content hbuild m₃ m₄ ids hrest ihb iha
    rw [hbuild] at ihb
    rw [hrest] at iha
    have hset : m₃.sheets = m₂.sheets := sheets_noteImport
    have hone : m₁.sheets = m.sheets := by
      obtain rfl : (m.reserve x parent).1 = m₁ := by rw [hreserve]
      rfl
    exact iha.trans (hset.trans (ihb.trans hone))
  case dropped => exact fun m parent source rest _ ih => ih

theorem adopts_adoptAll (parent : Option RuleId) (sources : List RuleSource)
    (h : m.Sound held) : m.Adopts held sheet (m.adoptAll sheet parent sources).1
      (m.adoptAll sheet parent sources).2 := by
  refine adoptAll.induct_unfolding sheet
    (fun m _ source result => m.Sound held → m.Builds held sheet source result.1 result.2)
    (fun m _ _ result => m.Sound held → m.Adopts held sheet result.1 result.2)
    ?style ?media ?importing ?fontFace ?page ?nil ?kept ?dropped m parent sources h
  case style => exact fun m r selectors declarations h => .of_owned_nil h rfl rfl
  case media =>
    intro m r l rules m₁ ids heq ih h
    rw [heq] at ih
    exact ⟨ih h, rfl, rfl⟩
  case importing => exact fun m r href l h => .of_owned_nil h rfl rfl
  case fontFace => exact fun m r declarations h => .of_owned_nil h rfl rfl
  case page => exact fun m r selector declarations h => .of_owned_nil h rfl rfl
  case nil => exact fun m parent h => .none h
  case kept =>
    intro m parent source rest _ m₁ r hreserve m₂ content hbuild m₃ m₄ ids hrest ihb iha h
    obtain rfl : (m.reserve sheet parent).1 = m₁ := by rw [hreserve]
    obtain rfl : (m.reserve sheet parent).2 = r := by rw [hreserve]
    rw [hbuild] at ihb
    rw [hrest] at iha
    have hone := Adopts.singleton h (ihb (h.reserve sheet parent))
    exact hone.append (iha hone.sound)
  case dropped => exact fun m parent source rest _ ih h => ih h

theorem builds_build (r : RuleId) (source : RuleSource) (h : m.Sound held) :
    m.Builds held sheet source (m.build sheet r source).1 (m.build sheet r source).2 := by
  cases source with
  | media l rules =>
    simp only [build]
    exact ⟨adopts_adoptAll _ rules h, rfl, rfl⟩
  | style selectors declarations => exact .of_owned_nil h rfl rfl
  | importing href l => exact .of_owned_nil h rfl rfl
  | fontFace declarations => exact .of_owned_nil h rfl rfl
  | page selector declarations => exact .of_owned_nil h rfl rfl

end WebStyle.ObjectModel
