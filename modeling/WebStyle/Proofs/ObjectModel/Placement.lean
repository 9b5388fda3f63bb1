import WebStyle.Proofs.ObjectModel.Edit
/-!
Where rules stand. Whatever is done to the sheets and rules of an object model, each rule stands in
one list at most, and lists hold live rules only; this does not depend on which sheets imports are
given, so that sheets may import each other.
-/
set_option autoImplicit false

namespace WebStyle.ObjectModel

variable {m m' : ObjectModel} {p q : ModelPart} {ps : List ModelPart} {s : SheetId} {r : RuleId}
  {sheet : StyleSheet} {rule : Rule} {c : RuleContainer} {list ids : List RuleId}

/-- The rules that stand in the lists of a sheet or a rule, deleted ones included. -/
def heldBy (m : ObjectModel) : ModelPart → List RuleId
  | .sheet s => ((m.sheet? s).map fun sheet => sheet.rules ++ sheet.deleted).getD []
  | .rule r => ((m.rule? r).map (·.content.children)).getD []

/-- Whether each rule stands in one list at most, and is live if it stands in one. -/
structure Placed (m : ObjectModel) : Prop where
  sheets : m.sheets.Valid
  rules : m.rules.Valid
  nodup : ∀ p : ModelPart, (m.heldBy p).Nodup
  unique : ∀ (p q : ModelPart) (r : RuleId), r ∈ m.heldBy p → r ∈ m.heldBy q → p = q
  live : ∀ (p : ModelPart) (r : RuleId), r ∈ m.heldBy p → (m.rule? r).isSome

theorem mem_heldBy : r ∈ m.heldBy p ↔ .rule r ∈ m.ownedBy p := by
  cases p with
  | sheet s => cases hs : m.sheet? s <;> simp [heldBy, ownedBy, hs, StyleSheet.owned]
  | rule x => cases hx : m.rule? x <;> simp [heldBy, ownedBy, hx, RuleContent.mem_owned_rule]

theorem heldBy_congr (hs : ∀ s, m'.sheet? s = m.sheet? s) (hr : ∀ r, m'.rule? r = m.rule? r)
    (p : ModelPart) : m'.heldBy p = m.heldBy p := by
  cases p <;> simp [heldBy, hs, hr]

theorem heldBy_modifyRule {f : Rule → Rule} (hr : m.rule? r = some rule) :
    (m.modifyRule r f).heldBy p =
      if p = .rule r then (f rule).content.children else m.heldBy p := by
  cases p with
  | sheet s => simp [heldBy]
  | rule x =>
    simp only [heldBy, rule?_modifyRule, ModelPart.rule.injEq]
    by_cases hx : r = x
    · subst hx
      simp [hr]
    · simp [hx, Ne.symm hx]

theorem heldBy_modifySheet {f : StyleSheet → StyleSheet} (hs : m.sheet? s = some sheet) :
    (m.modifySheet s f).heldBy p =
      if p = .sheet s then (f sheet).rules ++ (f sheet).deleted else m.heldBy p := by
  cases p with
  | rule r => simp [heldBy]
  | sheet x =>
    simp only [heldBy, sheet?_modifySheet, ModelPart.sheet.injEq]
    by_cases hx : s = x
    · subst hx
      simp [hs]
    · simp [hx, Ne.symm hx]

theorem placed_empty (compatibility : Compatibility) : (empty compatibility).Placed := by
  have hsheet : ∀ s, (empty compatibility).sheet? s = none := Slots.get?_empty
  have hrule : ∀ r, (empty compatibility).rule? r = none := Slots.get?_empty
  have hheld : ∀ p, (empty compatibility).heldBy p = [] := by
    intro p
    cases p <;> simp [heldBy, hsheet, hrule]
  exact ⟨Slots.valid_empty, Slots.valid_empty, by simp [hheld], by simp [hheld], by simp [hheld]⟩

namespace Placed

/-- Lists may lose rules. -/
theorem shrink (h : m.Placed) (hsheets : m'.sheets.Valid) (hrules : m'.rules.Valid)
    (hsub : ∀ p, (m'.heldBy p).Sublist (m.heldBy p))
    (hlive : ∀ p, ∀ r ∈ m'.heldBy p, (m'.rule? r).isSome) : m'.Placed where
  sheets := hsheets
  rules := hrules
  nodup p := (h.nodup p).sublist (hsub p)
  unique p q r hp hq := h.unique p q r ((hsub p).subset hp) ((hsub q).subset hq)
  live := hlive

/-- One list may get live rules that stand nowhere. -/
theorem take (h : m.Placed) (hsheets : m'.sheets.Valid) (hrules : m'.rules.Valid)
    (hkept : ∀ r, (m.rule? r).isSome → (m'.rule? r).isSome)
    (hother : ∀ q, q ≠ p → m'.heldBy q = m.heldBy q) (hn : (m'.heldBy p).Nodup)
    (hfree : ∀ r ∈ m'.heldBy p, r ∈ m.heldBy p ∨ (m.rule? r).isSome ∧ ∀ q, r ∉ m.heldBy q) :
    m'.Placed := by
  have hcases : ∀ q, ∀ r ∈ m'.heldBy q,
      r ∈ m.heldBy q ∨ q = p ∧ (m.rule? r).isSome ∧ ∀ q', r ∉ m.heldBy q' := by
    intro q r hr
    by_cases hq : q = p
    · subst hq
      exact (hfree r hr).imp id fun hr => ⟨rfl, hr⟩
    · exact .inl (hother q hq ▸ hr)
  refine ⟨hsheets, hrules, fun q => ?_, fun q q' r hr hr' => ?_, fun q r hr => hkept r ?_⟩
  · by_cases hq : q = p
    · exact hq ▸ hn
    · exact hother q hq ▸ h.nodup q
  · rcases hcases q r hr with hr | ⟨rfl, -, hno⟩
    · rcases hcases q' r hr' with hr' | ⟨rfl, -, hno⟩
      · exact h.unique q q' r hr hr'
      · exact absurd hr (hno q)
    · rcases hcases q' r hr' with hr' | ⟨rfl, -, -⟩
      · exact absurd hr' (hno q')
      · rfl
  · rcases hcases q r hr with hr | ⟨-, hr, -⟩
    · exact h.live q r hr
    · exact hr

/-- Only the sheets and rules count. -/
theorem congr (h : m.Placed) (hs : m'.sheets = m.sheets) (hr : m'.rules = m.rules) :
    m'.Placed := by
  have hrule : ∀ r, m'.rule? r = m.rule? r := fun r => by rw [rule?, rule?, hr]
  have hheld : ∀ p, m'.heldBy p = m.heldBy p :=
    heldBy_congr (fun s => by rw [sheet?, sheet?, hs]) hrule
  refine h.shrink (hs ▸ h.sheets) (hr ▸ h.rules) (fun p => hheld p ▸ List.Sublist.refl _) ?_
  intro p r hp
  rw [hheld] at hp
  rw [hrule]
  exact h.live p r hp

theorem note (h : m.Placed) (c : Change) : (m.note c).Placed := h.congr rfl rfl

theorem noteChanged (h : m.Placed) (x : Option SheetId) : (m.noteChanged x).Placed := by
  cases x with
  | none => exact h
  | some s => exact h.note _

theorem noteImport (h : m.Placed) (type : RuleType) (x : Option SheetId) (r : RuleId) :
    (m.noteImport type x r).Placed :=
  h.congr sheets_noteImport rules_noteImport

/-! ### Lists that change -/

/-- The content of a rule may come to hold live rules that stand nowhere. -/
theorem setContent (h : m.Placed) {c : RuleContent} (hr : m.rule? r = some rule)
    (hn : c.children.Nodup) (hfree : ∀ x ∈ c.children, x ∈ rule.content.children ∨
      (m.rule? x).isSome ∧ ∀ q, x ∉ m.heldBy q) : (m.setContent r c).Placed := by
  have hheld : ∀ q, (m.setContent r c).heldBy q =
      if q = .rule r then c.children else m.heldBy q := fun q => heldBy_modifyRule hr
  refine h.take (p := .rule r) h.sheets (h.rules.modify _ _)
    (fun x hx => by rwa [rule?_setContent_isSome]) (fun q hq => by rw [hheld, if_neg hq]) ?_ ?_
  · rwa [hheld, if_pos rfl]
  · rw [hheld, if_pos rfl]
    simpa [heldBy, hr] using hfree

theorem setContent_of_children (h : m.Placed) {c : RuleContent} (hr : m.rule? r = some rule)
    (hc : c.children.Sublist rule.content.children) : (m.setContent r c).Placed := by
  have hn : rule.content.children.Nodup := by simpa [heldBy, hr] using h.nodup (.rule r)
  exact h.setContent hr (hn.sublist hc) fun x hx => .inl (hc.subset hx)

/-- A sheet may come to hold live rules that stand nowhere. -/
theorem modifySheet (h : m.Placed) {f : StyleSheet → StyleSheet} (hs : m.sheet? s = some sheet)
    (hn : ((f sheet).rules ++ (f sheet).deleted).Nodup)
    (hfree : ∀ x ∈ (f sheet).rules ++ (f sheet).deleted, x ∈ sheet.rules ++ sheet.deleted ∨
      (m.rule? x).isSome ∧ ∀ q, x ∉ m.heldBy q) : (m.modifySheet s f).Placed := by
  have hheld : ∀ q, (m.modifySheet s f).heldBy q =
      if q = .sheet s then (f sheet).rules ++ (f sheet).deleted else m.heldBy q :=
    fun q => heldBy_modifySheet hs
  refine h.take (p := .sheet s) (h.sheets.modify _ _) h.rules (fun x hx => hx)
    (fun q hq => by rw [hheld, if_neg hq]) ?_ ?_
  · rwa [hheld, if_pos rfl]
  · rw [hheld, if_pos rfl]
    simpa [heldBy, hs] using hfree

theorem modifySheet_of_sublist (h : m.Placed) {f : StyleSheet → StyleSheet} (s : SheetId)
    (hr : ∀ y, (f y).rules.Sublist y.rules) (hd : ∀ y, (f y).deleted.Sublist y.deleted) :
    (m.modifySheet s f).Placed := by
  have hf : ∀ y, ((f y).rules ++ (f y).deleted).Sublist (y.rules ++ y.deleted) :=
    fun y => (hr y).append (hd y)
  cases hs : m.sheet? s with
  | none => exact h.congr (Slots.modify_of_none hs) rfl
  | some sheet =>
    have hn : (sheet.rules ++ sheet.deleted).Nodup := by simpa [heldBy, hs] using h.nodup (.sheet s)
    exact h.modifySheet hs (hn.sublist (hf sheet)) fun x hx => .inl ((hf sheet).subset hx)

theorem modifySheet_of_rules (h : m.Placed) {f : StyleSheet → StyleSheet} (s : SheetId)
    (hr : ∀ y, (f y).rules = y.rules) (hd : ∀ y, (f y).deleted = y.deleted) :
    (m.modifySheet s f).Placed :=
  h.modifySheet_of_sublist s (fun y => hr y ▸ List.Sublist.refl _)
    fun y => hd y ▸ List.Sublist.refl _

/-- Rules that are left were not reached: the one list that they stand in is left. -/
theorem not_reaches_rule (h : m.Placed) (hps : ∀ r, .rule r ∈ ps → ∀ q, r ∉ m.heldBy q)
    (hr : r ∈ m.heldBy p) (hp : ¬ m.Reaches ps p) : ¬ m.Reaches ps (.rule r) := by
  rintro ⟨a, ha, har⟩
  rcases Relation.ReflTransGen.cases_tail har with rfl | ⟨b, hab, hbr⟩
  · exact hps r ha p hr
  · rw [h.unique b p r (mem_heldBy.2 hbr) hr] at hab
    exact hp ⟨a, ha, hab⟩

theorem free (h : m.Placed) (hps : ∀ r, .rule r ∈ ps → ∀ q, r ∉ m.heldBy q) :
    (m.free ps).Placed := by
  have hf := m.frees_free ps
  have hheld : ∀ p, ¬ m.Reaches ps p → (m.free ps).heldBy p = m.heldBy p := by
    intro p hp
    have hu := hf.other p hp
    cases p with
    | sheet s => rw [heldBy, heldBy, show (m.free ps).sheet? s = m.sheet? s from hu]
    | rule r => rw [heldBy, heldBy, show (m.free ps).rule? r = m.rule? r from hu]
  have hdead : ∀ p, m.Reaches ps p → (m.free ps).heldBy p = [] := by
    intro p hp
    refine List.eq_nil_iff_forall_not_mem.2 fun r hr => hf.dead p hp ?_
    exact isLive_of_mem_ownedBy (mem_heldBy.1 hr)
  refine h.shrink (hf.sheetsValid h.sheets) (hf.rulesValid h.rules) (fun p => ?_) fun p r hr => ?_
  · by_cases hp : m.Reaches ps p
    · rw [hdead p hp]
      exact List.nil_sublist _
    · rw [hheld p hp]
  · by_cases hp : m.Reaches ps p
    · simp [hdead p hp] at hr
    · rw [hheld p hp] at hr
      have hu : (m.free ps).rule? r = m.rule? r := hf.other _ (h.not_reaches_rule hps hr hp)
      rw [hu]
      exact h.live p r hr

/-! ### New rules -/

theorem rule?_reserve (h : m.Placed) (x : Option SheetId) (parent : Option RuleId) (y : RuleId) :
    (m.reserve x parent).1.rule? y =
      if y = (m.reserve x parent).2 then some ⟨.placeholder, parent, x⟩ else m.rule? y :=
  h.rules.get?_insert _ y

theorem rule?_fresh (h : m.Placed) (x : Option SheetId) (parent : Option RuleId) :
    m.rule? (m.reserve x parent).2 = none :=
  h.rules.get?_fresh _

theorem heldBy_reserve (h : m.Placed) (x : Option SheetId) (parent : Option RuleId)
    (p : ModelPart) : (m.reserve x parent).1.heldBy p = m.heldBy p := by
  cases p with
  | sheet s => rfl
  | rule y =>
    simp only [heldBy, h.rule?_reserve]
    split
    · rename_i hy
      subst hy
      simp [h.rule?_fresh, RuleContent.placeholder, RuleContent.children]
    · rfl

theorem reserve (h : m.Placed) (x : Option SheetId) (parent : Option RuleId) :
    (m.reserve x parent).1.Placed := by
  refine h.shrink h.sheets (h.rules.insert _)
    (fun p => h.heldBy_reserve x parent p ▸ List.Sublist.refl _) fun p r hr => ?_
  rw [h.heldBy_reserve] at hr
  rw [h.rule?_reserve]
  split
  · rfl
  · exact h.live p r hr

theorem createSheet (h : m.Placed) (href : Option String) (media : String) (origin : Origin) :
    (m.createSheet href media origin).1.Placed := by
  have hlookup : ∀ x, (m.createSheet href media origin).1.sheet? x =
      if x = (m.createSheet href media origin).2 then some (.new href (.ofString media) origin)
      else m.sheet? x := h.sheets.get?_insert _
  have hheld : ∀ p, (m.createSheet href media origin).1.heldBy p = m.heldBy p := by
    intro p
    cases p with
    | rule r => rfl
    | sheet x =>
      simp only [heldBy, hlookup]
      split
      · rename_i hx
        have hfresh : m.sheet? (m.createSheet href media origin).2 = none := h.sheets.get?_fresh _
        simp [hx, hfresh, StyleSheet.new]
      · rfl
  exact h.shrink (h.sheets.insert _) h.rules (fun p => hheld p ▸ List.Sublist.refl _)
    fun p r hr => h.live p r (hheld p ▸ hr)

end Placed

/-- What adding rules with the given handles does to where rules stand: they are live, and stand
nowhere yet. -/
structure Stocks (m m' : ObjectModel) (ids : List RuleId) : Prop where
  placed : m'.Placed
  sheets : m'.sheets = m.sheets
  kept : ∀ r, (m.rule? r).isSome → m'.rule? r = m.rule? r
  held : ∀ p, ∀ r ∈ m'.heldBy p, r ∈ m.heldBy p ∨ m.rule? r = none
  nodup : ids.Nodup
  fresh : ∀ r ∈ ids, m.rule? r = none
  live : ∀ r ∈ ids, (m'.rule? r).isSome
  free : ∀ r ∈ ids, ∀ p, r ∉ m'.heldBy p

namespace Stocks

theorem none (h : m.Placed) : m.Stocks m [] :=
  ⟨h, rfl, fun _ _ => rfl, fun _ _ => .inl, List.nodup_nil, by simp, by simp, by simp⟩

theorem isSome (h : m.Stocks m' ids) (hr : (m.rule? r).isSome) : (m'.rule? r).isSome := by
  rwa [h.kept r hr]

theorem fresh_of_fresh (h : m.Stocks m' ids) (hr : m'.rule? r = Option.none) :
    m.rule? r = Option.none := by
  by_contra hm
  have := h.isSome (Option.isSome_iff_ne_none.2 hm)
  simp [hr] at this

/-- Rules that are added after others. -/
theorem append {m'' : ObjectModel} {ids' : List RuleId} (h : m.Stocks m' ids)
    (h' : m'.Stocks m'' ids') : m.Stocks m'' (ids ++ ids') where
  placed := h'.placed
  sheets := h'.sheets.trans h.sheets
  kept r hr := (h'.kept r (h.isSome hr)).trans (h.kept r hr)
  held p r hr := by
    rcases h'.held p r hr with hr | hr
    · exact h.held p r hr
    · exact .inr (h.fresh_of_fresh hr)
  nodup := by
    refine List.nodup_append.2 ⟨h.nodup, h'.nodup, ?_⟩
    rintro x hx _ hx' rfl
    have := h.live x hx
    simp [h'.fresh x hx'] at this
  fresh x hx := by
    rcases List.mem_append.1 hx with hx | hx
    · exact h.fresh x hx
    · exact h.fresh_of_fresh (h'.fresh x hx)
  live x hx := by
    rcases List.mem_append.1 hx with hx | hx
    · exact h'.isSome (h.live x hx)
    · exact h'.live x hx
  free x hx p hp := by
    rcases List.mem_append.1 hx with hx | hx
    · rcases h'.held p x hp with hp | hnew
      · exact h.free x hx p hp
      · have := h.live x hx
        simp [hnew] at this
    · exact h'.free x hx p hp

/-- One rule: it is reserved, its content is built, and then put there. -/
theorem singleton {x : Option SheetId} {parent : Option RuleId} {content : RuleContent}
    (h : m.Placed) (hb : (m.reserve x parent).1.Stocks m' content.children) (type : RuleType) :
    m.Stocks ((m'.setContent (m.reserve x parent).2 content).noteImport type x
      (m.reserve x parent).2) [(m.reserve x parent).2] := by
  have hreserve := h.rule?_reserve x parent
  have hfresh := h.rule?_fresh x parent
  have hheld := h.heldBy_reserve x parent
  have hsheets : (m.reserve x parent).1.sheets = m.sheets := rfl
  generalize (m.reserve x parent).1 = m₁ at *
  generalize (m.reserve x parent).2 = r at *
  have hr₁ : m₁.rule? r = some ⟨.placeholder, parent, x⟩ := by rw [hreserve, if_pos rfl]
  have hr : m'.rule? r = some ⟨.placeholder, parent, x⟩ := by
    rw [hb.kept r (by rw [hr₁]; rfl), hr₁]
  have hheld' : ∀ p, ((m'.setContent r content).noteImport type x r).heldBy p =
      if p = .rule r then content.children else m'.heldBy p := by
    intro p
    rw [heldBy_congr (m := m'.setContent r content)
      (fun s => by rw [sheet?, sheet?, sheets_noteImport]) fun y => rule?_noteImport]
    exact heldBy_modifyRule hr
  have hlookup : ∀ y, y ≠ r →
      ((m'.setContent r content).noteImport type x r).rule? y = m'.rule? y := by
    intro y hy
    rw [rule?_noteImport, rule?_setContent, if_neg (Ne.symm hy)]
  -- what the content holds is newer than the rule
  have hne : ∀ {y}, m₁.rule? y = Option.none → y ≠ r ∧ m.rule? y = Option.none := by
    intro y hy
    rw [hreserve] at hy
    split at hy
    · cases hy
    · rename_i hyr
      exact ⟨hyr, hy⟩
  have hcases : ∀ p, ∀ y ∈ ((m'.setContent r content).noteImport type x r).heldBy p,
      y ∈ m.heldBy p ∨ y ≠ r ∧ m.rule? y = Option.none := by
    intro p y hy
    rw [hheld'] at hy
    split at hy
    · exact .inr (hne (hb.fresh y hy))
    · exact (hb.held p y hy).imp (fun hy => hheld p ▸ hy) hne
  refine ⟨?_, ?_, fun y hy => ?_, fun p y hy => (hcases p y hy).imp id And.right,
    List.nodup_singleton r, by simpa using hfresh, ?_, fun y hy p hp => ?_⟩
  · refine (hb.placed.setContent hr hb.nodup fun y hy => ?_).noteImport type x r
    exact .inr ⟨hb.live y hy, hb.free y hy⟩
  · rw [sheets_noteImport]
    exact hb.sheets.trans hsheets
  · have hyr : y ≠ r := by
      rintro rfl
      simp [hfresh] at hy
    have hy₁ : m₁.rule? y = m.rule? y := by rw [hreserve, if_neg hyr]
    rw [hlookup y hyr, hb.kept y (hy₁ ▸ hy), hy₁]
  · intro y hy
    obtain rfl := List.mem_singleton.1 hy
    rw [rule?_noteImport, rule?_setContent_isSome, hr]
    rfl
  · obtain rfl := List.mem_singleton.1 hy
    rcases hcases p y hp with hp | ⟨hyr, -⟩
    · have := h.live p y hp
      simp [hfresh] at this
    · exact hyr rfl

end Stocks

theorem stocks_adoptAll (h : m.Placed) (x : Option SheetId) (parent : Option RuleId)
    (sources : List RuleSource) :
    m.Stocks (m.adoptAll x parent sources).1 (m.adoptAll x parent sources).2 := by
  refine adoptAll.induct_unfolding x
    (fun m _ _ result => m.Placed → m.Stocks result.1 result.2.children)
    (fun m _ _ result => m.Placed → m.Stocks result.1 result.2)
    ?style ?media ?importing ?fontFace ?page ?nil ?kept ?dropped m parent sources h
  case style => exact fun m r selectors declarations h => .none h
  case media =>
    intro m r l rules m₁ ids heq ih h
    rw [heq] at ih
    exact ih h
  case importing => exact fun m r href l h => .none h
  case fontFace => exact fun m r declarations h => .none h
  case page => exact fun m r selector declarations h => .none h
  case nil => exact fun m parent h => .none h
  case kept =>
    intro m parent source rest _ m₁ r hreserve m₂ content hbuild m₃ m₄ ids hrest ihb iha h
    obtain rfl : (m.reserve x parent).1 = m₁ := by rw [hreserve]
    obtain rfl : (m.reserve x parent).2 = r := by rw [hreserve]
    rw [hbuild] at ihb
    rw [hrest] at iha
    have hone := Stocks.singleton h (ihb (h.reserve x parent)) source.type
    exact hone.append (iha hone.placed)
  case dropped => exact fun m parent source rest _ ih h => ih h

theorem stocks_build (h : m.Placed) (x : Option SheetId) (r : RuleId) (source : RuleSource) :
    m.Stocks (m.build x r source).1 (m.build x r source).2.children := by
  cases source with
  | media l rules =>
    simp only [build]
    exact stocks_adoptAll h x _ rules
  | style selectors declarations => exact .none h
  | importing href l => exact .none h
  | fontFace declarations => exact .none h
  | page selector declarations => exact .none h

theorem Stocks.rulesOf (h : m.Stocks m' ids) (hl : m.rulesOf c = .ok list) :
    m'.rulesOf c = .ok list := by
  cases c with
  | sheet s =>
    obtain ⟨sheet, hs, rfl⟩ := rulesOf_sheet_eq_ok.1 hl
    refine rulesOf_sheet_eq_ok.2 ⟨sheet, ?_, rfl⟩
    rwa [sheet?, h.sheets]
  | media r =>
    obtain ⟨rule, l, hr, hc⟩ := rulesOf_media_eq_ok.1 hl
    refine rulesOf_media_eq_ok.2 ⟨rule, l, ?_, hc⟩
    rw [h.kept r (by rw [hr]; rfl), hr]

/-! ### Edits -/

namespace Placed

theorem mem_heldBy_of_rulesOf (hl : m.rulesOf c = .ok list) (hr : r ∈ list) :
    r ∈ m.heldBy c.part :=
  mem_heldBy.2 (mem_ownedBy_of_rulesOf hl hr)

theorem heldBy_modifyRules (hl : m.rulesOf c = .ok list) (f : List RuleId → List RuleId) :
    ∃ deleted, m.heldBy c.part = list ++ deleted ∧
      (m.modifyRules f c).heldBy c.part = f list ++ deleted ∧
      ∀ p, p ≠ c.part → (m.modifyRules f c).heldBy p = m.heldBy p := by
  cases c with
  | sheet s =>
    obtain ⟨sheet, hs, rfl⟩ := rulesOf_sheet_eq_ok.1 hl
    refine ⟨sheet.deleted, by simp [RuleContainer.part, heldBy, hs], ?_, fun p hp => ?_⟩
    · rw [ObjectModel.modifyRules, heldBy_modifySheet hs]
      exact if_pos rfl
    · rw [ObjectModel.modifyRules, heldBy_modifySheet hs]
      exact if_neg hp
  | media r =>
    obtain ⟨rule, l, hr, hc⟩ := rulesOf_media_eq_ok.1 hl
    refine ⟨[], by simp [RuleContainer.part, heldBy, hr, hc, RuleContent.children], ?_,
      fun p hp => ?_⟩
    · rw [modifyRules_media hr hc, ObjectModel.setContent, heldBy_modifyRule hr, List.append_nil]
      exact if_pos rfl
    · rw [modifyRules_media hr hc, ObjectModel.setContent, heldBy_modifyRule hr]
      exact if_neg hp

/-- A container may get live rules that stand nowhere. -/
theorem modifyRules (h : m.Placed) (hl : m.rulesOf c = .ok list) {f : List RuleId → List RuleId}
    (hn : (f list).Nodup)
    (hfree : ∀ r ∈ f list, r ∈ list ∨ (m.rule? r).isSome ∧ ∀ q, r ∉ m.heldBy q) :
    (m.modifyRules f c).Placed := by
  obtain ⟨deleted, hbefore, hafter, hother⟩ := heldBy_modifyRules hl f
  have hnodup := h.nodup c.part
  rw [hbefore, List.nodup_append] at hnodup
  have hvalid : (m.modifyRules f c).sheets.Valid ∧ (m.modifyRules f c).rules.Valid ∧
      ∀ r, ((m.modifyRules f c).rule? r).isSome = (m.rule? r).isSome := by
    cases c with
    | sheet s => exact ⟨h.sheets.modify _ _, h.rules, fun _ => rfl⟩
    | media r => exact ⟨h.sheets, h.rules.modify _ _, fun _ => rule?_modifyRule_isSome⟩
  refine h.take hvalid.1 hvalid.2.1 (fun r hr => by rwa [hvalid.2.2]) hother ?_ ?_
  · rw [hafter]
    refine List.nodup_append.2 ⟨hn, hnodup.2.1, ?_⟩
    rintro r hr _ hd rfl
    rcases hfree r hr with hr | ⟨-, hno⟩
    · exact hnodup.2.2 r hr r hd rfl
    · exact hno c.part (by simp [hbefore, hd])
  · rw [hafter, hbefore]
    intro r hr
    rcases List.mem_append.1 hr with hr | hr
    · exact (hfree r hr).imp (fun hr => List.mem_append_left _ hr) id
    · exact .inl (List.mem_append_right _ hr)

theorem nodup_of_rulesOf (h : m.Placed) (hl : m.rulesOf c = .ok list) : list.Nodup := by
  obtain ⟨deleted, hheld, -⟩ := heldBy_modifyRules hl id
  have hn := h.nodup c.part
  rw [hheld] at hn
  exact (List.nodup_append.1 hn).1

theorem eraseIdx (h : m.Placed) (hl : m.rulesOf c = .ok list) (index : Nat) :
    (m.modifyRules (·.eraseIdx index) c).Placed :=
  h.modifyRules hl ((h.nodup_of_rulesOf hl).eraseIdx index)
    fun _ hr => .inl (List.mem_of_mem_eraseIdx hr)

/-- What is deleted from a container stands nowhere. -/
theorem notMem_heldBy_of_eraseIdx (h : m.Placed) (hl : m.rulesOf c = .ok list) {index : Nat}
    (hr : list[index]? = some r) (p : ModelPart) :
    r ∉ (m.modifyRules (·.eraseIdx index) c).heldBy p := by
  obtain ⟨deleted, hbefore, hafter, hother⟩ := heldBy_modifyRules hl (·.eraseIdx index)
  have hmem : r ∈ list := List.mem_of_getElem? hr
  have hn := h.nodup c.part
  rw [hbefore, List.nodup_append] at hn
  intro hp
  by_cases hpc : p = c.part
  · rw [hpc, hafter, List.mem_append] at hp
    rcases hp with hp | hp
    · obtain ⟨i, hi, hir⟩ := List.mem_eraseIdx_iff_getElem?.1 hp
      have hlt := (List.getElem?_eq_some_iff.1 hir).1
      exact hi ((List.getElem?_inj hlt hn.1).1 (hir.trans hr.symm))
    · exact hn.2.2 r hmem r hp rfl
  · rw [hother p hpc] at hp
    exact hpc (h.unique p c.part r hp (mem_heldBy_of_rulesOf hl hmem))

theorem orphan (h : m.Placed) (r : RuleId) : (m.orphan r).Placed := by
  have ho := orphans_orphan m r
  have hs : (m.orphan r).sheets = m.sheets := by rw [ho.eq]
  have hheld : ∀ p, (m.orphan r).heldBy p = m.heldBy p := by
    intro p
    cases p with
    | sheet s => rw [heldBy, heldBy, ho.sheet?_eq]
    | rule x =>
      have hc := congrArg (Option.map RuleContent.children) (ho.content_eq x)
      rw [Option.map_map, Option.map_map] at hc
      exact congrArg (Option.getD · []) hc
  refine h.shrink (hs ▸ h.sheets) (ho.valid h.rules)
    (fun p => hheld p ▸ List.Sublist.refl _) fun p x hx => ?_
  rw [hheld] at hx
  rw [ho.isSome]
  exact h.live p x hx

theorem deleteRule (h : m.Placed) (c : RuleContainer) (index : Nat) :
    ((ModelM.deleteRule c index).exec m).2.Placed := by
  rcases ModelM.exec_deleteRule (m := m) c index with ⟨e, he⟩ | ⟨list, x, r, hl, -, hr, he⟩
  · rw [he]
    exact h
  have herased := h.eraseIdx hl index
  have hnowhere := h.notMem_heldBy_of_eraseIdx hl hr
  have hlive : ((m.modifyRules (·.eraseIdx index) c).rule? r).isSome := by
    have := h.live _ r (mem_heldBy_of_rulesOf hl (List.mem_of_getElem? hr))
    cases c with
    | sheet s => exact this
    | media y => exact rule?_modifyRule_isSome.trans this
  rw [he]
  cases x with
  | none =>
    refine herased.free fun y hy => ?_
    obtain rfl := ModelPart.rule.inj (List.mem_singleton.1 hy)
    exact hnowhere
  | some s =>
    have horphan := herased.orphan r
    have ho := orphans_orphan (m.modifyRules (·.eraseIdx index) c) r
    simp only
    split
    · rename_i hs
      obtain ⟨sheet, hs⟩ := Option.isSome_iff_exists.1 hs
      have hnew : ∀ q, r ∉ ((m.modifyRules (·.eraseIdx index) c).orphan r).heldBy q :=
        fun q hq => hnowhere q (mem_heldBy.2 (ho.ownedBy_eq q ▸ mem_heldBy.1 hq))
      have hheld : ((m.modifyRules (·.eraseIdx index) c).orphan r).heldBy (.sheet s) =
          sheet.rules ++ sheet.deleted := by simp [heldBy, hs]
      have hn := horphan.nodup (.sheet s)
      have hno := hnew (.sheet s)
      rw [hheld] at hn hno
      refine .note (horphan.modifySheet hs ?_ fun y hy => ?_) _
      · rw [← List.append_assoc]
        exact List.nodup_append.2 ⟨hn, List.nodup_singleton r, by
          rintro y hy _ hr' rfl
          exact hno (List.mem_singleton.1 hr' ▸ hy)⟩
      · rw [← List.append_assoc] at hy
        rcases List.mem_append.1 hy with hy | hy
        · exact .inl hy
        · obtain rfl := List.mem_singleton.1 hy
          exact .inr ⟨(ho.isSome y).trans hlive, hnew⟩
    · exact horphan

theorem insertRule (h : m.Placed) (c : RuleContainer) (text : String) (index : Nat) :
    ((ModelM.insertRule c text index).exec m).2.Placed := by
  rcases ModelM.exec_insertRule (m := m) c text index with ⟨e, he⟩ | ⟨list, source, x, hl, -, he⟩
  · rw [he]
    exact h
  have hst := stocks_adoptAll h x c.rule? [source]
  have hn := h.nodup_of_rulesOf hl
  rw [he]
  have hfree : ∀ r ∈ (m.adoptAll x c.rule? [source]).2, r ∉ list := fun r hr hr' =>
    hst.free r hr c.part (mem_heldBy_of_rulesOf (hst.rulesOf hl) hr')
  refine (hst.placed.modifyRules (hst.rulesOf hl) ?_ fun r hr => ?_).noteChanged x
  · have hperm : (list.take index ++ (m.adoptAll x c.rule? [source]).2 ++ list.drop index).Perm
        ((m.adoptAll x c.rule? [source]).2 ++ list) := by
      refine (List.perm_append_comm.append_right _).trans ?_
      rw [List.append_assoc, List.take_append_drop]
    refine hperm.nodup_iff.2 (List.nodup_append.2 ⟨hst.nodup, hn, ?_⟩)
    rintro r hr _ hr' rfl
    exact hfree r hr hr'
  · rcases List.mem_append.1 hr with hr | hr
    · rcases List.mem_append.1 hr with hr | hr
      · exact .inl (List.mem_of_mem_take hr)
      · exact .inr ⟨hst.live r hr, hst.free r hr⟩
    · exact .inl (List.mem_of_mem_drop hr)

theorem withoutRules (h : m.Placed) (hs : m.sheet? s = some sheet) :
    (m.withoutRules s sheet).Placed := by
  have hempty := h.modifySheet_of_sublist s
    (f := fun y => { y with rules := [], deleted := [] })
    (fun _ => List.nil_sublist _) fun _ => List.nil_sublist _
  refine hempty.free fun x hx q hq => ?_
  rw [heldBy_modifySheet hs] at hq
  split at hq
  · cases hq
  · rename_i hne
    exact hne (h.unique q _ x hq (mem_heldBy.2 ((mem_ownedBy_sheet hs).2 hx)))

theorem replaceRules (h : m.Placed) (s : SheetId) (text : String) :
    ((ModelM.replaceRules s text).exec m).2.Placed := by
  cases hs : m.sheet? s with
  | none =>
    rw [ModelM.exec_replaceRules_of_none hs]
    exact h
  | some sheet =>
    have hst := stocks_adoptAll (h.withoutRules hs) (some s) none (SheetSource.ofString text).rules
    rw [ModelM.exec_replaceRules_of_some hs rfl]
    split
    · rename_i hlive
      obtain ⟨y, hy⟩ := Option.isSome_iff_exists.1 hlive
      have hs₂ : (m.withoutRules s sheet).sheet? s = some y := by rwa [sheet?, ← hst.sheets]
      have hdeleted : y.deleted = [] := by
        have hsame := (frees_free _ sheet.owned).sheet?_eq_some hs₂
        rw [sheet?_modifySheet, if_pos rfl, hs, Option.map_some, Option.some.injEq] at hsame
        rw [← hsame]
      refine .note (hst.placed.modifySheet hy ?_ fun x hx => ?_) _
      · simpa [hdeleted] using hst.nodup
      · rw [hdeleted, List.append_nil] at hx
        exact .inr ⟨hst.live x hx, hst.free x hx⟩
    · exact hst.placed

theorem emptied (h : m.Placed) (hr : m.rule? r = some rule) : (m.emptied r rule).Placed := by
  have hempty : (m.setContent r .placeholder).Placed :=
    h.setContent_of_children hr (List.nil_sublist _)
  refine hempty.free fun x hx q hq => ?_
  rw [ObjectModel.setContent, heldBy_modifyRule hr] at hq
  split at hq
  · cases hq
  · rename_i hne
    exact hne (h.unique q _ x hq (mem_heldBy.2 ((mem_ownedBy_rule hr).2 hx)))

theorem setRuleText (h : m.Placed) (r : RuleId) (text : String) :
    ((ModelM.setRuleText r text).exec m).2.Placed := by
  rcases ModelM.exec_setRuleText (m := m) (r := r) text with
    ⟨e, he⟩ | ⟨rule, source, m₂, content, hr, -, hbuild, he⟩
  · rw [he]
    exact h
  have hst := stocks_build (h.emptied hr) rule.parentSheet r source
  rw [ObjectModel.emptied, hbuild] at hst
  rw [he]
  split
  · rename_i hlive
    obtain ⟨y, hy⟩ := Option.isSome_iff_exists.1 hlive
    refine ((hst.placed.setContent hy hst.nodup fun x hx => ?_).noteImport _ _ _).noteChanged _
    exact .inr ⟨hst.live x hx, hst.free x hx⟩
  · exact hst.placed

theorem setSelectorText (h : m.Placed) (r : RuleId) (text : String) :
    ((ModelM.setSelectorText r text).exec m).2.Placed := by
  rcases ModelM.exec_setSelectorText (m := m) (r := r) text with
    he | ⟨rule, selectors, block, new, hr, -, he⟩ <;> rw [he]
  · exact h
  · refine .noteChanged ?_ _
    exact h.setContent_of_children hr (List.nil_sublist _)

theorem updateBlock {α : Type} (h : m.Placed) (r : RuleId)
    (f : DeclarationBlock → DeclarationBlock × α) :
    ((ModelM.updateBlock r f).exec m).2.Placed := by
  rcases ModelM.exec_updateBlock (m := m) (r := r) f with he | ⟨rule, block, hr, he⟩ <;> rw [he]
  · exact h
  · refine (h.setContent_of_children hr ?_).noteChanged _
    cases rule.content <;> exact List.Sublist.refl _

theorem updateMedia {α : Type} (h : m.Placed) (o : MediaOwner) (f : MediaList → MediaList × α) :
    ((ModelM.updateMedia o f).exec m).2.Placed := by
  rcases ModelM.exec_updateMedia (m := m) o f with
    he | ⟨s, l, -, he⟩ | ⟨r, rule, l, -, hr, he⟩ <;> rw [he]
  · exact h
  · refine .note ?_ _
    exact h.modifySheet_of_rules s (fun _ => rfl) fun _ => rfl
  · refine (h.setContent_of_children hr ?_).noteChanged _
    cases rule.content <;> exact List.Sublist.refl _

theorem setOwner (h : m.Placed) (s : SheetId) (node : Option NodeId) (title : Option String) :
    ((ModelM.setOwner s node title).exec m).2.Placed := by
  simp only [ModelM.setOwner, ModelM.exec_sheet_bind]
  cases m.sheet? s with
  | none => exact h
  | some sheet =>
    rw [ModelM.exec_modify]
    exact h.modifySheet_of_rules s (fun _ => rfl) fun _ => rfl

theorem setDisabled (h : m.Placed) (s : SheetId) (disabled : Bool) :
    ((ModelM.setDisabled s disabled).exec m).2.Placed := by
  simp only [ModelM.setDisabled, ModelM.exec_sheet_bind]
  cases m.sheet? s with
  | none => exact h
  | some sheet =>
    simp only
    split
    · rw [ModelM.exec_modify_bind, ModelM.exec_noteChanged]
      have hset : (m.modifySheet s fun y => { y with disabled }).Placed :=
        h.modifySheet_of_rules s (fun _ => rfl) fun _ => rfl
      exact hset.noteChanged (some s)
    · exact h

theorem removeSheet (h : m.Placed) (s : SheetId) :
    ((ModelM.removeSheet s).exec m).2.Placed := by
  simp only [ModelM.removeSheet, ModelM.exec_sheet_bind]
  cases m.sheet? s with
  | none => exact h
  | some sheet => exact (h.free (by simp)).note _

/-- It makes no difference which sheet an import is given. -/
theorem attachImport (h : m.Placed) (r : RuleId) (s : SheetId) :
    ((ModelM.attachImport r s).exec m).2.Placed := by
  rcases ModelM.exec_attachImport (m := m) (r := r) (s := s) with
    ⟨e, he⟩ | ⟨sheet, rule, href, l, old, m₂, -, hr, -, hm₂, he⟩
  · rw [he]
    exact h
  have h₂ : m₂.Placed := by
    rw [← hm₂]
    refine .free ?_ (by simp)
    exact h.setContent_of_children hr (List.nil_sublist _)
  rw [he]
  split
  · refine .noteChanged ?_ _
    exact h₂.modifySheet_of_rules s (fun _ => rfl) fun _ => rfl
  · exact h₂

theorem edit (h : m.Placed) (e : Edit) : (e.apply m).Placed := by
  cases e with
  | createSheet href media origin => exact h.createSheet href media origin
  | setOwner s node title => exact h.setOwner s node title
  | setDisabled s disabled => exact h.setDisabled s disabled
  | replaceRules s text => exact h.replaceRules s text
  | removeSheet s => exact h.removeSheet s
  | insertRule c text index => exact h.insertRule c text index
  | deleteRule c index => exact h.deleteRule c index
  | setRuleText r text => exact h.setRuleText r text
  | setSelectorText r text => exact h.setSelectorText r text
  | updateBlock r f => exact h.updateBlock r _
  | updateMedia o f => exact h.updateMedia o _

end Placed

/-- The models that come about by edits, and by imports that are given whatever sheets. -/
inductive Reachable (compatibility : Compatibility) : ObjectModel → Prop where
  | empty : Reachable compatibility (empty compatibility)
  | edit {m : ObjectModel} (h : Reachable compatibility m) (e : Edit) :
    Reachable compatibility (e.apply m)
  | attach {m : ObjectModel} (h : Reachable compatibility m) (r : RuleId) (s : SheetId) :
    Reachable compatibility ((ModelM.attachImport r s).exec m).2
  | takeChanges {m : ObjectModel} (h : Reachable compatibility m) :
    Reachable compatibility m.takeChanges.2

theorem Reachable.edits {compatibility : Compatibility} (h : Reachable compatibility m)
    (l : List Edit) : Reachable compatibility (l.foldl Edit.apply m) := by
  induction l generalizing m with
  | nil => exact h
  | cons e l ih => exact ih (h.edit e)

theorem Reachable.placed {compatibility : Compatibility} (h : Reachable compatibility m) :
    m.Placed := by
  induction h with
  | empty => exact placed_empty compatibility
  | edit _ e ih => exact ih.edit e
  | attach _ r s ih => exact ih.attachImport r s
  | takeChanges _ ih => exact ih.congr rfl rfl

end WebStyle.ObjectModel
