import WebStyle.Proofs.ObjectModel.Imports
import WebStyle.Proofs.Sequence
/-!
Rules as they were written. The rules that are added for sources are in the order of the sources,
with what is written in them; imports have no sheets yet.
-/
set_option autoImplicit false

namespace WebStyle

mutual

/-- Whether content is what a source says. `P` are the rules that may be in it. -/
def RuleSource.Renders (keeps : RuleSource → Bool) (P : RuleId → Rule → Prop) :
    RuleSource → RuleContent → Prop
  | .style selectors declarations, c => c = .style selectors (.ofDeclarations declarations)
  | .media l rules, c => ∃ ids, c = .media l ids ∧ RendersAll keeps P rules ids
  | .importing href l, c => c = .importing href l none
  | .fontFace declarations, c => c = .fontFace (.ofDeclarations declarations)
  | .page selector declarations, c => c = .page selector (.ofDeclarations declarations)

/-- Whether rules are what the sources say that are kept. -/
def RuleSource.RendersAll (keeps : RuleSource → Bool) (P : RuleId → Rule → Prop) :
    List RuleSource → List RuleId → Prop
  | [], ids => ids = []
  | source :: rest, ids =>
    if keeps source then ∃ r rule ids', ids = r :: ids' ∧ P r rule ∧
      source.Renders keeps P rule.content ∧ RendersAll keeps P rest ids'
    else RendersAll keeps P rest ids

end

namespace RuleSource

mutual

/-- What the imports refer to that a source holds, in order. -/
def hrefs : RuleSource → List String
  | .media _ rules => hrefsAll rules
  | .importing href _ => [href]
  | .style _ _ | .fontFace _ | .page _ _ => []

def hrefsAll : List RuleSource → List String
  | [] => []
  | source :: rest => hrefs source ++ hrefsAll rest

end

variable {keeps : RuleSource → Bool} {P Q : RuleId → Rule → Prop}

mutual

theorem Renders.mono (hPQ : ∀ r rule, P r rule → Q r rule) : ∀ {source : RuleSource}
    {c : RuleContent}, source.Renders keeps P c → source.Renders keeps Q c
  | .style _ _, _, h => h
  | .media _ _, _, ⟨ids, hc, h⟩ => ⟨ids, hc, RendersAll.mono hPQ h⟩
  | .importing _ _, _, h => h
  | .fontFace _, _, h => h
  | .page _ _, _, h => h

theorem RendersAll.mono (hPQ : ∀ r rule, P r rule → Q r rule) : ∀ {sources : List RuleSource}
    {ids : List RuleId}, RendersAll keeps P sources ids → RendersAll keeps Q sources ids
  | [], _, h => h
  | source :: rest, ids, h => by
    rw [RendersAll] at h ⊢
    split
    · rename_i hk
      rw [if_pos hk] at h
      obtain ⟨r, rule, ids', hids, hP, hsource, hrest⟩ := h
      exact ⟨r, rule, ids', hids, hPQ r rule hP, Renders.mono hPQ hsource,
        RendersAll.mono hPQ hrest⟩
    · rename_i hk
      rw [if_neg hk] at h
      exact RendersAll.mono hPQ h

end

end RuleSource

namespace ObjectModel

variable {m m' : ObjectModel} {held : List SheetId} {sheet : Option SheetId} {r : RuleId}

/-- Whether a rule is there that was not there before. -/
def IsNew (m m' : ObjectModel) (r : RuleId) (rule : Rule) : Prop :=
  m'.rule? r = some rule ∧ m.rule? r = none

theorem IsNew.of_kept {m₁ m₂ : ObjectModel} {rule : Rule} (h : m₁.IsNew m₂ r rule)
    (hfresh : ∀ x, m₁.rule? x = none → m.rule? x = none)
    (hkept : ∀ x y, m₁.rule? x = none → m₂.rule? x = some y → m'.rule? x = some y) :
    m.IsNew m' r rule :=
  ⟨hkept r rule h.2 h.1, hfresh r h.2⟩

/-- The rules that are added are new, and are what their sources say. -/
theorem rendersAll_adoptAll (parent : Option RuleId) (sources : List RuleSource)
    (h : m.Sound held) : RuleSource.RendersAll m.compatibility.keeps
      (m.IsNew (m.adoptAll sheet parent sources).1) sources
      (m.adoptAll sheet parent sources).2 := by
  refine adoptAll.induct_unfolding sheet
    (fun m _ source result => m.Sound held →
      source.Renders m.compatibility.keeps (m.IsNew result.1) result.2)
    (fun m _ sources result => m.Sound held →
      RuleSource.RendersAll m.compatibility.keeps (m.IsNew result.1) sources result.2)
    ?style ?media ?importing ?fontFace ?page ?nil ?kept ?dropped m parent sources h
  case style => exact fun m r selectors declarations h => rfl
  case media =>
    intro m r l rules m₁ ids heq ih h
    rw [heq] at ih
    exact ⟨ids, rfl, ih h⟩
  case importing => exact fun m r href l h => rfl
  case fontFace => exact fun m r declarations h => rfl
  case page => exact fun m r selector declarations h => rfl
  case nil => exact fun m parent h => rfl
  case kept =>
    intro m parent source rest hkeeps m₁ r hreserve m₂ content hbuild m₃ m₄ ids hrest ihb iha h
    obtain rfl : (m.reserve sheet parent).1 = m₁ := by rw [hreserve]
    obtain rfl : (m.reserve sheet parent).2 = r := by rw [hreserve]
    have hb : (m.reserve sheet parent).1.Builds held sheet source _ _ :=
      builds_build (m.reserve sheet parent).2 source (h.reserve sheet parent)
    rw [hbuild] at hb ihb
    have hone := Adopts.singleton h hb
    have ha : m₃.Adopts held sheet m₄ ids := by
      have hadopts : Adopts held sheet _ _ _ := adopts_adoptAll parent rest hone.sound
      rwa [show ObjectModel.adoptAll _ sheet parent rest = (m₄, ids) from hrest] at hadopts
    rw [hrest] at iha
    have hlookup : ∀ x, m₃.rule? x = if (m.reserve sheet parent).2 = x then
        some ⟨content, parent, sheet⟩ else m₂.rule? x := by
      intro x
      have hr : m₂.rule? (m.reserve sheet parent).2 = some ⟨.placeholder, parent, sheet⟩ :=
        hb.adopts.kept _ _ (by rw [h.rule?_reserve, if_pos rfl])
      rw [rule?_noteImport, rule?_setContent]
      split
      · rename_i hx
        rw [← hx, hr]
        rfl
      · rfl
    have hfresh : ∀ x, (m.reserve sheet parent).1.rule? x = none →
        (m.reserve sheet parent).2 ≠ x ∧ m.rule? x = none := by
      intro x hx
      rw [h.rule?_reserve] at hx
      split at hx
      · simp at hx
      · rename_i hne
        exact ⟨Ne.symm hne, hx⟩
    rw [RuleSource.RendersAll, if_pos hkeeps]
    refine ⟨_, ⟨content, parent, sheet⟩, ids, rfl, ⟨?_, h.rule?_fresh⟩, ?_, ?_⟩
    · exact ha.kept _ _ (by rw [hlookup, if_pos rfl])
    · refine (ihb (h.reserve sheet parent)).mono fun x y hnew => hnew.of_kept
        (fun x hx => (hfresh x hx).2) fun x y hx hy => ha.kept x y ?_
      rw [hlookup, if_neg (hfresh x hx).1, hy]
    · rw [← hone.compatibility]
      exact (iha hone.sound).mono fun x y hnew => hnew.of_kept (fun x hx => hone.fresh_of_fresh hx)
        fun x y _ hy => hy
  case dropped =>
    intro m parent source rest hkeeps ih h
    rw [RuleSource.RendersAll, if_neg hkeeps]
    exact ih h

/-! ### Imports that are noted -/

/-- Whether the given rules are imports that refer to what is given, in order. -/
structure AreImports (P : RuleId → Rule → Prop) (xs : List RuleId) (hrefs : List String) :
    Prop where
  nodup : xs.Nodup
  refer : List.Forall₂ (fun x href => ∃ y l, P x y ∧ y.content = .importing href l none) xs hrefs

namespace AreImports

variable {P Q : RuleId → Rule → Prop} {xs ys : List RuleId} {hrefs hrefs' : List String}

theorem nil : AreImports P [] [] := ⟨List.nodup_nil, .nil⟩

theorem mono (h : AreImports P xs hrefs) (hPQ : ∀ x y, P x y → Q x y) : AreImports Q xs hrefs :=
  ⟨h.nodup, h.refer.imp fun _ _ ⟨y, l, hy, hc⟩ => ⟨y, l, hPQ _ y hy, hc⟩⟩

theorem exists_of_mem (h : AreImports P xs hrefs) {x : RuleId} (hx : x ∈ xs) :
    ∃ href y l, P x y ∧ y.content = .importing href l none := by
  obtain ⟨href, -, y, l, hy, hc⟩ := exists_of_forall₂ h.refer hx
  exact ⟨href, y, l, hy, hc⟩

theorem append (h : AreImports P xs hrefs) (h' : AreImports P ys hrefs')
    (hdisjoint : ∀ x ∈ xs, x ∉ ys) : AreImports P (xs ++ ys) (hrefs ++ hrefs') :=
  ⟨List.nodup_append.2 ⟨h.nodup, h'.nodup, fun x hx _ hy heq => hdisjoint x hx (heq ▸ hy)⟩,
    List.rel_append h.refer h'.refer⟩

end AreImports

/-- Imports that are added are noted in the order in which they are written. -/
theorem areImports_adoptAll {s : SheetId} (parent : Option RuleId) (sources : List RuleSource)
    (h : m.Sound held) : ∃ xs : List RuleId,
      (m.adoptAll (some s) parent sources).1.changes = m.changes ++ xs.map (.imported s) ∧
        AreImports (m.IsNew (m.adoptAll (some s) parent sources).1) xs
          (RuleSource.hrefsAll sources) := by
  refine adoptAll.induct_unfolding (some s)
    (fun m _ source result => m.Sound held → source.type = .importing ∨ ∃ xs : List RuleId,
      result.1.changes = m.changes ++ xs.map (.imported s) ∧
        AreImports (m.IsNew result.1) xs source.hrefs)
    (fun m _ sources result => m.Sound held → ∃ xs : List RuleId,
      result.1.changes = m.changes ++ xs.map (.imported s) ∧
        AreImports (m.IsNew result.1) xs (RuleSource.hrefsAll sources))
    ?style ?media ?importing ?fontFace ?page ?nil ?kept ?dropped m parent sources h
  case style => exact fun m r selectors declarations h => .inr ⟨[], by simp, .nil⟩
  case media =>
    intro m r l rules m₁ ids heq ih h
    rw [heq] at ih
    exact .inr (ih h)
  case importing => exact fun m r href l h => .inl rfl
  case fontFace => exact fun m r declarations h => .inr ⟨[], by simp, .nil⟩
  case page => exact fun m r selector declarations h => .inr ⟨[], by simp, .nil⟩
  case nil => exact fun m parent h => ⟨[], by simp, .nil⟩
  case kept =>
    intro m parent source rest _ m₁ r hreserve m₂ content hbuild m₃ m₄ ids hrest ihb iha h
    obtain rfl : (m.reserve (some s) parent).1 = m₁ := by rw [hreserve]
    obtain rfl : (m.reserve (some s) parent).2 = r := by rw [hreserve]
    have hb : (m.reserve (some s) parent).1.Builds held (some s) source _ _ :=
      builds_build (m.reserve (some s) parent).2 source (h.reserve (some s) parent)
    rw [hbuild] at hb ihb
    have hone := Adopts.singleton h hb
    have ha : m₃.Adopts held (some s) m₄ ids := by
      have hadopts : Adopts held (some s) _ _ _ := adopts_adoptAll parent rest hone.sound
      rwa [show ObjectModel.adoptAll _ (some s) parent rest = (m₄, ids) from hrest] at hadopts
    rw [hrest] at iha
    have hr : m₂.rule? (m.reserve (some s) parent).2 = some ⟨.placeholder, parent, some s⟩ :=
      hb.adopts.kept _ _ (by rw [h.rule?_reserve, if_pos rfl])
    have hlookup : ∀ x, m₃.rule? x = if (m.reserve (some s) parent).2 = x then
        some ⟨content, parent, some s⟩ else m₂.rule? x := by
      intro x
      rw [rule?_noteImport, rule?_setContent]
      split
      · rename_i hx
        rw [← hx, hr]
        rfl
      · rfl
    have hfirst : ∃ xs : List RuleId, m₃.changes = m.changes ++ xs.map (.imported s) ∧
        AreImports (m.IsNew m₃) xs source.hrefs := by
      by_cases ht : source.type = .importing
      · cases source with
        | importing href l =>
          obtain ⟨rfl, rfl⟩ := Prod.mk.inj hbuild
          refine ⟨[(m.reserve (some s) parent).2], rfl, List.nodup_singleton _, .cons ?_ .nil⟩
          exact ⟨_, l, ⟨by rw [hlookup, if_pos rfl], h.rule?_fresh⟩, rfl⟩
        | _ => exact RuleType.noConfusion ht
      · obtain ⟨xs, hxs, himports⟩ := (ihb (h.reserve (some s) parent)).resolve_left ht
        have hsame : m₃.changes = m₂.changes := by
          simp only [m₃, noteImport]
          split
          · exact absurd (by assumption) ht
          · rfl
        refine ⟨xs, hsame.trans hxs, himports.mono fun x y hnew => hnew.of_kept (fun x hx => ?_)
          fun x y hx hy => ?_⟩
        all_goals
          have hne : (m.reserve (some s) parent).2 ≠ x := by
            rintro rfl
            simp [h.rule?_reserve] at hx
        · rwa [h.rule?_reserve, if_neg (Ne.symm hne)] at hx
        · rwa [hlookup, if_neg hne]
    obtain ⟨xs, hxs, hfirst⟩ := hfirst
    obtain ⟨ys, hys, hrest⟩ := iha hone.sound
    refine ⟨xs ++ ys, ?_, (hfirst.mono fun x y hnew => ?_).append
      (hrest.mono fun x y hnew => ?_) ?_⟩
    · rw [hys, hxs, List.map_append, List.append_assoc]
    · exact ⟨ha.kept x y hnew.1, hnew.2⟩
    · exact ⟨hnew.1, hone.fresh_of_fresh hnew.2⟩
    · intro x hx hy
      obtain ⟨_, y, _, hnew, -⟩ := hfirst.exists_of_mem hx
      obtain ⟨_, z, _, hnew', -⟩ := hrest.exists_of_mem hy
      exact absurd (hnew'.2.symm.trans hnew.1) (by simp)
  case dropped =>
    intro m parent source rest hkeeps ih h
    have hnone : source.hrefs = [] := by
      cases source with
      | fontFace | page => rfl
      | style | media | importing => exact absurd rfl hkeeps
    rw [RuleSource.hrefsAll, hnone, List.nil_append]
    exact ih h

/-! ### Sheets that are given rules -/

/-- Whether a rule is there whose handle was not given out before. -/
def IsAdded (m m' : ObjectModel) (r : RuleId) (rule : Rule) : Prop :=
  m'.rule? r = some rule ∧ ¬ m.rules.Issued r

/-- What giving a sheet its rules does: the sheet has what the sources say, and imports are
noted. -/
structure Fills (m m' : ObjectModel) (s : SheetId) (sheet : StyleSheet)
    (sources : List RuleSource) : Prop where
  filled : ∃ ids, m'.sheet? s = some { sheet with rules := ids, deleted := [] } ∧
    RuleSource.RendersAll m.compatibility.keeps (m.IsAdded m') sources ids
  added : ∀ x y, m.IsAdded m' x y → y.parentSheet = some s ∧ ∀ s', .sheet s' ∉ y.content.owned
  noted : ∃ l, m'.changes = m.changes ++ l ∧ (∀ s', .removed s' ∉ l) ∧
    ∀ s' x, .imported s' x ∈ l ↔
      s' = s ∧ ∃ y, m.IsAdded m' x y ∧ y.content.type = .importing
  compatibility : m'.compatibility = m.compatibility
  listed : ∃ (xs : List RuleId) (later : List Change),
    m'.changes = m.changes ++ xs.map (.imported s) ++ later ∧ (∀ c ∈ later, ∃ p, c = .changed p) ∧
      AreImports (m.IsAdded m') xs (RuleSource.hrefsAll sources)

/-- The rules that a sheet had are freed, with what they own, and it is given others. -/
theorem Sound.fills_replaceRules {s : SheetId} {sheet : StyleSheet} (h : m.Sound held)
    (hs : m.sheet? s = some sheet) (hheld : s ∈ held) (text : String)
    (hw : ((ModelM.replaceRules s text).exec m).2.Unwrapped) :
    (ModelM.replaceRules s text).exec m = (.ok (), ((ModelM.replaceRules s text).exec m).2) ∧
      m.Fills ((ModelM.replaceRules s text).exec m).2 s sheet (SheetSource.ofString text).rules ∧
      ∀ q, q ≠ .sheet s → ¬ m.Reaches sheet.owned q →
        (∀ x, q = .rule x → (m.rule? x).isSome) →
        m.Untouched ((ModelM.replaceRules s text).exec m).2 q := by
  have hclear := h.clear hs
  have hfreed : (m.withoutRules s sheet).Sound held :=
    hclear.free fun r hr p => h.not_owned_of_clear hs hr p
  have hlive : ((m.withoutRules s sheet).sheet? s).isSome := by
    by_contra hdead
    exact h.not_visits_of_clear hs (by simpa using hdead) (visits_held hheld)
  have hf : (m.modifySheet s fun sheet => { sheet with rules := [], deleted := [] }).Frees
      (m.withoutRules s sheet) sheet.owned := frees_free _ _
  have hreach : ∀ q, (m.modifySheet s fun sheet =>
    { sheet with rules := [], deleted := [] }).Reaches
      sheet.owned q → m.Reaches sheet.owned q := by
    refine fun q => reaches_of_subset fun p x hx => ?_
    rw [ownedBy_modifySheet hs] at hx
    split at hx
    · simp [StyleSheet.owned] at hx
    · exact hx
  have hgrows : m.rules.Grows (m.withoutRules s sheet).rules := hf.rulesGrow
  have hchanges : (m.withoutRules s sheet).changes = m.changes := hf.changes
  have hcompat : (m.withoutRules s sheet).compatibility = m.compatibility := hf.compatibility
  have ha : (m.withoutRules s sheet).Adopts held (some s) _ _ :=
    adopts_adoptAll none (SheetSource.ofString text).rules hfreed
  have hr : RuleSource.RendersAll _ _ _ ((m.withoutRules s sheet).adoptAll (some s) none
      (SheetSource.ofString text).rules).2 :=
    rendersAll_adoptAll none (SheetSource.ofString text).rules hfreed
  have hi : ∃ xs : List RuleId, ((m.withoutRules s sheet).adoptAll (some s) none
      (SheetSource.ofString text).rules).1.changes = _ ++ xs.map (Change.imported s) ∧
        AreImports _ xs _ :=
    areImports_adoptAll none (SheetSource.ofString text).rules hfreed
  have hsheet : (m.withoutRules s sheet).sheet? s =
      some { sheet with rules := [], deleted := [] } := by
    have hsame := hf.untouched_of_isLive (q := .sheet s) hlive
    rw [show (m.withoutRules s sheet).sheet? s = _ from hsame, sheet?_modifySheet, if_pos rfl, hs]
    rfl
  rw [ModelM.exec_replaceRules_of_some hs rfl] at hw ⊢
  generalize (m.withoutRules s sheet).adoptAll (some s) none (SheetSource.ofString text).rules =
    result at *
  obtain ⟨m₂, ids⟩ := result
  generalize m.withoutRules s sheet = m₁ at *
  simp only at ha hr hi hw ⊢
  have hlive₂ : (m₂.sheet? s).isSome := by rwa [ha.sheet?_eq]
  rw [if_pos hlive₂] at hw ⊢
  have hw₂ : m₂.rules.Unwrapped :=
    ((hw.of_evolves (.note _ _)).of_evolves (.modifySheet m₂ s _)).rules
  have hnew : ∀ x y, m₂.rule? x = some y → ¬ m.rules.Issued x → m₁.rule? x = none := by
    intro x y _ hx
    by_contra hlive
    obtain ⟨z, hz⟩ := Option.ne_none_iff_exists'.1 hlive
    exact hx (Slots.issued_of_get? (hf.rule?_eq_some hz))
  have hunissued : ∀ x y, m₂.rule? x = some y → m₁.rule? x = none → ¬ m.rules.Issued x :=
    fun x y hy hx hi => ha.unissued x y hy hx hw₂ (hgrows.issued x hi)
  refine ⟨rfl, ⟨⟨ids, ?_, ?_⟩, fun x y hy => ?_, ?_, ha.compatibility.trans hcompat, ?_⟩,
    fun q hq hreached hq' => ?_⟩
  · change (m₂.modifySheet s _).sheet? s = _
    rw [sheet?_modifySheet, if_pos rfl, ha.sheet?_eq, hsheet]
    rfl
  · rw [← hcompat]
    exact hr.mono fun x y hy => ⟨hy.1, hunissued x y hy.1 hy.2⟩
  · exact ha.new x y hy.1 (hnew x y hy.1 hy.2)
  · obtain ⟨l, hl, hmem⟩ := ha.noted
    refine ⟨l ++ [.changed s], ?_, fun s' hs' => ?_, fun s' x => ?_⟩
    · change m₂.changes ++ [.changed s] = _
      rw [hl, hchanges, List.append_assoc]
    · rcases List.mem_append.1 hs' with hs' | hs'
      · obtain ⟨_, _, _, -, heq, -⟩ := (hmem _).1 hs'
        exact Change.noConfusion heq
      · exact Change.noConfusion (List.mem_singleton.1 hs')
    · rw [List.mem_append, hmem]
      constructor
      · rintro (⟨s₁, x₁, y, hs₁, heq, hx, hy, ht⟩ | hc)
        · obtain ⟨rfl, rfl⟩ := Change.imported.inj heq
          exact ⟨(Option.some.inj hs₁).symm, y, ⟨hy, hunissued x y hy hx⟩, ht⟩
        · exact Change.noConfusion (List.mem_singleton.1 hc)
      · rintro ⟨rfl, y, hy, ht⟩
        exact .inl ⟨s', x, y, rfl, rfl, hnew x y hy.1 hy.2, hy.1, ht⟩
  · obtain ⟨xs, hxs, himports⟩ := hi
    refine ⟨xs, [.changed s], ?_, by simp, himports.mono fun x y hy =>
      ⟨hy.1, hunissued x y hy.1 hy.2⟩⟩
    change m₂.changes ++ [.changed s] = _
    rw [hxs, hchanges]
  · have hother := hf.other q fun hr => hreached (hreach q hr)
    cases q with
    | sheet s' =>
      have hne : s ≠ s' := fun heq => hq (heq ▸ rfl)
      have hsame : m₁.sheet? s' = m.sheet? s' := by
        rw [show m₁.sheet? s' = _ from hother, sheet?_modifySheet, if_neg hne]
      change (m₂.modifySheet s _).sheet? s' = _
      rw [sheet?_modifySheet, if_neg hne, ha.sheet?_eq, hsame]
    | rule x =>
      obtain ⟨y, hy⟩ := Option.isSome_iff_exists.1 (hq' x rfl)
      have hsame : m₁.rule? x = m.rule? x := hother
      change m₂.rule? x = m.rule? x
      rw [hy] at hsame ⊢
      exact ha.kept x y hsame

/-- The model after an import without a sheet got one. -/
def attached (m : ObjectModel) (r : RuleId) (s : SheetId) (href : String) (l : MediaList)
    (parent : Option SheetId) : ObjectModel :=
  ((m.setContent r (.importing href l (some s))).modifySheet s fun sheet =>
    { sheet with parentSheet := parent, ownerRule := some r }).noteChanged parent

theorem exec_attachImport_of_open {s : SheetId} {sheet : StyleSheet} {rule : Rule} {href : String}
    {l : MediaList} (hs : m.sheet? s = some sheet) (hr : m.rule? r = some rule)
    (hc : rule.content = .importing href l none) :
    (ModelM.attachImport r s).exec m = (.ok (), m.attached r s href l rule.parentSheet) := by
  have hfree : (m.setContent r (.importing href l (some s))).free [] =
      m.setContent r (.importing href l (some s)) := by rw [free]
  have hs' : (m.setContent r (.importing href l (some s))).sheet? s = some sheet := hs
  rw [ModelM.attachImport, ModelM.exec_sheet_bind, hs]
  simp only [ModelM.exec_rule_bind, hr, hc, ModelM.exec_modify_bind, Option.filter_none,
    Option.toList_none, List.map_nil, hfree, ModelM.exec_sheet_bind, hs']
  rfl

section Attached

variable {s : SheetId} {href : String} {l : MediaList} {parent : Option SheetId}

theorem rule?_attached (x : RuleId) : (m.attached r s href l parent).rule? x =
    if r = x then (m.rule? x).map fun rule => { rule with content := .importing href l (some s) }
    else m.rule? x := by
  rw [← rule?_setContent]
  cases parent <;> rfl

theorem sheet?_attached (x : SheetId) : (m.attached r s href l parent).sheet? x =
    if s = x then (m.sheet? x).map fun sheet =>
      { sheet with parentSheet := parent, ownerRule := some r }
    else m.sheet? x := by
  rw [← sheet?_modifySheet (f := fun sheet =>
    { sheet with parentSheet := parent, ownerRule := some r })]
  cases parent <;> rfl

end Attached

theorem Evolves.attached (m : ObjectModel) (r : RuleId) (s : SheetId) (href : String)
    (l : MediaList) (parent : Option SheetId) : m.Evolves (m.attached r s href l parent) :=
  ((Evolves.modifyRule m r _).trans (.modifySheet _ s _)).trans (.noteChanged _ parent)

theorem changes_attached (m : ObjectModel) (r : RuleId) (s : SheetId) (href : String)
    (l : MediaList) (parent : Option SheetId) : ∃ later : List Change,
      (m.attached r s href l parent).changes = m.changes ++ later ∧
        ∀ c ∈ later, ∃ p, c = .changed p := by
  cases parent with
  | none => exact ⟨[], (List.append_nil _).symm, by simp⟩
  | some p => exact ⟨[.changed p], rfl, by simp⟩

theorem mem_changes_attached {s x : SheetId} {y : RuleId} {href : String} {l : MediaList}
    {parent : Option SheetId} (h : .imported x y ∈ (m.attached r s href l parent).changes) :
    .imported x y ∈ m.changes := by
  obtain ⟨later, hl, hchanged⟩ := m.changes_attached r s href l parent
  rw [hl] at h
  refine (List.mem_append.1 h).resolve_right fun hc => ?_
  obtain ⟨p, hp⟩ := hchanged _ hc
  exact Change.noConfusion hp

theorem evolves_attachImport (m : ObjectModel) (r : RuleId) (s : SheetId) :
    m.Evolves ((ModelM.attachImport r s).exec m).2 := by
  rcases ModelM.exec_attachImport (m := m) (r := r) (s := s) with
    ⟨e, he⟩ | ⟨sheet, rule, href, l, old, m₂, -, -, -, rfl, he⟩
  · rw [he]
    exact .refl m
  · have hfreed := (Evolves.modifyRule m r _).trans
      (.free (m.setContent r (.importing href l (some s)))
      ((old.filter (· != s)).toList.map .sheet))
    rw [he]
    split
    · exact (hfreed.trans (.modifySheet _ s _)).trans (.noteChanged _ _)
    · exact hfreed

theorem unwrapped_of_fill {s : SheetId} {text : String} (hw : ((do
      ModelM.replaceRules s text
      ModelM.attachImport r s : ModelM Unit).exec m).2.Unwrapped) :
    ((ModelM.replaceRules s text).exec m).2.Unwrapped := by
  rw [ModelM.exec_bind] at hw
  generalize (ModelM.replaceRules s text).exec m = run at hw ⊢
  obtain ⟨x, m₂⟩ := run
  cases x with
  | error e => exact hw
  | ok u => exact hw.of_evolves (evolves_attachImport m₂ r s)

/-- What giving an import a new sheet does. -/
structure FillsImport (m m' : ObjectModel) (r : RuleId) (rule : Rule) (href : String)
    (l : MediaList) (s : SheetId) (sheet : StyleSheet) (sources : List RuleSource) : Prop where
  fills : m.Fills m' s sheet sources
  fresh : ¬ m.sheets.Issued s
  given : m'.rule? r = some { rule with content := .importing href l (some s) }
  other : ∀ q, q ≠ .sheet s → q ≠ .rule r → (∀ x, q = .rule x → (m.rule? x).isSome) →
    m.Untouched m' q
  before : ∃ m₁ : ObjectModel, m.Rewires m₁ ∧ m₁.rule? r = some rule ∧
    (∀ p, .sheet s ∉ m₁.ownedBy p) ∧ m' = m₁.attached r s href l rule.parentSheet

/-- The sheets that are there are left alone. -/
theorem FillsImport.sheet?_eq {rule : Rule} {href : String} {l : MediaList} {s x : SheetId}
    {sheet : StyleSheet} {sources : List RuleSource}
    (h : m.FillsImport m' r rule href l s sheet sources) (hx : (m.sheet? x).isSome) :
    m'.sheet? x = m.sheet? x := by
  obtain ⟨y, hy⟩ := Option.isSome_iff_exists.1 hx
  refine h.other (.sheet x) (fun heq => h.fresh ?_) (by rintro ⟨⟩) (by rintro _ ⟨⟩)
  exact ModelPart.sheet.inj heq ▸ Slots.issued_of_get? hy

/-- Where everything but one sheet is left alone, a rule that was there before still is. -/
theorem rule?_of_untouched {s : SheetId} {rule : Rule}
    (hother : ∀ q, q ≠ .sheet s → (∀ x, q = .rule x → (m.rule? x).isSome) → m.Untouched m' q)
    (hr : m.rule? r = some rule) : m'.rule? r = some rule := by
  have hkept : m'.rule? r = m.rule? r := hother (.rule r) (by rintro ⟨⟩) fun x hx => by
    rw [← ModelPart.rule.inj hx, hr]
    rfl
  rw [hkept, hr]

section Created

variable (h : m.Sound held) (hwm : m.sheets.Unwrapped) (url text : String) (origin : Origin)
  {created : ObjectModel × SheetId} (hcreated : m.createSheet (some url) "" origin = created)
include h hwm hcreated

/-- A new sheet is given rules, and nothing else changes. -/
theorem Sound.fills_created
    (hw : ((ModelM.replaceRules created.2 text).exec created.1).2.Unwrapped) :
    ∃ m', (ModelM.replaceRules created.2 text).exec created.1 = (.ok (), m') ∧
      created.1.Fills m' created.2 (.new (some url) (.ofString "") origin)
        (SheetSource.ofString text).rules ∧
      m.Rewires m' ∧ (∀ p, .sheet created.2 ∉ m'.ownedBy p) ∧
      ∀ q, q ≠ .sheet created.2 → (∀ x, q = .rule x → (m.rule? x).isSome) →
        m.Untouched m' q := by
  have h₁ : created.1.Sound (created.2 :: held) := hcreated ▸ h.createSheet hwm _ _ _
  have hs₁ : created.1.sheet? created.2 = some (.new (some url) (.ofString "") origin) := by
    rw [← hcreated, h.sheet?_createSheet, if_pos rfl]
  have hsame : ∀ x, x ≠ created.2 → created.1.sheet? x = m.sheet? x := by
    intro x hx
    rw [← hcreated] at hx ⊢
    rw [h.sheet?_createSheet, if_neg hx]
  have hrule : ∀ x, created.1.rule? x = m.rule? x := fun x => by rw [← hcreated]; rfl
  have hrewires : m.Rewires created.1 := hcreated ▸ Rewires.createSheet h hwm _ _ _
  obtain ⟨hrun, hfills, hother⟩ := h₁.fills_replaceRules hs₁ List.mem_cons_self text hw
  have hsound₂ := (h₁.edits_replaceRules created.2 text).sound
  refine ⟨_, hrun, hfills, hrewires.trans (h₁.rewires_replaceRules created.2 text hw),
    hsound₂.heldFree created.2 List.mem_cons_self, fun q hqs hq => ?_⟩
  have hreach : ¬ created.1.Reaches (StyleSheet.new (some url) (.ofString "") origin).owned q := by
    rintro ⟨p, hp, -⟩
    simp [StyleSheet.new, StyleSheet.owned] at hp
  have hkept := hother q hqs hreach fun x hx => by rw [hrule]; exact hq x hx
  cases q with
  | sheet x => exact Eq.trans hkept (hsame x fun heq => hqs (heq ▸ rfl))
  | rule x => exact Eq.trans hkept (hrule x)

theorem Sound.exec_fill {rule : Rule} {href : String} {l : MediaList} (hr : m.rule? r = some rule)
    (hc : rule.content = .importing href l none)
    (hw : ((do
      ModelM.replaceRules created.2 text
      ModelM.attachImport r created.2 : ModelM Unit).exec created.1).2.Unwrapped) :
    ∃ m', (do
        ModelM.replaceRules created.2 text
        ModelM.attachImport r created.2 : ModelM Unit).exec created.1 = (.ok (), m') ∧
      m.FillsImport m' r rule href l created.2
        { StyleSheet.new (some url) (.ofString "") origin with
            parentSheet := rule.parentSheet, ownerRule := some r }
        (SheetSource.ofString text).rules := by
  obtain ⟨m₂, hrun, hfills, hrewires, hfree, hother⟩ :=
    h.fills_created hwm url text origin hcreated (unwrapped_of_fill hw)
  have hfresh : ¬ m.sheets.Issued created.2 := hcreated ▸ h.sheets.not_issued_fresh hwm _
  have hrules : created.1.rules = m.rules := by rw [← hcreated]; rfl
  have hchanges : created.1.changes = m.changes := by rw [← hcreated]; rfl
  have hcompat : created.1.compatibility = m.compatibility := by rw [← hcreated]; rfl
  obtain ⟨m₁, s⟩ := created
  simp only at *
  have hr₂ : m₂.rule? r = some rule := rule?_of_untouched hother hr
  obtain ⟨ids, hs₂, hrenders⟩ := hfills.filled
  have hadded : ∀ x y, m.IsAdded (m₂.attached r s href l rule.parentSheet) x y ↔
      m₁.IsAdded m₂ x y := by
    intro x y
    rw [IsAdded, IsAdded, rule?_attached, hrules]
    refine and_congr_left fun hx => ?_
    have hne : r ≠ x := fun heq => hx (heq ▸ Slots.issued_of_get? hr)
    rw [if_neg hne]
  have hcompat₂ : (m₂.attached r s href l rule.parentSheet).compatibility = m.compatibility :=
    ((Evolves.attached m₂ r s href l _).compatibility.trans hfills.compatibility).trans hcompat
  obtain ⟨later, hlater, hchanged⟩ := m₂.changes_attached r s href l rule.parentSheet
  refine ⟨m₂.attached r s href l rule.parentSheet, ?_,
    ⟨⟨ids, ?_, ?_⟩, fun x y hy => ?_, ?_, hcompat₂, ?_⟩, hfresh, ?_, fun q hqs hqr hq => ?_, m₂,
    hrewires, hr₂, hfree, rfl⟩
  · rw [ModelM.exec_bind, hrun]
    exact exec_attachImport_of_open hs₂ hr₂ hc
  · rw [sheet?_attached, if_pos rfl, hs₂]
    rfl
  · rw [← hcompat]
    exact hrenders.mono fun x y hy => (hadded x y).2 hy
  · exact hfills.added x y ((hadded x y).1 hy)
  · obtain ⟨changes, hl, hremoved, hmem⟩ := hfills.noted
    refine ⟨changes ++ later, by rw [hlater, hl, hchanges, List.append_assoc], fun s' hs' => ?_,
      fun s' x => ?_⟩
    · rcases List.mem_append.1 hs' with hs' | hs'
      · exact hremoved s' hs'
      · obtain ⟨p, hp⟩ := hchanged _ hs'
        exact Change.noConfusion hp
    · simp only [List.mem_append, hmem, hadded]
      refine or_iff_left fun hc => ?_
      obtain ⟨p, hp⟩ := hchanged _ hc
      exact Change.noConfusion hp
  · obtain ⟨xs, before, hl, hbefore, himports⟩ := hfills.listed
    refine ⟨xs, before ++ later, by rw [hlater, hl, hchanges, List.append_assoc], fun c hc => ?_,
      himports.mono fun x y hy => (hadded x y).2 hy⟩
    exact (List.mem_append.1 hc).elim (hbefore c) (hchanged c)
  · rw [rule?_attached, if_pos rfl, hr₂]
    rfl
  · have hkept := hother q hqs hq
    cases q with
    | sheet x =>
      have hne : x ≠ s := fun heq => hqs (heq ▸ rfl)
      change (m₂.attached r s href l rule.parentSheet).sheet? x = _
      rw [sheet?_attached, if_neg (Ne.symm hne)]
      exact hkept
    | rule x =>
      have hne : x ≠ r := fun heq => hqr (heq ▸ rfl)
      change (m₂.attached r s href l rule.parentSheet).rule? x = _
      rw [rule?_attached, if_neg (Ne.symm hne)]
      exact hkept

end Created

end ObjectModel
end WebStyle
