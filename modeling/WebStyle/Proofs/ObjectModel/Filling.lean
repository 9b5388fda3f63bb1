import WebStyle.Proofs.ObjectModel.Framing
import WebStyle.Proofs.ObjectModel.Settling
import WebStyle.Proofs.Sheet.Single
/-!
Sheets that are filled. What a sheet shows is told by the sources that its rules were made of, and
its text by these alone. A sheet without rules is filled alike by inserting the rule of a text and
by replacing its rules by those of the text, if the text is one rule.
-/
set_option autoImplicit false

namespace WebStyle

namespace ObjectModel

open Relation

variable {m m' : ObjectModel} {s : SheetId} {sheet : StyleSheet} {r : RuleId}
  {sources : List RuleSource} {source : RuleSource} {text : String}

/-! ### Texts -/

/-- The text of a sheet that was read from sources. -/
def textOf (m : ObjectModel) (sources : List RuleSource) : String :=
  String.intercalate "\n"
    (RuleTree.texts (RuleSource.growAll m.compatibility.keeps (fun _ => none) sources))

/-- Whether a sheet is there, with the rules that the sources say. -/
def Shows (m : ObjectModel) (s : SheetId) (sources : List RuleSource) : Prop :=
  ∃ sheet, m.sheet? s = some sheet ∧
    RuleSource.RendersAll m.compatibility.keeps
      (fun r rule => m.rule? r = some rule ∧ rule.parentSheet = some s) sources sheet.rules

theorem Forest.depthAtMost_innerOf {loose : List RuleId} (h : m.Forest loose) (r : RuleId) :
    DepthAtMost m.innerOf m.rules.slots.size r :=
  depthAtMost_innerOf_of_acyclic (fun x hx => h.acyclic (.rule x)
    (TransGen.lift ModelPart.rule (fun _ _ hy => mem_innerOf.1 hy) _ _ hx)) r

theorem ruleTextFuel_succ {rule : Rule} (hr : m.rule? r = some rule) (n : Nat) :
    m.ruleTextFuel (n + 1) r =
      (rule.content.children.mapM (m.ruleTextFuel n)).map rule.content.text := by
  rw [ruleTextFuel, ObjectModel.rule, hr]
  simp only [live, bind, Except.bind]
  cases rule.content.children.mapM (m.ruleTextFuel n) <;> rfl

section

variable {keeps : RuleSource → Bool} {P : RuleId → Rule → Prop}

-- The induction is on the sources. The fuel is enough because each rule inside another is less deep.
mutual

/-- The text of a rule that is what a source says. -/
theorem ruleTextFuel_of_renders (hP : ∀ r rule, P r rule → m.rule? r = some rule) :
    ∀ {source : RuleSource} {r : RuleId} {rule : Rule} {k n : Nat}, P r rule →
      source.Renders keeps P rule.content → DepthAtMost m.innerOf k r → k < n →
      m.ruleTextFuel n r = .ok (source.grow keeps fun _ => none).text
  | _, _, _, _, 0, _, _, _, hn => absurd hn (Nat.not_lt_zero _)
  | .style _ _, r, rule, k, n + 1, hr, h, _, _ => by
    rw [ruleTextFuel_succ (hP r rule hr), show rule.content = _ from h]
    rfl
  | .media l rules, r, rule, k, n + 1, hr, ⟨ids, hc, h⟩, hd, hn => by
    have hinner : ids.mapM (m.ruleTextFuel n) = _ :=
      mapM_ruleTextFuel_of_rendersAll hP h fun x hx => by
        have hxr : x ∈ m.innerOf r := by
          rw [innerOf_of_some (hP r rule hr), hc]
          exact hx
        obtain ⟨j, hj, hdx⟩ := hd.step hxr
        exact ⟨j, by omega, hdx⟩
    rw [ruleTextFuel_succ (hP r rule hr), hc]
    simp only [RuleContent.children, hinner, RuleSource.grow, RuleTree.text]
    rfl
  | .importing _ _, r, rule, k, n + 1, hr, h, _, _ => by
    rw [ruleTextFuel_succ (hP r rule hr), show rule.content = _ from h]
    rfl
  | .fontFace _, r, rule, k, n + 1, hr, h, _, _ => by
    rw [ruleTextFuel_succ (hP r rule hr), show rule.content = _ from h]
    rfl
  | .page _ _, r, rule, k, n + 1, hr, h, _, _ => by
    rw [ruleTextFuel_succ (hP r rule hr), show rule.content = _ from h]
    rfl

theorem mapM_ruleTextFuel_of_rendersAll (hP : ∀ r rule, P r rule → m.rule? r = some rule) :
    ∀ {sources : List RuleSource} {ids : List RuleId} {n : Nat},
      RuleSource.RendersAll keeps P sources ids →
      (∀ r ∈ ids, ∃ k, k < n ∧ DepthAtMost m.innerOf k r) →
      ids.mapM (m.ruleTextFuel n) =
        .ok (RuleTree.texts (RuleSource.growAll keeps (fun _ => none) sources))
  | [], ids, n, h, _ => by
    rw [show ids = [] from h]
    rfl
  | source :: rest, ids, n, h, hd => by
    rw [RuleSource.RendersAll] at h
    rw [RuleSource.growAll]
    split
    · rename_i hk
      rw [if_pos hk] at h
      obtain ⟨r, rule, ids', rfl, hr, hsource, hrest⟩ := h
      obtain ⟨k, hk, hdr⟩ := hd r List.mem_cons_self
      have hfirst := ruleTextFuel_of_renders hP hr hsource hdr hk
      have hmore := mapM_ruleTextFuel_of_rendersAll hP hrest fun x hx =>
        hd x (List.mem_cons_of_mem r hx)
      rw [List.mapM_cons, hfirst, hmore]
      rfl
    · rename_i hk
      rw [if_neg hk] at h
      exact mapM_ruleTextFuel_of_rendersAll hP h hd

end

end

/-- The text of a sheet tells the sources alone. -/
theorem Shows.sheetText_eq {loose : List RuleId} (h : m.Shows s sources) (hm : m.Forest loose) :
    m.sheetText s = .ok (m.textOf sources) := by
  obtain ⟨sheet, hs, hrenders⟩ := h
  have htexts := mapM_ruleTextFuel_of_rendersAll (n := m.rules.slots.size + 1)
    (fun _ _ hr => hr.1) hrenders
    fun r _ => ⟨_, Nat.lt_succ_self _, hm.depthAtMost_innerOf r⟩
  have hrules : sheet.rules.mapM m.ruleText = _ := htexts
  simp only [sheetText, ObjectModel.sheet, hs, live, bind, Except.bind, hrules]
  rfl

/-! ### Filling -/

/-- The model after a sheet was given the rules of sources. -/
def fill (m : ObjectModel) (s : SheetId) (sources : List RuleSource) : ObjectModel :=
  ((m.adoptAll (some s) none sources).1.modifySheet s fun sheet =>
    { sheet with rules := (m.adoptAll (some s) none sources).2 }).note (.changed s)

theorem compatibility_fill (h : m.Sound []) :
    (m.fill s sources).compatibility = m.compatibility := by
  have ha : m.Adopts [] (some s) _ _ := adopts_adoptAll none sources h
  exact ha.compatibility

theorem shows_fill (h : m.Sound []) (hs : m.sheet? s = some sheet) :
    (m.fill s sources).Shows s sources := by
  have ha : m.Adopts [] (some s) _ _ := adopts_adoptAll none sources h
  have hrenders : RuleSource.RendersAll m.compatibility.keeps _ sources
      (m.adoptAll (some s) none sources).2 := rendersAll_adoptAll none sources h
  refine ⟨{ sheet with rules := (m.adoptAll (some s) none sources).2 }, ?_, ?_⟩
  · change (ObjectModel.modifySheet _ s _).sheet? s = _
    rw [sheet?_modifySheet, if_pos rfl, ha.sheet?_eq, hs, Option.map_some]
  · rw [compatibility_fill h]
    exact hrenders.mono fun r rule hnew => ⟨hnew.1, (ha.new r rule hnew.1 hnew.2).1⟩

/-- A rule that is kept is inserted into a sheet without rules. -/
theorem exec_insertRule_of_bare (hs : m.sheet? s = some sheet) (hempty : sheet.rules = [])
    (hsource : RuleSource.ofString text = .ok source) (hk : m.compatibility.keeps source) :
    (ModelM.insertRule (.sheet s) text 0).exec m = (.ok 0, m.fill s [source]) := by
  have hl : m.rulesOf (.sheet s) = .ok [] := by
    rw [rulesOf, ObjectModel.sheet, hs, ← hempty]
    rfl
  have hx : m.ownerSheet (.sheet s) = .ok (some s) := by
    rw [ownerSheet, ObjectModel.sheet, hs]
    rfl
  have hplaced : m.misplaced? (source.type == .importing) [] [] (.sheet s) = none := by
    rw [misplaced?]
    split <;> rfl
  -- The new rule goes between the rules before it and the rules after it, and there are none.
  have hlist : (m.adoptAll (some s) none [source]).1.sheets.modify s (fun sheet =>
        { sheet with rules := sheet.rules.take 0 ++ (m.adoptAll (some s) none [source]).2 ++
            sheet.rules.drop 0 }) =
      (m.adoptAll (some s) none [source]).1.sheets.modify s fun sheet =>
        { sheet with rules := (m.adoptAll (some s) none [source]).2 } := by
    refine Slots.modify_congr fun v hv => ?_
    rw [sheets_adoptAll] at hv
    obtain rfl := Option.some.inj (hs.symm.trans hv)
    rw [hempty, List.take_nil, List.drop_nil, List.nil_append, List.append_nil]
  rw [ModelM.exec_insertRule_of_ok hl (Nat.zero_le _) hsource hk hx]
  simp only [List.take_nil, List.drop_nil, hplaced]
  refine congrArg (Prod.mk _) ?_
  unfold withRule fill modifyRules modifySheet
  simp only [RuleContainer.rule?, hlist]
  rfl

theorem exec_replaceRules_eq_fill (hs : m.sheet? s = some sheet)
    (hlive : ((m.withoutRules s sheet).sheet? s).isSome) (text : String) :
    (ModelM.replaceRules s text).exec m =
      (.ok (), (m.withoutRules s sheet).fill s (SheetSource.ofString text).rules) := by
  rw [ModelM.exec_replaceRules_of_some hs rfl, if_pos ?_]
  · rfl
  · rwa [sheet?, sheets_adoptAll]

theorem withoutRules_of_bare (hs : m.sheet? s = some sheet) (howned : sheet.owned = []) :
    m.withoutRules s sheet = m := by
  have hsame : m.sheets.modify s (fun sheet => { sheet with rules := [], deleted := [] }) =
      m.sheets := by
    refine Slots.modify_eq_self fun v hv => ?_
    obtain rfl := Option.some.inj (hs.symm.trans hv)
    cases sheet
    simp_all [StyleSheet.owned]
  rw [withoutRules, howned, free, modifySheet, hsame]

/-- In a forest, what is shown is told by the sources. -/
theorem Forest.exists_exec_insertRule (h : m.Forest []) (hs : m.sheet? s = some sheet)
    (hempty : sheet.rules = []) (hsource : RuleSource.ofString text = .ok source)
    (hk : m.compatibility.keeps source) :
    ∃ m', (ModelM.insertRule (.sheet s) text 0).exec m = (.ok 0, m') ∧ m'.Shows s [source] ∧
      m'.sheetText s = .ok (m.textOf [source]) := by
  have hrun := exec_insertRule_of_bare hs hempty hsource hk
  have hforest : (m.fill s [source]).Forest [] := by
    have hsettles := (h.settles_insertRule (.sheet s) text 0).forest
    rwa [hrun] at hsettles
  have hshows : (m.fill s [source]).Shows s [source] := shows_fill h.sound hs
  refine ⟨_, hrun, hshows, ?_⟩
  rw [hshows.sheetText_eq hforest, textOf, compatibility_fill h.sound]
  rfl

theorem Forest.exists_exec_replaceRules (h : m.Forest []) (hs : m.sheet? s = some sheet)
    (text : String) :
    ∃ m', (ModelM.replaceRules s text).exec m = (.ok (), m') ∧
      m'.Shows s (SheetSource.ofString text).rules ∧
      m'.sheetText s = .ok (m.textOf (SheetSource.ofString text).rules) := by
  have hs' := h.sheet?_withoutRules hs
  have hsound : (m.withoutRules s sheet).Sound [] := (h.withoutRules hs).sound
  have hcompatibility : (m.withoutRules s sheet).compatibility = m.compatibility :=
    (frees_free (m.modifySheet s fun sheet => { sheet with rules := [], deleted := [] })
      sheet.owned).compatibility
  have hrun := exec_replaceRules_eq_fill hs (by rw [hs']; rfl) text
  have hforest : ((m.withoutRules s sheet).fill s (SheetSource.ofString text).rules).Forest [] := by
    have hsettles := (h.settles_replaceRules s text).forest
    rwa [hrun] at hsettles
  have hshows : ((m.withoutRules s sheet).fill s (SheetSource.ofString text).rules).Shows s _ :=
    shows_fill hsound hs'
  refine ⟨_, hrun, hshows, ?_⟩
  rw [hshows.sheetText_eq hforest, textOf, compatibility_fill hsound, hcompatibility]
  rfl

end ObjectModel

/-- A text of one rule is a sheet of that rule. Where the rule is kept, a sheet that owns nothing is
filled alike by inserting the rule and by replacing its rules by those of the text, and in models
that come about by edits every sheet without rules shows the same with the same text. -/
theorem RuleSource.ofString_fills {text : String} {source : RuleSource}
    (h : RuleSource.ofString text = .ok source) :
    (SheetSource.ofString text).rules = [source] ∧
      (∀ (m : ObjectModel) (s : SheetId) (sheet : StyleSheet), m.compatibility.keeps source →
        m.sheet? s = some sheet → sheet.owned = [] →
          ∃ m', (ModelM.insertRule (.sheet s) text 0).exec m = (.ok 0, m') ∧
            (ModelM.replaceRules s text).exec m = (.ok (), m')) ∧
      ∀ (compatibility compatibility' : Compatibility) (m m' : ObjectModel) (s s' : SheetId)
        (sheet sheet' : StyleSheet), ObjectModel.Built compatibility m →
          ObjectModel.Built compatibility' m' → m'.compatibility = m.compatibility →
          m.compatibility.keeps source → m.sheet? s = some sheet → sheet.rules = [] →
          m'.sheet? s' = some sheet' →
            ∃ m₁ m₂ t, (ModelM.insertRule (.sheet s) text 0).exec m = (.ok 0, m₁) ∧
              (ModelM.replaceRules s' text).exec m' = (.ok (), m₂) ∧
              m₁.Shows s [source] ∧ m₂.Shows s' [source] ∧
              m₁.sheetText s = .ok t ∧ m₂.sheetText s' = .ok t := by
  have hrules := SheetSource.rules_ofString_of_rule h
  refine ⟨hrules, fun m s sheet hk hs howned => ?_, ?_⟩
  · have hempty : sheet.rules = [] := by
      have := (List.append_eq_nil_iff.1 (List.map_eq_nil_iff.1 howned)).1
      exact this
    have hsame := ObjectModel.withoutRules_of_bare hs howned
    have hrun := ObjectModel.exec_replaceRules_eq_fill hs (by rw [hsame, hs]; rfl) text
    rw [hsame, hrules] at hrun
    exact ⟨_, ObjectModel.exec_insertRule_of_bare hs hempty h hk, hrun⟩
  · intro _ _ m m' s s' sheet sheet' hm hm' hsame hk hs hempty hs'
    obtain ⟨m₁, hrun, hshows, htext⟩ := hm.forest.exists_exec_insertRule hs hempty h hk
    obtain ⟨m₂, hrun', hshows', htext'⟩ := hm'.forest.exists_exec_replaceRules hs' text
    rw [hrules] at hshows' htext'
    rw [ObjectModel.textOf, hsame] at htext'
    exact ⟨m₁, m₂, _, hrun, hrun', hshows, hshows', htext, htext'⟩

namespace ObjectModel

/-- A sheet without rules. -/
def bare : ObjectModel := (Edit.createSheet none "" .author).apply (empty .full)

/-- A sheet without rules that keeps a deleted one. -/
def cleared : ObjectModel :=
  (Edit.deleteRule (.sheet ⟨0, 0⟩) 0).apply
    ((Edit.insertRule (.sheet ⟨0, 0⟩) "p \x7b\x7d" 0).apply bare)

end ObjectModel

/-- A media rule between blanks. -/
def RuleSource.framed : String := "\n@media print \x7bp \x7bcolor: red\x7d\x7d "

theorem RuleSource.ofString_fills_media : ∃ source m₁ m₂ t,
    (SheetSource.ofString framed).rules = [source] ∧
      (ModelM.insertRule (.sheet ⟨0, 0⟩) framed 0).exec ObjectModel.bare = (.ok 0, m₁) ∧
      (ModelM.replaceRules ⟨0, 0⟩ framed).exec ObjectModel.bare = (.ok (), m₁) ∧
      (ModelM.replaceRules ⟨0, 0⟩ framed).exec ObjectModel.cleared = (.ok (), m₂) ∧
      m₁.Shows ⟨0, 0⟩ [source] ∧ m₂.Shows ⟨0, 0⟩ [source] ∧
      m₁.sheetText ⟨0, 0⟩ = .ok t ∧ m₂.sheetText ⟨0, 0⟩ = .ok t := by
  have hread : (RuleSource.ofString framed).toOption.isSome = true := by decide +kernel
  obtain ⟨source, hsource⟩ := Option.isSome_iff_exists.1 hread
  have hsource : RuleSource.ofString framed = .ok source := by
    revert hsource
    generalize RuleSource.ofString framed = result
    cases result with
    | error e => exact nofun
    | ok x => exact fun heq => congrArg _ (Option.some.inj heq)
  have hk : Compatibility.full.keeps source := by cases source <;> rfl
  have hs : ObjectModel.bare.sheet? ⟨0, 0⟩ = some (.new none (.ofString "") .author) := by
    decide +kernel
  have hlive : (ObjectModel.cleared.sheet? ⟨0, 0⟩).isSome = true := by decide +kernel
  obtain ⟨sheet, hs'⟩ := Option.isSome_iff_exists.1 hlive
  have hbuilt : ObjectModel.Built .full ObjectModel.bare := .edit .empty _
  have hbuilt' : ObjectModel.Built .full ObjectModel.cleared := .edit (.edit hbuilt _) _
  have hsame : ObjectModel.cleared.compatibility = ObjectModel.bare.compatibility := by
    decide +kernel
  obtain ⟨hrules, hsingle, hfills⟩ := RuleSource.ofString_fills hsource
  obtain ⟨m', hinsert, hreplace⟩ := hsingle _ _ _ hk hs rfl
  obtain ⟨m₁, m₂, t, hinsert', hreplace', hshows, hshows', htext, htext'⟩ :=
    hfills _ _ _ _ _ _ _ _ hbuilt hbuilt' hsame hk hs rfl hs'
  obtain rfl := (Prod.mk.inj (hinsert.symm.trans hinsert')).2
  exact ⟨source, m', m₂, t, hrules, hinsert, hreplace, hreplace', hshows, hshows', htext, htext'⟩

end WebStyle
