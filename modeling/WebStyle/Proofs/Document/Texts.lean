import WebStyle.ObjectModel.Text
import WebStyle.Proofs.Document.Growth
/-!
The texts of sheets and rules can be read off sheets without handles.
-/
set_option autoImplicit false

namespace WebStyle

mutual

def RuleTree.text : RuleTree → String
  | .style selectors block => (RuleContent.style selectors block).text []
  | .media l rules => (RuleContent.media l []).text (texts rules)
  | .importing href l _ _ => (RuleContent.importing href l none).text []
  | .fontFace block => (RuleContent.fontFace block).text []
  | .page selector block => (RuleContent.page selector block).text []

def RuleTree.texts : List RuleTree → List String
  | [] => []
  | t :: ts => t.text :: texts ts

end

def SheetTree.text (t : SheetTree) : String := String.intercalate "\n" (RuleTree.texts t.rules)

theorem RuleTree.texts_map {α : Type} (f : α → RuleTree) (l : List α) :
    texts (l.map f) = l.map fun a => (f a).text := by
  induction l with
  | nil => rfl
  | cons a l ih => rw [List.map_cons, texts, ih, List.map_cons]

theorem RuleTree.text_ofImport (href : String) (l : MediaList) (t : Option SheetTree) :
    (ofImport href l t).text = (RuleContent.importing href l none).text [] := by
  cases t with
  | none => rw [ofImport, text]
  | some t => rw [ofImport, text]

theorem mapM_eq_ok_map {ε α β : Type} {f : α → Except ε β} {g : α → β} {l : List α}
    (h : ∀ a ∈ l, f a = .ok (g a)) : l.mapM f = .ok (l.map g) := by
  induction l with
  | nil => rfl
  | cons a l ih =>
    rw [List.mapM_cons, h a List.mem_cons_self, ih fun b hb => h b (List.mem_cons_of_mem _ hb)]
    rfl

namespace ObjectModel

variable {m : ObjectModel} {held : List SheetId} {s : SheetId} {r : RuleId}

/-- The rules inside a rule. -/
def childrenOf (m : ObjectModel) (r : RuleId) : List RuleId :=
  ((m.rule? r).map (·.content.children)).getD []

theorem mem_childrenOf {x : RuleId} : x ∈ m.childrenOf r ↔ .rule x ∈ m.ownedBy (.rule r) := by
  rw [childrenOf, ownedBy]
  cases m.rule? r with
  | none => simp
  | some rule => simpa using RuleContent.mem_owned_rule.symm

/-- The walk down from a rule of a sheet ends that passes rules only. -/
theorem Sound.depthAtMost_childrenOf (h : m.Sound held) {sheet : StyleSheet}
    (hs : m.sheet? s = some sheet) (hr : r ∈ sheet.rules) :
    DepthAtMost m.childrenOf m.rules.slots.size r := by
  have howner : .rule r ∈ m.ownedBy (.sheet s) :=
    (mem_ownedBy_sheet hs).2 (by simp [StyleSheet.owned, hr])
  refine depthAtMost_of_unique (fun p p' q hq hq' => ?_) (fun p hp => ?_) fun l hn hl => ?_
  · exact ModelPart.rule.inj (h.unique _ _ _ (mem_childrenOf.1 hq) (mem_childrenOf.1 hq'))
  · exact ModelPart.noConfusion (h.unique _ _ _ (mem_childrenOf.1 hp) howner)
  · refine Slots.length_le_size hn fun x hx => ?_
    obtain ⟨y, hy⟩ := List.exists_mem_of_ne_nil _ (hl x hx)
    exact isLive_of_mem_ownedBy (mem_childrenOf.1 hy)

end ObjectModel

namespace Document

variable {d : Document} {held : List SheetId} {arriving : RuleId → Option SheetTree}

theorem ruleTextFuel_eq (h : d.model.Sound held) (k : Nat) : ∀ r fuel fuel',
    d.model.Visits held (.rule r) → DepthAtMost d.model.childrenOf k r → k < fuel →
    d.model.EndsWithin fuel' (.rule r) →
    d.model.ruleTextFuel fuel r = .ok (d.readRule arriving fuel' r).text := by
  induction k using Nat.strongRecOn with
  | ind k ih =>
    rintro r (_ | fuel) (_ | fuel') hv hd hf he
    · omega
    · omega
    · exact absurd he ObjectModel.not_endsWithin_zero
    · obtain ⟨rule, -, hr, -⟩ := h.exists_sheet_of_visits_rule hv
      have hrule : d.model.rule r = .ok rule := by
        rw [ObjectModel.rule, hr]
        rfl
      have hinner : rule.content.children.mapM (d.model.ruleTextFuel fuel) =
          .ok (rule.content.children.map fun x => (d.readRule arriving fuel' x).text) := by
        refine mapM_eq_ok_map fun x hx => ?_
        have howned : .rule x ∈ d.model.ownedBy (.rule r) :=
          (ObjectModel.mem_ownedBy_rule hr).2 (RuleContent.mem_owned_rule.2 hx)
        obtain ⟨j, hj, hdx⟩ := hd.step (ObjectModel.mem_childrenOf.2 howned)
        exact ih j hj x fuel fuel' (hv.shown howned) hdx (by omega) (he.shown howned)
      rw [ObjectModel.ruleTextFuel, hrule, readRule, hr]
      simp only [bind, Except.bind, hinner]
      cases rule.content with
      | media l rules => simp only [RuleTree.text, RuleTree.texts_map]; rfl
      | importing href l x => cases x <;> simp only [RuleTree.text_ofImport] <;> rfl
      | style selectors block => simp only [RuleTree.text]; rfl
      | fontFace block => simp only [RuleTree.text]; rfl
      | page selector block => simp only [RuleTree.text]; rfl

/-- The text of a sheet is that of the sheet without handles. -/
theorem sheetText_eq (h : d.model.Sound held) {s : SheetId} (hs : s ∈ held) :
    d.model.sheetText s = ((d.sheetTree s).map SheetTree.text).elim (.error .stale) .ok := by
  rw [ObjectModel.sheetText, sheetTree, treeFuel, readSheet, ObjectModel.sheet]
  cases hsheet : d.model.sheet? s with
  | none => rfl
  | some sheet =>
    have hrules : sheet.rules.mapM d.model.ruleText = .ok (sheet.rules.map fun r =>
        (d.readRule (fun _ => none)
          (d.model.sheets.slots.size + d.model.rules.slots.size) r).text) := by
      refine mapM_eq_ok_map fun r hr => ?_
      have hshown : .rule r ∈ d.model.shownBy (.sheet s) := by
        simpa [ObjectModel.shownBy, hsheet] using hr
      exact ruleTextFuel_eq h _ r _ _ ((ObjectModel.visits_held hs).shown hshown)
        (h.depthAtMost_childrenOf hsheet hr) (Nat.lt_succ_self _) ((h.endsWithin hs).shown hshown)
    simp only [ObjectModel.live, bind, Except.bind, hrules, Option.map_some, SheetTree.text,
      RuleTree.texts_map]
    rfl

end Document
end WebStyle
