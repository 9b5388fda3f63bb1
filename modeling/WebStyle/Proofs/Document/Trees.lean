import WebStyle.Document.Styling
import WebStyle.Proofs.Style.Applied
/-!
Style sheets without handles: what a sheet is, with the rules in it and the sheets that they import.
Which rules apply can be read off it, up to their handles.
-/
set_option autoImplicit false

namespace WebStyle

/-- What a sheet is, apart from its rules. -/
structure SheetInfo where
  href : Option String
  media : MediaList
  ownerNode : Option NodeId
  disabled : Bool
  origin : Origin
  title : Option String
  /-- The encoding that the sheet was decoded from, if it was loaded. -/
  encoding : Option Encoding

/-- A rule with all that is in it. An import has the rules of its sheet, if there is one. -/
inductive RuleTree where
  | style (selectors : SelectorList) (block : DeclarationBlock)
  | media (media : MediaList) (rules : List RuleTree)
  | importing (href : String) (media : MediaList) (sheet : Option SheetInfo) (rules : List RuleTree)
  | fontFace (block : DeclarationBlock)
  | page (selector : String) (block : DeclarationBlock)

structure SheetTree where
  info : SheetInfo
  rules : List RuleTree

def RuleTree.ofImport (href : String) (media : MediaList) : Option SheetTree → RuleTree
  | none => .importing href media none []
  | some t => .importing href media (some t.info) t.rules

/-- What stands for a stale handle. -/
def RuleTree.missing : RuleTree := .media .empty []

namespace Document

def sheetInfo (d : Document) (s : SheetId) (sheet : StyleSheet) : SheetInfo :=
  ⟨sheet.href, sheet.media, sheet.ownerNode, sheet.disabled, sheet.origin, sheet.title,
    d.encodings.find? s⟩

mutual

/-- Reads a sheet; `arriving` are the sheets of imports that have none. -/
def readSheet (d : Document) (arriving : RuleId → Option SheetTree) :
    Nat → SheetId → Option SheetTree
  | 0, _ => none
  | fuel + 1, s => (d.model.sheet? s).map fun sheet =>
    ⟨d.sheetInfo s sheet, sheet.rules.map (d.readRule arriving fuel)⟩

def readRule (d : Document) (arriving : RuleId → Option SheetTree) : Nat → RuleId → RuleTree
  | 0, _ => .missing
  | fuel + 1, r =>
    match d.model.rule? r with
    | none => .missing
    | some rule =>
      match rule.content with
      | .style selectors block => .style selectors block
      | .media l rules => .media l (rules.map (d.readRule arriving fuel))
      | .importing href l none => .ofImport href l (arriving r)
      | .importing href l (some s) => .ofImport href l (d.readSheet arriving fuel s)
      | .fontFace block => .fontFace block
      | .page selector block => .page selector block

end

/-- As many steps as a walk down through the sheets may take. -/
def treeFuel (d : Document) : Nat := d.model.sheets.slots.size + d.model.rules.slots.size + 1

/-- A sheet as it is now, with all that it imports. -/
def sheetTree (d : Document) (s : SheetId) : Option SheetTree :=
  d.readSheet (fun _ => none) d.treeFuel s

end Document

/-! ### Which rules apply -/

mutual

def RuleTree.applied (env : MediaEnvironment) (origin : Origin) :
    RuleTree → List (Origin × SelectorList × DeclarationBlock)
  | .style selectors block => [(origin, selectors, block)]
  | .media l rules => if env.holds l then appliedAll env origin rules else []
  | .importing _ l (some info) rules =>
    if env.holds l then
      if info.disabled || !env.holds info.media then [] else appliedAll env info.origin rules
    else []
  | _ => []

def RuleTree.appliedAll (env : MediaEnvironment) (origin : Origin) :
    List RuleTree → List (Origin × SelectorList × DeclarationBlock)
  | [] => []
  | t :: ts => t.applied env origin ++ appliedAll env origin ts

end

def SheetTree.applied (env : MediaEnvironment) (t : SheetTree) :
    List (Origin × SelectorList × DeclarationBlock) :=
  if t.info.disabled || !env.holds t.info.media then []
  else RuleTree.appliedAll env t.info.origin t.rules

theorem RuleTree.appliedAll_map {α : Type} (env : MediaEnvironment) (origin : Origin)
    (f : α → RuleTree) (l : List α) :
    appliedAll env origin (l.map f) = l.flatMap fun a => (f a).applied env origin := by
  induction l with
  | nil => rfl
  | cons a l ih => rw [List.map_cons, appliedAll, ih, List.flatMap_cons]

theorem RuleTree.applied_ofImport (env : MediaEnvironment) (origin : Origin) (href : String)
    (l : MediaList) (t : Option SheetTree) : (ofImport href l t).applied env origin =
      if env.holds l then (t.map (·.applied env)).getD [] else [] := by
  cases t with
  | none => simp [ofImport, applied]
  | some t => rw [ofImport, applied, Option.map_some, Option.getD_some, SheetTree.applied]

namespace Document

variable {d : Document} {held : List SheetId} {env : MediaEnvironment}

/-- Whether a walk that came through the given sheets may go on to a part: it is among what they
own. -/
def IsBelow (m : ObjectModel) (path : List SheetId) (p : ModelPart) : Prop :=
  ∀ x ∈ path, m.Reaches (m.ownedBy (.sheet x)) p

theorem IsBelow.shown {m : ObjectModel} {path : List SheetId} {p q : ModelPart}
    (h : IsBelow m path p) (hq : q ∈ m.shownBy p) : IsBelow m path q := by
  intro x hx
  obtain ⟨a, ha, hap⟩ := h x hx
  exact ⟨a, ha, hap.tail (m.shownBy_subset_ownedBy p hq)⟩

theorem IsBelow.enter {m : ObjectModel} {path : List SheetId} {s : SheetId} {q : ModelPart}
    (h : IsBelow m path (.sheet s)) (hq : q ∈ m.shownBy (.sheet s)) :
    IsBelow m (s :: path) q := by
  intro x hx
  rcases List.mem_cons.1 hx with rfl | hx
  · exact ⟨q, m.shownBy_subset_ownedBy _ hq, .refl⟩
  · exact h.shown hq x hx

/-- The rules that apply are those that can be read off a sheet without handles. -/
theorem shape_rules_eq (h : d.model.Sound held) (fuel : Nat) :
    (∀ s path, d.model.Visits held (.sheet s) → IsBelow d.model path (.sheet s) →
      (d.model.sheetRules env fuel path s).map AppliedRule.shape =
        ((d.readSheet (fun _ => none) fuel s).map (·.applied env)).getD []) ∧
    ∀ r path origin, d.model.Visits held (.rule r) → IsBelow d.model path (.rule r) →
      (d.model.innerStyleRules env fuel path origin r).map AppliedRule.shape =
        (d.readRule (fun _ => none) fuel r).applied env origin := by
  induction fuel with
  | zero =>
    refine ⟨fun s path _ _ => by simp [ObjectModel.sheetRules, readSheet],
      fun r path origin _ _ => ?_⟩
    simp [ObjectModel.innerStyleRules, readRule, RuleTree.missing, RuleTree.applied,
      RuleTree.appliedAll]
  | succ fuel ih =>
    constructor
    · intro s path hv hb
      rw [ObjectModel.sheetRules, readSheet]
      cases hs : d.model.sheet? s with
      | none => rfl
      | some sheet =>
        have hpath : path.contains s = false := by
          rw [Bool.eq_false_iff, ne_eq, List.contains_iff_mem]
          exact fun hmem => h.not_visits_of_reaches_self (hb s hmem) hv
        simp only [hpath, Bool.or_false, Option.map_some, Option.getD_some, SheetTree.applied,
          sheetInfo, RuleTree.appliedAll_map]
        split
        · rfl
        · rw [List.map_flatMap]
          refine List.flatMap_congr fun r hr => ?_
          have hshown : .rule r ∈ d.model.shownBy (.sheet s) := by
            simpa [ObjectModel.shownBy, hs] using hr
          exact ih.2 r _ _ (hv.shown hshown) (hb.enter hshown)
    · intro r path origin hv hb
      rw [ObjectModel.innerStyleRules, readRule]
      cases hr : d.model.rule? r with
      | none => simp [RuleTree.missing, RuleTree.applied, RuleTree.appliedAll]
      | some rule =>
        have hshown : d.model.shownBy (.rule r) = rule.content.owned := by
          simp [ObjectModel.shownBy, hr]
        simp only
        cases hc : rule.content with
        | style selectors block => simp [RuleTree.applied, AppliedRule.shape]
        | media l rules =>
          simp only [RuleTree.applied, RuleTree.appliedAll_map]
          split
          · rw [List.map_flatMap]
            refine List.flatMap_congr fun x hx => ?_
            have hx' : .rule x ∈ d.model.shownBy (.rule r) := by
              rw [hshown, hc]
              simpa [RuleContent.owned] using hx
            exact ih.2 x _ _ (hv.shown hx') (hb.shown hx')
          · rfl
        | importing href l s =>
          cases s with
          | none => simp [RuleTree.applied_ofImport]
          | some s =>
            simp only [RuleTree.applied_ofImport]
            split
            · have hs' : .sheet s ∈ d.model.shownBy (.rule r) := by
                rw [hshown, hc]
                simp [RuleContent.owned]
              exact ih.1 s _ (hv.shown hs') (hb.shown hs')
            · rfl
        | fontFace block => simp [RuleTree.applied]
        | page selector block => simp [RuleTree.applied]

theorem shape_appliedRules (h : d.model.Sound held) :
    (d.model.appliedRules env held).map AppliedRule.shape =
      held.flatMap fun s => ((d.sheetTree s).map (·.applied env)).getD [] := by
  rw [ObjectModel.appliedRules, List.map_flatMap]
  refine List.flatMap_congr fun s hs => ?_
  exact (shape_rules_eq h _).1 s [] (ObjectModel.visits_held hs) fun x hx => by simp at hx

end Document
end WebStyle
