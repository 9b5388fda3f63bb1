import WebStyle.ObjectModel.Basic
/-!
How rules as they were read become rules of the object model.
-/
set_option autoImplicit false

namespace WebStyle

/-- Whether a rule is kept at all. -/
def Compatibility.keeps (c : Compatibility) : RuleSource → Bool
  | .fontFace _ => c.keepsFontFaces
  | .page _ _ => c.keepsPages
  | _ => true

namespace ObjectModel

/-- Reserves a rule at a place; its content follows. -/
def reserve (m : ObjectModel) (sheet : Option SheetId) (parent : Option RuleId) :
    ObjectModel × RuleId :=
  let (rules, r) := m.rules.insert ⟨.placeholder, parent, sheet⟩
  ({ m with rules }, r)

/-- Notes an import to be loaded, if the rule is one and belongs to a sheet. -/
def noteImport (m : ObjectModel) (type : RuleType) (sheet : Option SheetId) (r : RuleId) :
    ObjectModel :=
  match type, sheet with
  | .importing, some s => m.note (.imported s r)
  | _, _ => m

mutual

/-- Builds the content of the rule `r`, which belongs to the given sheet. -/
def build (m : ObjectModel) (sheet : Option SheetId) (r : RuleId) :
    RuleSource → ObjectModel × RuleContent
  | .style selectors declarations => (m, .style selectors (.ofDeclarations declarations))
  | .media l rules =>
    let (m, ids) := m.adoptAll sheet (some r) rules
    (m, .media l ids)
  | .importing href l => (m, .importing href l none)
  | .fontFace declarations => (m, .fontFace (.ofDeclarations declarations))
  | .page selector declarations => (m, .page selector (.ofDeclarations declarations))

/-- Adds the rules that are kept, in order. -/
def adoptAll (m : ObjectModel) (sheet : Option SheetId) (parent : Option RuleId) :
    List RuleSource → ObjectModel × List RuleId
  | [] => (m, [])
  | source :: rest =>
    if m.compatibility.keeps source then
      let (m, r) := m.reserve sheet parent
      let (m, content) := m.build sheet r source
      let m := (m.setContent r content).noteImport source.type sheet r
      let (m, ids) := m.adoptAll sheet parent rest
      (m, r :: ids)
    else m.adoptAll sheet parent rest

end

end ObjectModel
end WebStyle
