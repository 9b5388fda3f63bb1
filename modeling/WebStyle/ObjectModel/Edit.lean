import WebStyle.ObjectModel.Adoption
import WebStyle.ObjectModel.Error
import WebStyle.ObjectModel.Ownership
/-!
How the sheets and rules of an object model are changed. A change that others may depend on is noted
with the sheet that it is about; a rule that was deleted belongs to none.
-/
set_option autoImplicit false

namespace WebStyle

namespace ObjectModel

/-- Changes the list of rules of a container. -/
def modifyRules (m : ObjectModel) (f : List RuleId → List RuleId) : RuleContainer → ObjectModel
  | .sheet s => m.modifySheet s fun sheet => { sheet with rules := f sheet.rules }
  | .media r => m.modifyRule r fun rule => { rule with content := rule.content.withChildren f }

/-- The rules inside a rule, down to the given depth. -/
def innerRules (m : ObjectModel) : Nat → RuleId → List RuleId
  | 0, _ => []
  | fuel + 1, r =>
    (((m.rule? r).map (·.content.children)).getD []).flatMap fun c => c :: m.innerRules fuel c

/-- Takes a rule, with the rules inside it, out of its sheet and its parent. -/
def orphan (m : ObjectModel) (r : RuleId) : ObjectModel :=
  (m.innerRules m.rules.slots.size r).foldl
    (fun m c => m.modifyRule c fun rule => { rule with parentSheet := none })
    (m.modifyRule r fun rule => { rule with parentRule := none, parentSheet := none })

def isImport (m : ObjectModel) (r : RuleId) : Bool :=
  (m.rule? r).any fun rule => rule.content.type == .importing

/-- What would be wrong with a rule between others in a container: imports come first, and only in
sheets. -/
def misplaced? (m : ObjectModel) (isImport : Bool) (before after : List RuleId) :
    RuleContainer → Option HierarchyCause
  | .media _ => if isImport then some .importInMedia else none
  | .sheet _ =>
    if isImport then if before.all m.isImport then none else some .importAfterOthers
    else if after.any m.isImport then some .othersBeforeImport
    else none

/-- Takes the changes that were noted. -/
def takeChanges (m : ObjectModel) : List Change × ObjectModel := (m.changes, { m with changes := [] })

def createSheet (m : ObjectModel) (href : Option String) (media : String) (origin : Origin) :
    ObjectModel × SheetId :=
  let (sheets, s) := m.sheets.insert (.new href (.ofString media) origin)
  ({ m with sheets }, s)

end ObjectModel

namespace ModelM

/-- Asks the model, which may refuse. -/
def ask {α : Type} (f : ObjectModel → Except ModelError α) : ModelM α := do
  match f (← get) with
  | .ok a => pure a
  | .error e => throw e

/-- Changes the model, which gives a result as well. -/
def update {α : Type} (f : ObjectModel → ObjectModel × α) : ModelM α := do
  let (m, a) := f (← get)
  set m
  pure a

def noteChanged (s : Option SheetId) : ModelM Unit := modify fun m => m.noteChanged s

/-- Reads the one rule that a text holds; one that is not kept is as good as none. -/
def readRule (text : String) : ModelM RuleSource := do
  match RuleSource.ofString text with
  | .error e => throw (.invalid e)
  | .ok source =>
    if (← get).compatibility.keeps source then pure source
    else throw (.invalid (.emptyRule (Text.trim text)))

/-- Takes the changes that were noted. -/
def takeChanges : ModelM (List Change) :=
  update fun m => let (changes, m) := m.takeChanges; (m, changes)

/-! ### Sheets -/

def createSheet (href : Option String) (media : String) (origin : Origin) : ModelM SheetId :=
  update fun m => m.createSheet href media origin

def setOwner (s : SheetId) (node : Option NodeId) (title : Option String) : ModelM Unit := do
  let _ ← ask (·.sheet s)
  modify fun m => m.modifySheet s fun sheet => { sheet with ownerNode := node, title }

def setDisabled (s : SheetId) (disabled : Bool) : ModelM Unit := do
  let sheet ← ask (·.sheet s)
  if sheet.disabled != disabled then
    modify fun m => m.modifySheet s fun sheet => { sheet with disabled }
    noteChanged (some s)

/-- Replaces the rules of a sheet by those of a text, and frees the old ones. -/
def replaceRules (s : SheetId) (text : String) : ModelM Unit := do
  let sheet ← ask (·.sheet s)
  modify fun m =>
    (m.modifySheet s fun sheet => { sheet with rules := [], deleted := [] }).free sheet.owned
  let rules ← update fun m => m.adoptAll (some s) none (SheetSource.ofString text).rules
  let _ ← ask (·.sheet s)
  modify fun m => m.modifySheet s fun sheet => { sheet with rules }
  noteChanged (some s)

/-- Frees a sheet with all that it owns. -/
def removeSheet (s : SheetId) : ModelM Unit := do
  let _ ← ask (·.sheet s)
  modify fun m => (m.free [.sheet s]).note (.removed s)

/-! ### Rules -/

/-- Inserts the rule of a text into a container, before the rule of the given index. -/
def insertRule (c : RuleContainer) (text : String) (index : Nat) : ModelM Nat := do
  let list ← ask (·.rulesOf c)
  if index > list.length then throw (.indexOutside index list.length)
  let source ← readRule text
  let isImport := source.type == .importing
  if let some cause := (← get).misplaced? isImport (list.take index) (list.drop index) c then
    throw (.hierarchy cause)
  let sheet ← ask (·.ownerSheet c)
  let added ← update fun m => m.adoptAll sheet c.rule? [source]
  modify fun m => m.modifyRules (fun l => l.take index ++ added ++ l.drop index) c
  noteChanged sheet
  pure index

/-- Deletes a rule from a container. The sheet keeps it readable; one inside a deleted rule is freed
at once. -/
def deleteRule (c : RuleContainer) (index : Nat) : ModelM Unit := do
  let sheet ← ask (·.ownerSheet c)
  let list ← ask (·.rulesOf c)
  match list[index]? with
  | none => throw (.indexOutside index list.length)
  | some r =>
    modify (·.modifyRules (·.eraseIdx index) c)
    match sheet with
    | none => modify (·.free [.rule r])
    | some s =>
      modify (·.orphan r)
      let _ ← ask (·.sheet s)
      modify fun m => m.modifySheet s fun sheet => { sheet with deleted := sheet.deleted ++ [r] }
      noteChanged sheet

/-- Replaces a rule by that of a text, which has to be of the same type. -/
def setRuleText (r : RuleId) (text : String) : ModelM Unit := do
  let current ← ask (·.ruleType r)
  let source ← readRule text
  if source.type != current then throw (.otherType current source.type)
  let rule ← ask (·.rule r)
  modify fun m => (m.setContent r .placeholder).free rule.content.owned
  let content ← update fun m => m.build rule.parentSheet r source
  let _ ← ask (·.rule r)
  modify fun m => (m.setContent r content).noteImport current rule.parentSheet r
  noteChanged rule.parentSheet

/-- Replaces the selectors of a style rule, and tells whether it did: a text that holds none is
passed over. -/
def setSelectorText (r : RuleId) (text : String) : ModelM Bool := do
  let rule ← ask (·.rule r)
  match rule.content with
  | .style _ block =>
    match SelectorList.ofString? text with
    | none => pure false
    | some selectors =>
      modify fun m => m.setContent r (.style selectors block)
      noteChanged rule.parentSheet
      pure true
  | c => throw (.wrongRule .style c.type)

/-- Changes the declarations of a rule. -/
def updateBlock {α : Type} (r : RuleId) (f : DeclarationBlock → DeclarationBlock × α) :
    ModelM α := do
  let block ← ask (·.block r)
  let rule ← ask (·.rule r)
  let (block, a) := f block
  modify fun m => m.setContent r (rule.content.withBlock block)
  noteChanged rule.parentSheet
  pure a

/-- Changes the media of a sheet, of a media rule or of an import. -/
def updateMedia {α : Type} (o : MediaOwner) (f : MediaList → MediaList × α) : ModelM α := do
  let (l, a) := f (← ask (·.media o))
  match o with
  | .sheet s =>
    modify fun m => m.modifySheet s fun sheet => { sheet with media := l }
    noteChanged (some s)
  | .rule r =>
    let rule ← ask (·.rule r)
    modify fun m => m.setContent r (rule.content.withMedia l)
    noteChanged rule.parentSheet
  pure a

/-- Gives an import its sheet, and frees the one that it had. -/
def attachImport (r : RuleId) (s : SheetId) : ModelM Unit := do
  let _ ← ask (·.sheet s)
  let rule ← ask (·.rule r)
  match rule.content with
  | .importing href media old =>
    modify fun m =>
      (m.setContent r (.importing href media (some s))).free
        ((old.filter (· != s)).toList.map .sheet)
    let _ ← ask (·.sheet s)
    modify fun m => m.modifySheet s fun sheet =>
      { sheet with parentSheet := rule.parentSheet, ownerRule := some r }
    noteChanged rule.parentSheet
  | c => throw (.wrongRule .importing c.type)

end ModelM
end WebStyle
