import WebStyle.ObjectModel.Basic
/-!
Why a request to the object model is refused.
-/
set_option autoImplicit false

namespace WebStyle

/-- Which order of rules a request would break. -/
inductive HierarchyCause where
  | importInMedia
  | importAfterOthers
  | othersBeforeImport
  deriving DecidableEq, Repr

def HierarchyCause.message : HierarchyCause → String
  | .importInMedia => "@import is not allowed inside @media"
  | .importAfterOthers => "@import must precede all other rules"
  | .othersBeforeImport => "rules cannot be inserted before @import"

/-- The rules that a request is about. -/
inductive ExpectedRule where
  | style
  | media
  | importing
  | withMedia
  deriving DecidableEq, Repr

def ExpectedRule.name : ExpectedRule → String
  | .style => "style"
  | .media => "media"
  | .importing => "import"
  | .withMedia => "media or import"

inductive ModelError where
  | invalid (e : SyntaxError)
  | indexOutside (index length : Nat)
  | hierarchy (cause : HierarchyCause)
  | wrongRule (expected : ExpectedRule) (found : RuleType)
  | otherType (current replacement : RuleType)
  /-- A handle refers to no sheet or rule any more. -/
  | stale
  deriving DecidableEq, Repr

def ModelError.message : ModelError → String
  | .invalid e => e.message
  | .indexOutside index length => s!"index {index} is outside a list of {length} rules"
  | .hierarchy cause => "hierarchy request: " ++ cause.message
  | .wrongRule expected found =>
    "invalid modification: expected a " ++ expected.name ++ " rule, found " ++ found.name
  | .otherType current replacement =>
    "invalid modification: cannot turn a " ++ current.name ++ " rule into a " ++ replacement.name
      ++ " rule"
  | .stale => "handle no longer refers to a live sheet or rule"

/-- A request that may be refused. What it changed before that stays changed. -/
abbrev ModelM := ExceptT ModelError (StateM ObjectModel)

namespace ObjectModel

/-- What a handle refers to, or the refusal of a stale one. -/
def live {α : Type} : Option α → Except ModelError α
  | some a => .ok a
  | none => .error .stale

def sheet (m : ObjectModel) (s : SheetId) : Except ModelError StyleSheet := live (m.sheet? s)

def rule (m : ObjectModel) (r : RuleId) : Except ModelError Rule := live (m.rule? r)

def ruleType (m : ObjectModel) (r : RuleId) : Except ModelError RuleType := do
  pure (← m.rule r).content.type

/-- The rules of a container, in order. -/
def rulesOf (m : ObjectModel) : RuleContainer → Except ModelError (List RuleId)
  | .sheet s => do pure (← m.sheet s).rules
  | .media r => do
    match (← m.rule r).content with
    | .media _ rules => pure rules
    | c => throw (.wrongRule .media c.type)

/-- The sheet that the rules of a container belong to; there is none inside a deleted rule. -/
def ownerSheet (m : ObjectModel) : RuleContainer → Except ModelError (Option SheetId)
  | .sheet s => do
    let _ ← m.sheet s
    pure (some s)
  | .media r => do pure (← m.rule r).parentSheet

def selectorText (m : ObjectModel) (r : RuleId) : Except ModelError String := do
  match (← m.rule r).content with
  | .style selectors _ => pure (SelectorList.text selectors)
  | .page selector _ => pure selector
  | c => throw (.wrongRule .style c.type)

/-- The declarations of a rule. -/
def block (m : ObjectModel) (r : RuleId) : Except ModelError DeclarationBlock := do
  let c := (← m.rule r).content
  match c.block? with
  | some block => pure block
  | none => throw (.wrongRule .style c.type)

/-- The media of a sheet, of a media rule or of an import. -/
def media (m : ObjectModel) : MediaOwner → Except ModelError MediaList
  | .sheet s => do pure (← m.sheet s).media
  | .rule r => do
    let c := (← m.rule r).content
    match c.media? with
    | some media => pure media
    | none => throw (.wrongRule .withMedia c.type)

/-- The condition of a media rule. -/
def conditionText (m : ObjectModel) (r : RuleId) : Except ModelError String := do
  match (← m.rule r).content with
  | .media media _ => pure media.text
  | c => throw (.wrongRule .media c.type)

def importHref (m : ObjectModel) (r : RuleId) : Except ModelError String := do
  match (← m.rule r).content with
  | .importing href _ _ => pure href
  | c => throw (.wrongRule .importing c.type)

/-- The sheet of an import, once it is loaded. -/
def importSheet (m : ObjectModel) (r : RuleId) : Except ModelError (Option SheetId) := do
  match (← m.rule r).content with
  | .importing _ _ sheet => pure sheet
  | c => throw (.wrongRule .importing c.type)

end ObjectModel
end WebStyle
