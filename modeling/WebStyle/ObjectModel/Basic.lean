import WebStyle.Block
import WebStyle.Dom.Node
import WebStyle.Sheet.Rule
/-!
The object model of style sheets: sheets and rules in slots, which refer to each other by handles. A
sheet owns its rules, a media rule the rules inside it, and an import the sheet that was loaded for
it. Handles that lead the other way may be stale.
-/
set_option autoImplicit false

namespace WebStyle

/-- Marks the handles of sheets. -/
inductive SheetKind

/-- Marks the handles of rules. -/
inductive RuleKind

abbrev SheetId := Handle SheetKind

abbrev RuleId := Handle RuleKind

/-- Where a sheet comes from. -/
inductive Origin where
  | userAgent
  | user
  | author
  deriving DecidableEq, Repr

structure StyleSheet where
  /-- The absolute address; a sheet that was not fetched has none. -/
  href : Option String
  media : MediaList
  ownerNode : Option NodeId
  parentSheet : Option SheetId
  ownerRule : Option RuleId
  disabled : Bool
  origin : Origin
  title : Option String
  rules : List RuleId
  /-- The rules that were deleted; they stay readable as long as the sheet keeps its rules. -/
  deleted : List RuleId
  deriving DecidableEq, Repr

/-- A sheet without rules that nothing refers to. -/
def StyleSheet.new (href : Option String) (media : MediaList) (origin : Origin) : StyleSheet :=
  ⟨href, media, none, none, none, false, origin, none, [], []⟩

inductive RuleContent where
  | style (selectors : SelectorList) (block : DeclarationBlock)
  | media (media : MediaList) (rules : List RuleId)
  /-- The address as written, and the sheet once it is loaded. -/
  | importing (href : String) (media : MediaList) (sheet : Option SheetId)
  | fontFace (block : DeclarationBlock)
  | page (selector : String) (block : DeclarationBlock)
  deriving DecidableEq, Repr

inductive RuleType where
  | style
  | importing
  | media
  | fontFace
  | page
  deriving DecidableEq, Repr

structure Rule where
  content : RuleContent
  parentRule : Option RuleId
  parentSheet : Option SheetId
  deriving DecidableEq, Repr

namespace RuleType

/-- The number that scripts know the type by. -/
def number : RuleType → Nat
  | .style => 1
  | .importing => 3
  | .media => 4
  | .fontFace => 5
  | .page => 6

def name : RuleType → String
  | .style => "Style"
  | .importing => "Import"
  | .media => "Media"
  | .fontFace => "FontFace"
  | .page => "Page"

end RuleType

namespace RuleContent

def type : RuleContent → RuleType
  | .style _ _ => .style
  | .media _ _ => .media
  | .importing _ _ _ => .importing
  | .fontFace _ => .fontFace
  | .page _ _ => .page

/-- A rule without content, which stands in while the content is put together. -/
def placeholder : RuleContent := .media .empty []

/-- The rules inside a media rule. -/
def children : RuleContent → List RuleId
  | .media _ rules => rules
  | _ => []

/-- Changes the list of the rules inside a media rule. -/
def withChildren (f : List RuleId → List RuleId) : RuleContent → RuleContent
  | .media l rules => .media l (f rules)
  | c => c

def block? : RuleContent → Option DeclarationBlock
  | .style _ block | .fontFace block | .page _ block => some block
  | _ => none

def media? : RuleContent → Option MediaList
  | .media l _ | .importing _ l _ => some l
  | _ => none

def withBlock (block : DeclarationBlock) : RuleContent → RuleContent
  | .style selectors _ => .style selectors block
  | .fontFace _ => .fontFace block
  | .page selector _ => .page selector block
  | c => c

def withMedia (l : MediaList) : RuleContent → RuleContent
  | .media _ rules => .media l rules
  | .importing href _ sheet => .importing href l sheet
  | c => c

end RuleContent

def RuleSource.type : RuleSource → RuleType
  | .style _ _ => .style
  | .media _ _ => .media
  | .importing _ _ => .importing
  | .fontFace _ => .fontFace
  | .page _ _ => .page

/-- What owns an ordered list of rules. -/
inductive RuleContainer where
  | sheet (s : SheetId)
  | media (r : RuleId)
  deriving DecidableEq, Repr

/-- The rule whose rules a container holds, if it is one. -/
def RuleContainer.rule? : RuleContainer → Option RuleId
  | .sheet _ => none
  | .media r => some r

/-- What owns a list of media. -/
inductive MediaOwner where
  | sheet (s : SheetId)
  | rule (r : RuleId)
  deriving DecidableEq, Repr

/-- What happened to the sheets, for whoever keeps results that depend on them. -/
inductive Change where
  /-- Rules, declarations or media changed. -/
  | changed (s : SheetId)
  /-- An import came up, of which the sheet is to be loaded. -/
  | imported (s : SheetId) (r : RuleId)
  | removed (s : SheetId)
  deriving DecidableEq, Repr

/-- Which rules without effect on elements are kept. -/
structure Compatibility where
  keepsFontFaces : Bool
  keepsPages : Bool
  deriving DecidableEq, Repr

/-- Keeps all rules. -/
def Compatibility.full : Compatibility := ⟨true, true⟩

/-- The sheets and rules, and the changes that nobody has taken notice of yet, oldest first. -/
structure ObjectModel where
  sheets : Slots SheetKind StyleSheet
  rules : Slots RuleKind Rule
  compatibility : Compatibility
  changes : List Change

namespace ObjectModel

def empty (compatibility : Compatibility) : ObjectModel := ⟨∅, ∅, compatibility, []⟩

def sheet? (m : ObjectModel) (s : SheetId) : Option StyleSheet := m.sheets.get? s

def rule? (m : ObjectModel) (r : RuleId) : Option Rule := m.rules.get? r

def modifySheet (m : ObjectModel) (s : SheetId) (f : StyleSheet → StyleSheet) : ObjectModel :=
  { m with sheets := m.sheets.modify s f }

def modifyRule (m : ObjectModel) (r : RuleId) (f : Rule → Rule) : ObjectModel :=
  { m with rules := m.rules.modify r f }

def setContent (m : ObjectModel) (r : RuleId) (c : RuleContent) : ObjectModel :=
  m.modifyRule r fun rule => { rule with content := c }

def note (m : ObjectModel) (c : Change) : ObjectModel := { m with changes := m.changes ++ [c] }

/-- Notes a change of the sheet that a rule belongs to, if it belongs to one. -/
def noteChanged (m : ObjectModel) : Option SheetId → ObjectModel
  | none => m
  | some s => m.note (.changed s)

/-- A sheet, and the sheets that it was imported from, up to the outermost one. No sheet is listed
twice, so that the list is never longer than there are slots. -/
def importChainFuel (m : ObjectModel) : Nat → List SheetId → Option SheetId → List SheetId
  | 0, _, _ | _, _, none => []
  | fuel + 1, seen, some s =>
    match m.sheet? s with
    | none => []
    | some sheet =>
      if seen.contains s then []
      else s :: m.importChainFuel fuel (s :: seen) sheet.parentSheet

def importChain (m : ObjectModel) (s : SheetId) : List SheetId :=
  m.importChainFuel (m.sheets.slots.size + 1) [] (some s)

end ObjectModel
end WebStyle
