import WebStyle.Document.UserAgent
import WebStyle.Loading.Address
import WebStyle.Loading.Response
import WebStyle.ObjectModel.Edit
import WebStyle.Style.Resolution
/-!
Documents: a tree, its style sheets, the loads that are under way, and the styles that were computed.
The object model notes what changes; the document takes notice before it answers questions about
styles or loads.
-/
set_option autoImplicit false

namespace WebStyle

/-- What the result of a load is for: the sheet of a link, or the sheet of an import. -/
inductive LoadTarget where
  | linked (s : SheetId)
  | imported (r : RuleId)
  deriving DecidableEq, Repr

structure DocumentSettings where
  env : MediaEnvironment
  loader : LoaderSettings
  /-- The user agent's sheet; without one, elements start from the initial values alone. -/
  userAgent : Option String
  compatibility : Compatibility

/-- A screen of common size, and the user agent's own sheet. -/
def DocumentSettings.standard : DocumentSettings :=
  ⟨.screen 1024.0 768.0, .standard, some userAgentText, .full⟩

structure Document where
  dom : Dom
  model : ObjectModel
  url : Option Url
  settings : DocumentSettings
  /-- The encoding of the document itself. -/
  encoding : Encoding
  userAgentSheet : Option SheetId
  /-- The document's sheets, in order. -/
  sheets : List SheetId
  /-- The encodings of the sheets that were loaded. -/
  encodings : Table SheetId Encoding
  loads : LoadQueue LoadTarget
  cache : StyleCache
  /-- The blocks of the `style` attributes, and the generation of the tree that they are from. -/
  inline : Table NodeId DeclarationBlock
  inlineGeneration : Option Nat
  layout : NodeId → Option BlockSize
  /-- Whether the document was given up; nothing is loaded for it any more. -/
  discarded : Bool

inductive DocumentError where
  | invalid (e : SyntaxError)
  | refused (e : ModelError)
  | notAnElement (n : NodeId)
  deriving DecidableEq, Repr

def DocumentError.message : DocumentError → String
  | .invalid e => e.message
  | .refused e => e.message
  | .notAnElement n => n.text ++ " is not an element"

/-- A request to a document that may be refused. -/
abbrev DocumentM := ExceptT DocumentError (StateM Document)

/-- The blocks of single elements, and one for all others. -/
def layoutOfSizes (sizes : List (NodeId × Option BlockSize)) (others : Option BlockSize)
    (n : NodeId) : Option BlockSize :=
  (sizes.lookup n).getD others

namespace Document

/-- Runs a request to the object model. -/
def edit {α : Type} (d : Document) (f : ModelM α) : Except ModelError α × Document :=
  let (result, model) := (f.run).run d.model
  (result, { d with model })

/-- The object model of a new document, with the user agent's sheet. -/
def initialModel (settings : DocumentSettings) : ObjectModel × Option SheetId :=
  let m := ObjectModel.empty settings.compatibility
  match settings.userAgent with
  | none => (m, none)
  | some text =>
    let (m, s) := m.createSheet none "" .userAgent
    let (result, m) := ((ModelM.replaceRules s text).run).run m
    (m.takeChanges.2, if result.toBool then some s else none)

/-- An empty document. An address that cannot be read counts as none. -/
def new (url : Option String) (settings : DocumentSettings) : Document :=
  let (model, userAgentSheet) := initialModel settings
  { dom := .empty
    model
    url := url.bind Url.ofString?
    settings
    encoding := .utf8
    userAgentSheet
    sheets := []
    encodings := .empty
    loads := .empty
    cache := .empty
    inline := .empty
    inlineGeneration := none
    layout := fun _ => none
    discarded := false }

/-- Sets the encoding of the document; an unknown label changes nothing. -/
def setCharset (d : Document) (label : String) : Document :=
  { d with encoding := (Encoding.ofLabel? (Text.trim label)).getD d.encoding }

/-- Sets the blocks that percentages refer to. -/
def setLayout (d : Document) (layout : NodeId → Option BlockSize) : Document :=
  { d with layout, cache := .empty }

/-- Gives the document up, with all its loads. -/
def discard (d : Document) : Document := { d with discarded := true, loads := d.loads.clear }

/-- The sheet that was loaded for an import. -/
def importedSheet? (d : Document) (r : RuleId) : Option SheetId :=
  match d.model.importSheet r with
  | .ok s => s
  | .error _ => none

end Document

namespace DocumentM

/-- Changes the document, which gives a result as well. -/
def update {α : Type} (f : Document → α × Document) : DocumentM α := do
  let (a, d) := f (← get)
  set d
  pure a

/-- Runs a request to the object model. -/
def edit {α : Type} (f : ModelM α) : DocumentM α := do
  match ← update fun d => d.edit f with
  | .ok a => pure a
  | .error e => throw (.refused e)

/-- The element that a node is. -/
def element (n : NodeId) : DocumentM Element := do
  match (← get).dom.element? n with
  | some e => pure e
  | none => throw (.notAnElement n)

end DocumentM
end WebStyle
