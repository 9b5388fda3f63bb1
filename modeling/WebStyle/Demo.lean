import WebStyle.Document.Styling
import WebStyle.ObjectModel.Text
/-!
A demonstration: a small document loads its sheets from resources at hand, its object model is
edited, and computed styles are shown.
-/
set_option autoImplicit false

namespace WebStyle.Demo

/-- A part of the demonstration: it changes the document, and shows lines. -/
abbrev Part := StateM Document (List String)

/-- The nodes that the demonstration uses later on. -/
structure Nodes where
  style : NodeId
  link : NodeId
  title : NodeId
  note : NodeId

/-- Builds the tree. -/
def buildTree : StateM Dom Nodes := do
  let create (tag : String) (attributes : List (String × String)) : StateM Dom NodeId :=
    modifyGet fun d => let (d, n) := d.createElement tag attributes; (n, d)
  let append (parent child : NodeId) : StateM Dom Unit := modify (·.append parent child)
  let html ← create "html" []
  let head ← create "head" []
  let body ← create "body" []
  let style ← create "style" []
  let link ← create "link" [("rel", "stylesheet"), ("href", "css/site.css")]
  let title ← create "h1" [("class", "title")]
  let note ← create "p" [("class", "note"), ("style", "margin-left: 2em")]
  append (← get).document html
  append html head
  append html body
  append head style
  append head link
  append body title
  append body note
  pure ⟨style, link, title, note⟩

/-- The sheet of the `style` element. -/
def styleText : String :=
  ":root \x7b --accent: rebeccapurple \x7d .title \x7b color: var(--accent) \x7d "
    ++ "@media print \x7b .note \x7b display: none \x7d \x7d"

/-- Two sheets that import each other. -/
def resources : Resources :=
  let site := "@import url(theme.css); "
    ++ ".note \x7b font-size: 0.875rem; color: #555 !important \x7d"
  let theme := "@import url(site.css); "
    ++ "body \x7b font-size: 20px \x7d .note \x7b color: red \x7d"
  (Resources.add .empty "https://demo.test/css/site.css" (.ofText site)).add
    "https://demo.test/css/theme.css" (.ofText theme)

/-- The lines of a sheet, indented. -/
def sheetLines (d : Document) (s : SheetId) : List String :=
  match d.model.sheetText s with
  | .ok text => (Text.splitAtEach (· == '\n') text.toList).map fun l => "   " ++ String.ofList l
  | .error _ => []

def title (text : String) : String := "── " ++ text ++ " ──"

/-- Fetches the linked sheet, with those that it imports. -/
def loadPart (link : NodeId) : Part := do
  let _ ← (DocumentM.addLinked link).run
  let (fetched, requests) ← modifyGet (·.run resources)
  pure ["", title "Linked sheets",
    "   " ++ toString fetched ++ " fetches: ["
      ++ String.intercalate ", " (requests.map Text.quoted) ++ "]"]

/-- Inserts a rule, and asks for the deletion of one that is not there. -/
def editPart (s : SheetId) : Part := do
  let inserted ← (DocumentM.edit
    (ModelM.insertRule (.sheet s) "h1 \x7b border: 2px solid; \x7d" 0)).run
  let deleted ← (DocumentM.edit (ModelM.deleteRule (.sheet s) 99)).run
  let first := match inserted with
    | .ok index => "   inserted rule at " ++ toString index
    | .error e => "   insertRule failed: " ++ e.message
  let second := match deleted with
    | .ok _ => []
    | .error e => ["   deleteRule(99): " ++ e.message]
  pure (["", title "CSSOM", first] ++ second ++ sheetLines (← get) s)

def shownProperties : List String :=
  ["display", "color", "font-size", "margin-left", "border-top-width"]

def stylePart (name : String) (n : NodeId) : Part := do
  let style ← modifyGet (·.computedStyle n none)
  pure (("   " ++ name) ::
    shownProperties.map fun p => "     " ++ p ++ ": " ++ style.propertyValue p)

/-- The whole demonstration. -/
def script : Part := do
  let nodes ← modifyGet fun d =>
    let (nodes, dom) := buildTree.run d.dom
    (nodes, { d with dom })
  match ← (DocumentM.addStyleElement nodes.style styleText).run with
  | .error _ => pure [title "Style element"]
  | .ok s =>
    let first := title "Style element" :: sheetLines (← get) s
    let loaded ← loadPart nodes.link
    let edited ← editPart s
    let headline ← stylePart "h1.title" nodes.title
    let note ← stylePart "p.note" nodes.note
    pure (first ++ loaded ++ edited ++ ["", title "Computed style"] ++ headline ++ note)

/-- The lines that the demonstration shows. -/
def lines : List String :=
  (script.run (Document.new (some "https://demo.test/index.html") .standard)).1

end WebStyle.Demo
