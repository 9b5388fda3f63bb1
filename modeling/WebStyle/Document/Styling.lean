import WebStyle.Document.Loading
/-!
What can be asked of the elements of a document: their computed styles, the blocks of their `style`
attributes, and whether selectors match them.
-/
set_option autoImplicit false

namespace WebStyle
namespace Document

/-! ### Computed styles -/

/-- The sheets that apply, the user agent's first. -/
def appliedSheets (d : Document) : List SheetId := d.userAgentSheet.toList ++ d.sheets

/-- The block of an element's `style` attribute; without one it is empty. -/
def inlineBlock (d : Document) (n : NodeId) : DeclarationBlock :=
  ((d.dom.attribute? n "style").map DeclarationBlock.ofString).getD .empty

/-- The blocks of all `style` attributes in the tree. -/
def inlineBlocks (d : Dom) : Table NodeId DeclarationBlock :=
  ⟨d.elements.filterMap fun n =>
    (d.attribute? n "style").map fun text => (n, DeclarationBlock.ofString text)⟩

/-- Reads the `style` attributes again if the tree has changed. -/
def refreshInline (d : Document) : Document :=
  if d.inlineGeneration = some d.dom.generation then d
  else { d with inline := inlineBlocks d.dom, inlineGeneration := some d.dom.generation }

def styleContext (d : Document) : StyleContext :=
  ⟨d.model, d.appliedSheets, d.dom, d.settings.env, d.layout, d.inline⟩

/-- The computed style of an element, or of a pseudo-element of it; that of any other node is
empty. -/
def computedStyle (d : Document) (n : NodeId) (pseudo : Option PseudoElement) :
    ComputedStyle × Document :=
  let d := d.sync
  if !d.dom.isElement n then (⟨.empty⟩, d)
  else
    let d := { d with cache := (d.cache.validate d.dom.generation).1 }.refreshInline
    let (style, cache) := (d.styleContext.computedStyleM n pseudo).run d.cache
    (style, { d with cache })

/-- The computed style of an element, or of the pseudo-element of a name; an unknown one has an empty
style. -/
def computedStyleOf (d : Document) (n : NodeId) (pseudo : String) : ComputedStyle × Document :=
  if Text.trim pseudo == "" then d.computedStyle n none
  else match PseudoElement.ofKey? pseudo with
    | some p => d.computedStyle n (some p)
    | none => (⟨.empty⟩, d)

/-! ### Selectors -/

def matchesAny (d : Dom) (l : SelectorList) (n : NodeId) : Bool := l.any (d.matchesComplex n none)

def readSelectors (text : String) : Except DocumentError SelectorList :=
  (SelectorList.ofString text).mapError .invalid

/-- The elements that a list of selectors matches, in tree order. -/
def query (d : Document) (text : String) : Except DocumentError (List NodeId) := do
  let l ← readSelectors text
  pure (d.dom.elements.filter (matchesAny d.dom l))

/-- The first element that a list of selectors matches. -/
def queryFirst (d : Document) (text : String) : Except DocumentError (Option NodeId) := do
  let l ← readSelectors text
  pure (d.dom.elements.find? (matchesAny d.dom l))

/-- Whether a list of selectors matches an element. -/
def matchesSelectors (d : Document) (n : NodeId) (text : String) : Except DocumentError Bool := do
  let l ← readSelectors text
  if d.dom.isElement n then pure (matchesAny d.dom l n) else throw (.notAnElement n)

end Document

/-- Changes the block of an element's `style` attribute, and writes it back. -/
def DocumentM.updateInline {α : Type} (n : NodeId) (f : DeclarationBlock → DeclarationBlock × α) :
    DocumentM α := do
  let _ ← element n
  let (block, a) := f ((← get).inlineBlock n)
  modify fun d => { d with dom := d.dom.setAttribute n "style" block.text }
  pure a

end WebStyle
