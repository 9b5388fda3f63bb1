import WebStyle.Style.Cache
import WebStyle.Style.Cascade
import WebStyle.Style.Computed
/-!
The computed styles of the elements of a tree. An element inherits from its parent, so that all
elements above it are computed first; a cache keeps what was computed.
-/
set_option autoImplicit false

namespace WebStyle

/-- All that the styles of elements depend on. -/
structure StyleContext where
  model : ObjectModel
  /-- The sheets that apply, the user agent's first. -/
  sheets : List SheetId
  dom : Dom
  env : MediaEnvironment
  /-- The block that the percentages of an element refer to. -/
  layout : NodeId → Option BlockSize
  /-- The blocks of the `style` attributes. -/
  inline : Table NodeId DeclarationBlock

/-- Computed styles of elements and of their pseudo-elements. -/
abbrev StyleCache := GenerationCache (NodeId × Option PseudoElement) ComputedStyle

namespace StyleContext

/-- The style of an element or of a pseudo-element, given the one that it inherits from and the font
size of the root. A pseudo-element has no `style` attribute. -/
def styleOf (ctx : StyleContext) (n : NodeId) (pseudo : Option PseudoElement)
    (parent : Option ComputedStyle) (rootFontSize : Float) : ComputedStyle :=
  let inline := if pseudo.isNone then ctx.inline.find? n else none
  let matched := matchedRules ctx.model ctx.env ctx.sheets ctx.dom n pseudo
  compute (cascade matched inline)
    ⟨ctx.env, parent, if parent.isNone then ctx.env.rootFontSize else rootFontSize, ctx.layout n⟩

/-- The style that is in the cache, or else the given one, which is put there. -/
def cached (k : NodeId × Option PseudoElement) (style : Unit → ComputedStyle) :
    StateM StyleCache ComputedStyle := do
  match (← get).find? k with
  | some s => pure s
  | none =>
    let s := style ()
    modify (·.insert k s)
    pure s

/-- What the elements above leave to the next one: the style of the nearest, and the font size of
the topmost. -/
structure Inherited where
  parent : Option ComputedStyle
  rootFontSize : Float

/-- Computes one more element on the way down. -/
def descend (ctx : StyleContext) (above : Inherited) (n : NodeId) :
    StateM StyleCache Inherited := do
  let s ← cached (n, none) fun _ => ctx.styleOf n none above.parent above.rootFontSize
  pure ⟨some s, if above.parent.isNone then s.fontSize else above.rootFontSize⟩

/-- The style of an element, or of a pseudo-element of it. -/
def computedStyleM (ctx : StyleContext) (n : NodeId) (pseudo : Option PseudoElement) :
    StateM StyleCache ComputedStyle := do
  let down := (n :: ctx.dom.ancestorElements n).reverse
  let inherited ← down.foldlM ctx.descend ⟨none, ctx.env.rootFontSize⟩
  match pseudo with
  | none => pure (inherited.parent.getD ⟨.empty⟩)
  | some p =>
    cached (n, some p) fun _ => ctx.styleOf n (some p) inherited.parent inherited.rootFontSize

/-- The style without a cache. -/
def computedStyle (ctx : StyleContext) (n : NodeId) (pseudo : Option PseudoElement) :
    ComputedStyle :=
  ((ctx.computedStyleM n pseudo).run .empty).1

end StyleContext
end WebStyle
