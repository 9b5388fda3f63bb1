import WebStyle.Media.Environment
import WebStyle.Property.Name
import WebStyle.Property.Registry
import WebStyle.Property.Shorthand
import WebStyle.Style.Custom
/-!
Computed values. The keywords for all properties are applied, references to custom properties are
substituted, and every known property gets its absolute form: lengths in pixels, colors in channels,
font weights as numbers.
-/
set_option autoImplicit false

namespace WebStyle

/-- The values of all known properties, of the custom properties, and of the unknown ones that the
element declares. -/
structure ComputedStyle where
  values : Table String String
  deriving DecidableEq, Repr, Inhabited

/-- The size of the block that percentages refer to. -/
structure BlockSize where
  width : Float
  height : Float
  deriving DecidableEq

/-- The size of a text in the middle of the scale. -/
def mediumFontSize : Float := 16.0

/-- Lengths in pixels, as computed values are written. -/
def pixelText (x : Float) : String := formatNumber x ++ "px"

/-- The number of pixels in a computed length. -/
def pixelValue? (text : String) : Option Float :=
  ((Text.before? "px" text).bind Binary64.ofString?).map (·.toFloat)

namespace ComputedStyle

def find? (s : ComputedStyle) (name : String) : Option String := s.values.find? name

/-- The value of a property that scripts may name their way; for a shorthand it is put together from
its longhands. Without a value the text is empty. -/
def propertyValue (s : ComputedStyle) (name : String) : String :=
  let name := propertyName name
  ((s.find? name).or ((Shorthand.ofName? name).bind (·.reconstruct? s.find?))).getD ""

/-- The font size in pixels. -/
def fontSize (s : ComputedStyle) : Float :=
  ((s.find? "font-size").bind pixelValue?).getD mediumFontSize

def customProperties (s : ComputedStyle) : Table String String :=
  ⟨s.values.entries.filter (isCustomName ·.1)⟩

end ComputedStyle

/-- What values depend on besides the specified ones. -/
structure ComputeContext where
  env : MediaEnvironment
  parent : Option ComputedStyle
  /-- The computed font size of the root element. -/
  rootFontSize : Float
  containingBlock : Option BlockSize

namespace ComputeContext

/-- The font size that an element inherits. -/
def parentFontSize (ctx : ComputeContext) : Float :=
  match ctx.parent with
  | some p => p.fontSize
  | none => ctx.env.rootFontSize

def parentValue? (ctx : ComputeContext) (name : String) : Option String :=
  ctx.parent.bind (·.find? name)

/-- A length in pixels; `em` is the size that lengths relative to the font refer to. -/
def pixels (ctx : ComputeContext) (l : Length) (em : Float) : Float :=
  let env := ctx.env
  let x := l.value
  match l.unit with
  | .em => x * em
  | .rem => x * ctx.rootFontSize
  | .ex | .ch => x * em * 0.5
  | .vw => x * env.width / 100.0
  | .vh => x * env.height / 100.0
  | .vmin => x * MediaEnvironment.least env.width env.height / 100.0
  | .vmax => x * MediaEnvironment.greatest env.width env.height / 100.0
  | unit => x * unit.pixels?.getD 1.0

end ComputeContext

/-- The absolute sizes, at a medium of 16 pixels. -/
def fontSizeKeywords : List (String × Float) :=
  [("xx-small", 9.0), ("x-small", 10.0), ("small", 13.0), ("medium", 16.0), ("large", 18.0),
   ("x-large", 24.0), ("xx-large", 32.0), ("xxx-large", 48.0)]

/-- The step between two sizes of the scale. -/
def fontScale : Float := 1.2

/-- What is known of an element while its properties are computed. Values may depend on the font
size, on the color, and on the border styles, which are computed before them. -/
structure Scope where
  specified : SpecifiedValues
  customs : Table String String
  ctx : ComputeContext
  fontSize : Float
  color : Option String
  styles : Table String String

namespace Scope

/-- A font size in pixels. -/
def fontSize? (s : Scope) (value : String) : Option Float :=
  let parent := s.ctx.parentFontSize
  match Component.ofString value with
  | .keyword "larger" => some (parent * fontScale)
  | .keyword "smaller" => some (parent / fontScale)
  | .keyword k =>
    (fontSizeKeywords.lookup k).map fun size => size * s.ctx.env.rootFontSize / mediumFontSize
  | .length l => if 0.0 ≤ l.value then some (s.ctx.pixels l parent) else none
  | .percentage p => if 0.0 ≤ p then some (parent * p / 100.0) else none
  | .number n => if n == 0.0 then some 0.0 else none
  | _ => none

/-- A length, or the text of what is no single length, number or color. -/
def length? (s : Scope) (base : PercentBase) (value : String) : Option String :=
  match Component.ofString value with
  | .keyword k => some k
  | .length l => some (pixelText (s.ctx.pixels l s.fontSize))
  | .number n => if n == 0.0 then some (pixelText 0.0) else none
  | .percentage p =>
    let whole := match base with
      | .nothing => none
      | .containingWidth => s.ctx.containingBlock.map (·.width)
      | .containingHeight => s.ctx.containingBlock.map (·.height)
    match whole with
    | some size => some (pixelText (size * p / 100.0))
    | none => some (formatNumber p ++ "%")
  | .other text => some text
  | .color _ => none

/-- The width of a border line, shown or not. -/
def lineWidth? (s : Scope) (value : String) : Option Float :=
  match Component.ofString value with
  | .keyword "thin" => some 1.0
  | .keyword "medium" => some 3.0
  | .keyword "thick" => some 5.0
  | .length l => if 0.0 ≤ l.value then some (s.ctx.pixels l s.fontSize) else none
  | .number n => if n == 0.0 then some 0.0 else none
  | _ => none

/-- The property that tells whether the border of the same side is shown. -/
def styleOfWidth (name : String) : String := ((Text.before? "-width" name).getD name) ++ "-style"

/-- Whether the border of which the width is asked is shown. -/
def showsBorder (s : Scope) (name : String) : Bool :=
  match s.styles.find? (styleOfWidth name) with
  | none | some "none" | some "hidden" => false
  | some _ => true

/-- The width of a border; one that is not shown has none. -/
def borderWidth? (s : Scope) (name value : String) : Option String :=
  (s.lineWidth? value).map fun w => pixelText (if s.showsBorder name then w else 0.0)

/-- The next bolder weight. -/
def bolder (w : Float) : Float :=
  if w < 350.0 then 400.0 else if w < 550.0 then 700.0 else if w < 900.0 then 900.0 else w

/-- The next lighter weight. -/
def lighter (w : Float) : Float :=
  if w < 100.0 then w else if w < 550.0 then 100.0 else if w < 750.0 then 400.0 else 700.0

def fontWeight? (s : Scope) (value : String) : Option String :=
  let parent := (((s.ctx.parentValue? "font-weight").bind Binary64.ofString?).map (·.toFloat)).getD
    400.0
  match Component.ofString value with
  | .keyword "normal" => some (formatNumber 400.0)
  | .keyword "bold" => some (formatNumber 700.0)
  | .keyword "bolder" => some (formatNumber (bolder parent))
  | .keyword "lighter" => some (formatNumber (lighter parent))
  | .number n => if 1.0 ≤ n && n ≤ 1000.0 then some (formatNumber n) else none
  | _ => none

def lineHeight? (s : Scope) (value : String) : Option String :=
  match Component.ofString value with
  | .keyword k => if k == "normal" then some k else none
  | .number n => if 0.0 ≤ n then some (formatNumber n) else none
  | .length l => if 0.0 ≤ l.value then some (pixelText (s.ctx.pixels l s.fontSize)) else none
  | .percentage p => if 0.0 ≤ p then some (pixelText (s.fontSize * p / 100.0)) else none
  | _ => none

def keyword? (value : String) : Option String :=
  match Component.ofString value with
  | .keyword k => some k
  | _ => none

/-- The color that `currentcolor` stands for: what is inherited where the color itself is meant, and
else the element's. -/
def color? (current : Option String) (value : String) : Option String :=
  if Text.sameIgnoringCase value "currentcolor" then current else (Color.ofString? value).map (·.text)

/-- The absolute form of a value; nothing if it is not valid for the property. `current` is what
`currentcolor` stands for. -/
def absolute? (s : Scope) (p : Property) (current : Option String) (value : String) :
    Option String :=
  match p.kind with
  | .fontSize => (s.fontSize? value).map pixelText
  | .color => color? current value
  | .length base => s.length? base value
  | .borderWidth => s.borderWidth? p.name value
  | .fontWeight => s.fontWeight? value
  | .lineHeight => s.lineHeight? value
  | .keyword => keyword? value
  | .verbatim => some value

/-- The computed form of the initial value. The initial color is no keyword. -/
def initial (s : Scope) (p : Property) : String :=
  (s.absolute? p s.color p.initial).getD p.initial

/-- The parent's value; without a parent the initial one. -/
def inherit (s : Scope) (p : Property) : String :=
  (s.ctx.parentValue? p.name).getD (s.initial p)

/-- The value of a property that is not set. -/
def unset (s : Scope) (p : Property) : String := if p.inherited then s.inherit p else s.initial p

/-- The declared text with references substituted. What has no substitution, and a shorthand that is
not valid after it, counts as not set. -/
def declaredText (s : Scope) (name : String) (v : SpecifiedValue) : String :=
  let substituted := match v with
    | .declared text =>
      if mentionsVariable (Text.lower text) then substitute? s.customs.find? text else some text
    | .pending shorthand value => do
      let text ← substitute? s.customs.find? value
      let pairs ← (← Shorthand.ofName? shorthand).expand? text
      pairs.lookup name
  substituted.getD "unset"

/-- The computed value of a known property. -/
def value (s : Scope) (p : Property) : String :=
  match s.specified.find? p.name with
  | none => s.unset p
  | some v =>
    let text := Text.trim (s.declaredText p.name v)
    match Text.lower text with
    | "unset" | "revert" => s.unset p
    | "initial" => s.initial p
    | "inherit" => s.inherit p
    | _ =>
      let current := if p.name == "color" then some (s.inherit p) else s.color
      (s.absolute? p current text).getD (s.unset p)

/-- The computed value of an unknown property: its declared text. The keywords only let it take the
value of the parent, if that has one. -/
def unknownValue? (s : Scope) (name : String) (v : SpecifiedValue) : Option String :=
  let text := Text.trim (s.declaredText name v)
  match Text.lower text with
  | "unset" | "revert" | "initial" => none
  | "inherit" => s.ctx.parentValue? name
  | _ => some text

/-- The named property's value, where it is known. -/
def valueOf? (s : Scope) (name : String) : Option String := (Property.ofName? name).map s.value

end Scope

/-- The computed style of an element with the given specified values. -/
def compute (specified : SpecifiedValues) (ctx : ComputeContext) : ComputedStyle :=
  let inherited := (ctx.parent.map ComputedStyle.customProperties).getD .empty
  let customs := Custom.resolve specified inherited
  let start : Scope := ⟨specified, customs, ctx, ctx.parentFontSize, none, .empty⟩
  let fontSize := start.valueOf? "font-size"
  let sized := { start with fontSize := (fontSize.bind pixelValue?).getD mediumFontSize }
  let colored := { sized with color := sized.valueOf? "color" }
  let isWidth (p : Property) := p.kind == .borderWidth
  let plain := (Property.all.filter (!isWidth ·)).map fun p =>
    if p.kind == .fontSize then (p.name, start.value p)
    else if p.name == "color" then (p.name, sized.value p)
    else (p.name, colored.value p)
  let styled := { colored with styles := ⟨plain⟩ }
  let widths := (Property.all.filter isWidth).map fun p => (p.name, styled.value p)
  let unknown := specified.entries.filterMap fun (name, v) =>
    if isCustomName name || (Property.ofName? name).isSome then none
    else (styled.unknownValue? name v).map (name, ·)
  ⟨⟨plain ++ widths ++ unknown ++ customs.entries⟩⟩

/-- The computed styles of elements that stand inside each other, the outermost first. All have the
same containing block. -/
def computeChain (env : MediaEnvironment) (block : Option BlockSize) :
    List SpecifiedValues → List ComputedStyle :=
  let rec below (parent : ComputedStyle) (rootFontSize : Float) :
      List SpecifiedValues → List ComputedStyle
    | [] => []
    | v :: vs =>
      let style := compute v ⟨env, some parent, rootFontSize, block⟩
      style :: below style rootFontSize vs
  fun
    | [] => []
    | v :: vs =>
      let root := compute v ⟨env, none, env.rootFontSize, block⟩
      root :: below root root.fontSize vs

end WebStyle
