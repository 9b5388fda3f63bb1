import WebStyle.Value.Component
/-!
Shorthand properties: the longhands that each one sets, the values that they get from a value of the
shorthand, and the value of the shorthand that stands for values of its longhands.
-/
set_option autoImplicit false

namespace WebStyle

inductive Shorthand where
  | border
  | borderWidth
  | borderStyle
  | borderColor
  | borderTop
  | borderRight
  | borderBottom
  | borderLeft
  | margin
  | padding
  deriving DecidableEq, Repr

/-- The keywords that every property takes, in any case. -/
def isWideKeyword (value : String) : Bool :=
  ["inherit", "initial", "unset", "revert"].contains (Text.lower value)

/-- Whether a value holds a reference to a custom property, so that it has to wait for it. -/
def mentionsVariable (value : String) : Bool := Text.occursIn "var(".toList value.toList

namespace Shorthand

/-- All shorthands, those first that are preferred where several could be written. -/
def all : List Shorthand :=
  [.border, .borderWidth, .borderStyle, .borderColor, .borderTop, .borderRight, .borderBottom,
   .borderLeft, .margin, .padding]

def name : Shorthand → String
  | .border => "border"
  | .borderWidth => "border-width"
  | .borderStyle => "border-style"
  | .borderColor => "border-color"
  | .borderTop => "border-top"
  | .borderRight => "border-right"
  | .borderBottom => "border-bottom"
  | .borderLeft => "border-left"
  | .margin => "margin"
  | .padding => "padding"

def ofName? (name : String) : Option Shorthand := all.find? (·.name == name)

/-- The properties of the four sides, with what stands before and after the side in their names. -/
def sides (before after : String) : List String :=
  ["top", "right", "bottom", "left"].map fun side => before ++ side ++ after

/-- Width, style and color of one side's border. -/
def borderSide (side : String) : List String :=
  ["-width", "-style", "-color"].map fun aspect => "border-" ++ side ++ aspect

/-- The longhands, in canonical order. -/
def longhands : Shorthand → List String
  | .border => sides "border-" "-width" ++ sides "border-" "-style" ++ sides "border-" "-color"
  | .borderWidth => sides "border-" "-width"
  | .borderStyle => sides "border-" "-style"
  | .borderColor => sides "border-" "-color"
  | .borderTop => borderSide "top"
  | .borderRight => borderSide "right"
  | .borderBottom => borderSide "bottom"
  | .borderLeft => borderSide "left"
  | .margin => sides "margin-" ""
  | .padding => sides "padding-" ""

/-- The shorthands that set a longhand, most preferred first. -/
def covering (longhand : String) : List Shorthand := all.filter (·.longhands.contains longhand)

/-- What the parts of a shorthand's value are about. -/
inductive Aspect where
  | margin
  | padding
  | width
  | style
  | color
  deriving DecidableEq, Repr

def borderStyles : List String :=
  ["none", "hidden", "dotted", "dashed", "solid", "double", "groove", "ridge", "inset", "outset"]

/-- Whether a part can be a value of the aspect. Zero needs no unit; lengths other than margins are
not negative. -/
def Aspect.takes (aspect : Aspect) (part : String) : Bool :=
  match aspect, Component.ofString part with
  | .margin, .length _ | .margin, .percentage _ => true
  | .margin, .keyword k => k == "auto"
  | .padding, .length l | .width, .length l => 0.0 ≤ l.value
  | .padding, .percentage p => 0.0 ≤ p
  | .margin, .number n | .padding, .number n | .width, .number n => n == 0.0
  | .width, .keyword k => ["thin", "medium", "thick"].contains k
  | .style, .keyword k => borderStyles.contains k
  | .color, .color _ => true
  | .color, .keyword k => k == "currentcolor"
  | _, _ => false

/-- The text of a part as the longhand has it. -/
def Aspect.spell (aspect : Aspect) (part : String) : String :=
  match aspect with
  | .width | .style => Text.lower part
  | _ => part

/-- The aspect of which a shorthand takes one to four values, if it is of that kind. -/
def boxAspect? : Shorthand → Option Aspect
  | .margin => some .margin
  | .padding => some .padding
  | .borderWidth => some .width
  | .borderStyle => some .style
  | .borderColor => some .color
  | _ => none

/-- Maps one to four values onto top, right, bottom and left. -/
def onSides? : List String → Option (List String)
  | [a] => some [a, a, a, a]
  | [a, b] => some [a, b, a, b]
  | [a, b, c] => some [a, b, c, b]
  | [a, b, c, d] => some [a, b, c, d]
  | _ => none

def initialWidth : String := "medium"

def initialStyle : String := "none"

def initialColor : String := "currentcolor"

/-- The parts of a border found so far. -/
structure BorderParts where
  width : Option String
  style : Option String
  color : Option String

/-- Takes a part for the first aspect that it can be a value of, which must be free. -/
def BorderParts.take? (found : BorderParts) (part : String) : Option BorderParts :=
  if Aspect.width.takes part then
    if found.width.isSome then none else some { found with width := some part }
  else if Aspect.style.takes part then
    if found.style.isSome then none else some { found with style := some part }
  else if Aspect.color.takes part then
    if found.color.isSome then none else some { found with color := some part }
  else none

/-- Width, style and color of a border, in any order; what is left out has its initial value. -/
def borderValues? (parts : List String) : Option (String × String × String) := do
  if parts.isEmpty then none
  let found ← parts.foldlM BorderParts.take? ⟨none, none, none⟩
  some ((found.width.map Aspect.width.spell).getD initialWidth,
    (found.style.map Aspect.style.spell).getD initialStyle,
    found.color.getD initialColor)

/-- The values of the longhands, in canonical order, for the parts of a value. -/
def values? (s : Shorthand) (parts : List String) : Option (List String) :=
  match s.boxAspect? with
  | some aspect => if parts.all aspect.takes then onSides? (parts.map aspect.spell) else none
  | none => do
    let (width, style, color) ← borderValues? parts
    match s with
    | .border =>
      some (List.replicate 4 width ++ List.replicate 4 style ++ List.replicate 4 color)
    | _ => some [width, style, color]

/-- The longhands with their values; nothing if the value is not valid for the shorthand. -/
def expand? (s : Shorthand) (value : String) : Option (List (String × String)) :=
  let value := Text.trim value
  if isWideKeyword value then some (s.longhands.map (·, Text.lower value))
  else (s.values? (splitComponents value)).map (s.longhands.zip ·)

/-- The shortest list of values for four sides. -/
def joinSides (top right bottom left : String) : String :=
  if right != left then String.intercalate " " [top, right, bottom, left]
  else if top != bottom then String.intercalate " " [top, right, bottom]
  else if top != right then String.intercalate " " [top, right]
  else top

/-- A border without the parts that have their initial values. -/
def joinBorder (width style color : String) : String :=
  let parts := [(width, initialWidth), (style, initialStyle), (color, initialColor)]
  match (parts.filter fun (v, initial) => v != initial).map (·.1) with
  | [] => initialStyle
  | kept => String.intercalate " " kept

/-- The value of the shorthand for values of its longhands that are no wide keywords. -/
def join? (s : Shorthand) (values : List String) : Option String :=
  match s.boxAspect?, values with
  | some _, [top, right, bottom, left] => some (joinSides top right bottom left)
  | none, [width, style, color] => some (joinBorder width style color)
  | none, [w₁, w₂, w₃, w₄, s₁, s₂, s₃, s₄, c₁, c₂, c₃, c₄] =>
    let side := joinBorder w₁ s₁ c₁
    let others := [joinBorder w₂ s₂ c₂, joinBorder w₃ s₃ c₃, joinBorder w₄ s₄ c₄]
    if others.all (· == side) then some side else none
  | _, _ => none

/-- The value of the shorthand that gives its longhands the values looked up. A wide keyword must be
the value of all of them. -/
def reconstruct? (s : Shorthand) (lookup : String → Option String) : Option String := do
  let values ← s.longhands.mapM lookup
  if values.any isWideKeyword then
    match values with
    | v :: rest => if rest.all (· == v) then some v else none
    | [] => none
  else s.join? values

end Shorthand
end WebStyle
