import WebStyle.Sheet.Declaration
/-!
The properties that are known: whether they inherit, their initial values, and what kind of value
they take.
-/
set_option autoImplicit false

namespace WebStyle

/-- What a percentage is a part of. -/
inductive PercentBase where
  | nothing
  | containingWidth
  | containingHeight
  deriving DecidableEq, Repr

inductive ValueKind where
  | color
  | length (base : PercentBase)
  /-- A length that is zero where the border of that side is not shown. -/
  | borderWidth
  | fontSize
  | fontWeight
  | lineHeight
  | keyword
  /-- A value that is kept as it is. -/
  | verbatim
  deriving DecidableEq, Repr

structure Property where
  name : String
  inherited : Bool
  initial : String
  kind : ValueKind
  deriving DecidableEq, Repr

namespace Property

/-- Properties that inherit. -/
def inheritedOnes : List Property :=
  [⟨"color", true, "rgb(0, 0, 0)", .color⟩,
   ⟨"font-size", true, "medium", .fontSize⟩,
   ⟨"font-family", true, "serif", .verbatim⟩,
   ⟨"font-weight", true, "normal", .fontWeight⟩,
   ⟨"font-style", true, "normal", .keyword⟩,
   ⟨"font-variant", true, "normal", .keyword⟩,
   ⟨"line-height", true, "normal", .lineHeight⟩,
   ⟨"text-align", true, "start", .keyword⟩,
   ⟨"text-indent", true, "0px", .length .containingWidth⟩,
   ⟨"text-transform", true, "none", .keyword⟩,
   ⟨"letter-spacing", true, "normal", .length .nothing⟩,
   ⟨"word-spacing", true, "0px", .length .nothing⟩,
   ⟨"white-space", true, "normal", .keyword⟩,
   ⟨"visibility", true, "visible", .keyword⟩,
   ⟨"cursor", true, "auto", .keyword⟩,
   ⟨"direction", true, "ltr", .keyword⟩,
   ⟨"list-style-type", true, "disc", .keyword⟩,
   ⟨"list-style-position", true, "outside", .keyword⟩,
   ⟨"quotes", true, "auto", .verbatim⟩]

/-- Properties of boxes and their contents, which do not inherit. -/
def boxOnes : List Property :=
  [⟨"text-decoration-line", false, "none", .keyword⟩,
   ⟨"vertical-align", false, "baseline", .length .nothing⟩,
   ⟨"display", false, "inline", .keyword⟩,
   ⟨"position", false, "static", .keyword⟩,
   ⟨"float", false, "none", .keyword⟩,
   ⟨"clear", false, "none", .keyword⟩,
   ⟨"box-sizing", false, "content-box", .keyword⟩,
   ⟨"overflow", false, "visible", .keyword⟩,
   ⟨"z-index", false, "auto", .verbatim⟩,
   ⟨"opacity", false, "1", .verbatim⟩,
   ⟨"content", false, "normal", .verbatim⟩,
   ⟨"width", false, "auto", .length .containingWidth⟩,
   ⟨"height", false, "auto", .length .containingHeight⟩,
   ⟨"min-width", false, "auto", .length .containingWidth⟩,
   ⟨"min-height", false, "auto", .length .containingHeight⟩,
   ⟨"max-width", false, "none", .length .containingWidth⟩,
   ⟨"max-height", false, "none", .length .containingHeight⟩,
   ⟨"top", false, "auto", .length .containingHeight⟩,
   ⟨"right", false, "auto", .length .containingWidth⟩,
   ⟨"bottom", false, "auto", .length .containingHeight⟩,
   ⟨"left", false, "auto", .length .containingWidth⟩,
   ⟨"margin-top", false, "0px", .length .containingWidth⟩,
   ⟨"margin-right", false, "0px", .length .containingWidth⟩,
   ⟨"margin-bottom", false, "0px", .length .containingWidth⟩,
   ⟨"margin-left", false, "0px", .length .containingWidth⟩,
   ⟨"padding-top", false, "0px", .length .containingWidth⟩,
   ⟨"padding-right", false, "0px", .length .containingWidth⟩,
   ⟨"padding-bottom", false, "0px", .length .containingWidth⟩,
   ⟨"padding-left", false, "0px", .length .containingWidth⟩]

/-- Properties of borders and backgrounds, which do not inherit. -/
def borderOnes : List Property :=
  [⟨"border-top-width", false, "medium", .borderWidth⟩,
   ⟨"border-right-width", false, "medium", .borderWidth⟩,
   ⟨"border-bottom-width", false, "medium", .borderWidth⟩,
   ⟨"border-left-width", false, "medium", .borderWidth⟩,
   ⟨"border-top-style", false, "none", .keyword⟩,
   ⟨"border-right-style", false, "none", .keyword⟩,
   ⟨"border-bottom-style", false, "none", .keyword⟩,
   ⟨"border-left-style", false, "none", .keyword⟩,
   ⟨"border-top-color", false, "currentcolor", .color⟩,
   ⟨"border-right-color", false, "currentcolor", .color⟩,
   ⟨"border-bottom-color", false, "currentcolor", .color⟩,
   ⟨"border-left-color", false, "currentcolor", .color⟩,
   ⟨"outline-color", false, "currentcolor", .color⟩,
   ⟨"background-color", false, "transparent", .color⟩,
   ⟨"background-image", false, "none", .verbatim⟩]

/-- All known properties. -/
def all : List Property := inheritedOnes ++ boxOnes ++ borderOnes

def ofName? (name : String) : Option Property := all.find? (·.name == name)

end Property

/-- Custom properties inherit, and unknown properties do not. -/
def isInherited (name : String) : Bool :=
  isCustomName name || (Property.ofName? name).any (·.inherited)

end WebStyle
