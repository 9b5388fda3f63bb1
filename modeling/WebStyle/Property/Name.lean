import WebStyle.Sheet.Declaration
/-!
The names that scripts use for properties.
-/
set_option autoImplicit false

namespace WebStyle

/-- An upper-case ASCII letter becomes a hyphen and its lower case. -/
def hyphenate (c : Char) : List Char := if c.isUpper then ['-', c.toLower] else [c]

/-- The name in a style sheet of a property that a script names: hyphens stand for capitals, and a
vendor's name starts with one. Custom properties have the same name in both. -/
def propertyName (name : String) : String :=
  if isCustomName name then name
  else if name == "cssFloat" then "float"
  else if name.toList.any Char.isUpper then
    let hyphenated := name.toList.flatMap hyphenate
    String.ofList
      (if "webkit-".toList.isPrefixOf hyphenated then '-' :: hyphenated else hyphenated)
  else name

end WebStyle
