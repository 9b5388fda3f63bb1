import WebStyle.Value.Color
import WebStyle.Value.Length
/-!
Single components of a value, as far as the cascade tells them apart, and the components that a
value is made of.
-/
set_option autoImplicit false

namespace WebStyle

inductive Component where
  | length (l : Length)
  | percentage (p : Float)
  | number (x : Float)
  /-- An identifier that names no color, in lower case. -/
  | keyword (name : String)
  | color (c : Color)
  /-- Anything else, as canonical text. -/
  | other (text : String)
  deriving DecidableEq

namespace Component

/-- What tokens without outer blanks are, read as one component. -/
def ofTokens (ts : List Token) : Component :=
  match ts with
  | [.dimension n unit] =>
    match LengthUnit.ofName? unit with
    | some unit => .length ⟨n.toFloat, unit⟩
    | none => .other (tokensText ts)
  | [.percentage n] => .percentage n.toFloat
  | [.number n] => .number n.toFloat
  | [.ident name] =>
    let word := Text.lower name
    match Color.ofTokens? ts with
    | some c => if word == "currentcolor" then .keyword word else .color c
    | none => .keyword word
  | ts =>
    match Color.ofTokens? ts with
    | some c => .color c
    | none => .other (tokensText ts)

def ofString (text : String) : Component := ofTokens (trimBlanks (tokenize text))

end Component

/-- The canonical texts of the parts of a value between the blanks outside functions, parentheses
and brackets. -/
def splitComponents (text : String) : List String :=
  let pieces := splitOutside Token.opensGroup Token.closesGroup Token.isBlank 0 (tokenize text)
  (pieces.filter (!·.isEmpty)).map tokensText

end WebStyle
