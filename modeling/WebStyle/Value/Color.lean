import WebStyle.Token.Printer
/-!
Colors: the names of CSS Color Module Level 3 that are known, hexadecimal notation, and the
functions `rgb` and `hsl`.
-/
set_option autoImplicit false

namespace WebStyle

/-- A color with its opacity, from 0 to 1. -/
structure Color where
  red : UInt8
  green : UInt8
  blue : UInt8
  alpha : Float
  deriving DecidableEq

namespace Color

def opaqueRgb (red green blue : UInt8) : Color := ⟨red, green, blue, 1.0⟩

def black : Color := opaqueRgb 0 0 0

/-- The color's text, without an opacity of one. -/
def text (c : Color) : String :=
  let channels := s!"{c.red.toNat}, {c.green.toNat}, {c.blue.toNat}"
  if 1.0 ≤ c.alpha then "rgb(" ++ channels ++ ")"
  else "rgba(" ++ channels ++ ", " ++ formatNumber c.alpha ++ ")"

/-- The known names, in lower case. The color of `currentcolor` depends on the element; black stands
in for it. -/
def named : List (String × Color) :=
  [("transparent", ⟨0, 0, 0, 0.0⟩),
   ("black", black),
   ("silver", opaqueRgb 192 192 192),
   ("gray", opaqueRgb 128 128 128),
   ("grey", opaqueRgb 128 128 128),
   ("white", opaqueRgb 255 255 255),
   ("maroon", opaqueRgb 128 0 0),
   ("red", opaqueRgb 255 0 0),
   ("purple", opaqueRgb 128 0 128),
   ("fuchsia", opaqueRgb 255 0 255),
   ("magenta", opaqueRgb 255 0 255),
   ("green", opaqueRgb 0 128 0),
   ("lime", opaqueRgb 0 255 0),
   ("olive", opaqueRgb 128 128 0),
   ("yellow", opaqueRgb 255 255 0),
   ("navy", opaqueRgb 0 0 128),
   ("blue", opaqueRgb 0 0 255),
   ("teal", opaqueRgb 0 128 128),
   ("aqua", opaqueRgb 0 255 255),
   ("cyan", opaqueRgb 0 255 255),
   ("orange", opaqueRgb 255 165 0),
   ("pink", opaqueRgb 255 192 203),
   ("brown", opaqueRgb 165 42 42),
   ("gold", opaqueRgb 255 215 0),
   ("indigo", opaqueRgb 75 0 130),
   ("violet", opaqueRgb 238 130 238),
   ("darkgray", opaqueRgb 169 169 169),
   ("darkgrey", opaqueRgb 169 169 169),
   ("lightgray", opaqueRgb 211 211 211),
   ("lightgrey", opaqueRgb 211 211 211),
   ("darkred", opaqueRgb 139 0 0),
   ("darkgreen", opaqueRgb 0 100 0),
   ("darkblue", opaqueRgb 0 0 139),
   ("lightblue", opaqueRgb 173 216 230),
   ("lightgreen", opaqueRgb 144 238 144),
   ("whitesmoke", opaqueRgb 245 245 245),
   ("rebeccapurple", opaqueRgb 102 51 153),
   ("currentcolor", black)]

def ofName? (name : String) : Option Color := named.lookup (Text.lower name)

/-- A color of three, four, six or eight hexadecimal digits. A single digit for a channel stands for
two of it, and the opacity may be left out. -/
def ofHex? (hex : String) : Option Color :=
  let digits := hex.toList
  let make (r g b a : Nat) : Color :=
    ⟨r.toUInt8, g.toUInt8, b.toUInt8, Float.ofNat a / 255.0⟩
  if digits.all Text.isHexDigit then
    match digits.map Text.hexValue with
    | [r, g, b] => some (make (r * 17) (g * 17) (b * 17) 255)
    | [r, g, b, a] => some (make (r * 17) (g * 17) (b * 17) (a * 17))
    | [r, r', g, g', b, b'] => some (make (r * 16 + r') (g * 16 + g') (b * 16 + b') 255)
    | [r, r', g, g', b, b', a, a'] =>
      some (make (r * 16 + r') (g * 16 + g') (b * 16 + b') (a * 16 + a'))
    | _ => none
  else none

/-- The channel nearest to a number, a half going away from zero. -/
def channel (x : Float) : UInt8 :=
  match Binary64.ofFloat x with
  | .notANumber => 0
  | .infinite negative => if negative then 0 else 255
  | y => (min 255 (y.round?.getD 0).toNat).toUInt8

/-- The number itself between 0 and 1, else the nearer of the two. -/
def clampUnit (x : Float) : Float := if x < 0.0 then 0.0 else if 1.0 < x then 1.0 else x

/-- An opacity; it is one where it is missing. -/
def alpha? : List Token → Option Float
  | [] => some 1.0
  | .number n :: _ => some (clampUnit n.toFloat)
  | .percentage p :: _ => some (clampUnit (p.toFloat / 100.0))
  | _ => none

/-- A channel of `rgb`: a number up to 255, or a percentage. -/
def rgbChannel? : Token → Option UInt8
  | .number n => some (channel n.toFloat)
  | .percentage p => some (channel (p.toFloat * 2.55))
  | _ => none

def ofRgb? (red green blue : Token) (alpha : List Token) : Option Color := do
  some ⟨← rgbChannel? red, ← rgbChannel? green, ← rgbChannel? blue, ← alpha? alpha⟩

/-- A hue in degrees. -/
def hue? : Token → Option Float
  | .number n => some n.toFloat
  | .dimension n unit => if Text.sameIgnoringCase unit "deg" then some n.toFloat else none
  | _ => none

/-- A share of the whole. -/
def share? : Token → Option Float
  | .percentage p => some (clampUnit (p.toFloat / 100.0))
  | _ => none

/-- The remainder on division by `k`, at least zero. -/
def modulo (k : Nat) (x : Float) : Float := ((Binary64.ofFloat x).modulo k).toFloat

/-- One channel at `t` of the way around the color circle, between the least and the greatest
intensity. -/
def hslChannel (least greatest t : Float) : UInt8 :=
  let t := modulo 1 t
  let v :=
    if t < 1.0 / 6.0 then least + (greatest - least) * 6.0 * t
    else if t < 0.5 then greatest
    else if t < 2.0 / 3.0 then least + (greatest - least) * (2.0 / 3.0 - t) * 6.0
    else least
  channel (v * 255.0)

def ofHsl (hue saturation lightness alpha : Float) : Color :=
  if saturation == 0.0 then
    let v := channel (lightness * 255.0)
    ⟨v, v, v, alpha⟩
  else
    let h := modulo 360 hue / 360.0
    let greatest :=
      if lightness < 0.5 then lightness * (1.0 + saturation)
      else lightness + saturation - lightness * saturation
    let least := 2.0 * lightness - greatest
    ⟨hslChannel least greatest (h + 1.0 / 3.0), hslChannel least greatest h,
      hslChannel least greatest (h - 1.0 / 3.0), alpha⟩

def ofHsl? (hue saturation lightness : Token) (alpha : List Token) : Option Color := do
  some (ofHsl (← hue? hue) (← share? saturation) (← share? lightness) (← alpha? alpha))

/-- The arguments of a color function; commas, slashes and blanks only separate them. -/
def arguments (ts : List Token) : List Token :=
  ts.filter fun t => !(t matches .blank | .comma | .delim '/')

def ofFunction? (name : String) (args : List Token) : Option Color :=
  match arguments args with
  | a :: b :: c :: alpha =>
    if 1 < alpha.length then none
    else match Text.lower name with
      | "rgb" | "rgba" => ofRgb? a b c alpha
      | "hsl" | "hsla" => ofHsl? a b c alpha
      | _ => none
  | _ => none

/-- The color that a run of tokens without outer blanks makes. -/
def ofTokens? : List Token → Option Color
  | [.ident name] => ofName? name
  | [.hash hex _] => ofHex? hex
  | .function name :: r => if r.getLast? == some .closeParen then ofFunction? name r.dropLast else none
  | _ => none

def ofString? (text : String) : Option Color := ofTokens? (trimBlanks (tokenize text))

end Color
end WebStyle
