import WebStyle.Number.Decimal
/-!
Lengths and their units.
-/
set_option autoImplicit false

namespace WebStyle

inductive LengthUnit where
  | px
  | em
  | rem
  | ex
  | ch
  | vw
  | vh
  | vmin
  | vmax
  | pt
  | pc
  | inch
  | cm
  | mm
  | q
  deriving DecidableEq, Repr

namespace LengthUnit

/-- The units with their names in lower case. -/
def named : List (String × LengthUnit) :=
  [("px", .px), ("em", .em), ("rem", .rem), ("ex", .ex), ("ch", .ch), ("vw", .vw), ("vh", .vh),
   ("vmin", .vmin), ("vmax", .vmax), ("pt", .pt), ("pc", .pc), ("in", .inch), ("cm", .cm),
   ("mm", .mm), ("q", .q)]

/-- The unit of a name in any case. -/
def ofName? (name : String) : Option LengthUnit := named.lookup (Text.lower name)

def name (u : LengthUnit) : String := ((named.find? (·.2 == u)).map (·.1)).getD ""

/-- Pixels per unit, for a unit that depends on nothing else. -/
def pixels? : LengthUnit → Option Float
  | .px => some 1.0
  | .inch => some 96.0
  | .cm => some (96.0 / 2.54)
  | .mm => some (96.0 / 25.4)
  | .q => some (96.0 / 101.6)
  | .pt => some (96.0 / 72.0)
  | .pc => some 16.0
  | _ => none

end LengthUnit

structure Length where
  value : Float
  unit : LengthUnit
  deriving DecidableEq

end WebStyle
