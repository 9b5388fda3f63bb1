import WebStyle.Table
/-!
Specified values: what the cascade settles for each property, before anything is computed.
-/
set_option autoImplicit false

namespace WebStyle

inductive SpecifiedValue where
  | declared (text : String)
  /-- The value of a shorthand that sets the property, but mentions custom properties; it is expanded
  once they are known. -/
  | pending (shorthand value : String)
  deriving DecidableEq, Repr

/-- The declared text, or that of the shorthand. -/
def SpecifiedValue.text : SpecifiedValue → String
  | .declared text => text
  | .pending _ value => value

abbrev SpecifiedValues := Table String SpecifiedValue

end WebStyle
