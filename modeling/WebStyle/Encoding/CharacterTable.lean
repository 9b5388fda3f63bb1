/-!
Tables of characters by their positions in a character set.
-/
set_option autoImplicit false

namespace WebStyle

/-- Lines of equal width, the last ones of which may be cut short. A space stands where there is no
character. -/
structure CharacterTable where
  width : Nat
  lines : List String

namespace CharacterTable

/-- The character at a position. -/
def char? (t : CharacterTable) (i : Nat) : Option Char := do
  let line ← t.lines[i / t.width]?
  let c ← line.toList[i % t.width]?
  if c == ' ' then none else some c

end CharacterTable
end WebStyle
