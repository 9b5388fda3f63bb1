import WebStyle.Style.Matching
import WebStyle.Proofs.Dom.Siblings
/-!
What it means for a complex selector to match: elements can be placed on its compound selectors so
that each satisfies its own, and neighbours lie to each other as the combinators say. The matcher
tries candidates in an order, but finds a placement whenever there is one.
-/
set_option autoImplicit false

namespace WebStyle.Dom

namespace Consistent

variable {d : Dom} (hd : d.Consistent) {n m p : NodeId}
include hd

end Consistent

/-- An element without attributes. -/
def element (tag : String) : NodeContent := .element (.ofAttributes tag [])

end WebStyle.Dom
