import WebStyle.Loading.Error
import WebStyle.Url.Parser
/-!
Which address is to be loaded for a reference, and whether an import may be loaded at all.
-/
set_option autoImplicit false

namespace WebStyle

/-- Resolves a reference against the address of the sheet or document that it stands in. A base that
is no address is passed over, and an empty reference refers to nothing. -/
def resolveHref (base : Option String) (href : String) : Except LoadError Url :=
  let trimmed := Text.trim href
  match if trimmed == "" then none else Url.resolve? (base.bind Url.ofString?) trimmed with
  | some url => .ok url
  | none => .error (.unresolvable href base)

/-- Refuses an import by a sheet whose own address and those of the sheets around it are given, if
it is one of them, or if they are as many as the limit allows. -/
def checkImport (url : Url) (chain : List String) (limit : Nat) : Except LoadError Unit :=
  if chain.contains url.text then .error (.cycle url.text)
  else if limit ≤ chain.length then .error (.tooDeep url.text limit)
  else .ok ()

end WebStyle
