import WebStyle.Url.Host
/-!
Absolute addresses in their normal form.
-/
set_option autoImplicit false

namespace WebStyle

namespace Url

inductive Path where
  /-- A path without parts, of a scheme that has no hierarchy. -/
  | whole (text : String)
  | segments (segments : List String)
  deriving DecidableEq, Repr

end Url

structure Url where
  scheme : String
  user : String
  password : String
  host : Option Url.Host
  /-- The port, unless it is the scheme's own. -/
  port : Option Nat
  path : Url.Path
  query : Option String
  fragment : Option String
  deriving DecidableEq, Repr

namespace Url

/-- The port of a special scheme; files have none. -/
def schemePort? (scheme : String) : Option Nat :=
  [("http", 80), ("https", 443), ("ws", 80), ("wss", 443), ("ftp", 21)].lookup scheme

/-- The schemes that always have a host and a path. -/
def isSpecialScheme (scheme : String) : Bool := scheme == "file" || (schemePort? scheme).isSome

def isSpecial (u : Url) : Bool := isSpecialScheme u.scheme

/-- The parts of the path, if it has any. -/
def segments? (u : Url) : Option (List String) :=
  match u.path with
  | .segments l => some l
  | .whole _ => none

def credentialsText (u : Url) : String :=
  if u.user == "" && u.password == "" then ""
  else u.user ++ (if u.password == "" then "" else ":" ++ u.password) ++ "@"

/-- The host with what belongs to it. Without one, a path that would look like one gets a dot. -/
def authorityText (u : Url) : String :=
  match u.host with
  | some host =>
    "//" ++ u.credentialsText ++ host.text
      ++ ((u.port.map fun port => ":" ++ toString port).getD "")
  | none =>
    match u.path with
    | .segments ("" :: _ :: _) => "/."
    | _ => ""

def Path.text : Path → String
  | .whole text => text
  | .segments l => String.join (l.map ("/" ++ ·))

def text (u : Url) : String :=
  u.scheme ++ ":" ++ u.authorityText ++ u.path.text ++ ((u.query.map ("?" ++ ·)).getD "")
    ++ ((u.fragment.map ("#" ++ ·)).getD "")

end Url
end WebStyle
