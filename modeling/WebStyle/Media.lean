import WebStyle.Token.Printer
/-!
Media queries and lists of them, with their canonical text.
-/
set_option autoImplicit false

namespace WebStyle

inductive MediaQualifier where
  | only
  | negated
  deriving DecidableEq, Repr

/-- A feature in parentheses; its name is in lower case, and its value is canonical text. -/
structure MediaFeature where
  name : String
  value : Option String
  deriving DecidableEq, Repr

/-- A media query; its type is in lower case. A query that starts with a feature has none. -/
structure MediaQuery where
  qualifier : Option MediaQualifier
  mediaType : Option String
  features : List MediaFeature
  deriving DecidableEq, Repr

def MediaFeature.chars (f : MediaFeature) : List Char :=
  match f.value with
  | none => '(' :: f.name.toList ++ [')']
  | some v => '(' :: f.name.toList ++ ':' :: ' ' :: v.toList ++ [')']

namespace MediaQuery

/-- The query that matches nothing, which stands for every malformed one. -/
def notAll : MediaQuery := ⟨some .negated, some "all", []⟩

def chars (q : MediaQuery) : List Char :=
  let qualifier := match q.qualifier with
    | none => []
    | some .only => "only ".toList
    | some .negated => "not ".toList
  let parts := (q.mediaType.map fun t => Printer.name t.toList).toList
    ++ q.features.map MediaFeature.chars
  qualifier ++ List.intercalate " and ".toList parts

def text (q : MediaQuery) : String := String.ofList q.chars

end MediaQuery

/-- The queries of a `media` attribute or of a rule. -/
structure MediaList where
  queries : List MediaQuery
  deriving DecidableEq, Repr, Inhabited

namespace MediaList

def empty : MediaList := ⟨[]⟩

def chars (l : MediaList) : List Char := List.intercalate [',', ' '] (l.queries.map MediaQuery.chars)

def text (l : MediaList) : String := String.ofList l.chars

end MediaList
end WebStyle
