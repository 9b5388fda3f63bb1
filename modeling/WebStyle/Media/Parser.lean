import WebStyle.Media
import WebStyle.Text.Quoted
/-!
Reading media queries. A malformed query in a list becomes the one that matches nothing.
-/
set_option autoImplicit false

namespace WebStyle
namespace MediaReader

/-- A function or parenthesis opens a group; square brackets do not. -/
def opensGroup : Token → Bool
  | .function _ | .openParen => true
  | _ => false

/-- A feature, from what stands between its parentheses. -/
def ofInside? (ts : List Token) : Option MediaFeature :=
  match trimBlanks ts with
  | .ident name :: r =>
    match trimBlanks r with
    | [] => some ⟨Text.lower name, none⟩
    | .colon :: value =>
      let value := trimBlanks value
      if value.isEmpty || value.any Token.isBad then none
      else some ⟨Text.lower name, some (tokensText value)⟩
    | _ => none
  | _ => none

/-- A feature, and what follows its closing parenthesis. -/
def readFeature? : List Token → Option (MediaFeature × List Token)
  | .openParen :: r => do
    let (inside, r) ← splitAtClose? opensGroup (· == .closeParen) 0 r
    some (← ofInside? inside, r)
  | _ => none

theorem readFeature?_length_lt {ts : List Token} {p : MediaFeature × List Token}
    (h : readFeature? ts = some p) : p.2.length < ts.length := by
  unfold readFeature? at h
  split at h
  · simp only [Option.bind_eq_bind, Option.bind_eq_some_iff] at h
    obtain ⟨⟨inside, r⟩, hs, f, _, hp⟩ := h
    have := splitAtClose?_length_lt hs
    simp_all; grind
  · simp at h

/-- Features up to the end, with an `and` before each. -/
def readFeatures? (ts : List Token) : Option (List MediaFeature) :=
  match hs : skipBlanks ts with
  | [] => some []
  | t :: r =>
    if t.isIdent "and" then
      match hf : readFeature? (skipBlanks r) with
      | none => none
      | some (f, rest) =>
        have : rest.length < ts.length := by
          have h1 := readFeature?_length_lt hf
          have h2 := skipBlanks_length_le r
          have h3 := skipBlanks_length_le ts
          rw [hs] at h3
          simp only [List.length_cons] at h1 h3
          omega
        (readFeatures? rest).map (f :: ·)
    else none
  termination_by ts.length

/-- A media type, with a qualifier before it if there is one, and what follows it. The words that
join queries are no types, except after a qualifier. -/
def readType? : List Token → Option (Option MediaQualifier × String × List Token)
  | .ident word :: r =>
    let qualified (q : MediaQualifier) :=
      match skipBlanks r with
      | .ident type :: r => some (some q, Text.lower type, r)
      | _ => none
    match Text.lower word with
    | "only" => qualified .only
    | "not" => qualified .negated
    | "and" | "or" => none
    | word => some (none, word, r)
  | _ => none

end MediaReader

open MediaReader in
/-- The query that a whole run of tokens makes. -/
def MediaQuery.ofTokens? (ts : List Token) : Option MediaQuery := do
  match skipBlanks ts with
  | .ident word :: r =>
    let (qualifier, type, r) ← readType? (.ident word :: r)
    some ⟨qualifier, some type, ← readFeatures? r⟩
  | ts =>
    let (f, r) ← readFeature? ts
    some ⟨none, none, f :: (← readFeatures? r)⟩

/-- The query of a run of tokens; one that matches nothing if they make none. -/
def MediaQuery.ofTokens (ts : List Token) : MediaQuery := (ofTokens? ts).getD notAll

/-- The query that a text holds, if it holds exactly one. -/
def MediaQuery.ofString? (text : String) : Option MediaQuery :=
  let ts := tokenize text
  let q := ofTokens ts
  if ts.contains .comma then none
  else if q == notAll && !Text.sameIgnoringCase (Text.trim text) "not all" then none
  else some q

/-- A medium that is to be taken out of a list, but is not in it or is none at all. -/
structure MissingMedium where
  medium : String
  deriving DecidableEq, Repr

def MissingMedium.message (e : MissingMedium) : String :=
  "medium " ++ Text.quoted e.medium ++ " is not in the list"

namespace MediaList

/-- The queries between the commas outside parentheses; none for a blank text. -/
def ofTokens (ts : List Token) : MediaList :=
  match trimBlanks ts with
  | [] => empty
  | ts =>
    ⟨(splitOutside MediaReader.opensGroup (· == .closeParen) (· == .comma) 0 ts).map
      MediaQuery.ofTokens⟩

def ofString (text : String) : MediaList := ofTokens (tokenize text)

/-- The text of the `i`-th query. -/
def item? (l : MediaList) (i : Nat) : Option String := (l.queries[i]?).map MediaQuery.text

/-- Adds a query at the end, unless it is malformed or already in the list. -/
def append (l : MediaList) (medium : String) : MediaList :=
  match MediaQuery.ofString? medium with
  | none => l
  | some q => if l.queries.contains q then l else ⟨l.queries ++ [q]⟩

/-- Removes every query equal to the given one. -/
def delete (l : MediaList) (medium : String) : Except MissingMedium MediaList :=
  match (MediaQuery.ofString? medium).filter l.queries.contains with
  | none => .error ⟨medium⟩
  | some q => .ok ⟨l.queries.filter (· != q)⟩

end MediaList
end WebStyle
