import WebStyle.Sheet.Error
/-!
Declarations of properties. A malformed declaration is dropped, and the ones around it stay.
-/
set_option autoImplicit false

namespace WebStyle

/-- A property with its value. The name is in lower case unless the property is a custom one; the
value is canonical text. -/
structure Declaration where
  name : String
  value : String
  important : Bool
  deriving DecidableEq, Repr

/-- The names of custom properties start with two hyphens, and keep their case. -/
def isCustomName (name : String) : Bool := ['-', '-'].isPrefixOf name.toList

namespace Declaration

/-- Whether a value may hold the token. -/
def allowsToken : Token → Bool
  | .badString | .badUrl | .openBrace | .closeBrace | .semicolon => false
  | _ => true

/-- Takes the priority off a value: an exclamation mark with the word for it, at the end. Outside
functions and brackets the mark is good for nothing else. -/
def splitPriority? (value : List Token) : Option (List Token × Bool) :=
  let value := trimBlanks value
  match splitOutside Token.opensGroup Token.closesGroup (· == .delim '!') 0 value with
  | [_] => some (value, false)
  | [before, after] =>
    match trimBlanks after with
    | [flag] => if flag.isIdent "important" then some (trimBlanks before, true) else none
    | _ => none
  | _ => none

/-- The declaration that a whole run of tokens makes. Only a custom property may have an empty
value. -/
def ofTokens? (ts : List Token) : Option Declaration :=
  match trimBlanks ts with
  | .ident name :: r =>
    match trimBlanks r with
    | .colon :: value => do
      let (value, important) ← splitPriority? value
      let custom := isCustomName name
      if !value.all allowsToken || (value.isEmpty && !custom) then none
      else some ⟨if custom then name else Text.lower name, tokensText value, important⟩
    | _ => none
  | _ => none

def ofString? (text : String) : Option Declaration := ofTokens? (tokenize text)

def opensGroup : Token → Bool
  | .openBrace => true
  | t => t.opensGroup

def closesGroup : Token → Bool
  | .closeBrace => true
  | t => t.closesGroup

/-- The tokens between the semicolons outside groups, blank runs left out. -/
def chunks (ts : List Token) : List (List Token) :=
  (splitOutside opensGroup closesGroup (· == .semicolon) 0 ts).filter (!·.all Token.isBlank)

/-- The declarations of a block, and the pieces of it that make none. -/
def listOfTokens (ts : List Token) : List Declaration × List Dropped :=
  ((chunks ts).filterMap ofTokens?,
   (chunks ts).filterMap fun chunk =>
     if (ofTokens? chunk).isNone then some (.ofTokens .invalidDeclaration chunk) else none)

/-- The declarations between the braces of a rule, or in a `style` attribute. -/
def listOfString (text : String) : List Declaration := (listOfTokens (tokenize text)).1

end Declaration

/-- The canonical text of a value on its own, without a priority. -/
def valueText? (text : String) : Option String :=
  let ts := trimBlanks (tokenize text)
  if ts.isEmpty || !ts.all Declaration.allowsToken || ts.contains (.delim '!') then none
  else some (tokensText ts)

end WebStyle
