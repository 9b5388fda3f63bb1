import WebStyle.Number.Decimal
/-!
The tokens of CSS Syntax Level 3. Comments are no tokens, and a run of blanks is one token.
-/
set_option autoImplicit false

namespace WebStyle

inductive Token where
  | ident (name : String)
  | function (name : String)
  | atKeyword (name : String)
  /-- A name after a number sign; `isId` tells whether the name alone would be an identifier. -/
  | hash (name : String) (isId : Bool)
  | string (value : String)
  /-- A string that ran into an unescaped line end. -/
  | badString
  /-- A whole `url(...)`, quoted or not; the address has its escapes resolved. -/
  | url (address : String)
  | badUrl
  | number (value : Numeral)
  | percentage (value : Numeral)
  | dimension (value : Numeral) (unit : String)
  | blank
  | colon
  | semicolon
  | comma
  | openSquare
  | closeSquare
  | openParen
  | closeParen
  | openBrace
  | closeBrace
  | delim (c : Char)
  /-- The mark that opens a comment in markup. -/
  | markupOpen
  /-- The mark that closes a comment in markup. -/
  | markupClose
  deriving DecidableEq, Repr, Inhabited

namespace Token

def isBlank : Token → Bool
  | .blank => true
  | _ => false

/-- Whether the token spoils every declaration and prelude that holds it. -/
def isBad : Token → Bool
  | .badString | .badUrl => true
  | _ => false

/-- Whether the token is the given identifier, in any case. -/
def isIdent (name : String) : Token → Bool
  | .ident s => Text.sameIgnoringCase s name
  | _ => false

/-- A function, parenthesis or square bracket opens a group that ends with a closing token. -/
def opensGroup : Token → Bool
  | .function _ | .openParen | .openSquare => true
  | _ => false

def closesGroup : Token → Bool
  | .closeParen | .closeSquare => true
  | _ => false

end Token

/-- A run of tokens without the blanks at its ends. -/
abbrev trimBlanks (tokens : List Token) : List Token := trimBy Token.isBlank tokens

/-- A run of tokens without the blanks at its start. -/
abbrev skipBlanks (tokens : List Token) : List Token := tokens.dropWhile Token.isBlank

theorem skipBlanks_length_le (tokens : List Token) : (skipBlanks tokens).length ≤ tokens.length :=
  (List.dropWhile_sublist _).length_le

end WebStyle
