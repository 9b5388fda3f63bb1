import WebStyle.Token.Lexer
/-!
Canonical text: of identifiers and strings, with the escapes that reading them needs, of single
tokens, and of runs of tokens.
-/
set_option autoImplicit false

namespace WebStyle
namespace Printer

/-- A character as its code point, with the blank that ends such an escape. -/
def hexEscape (c : Char) : List Char := '\\' :: Text.hexDigits c.toNat ++ [' ']

/-- A character inside a name. -/
def nameChar (c : Char) : List Char :=
  if Text.isControl c then hexEscape c
  else if Lexer.isNameChar c then [c]
  else ['\\', c]

/-- A character where a name may not have a digit. -/
def leadingChar (c : Char) : List Char := if c.isDigit then hexEscape c else nameChar c

/-- A name, escaped so that it reads as one identifier: no digit stands at its start or after a
hyphen there, and a lone hyphen is escaped. -/
def name : List Char → List Char
  | ['-'] => ['\\', '-']
  | '-' :: c :: r => '-' :: leadingChar c ++ r.flatMap nameChar
  | c :: r => leadingChar c ++ r.flatMap nameChar
  | [] => []

def stringChar (c : Char) : List Char :=
  if c == '"' || c == '\\' then ['\\', c]
  else if Text.isControl c then hexEscape c
  else [c]

/-- A string between double quotes. -/
def string (cs : List Char) : List Char := '"' :: cs.flatMap stringChar ++ ['"']

/-- A character of a name after a number sign. -/
def hashChar (c : Char) : List Char := if Lexer.isNameChar c then [c] else ['\\', c]

end Printer

/-- The canonical text of an identifier. -/
def identifierText (s : String) : String := String.ofList (Printer.name s.toList)

/-- The canonical text of a string, in double quotes. -/
def stringText (s : String) : String := String.ofList (Printer.string s.toList)

namespace Token

/-- A token in source form. -/
def chars : Token → List Char
  | .ident s => Printer.name s.toList
  | .function s => Printer.name s.toList ++ ['(']
  | .atKeyword s => '@' :: Printer.name s.toList
  | .hash s _ => '#' :: s.toList.flatMap Printer.hashChar
  | .string s => Printer.string s.toList
  | .badString => ['"']
  | .url s => "url(".toList ++ Printer.string s.toList ++ [')']
  | .badUrl => "url()".toList
  | .number n => n.text.toList
  | .percentage n => n.text.toList ++ ['%']
  | .dimension n unit => n.text.toList ++ unit.toList
  | .blank => [' ']
  | .colon => [':']
  | .semicolon => [';']
  | .comma => [',']
  | .openSquare => ['[']
  | .closeSquare => [']']
  | .openParen => ['(']
  | .closeParen => [')']
  | .openBrace => ['\x7b']
  | .closeBrace => ['\x7d']
  | .delim c => [c]
  | .markupOpen => "<!--".toList
  | .markupClose => "-->".toList

end Token

namespace Printer

/-- Writes tokens after a text that ends with `last`. A blank is owed if `owed`; it is not paid
after an opening parenthesis or another blank, nor before a comma or a closing parenthesis. -/
def run (last : Option Char) (owed : Bool) : List Token → List Char
  | [] => []
  | .blank :: ts => run last last.isSome ts
  | .comma :: ts => ',' :: ' ' :: run (some ' ') false ts
  | .closeParen :: ts => ')' :: run (some ')') false ts
  | t :: ts =>
    let pays := owed && last != some '(' && last != some ' '
    let text := if pays then ' ' :: t.chars else t.chars
    text ++ run (text.getLast?.or last) false ts

end Printer

/-- The canonical text of a run of tokens: no blanks at its ends, one in place of each run of them
within, none inside parentheses, and exactly one after each comma. -/
def tokensText (tokens : List Token) : String :=
  String.ofList ((Printer.run none false tokens).reverse.dropWhile Text.isBlank).reverse

end WebStyle
