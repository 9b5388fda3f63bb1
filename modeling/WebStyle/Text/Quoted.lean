import WebStyle.Text.Ascii
import WebStyle.Text.Printable
/-!
Texts between double quotes, as messages show them: the quote, the backslash, line ends, tabs and
the null character have short escapes, other unprintable characters a code point in hexadecimal.
-/
set_option autoImplicit false

namespace WebStyle.Text

def quotedChar (c : Char) : List Char :=
  match c with
  | '"' => ['\\', '"']
  | '\\' => ['\\', '\\']
  | '\n' => ['\\', 'n']
  | '\r' => ['\\', 'r']
  | '\t' => ['\\', 't']
  | '\x00' => ['\\', '0']
  | c =>
    if isPrintable c then [c]
    else ['\\', 'u', '\x7b'] ++ hexDigits c.toNat ++ ['\x7d']

def quoted (s : String) : String :=
  String.ofList ('"' :: s.toList.flatMap quotedChar ++ ['"'])

/-- An optional text as messages show it: `None`, or `Some` with the quoted text. -/
def quotedOption : Option String → String
  | none => "None"
  | some s => "Some(" ++ quoted s ++ ")"

end WebStyle.Text
