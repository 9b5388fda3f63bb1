import WebStyle.Token.Printer
import WebStyle.Text.Quoted
/-!
What can be wrong with a style sheet or with a single rule, and how it is told.
-/
set_option autoImplicit false

namespace WebStyle

/-- Why a piece of a style sheet was dropped. -/
inductive DropCause where
  | invalidSelector
  | unbalancedBlock
  | missingBlock
  | invalidDeclaration
  | invalidImport
  | misplacedImport
  | invalidPrelude
  | unexpectedToken
  deriving DecidableEq, Repr

def DropCause.message : DropCause → String
  | .invalidSelector => "invalid selector"
  | .unbalancedBlock => "unbalanced block"
  | .missingBlock => "missing rule body"
  | .invalidDeclaration => "invalid declaration"
  | .invalidImport => "invalid @import"
  | .misplacedImport => "@import after other rules"
  | .invalidPrelude => "invalid at-rule prelude"
  | .unexpectedToken => "unexpected token"

/-- A piece that was dropped while reading went on, with the start of its text. -/
structure Dropped where
  cause : DropCause
  snippet : String
  deriving DecidableEq, Repr

namespace Dropped

/-- Snippets take at most this many bytes. -/
def snippetLimit : Nat := 60

/-- Records that the tokens were dropped. -/
def ofTokens (cause : DropCause) (tokens : List Token) : Dropped :=
  ⟨cause, String.ofList (Text.takeBytes snippetLimit (tokensText tokens).toList)⟩

def message (d : Dropped) : String := d.cause.message ++ " near " ++ Text.quoted d.snippet

end Dropped

/-- Why a text does not hold exactly one selector list or one rule. -/
inductive SyntaxError where
  | invalidSelector (text : String)
  | emptyRule (text : String)
  | trailingContent (text : String)
  | malformedRule (text : String) (cause : DropCause)
  deriving DecidableEq, Repr

def SyntaxError.message : SyntaxError → String
  | .invalidSelector text => "invalid selector: " ++ Text.quoted text
  | .emptyRule text => "no rule found in " ++ Text.quoted text
  | .trailingContent text => "expected a single rule but found more in " ++ Text.quoted text
  | .malformedRule text cause => "malformed rule " ++ Text.quoted text ++ ": " ++ cause.message

end WebStyle
