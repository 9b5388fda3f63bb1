import WebStyle.ObjectModel.Error
/-!
The texts of rules and sheets. Each rule starts on a line of its own, and the rules inside a media
rule are indented.
-/
set_option autoImplicit false

namespace WebStyle

/-- The declarations of a rule with the braces around them. -/
def DeclarationBlock.bracedText (b : DeclarationBlock) : String :=
  if b.declarations.isEmpty then "\x7b\n\x7d" else "\x7b " ++ b.text ++ " \x7d"

/-- Indents the lines of a text but the first. A carriage return before a line feed belongs to the
line end. -/
def indentedChars : List Char → List Char
  | '\r' :: '\n' :: r | '\n' :: r => '\n' :: ' ' :: ' ' :: indentedChars r
  | c :: r => c :: indentedChars r
  | [] => []

/-- Puts a text on new lines, indented. -/
def indentedText (s : String) : String := "\n  " ++ String.ofList (indentedChars s.toList)

namespace RuleContent

/-- The text of a rule, given the texts of the rules inside it. -/
def text (inner : List String) : RuleContent → String
  | .style selectors block => SelectorList.text selectors ++ " " ++ block.bracedText
  | .media l _ =>
    (if l.queries.isEmpty then "@media \x7b" else "@media " ++ l.text ++ " \x7b")
      ++ String.join (inner.map indentedText) ++ "\n\x7d"
  | .importing href l _ =>
    "@import url(" ++ stringText href ++ ")"
      ++ (if l.queries.isEmpty then "" else " " ++ l.text) ++ ";"
  | .fontFace block => "@font-face " ++ block.bracedText
  | .page selector block =>
    (if selector == "" then "@page " else "@page " ++ selector ++ " ") ++ block.bracedText

end RuleContent

namespace ObjectModel

/-- The text of a rule that holds others to at most the given depth. -/
def ruleTextFuel (m : ObjectModel) : Nat → RuleId → Except ModelError String
  | 0, _ => .error .stale
  | fuel + 1, r => do
    let rule ← m.rule r
    pure (rule.content.text (← rule.content.children.mapM (m.ruleTextFuel fuel)))

def ruleText (m : ObjectModel) (r : RuleId) : Except ModelError String :=
  m.ruleTextFuel (m.rules.slots.size + 1) r

def sheetText (m : ObjectModel) (s : SheetId) : Except ModelError String := do
  pure (String.intercalate "\n" (← (← m.sheet s).rules.mapM m.ruleText))

end ObjectModel
end WebStyle
