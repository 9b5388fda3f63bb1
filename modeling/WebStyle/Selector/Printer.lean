import WebStyle.Selector
/-!
The canonical text of selectors.
-/
set_option autoImplicit false

namespace WebStyle

def Combinator.text : Combinator → String
  | .descendant => " "
  | .child => " > "
  | .nextSibling => " + "
  | .laterSibling => " ~ "

/-- The sign before the equals sign. -/
def AttributeOperator.sign : AttributeOperator → List Char
  | .equals => []
  | .includes => ['~']
  | .dashMatch => ['|']
  | .startsWith => ['^']
  | .endsWith => ['$']
  | .contains => ['*']

def AttributeOperator.chars (o : AttributeOperator) : List Char := o.sign ++ ['=']

def AttributeTest.chars : AttributeTest → List Char
  | .present name => '[' :: Printer.name name.toList ++ [']']
  | .compares name operator value ignoreCase =>
    let flag := if ignoreCase then [' ', 'i'] else []
    '[' :: Printer.name name.toList ++ operator.chars ++ Printer.string value.toList ++ flag ++ [']']

namespace PseudoClass

/-- A function of the given name with a formula for its argument. -/
def formulaChars (name : String) (f : Nth) : List Char := name.toList ++ '(' :: f.chars ++ [')']

/-- The pseudo-class without its colon. -/
def nameChars : PseudoClass → List Char
  | .firstChild => "first-child".toList
  | .lastChild => "last-child".toList
  | .onlyChild => "only-child".toList
  | .firstOfType => "first-of-type".toList
  | .lastOfType => "last-of-type".toList
  | .onlyOfType => "only-of-type".toList
  | .nthChild f => formulaChars "nth-child" f
  | .nthLastChild f => formulaChars "nth-last-child" f
  | .nthOfType f => formulaChars "nth-of-type" f
  | .nthLastOfType f => formulaChars "nth-last-of-type" f
  | .empty => "empty".toList
  | .root => "root".toList
  | .checked => "checked".toList
  | .disabled => "disabled".toList
  | .enabled => "enabled".toList
  | .focus => "focus".toList
  | .target => "target".toList
  | .hover => "hover".toList
  | .active => "active".toList
  | .link => "link".toList
  | .visited => "visited".toList

def chars (p : PseudoClass) : List Char := ':' :: p.nameChars

def text (p : PseudoClass) : String := String.ofList p.chars

end PseudoClass

def Condition.chars : Condition → List Char
  | .type name => Printer.name name.toList
  | .universal => ['*']
  | .id name => '#' :: Printer.name name.toList
  | .hasClass name => '.' :: Printer.name name.toList
  | .attribute test => test.chars
  | .pseudoClass p => p.chars

def SimpleSelector.chars : SimpleSelector → List Char
  | .plain c => c.chars
  | .negation cs => ":not(".toList ++ cs.flatMap Condition.chars ++ [')']

def CompoundSelector.chars (c : CompoundSelector) : List Char :=
  c.simples.flatMap SimpleSelector.chars ++
    match c.pseudoElement with
    | none => []
    | some p => p.key.toList

namespace ComplexSelector

/-- The compound selectors to the left of a subject, with the combinators after them. -/
def linkChars : List (Combinator × CompoundSelector) → List Char
  | [] => []
  | (k, c) :: more => linkChars more ++ c.chars ++ k.text.toList

def chars (s : ComplexSelector) : List Char := linkChars s.links ++ s.subject.chars

def text (s : ComplexSelector) : String := String.ofList s.chars

end ComplexSelector

/-- The selectors of a list, with commas between them. -/
def SelectorList.chars (l : SelectorList) : List Char :=
  List.intercalate [',', ' '] (l.map ComplexSelector.chars)

def SelectorList.text (l : SelectorList) : String := String.ofList (SelectorList.chars l)

end WebStyle
