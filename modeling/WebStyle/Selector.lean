import WebStyle.Selector.Nth
/-!
Selectors of Selectors Level 3: what they are made of, and how specific they are.
-/
set_option autoImplicit false

namespace WebStyle

/-- How the element on the right of a combinator lies to the one on its left. -/
inductive Combinator where
  | descendant
  | child
  | nextSibling
  | laterSibling
  deriving DecidableEq, Repr

inductive AttributeOperator where
  | equals
  | includes
  | dashMatch
  | startsWith
  | endsWith
  | contains
  deriving DecidableEq, Repr

/-- A test on the attribute of a lower-case name: that it is there, or how its value compares. -/
inductive AttributeTest where
  | present (name : String)
  | compares (name : String) (operator : AttributeOperator) (value : String) (ignoreCase : Bool)
  deriving DecidableEq, Repr

/-- Pseudo-classes other than the negation. -/
inductive PseudoClass where
  | firstChild
  | lastChild
  | onlyChild
  | firstOfType
  | lastOfType
  | onlyOfType
  | nthChild (f : Nth)
  | nthLastChild (f : Nth)
  | nthOfType (f : Nth)
  | nthLastOfType (f : Nth)
  | empty
  | root
  | checked
  | disabled
  | enabled
  | focus
  | target
  | hover
  | active
  | link
  | visited
  deriving DecidableEq, Repr

inductive PseudoElement where
  | before
  | after
  | firstLine
  | firstLetter
  deriving DecidableEq, Repr

/-- A condition on one element. -/
inductive Condition where
  | type (name : String)
  | universal
  | id (name : String)
  | hasClass (name : String)
  | attribute (test : AttributeTest)
  | pseudoClass (p : PseudoClass)
  deriving DecidableEq, Repr

/-- A simple selector: a condition, or the negation of several that hold together. Negations do not
nest. -/
inductive SimpleSelector where
  | plain (c : Condition)
  | negation (cs : List Condition)
  deriving DecidableEq, Repr

/-- Simple selectors for one element, and the pseudo-element of it that is meant. -/
structure CompoundSelector where
  simples : List SimpleSelector
  pseudoElement : Option PseudoElement
  deriving DecidableEq, Repr

/-- A chain of compound selectors. The subject is the rightmost one; the links lead from it to the
left, each with the combinator that stands between. -/
structure ComplexSelector where
  subject : CompoundSelector
  links : List (Combinator × CompoundSelector)
  deriving DecidableEq, Repr

abbrev SelectorList := List ComplexSelector

/-- How many ids, how many classes, attributes and pseudo-classes, and how many types and
pseudo-elements a selector names. -/
structure Specificity where
  ids : Nat
  classes : Nat
  types : Nat
  deriving DecidableEq, Repr

namespace Specificity

def zero : Specificity := ⟨0, 0, 0⟩

def add (s t : Specificity) : Specificity :=
  ⟨s.ids + t.ids, s.classes + t.classes, s.types + t.types⟩

instance : Add Specificity := ⟨add⟩

/-- Ids count before classes, and classes before types. -/
def cmp (s t : Specificity) : Ordering :=
  (compare s.ids t.ids).then ((compare s.classes t.classes).then (compare s.types t.types))

instance : Ord Specificity := ⟨cmp⟩

/-- The greater of two; the first if they are equal. -/
def max (s t : Specificity) : Specificity := if cmp s t == .lt then t else s

end Specificity

def Condition.specificity : Condition → Specificity
  | .id _ => ⟨1, 0, 0⟩
  | .hasClass _ | .attribute _ | .pseudoClass _ => ⟨0, 1, 0⟩
  | .type _ => ⟨0, 0, 1⟩
  | .universal => .zero

/-- A negation counts as what it negates. -/
def SimpleSelector.specificity : SimpleSelector → Specificity
  | .plain c => c.specificity
  | .negation cs => cs.foldl (fun s c => s + c.specificity) .zero

def CompoundSelector.specificity (c : CompoundSelector) : Specificity :=
  let simples := c.simples.foldl (fun s x => s + x.specificity) .zero
  if c.pseudoElement.isSome then simples + ⟨0, 0, 1⟩ else simples

namespace ComplexSelector

/-- The pseudo-element that the selector selects; only its subject can name one. -/
def pseudoElement (s : ComplexSelector) : Option PseudoElement := s.subject.pseudoElement

/-- The compound selectors from right to left. -/
def compounds (s : ComplexSelector) : List CompoundSelector := s.subject :: s.links.map (·.2)

def specificity (s : ComplexSelector) : Specificity :=
  s.compounds.foldl (fun acc c => acc + c.specificity) .zero

/-- Makes `c` the new subject, with the old one to the left of it. -/
def extend (s : ComplexSelector) (k : Combinator) (c : CompoundSelector) : ComplexSelector :=
  ⟨c, (k, s.subject) :: s.links⟩

end ComplexSelector

/-- The highest specificity of the selectors of a list. -/
def SelectorList.specificity (l : SelectorList) : Specificity :=
  (l.map (·.specificity)).foldl Specificity.max .zero

namespace PseudoClass

/-- The pseudo-classes without an argument, with their names. -/
def named : List (String × PseudoClass) :=
  [("first-child", .firstChild), ("last-child", .lastChild), ("only-child", .onlyChild),
   ("first-of-type", .firstOfType), ("last-of-type", .lastOfType), ("only-of-type", .onlyOfType),
   ("empty", .empty), ("root", .root), ("checked", .checked), ("disabled", .disabled),
   ("enabled", .enabled), ("focus", .focus), ("target", .target), ("hover", .hover),
   ("active", .active), ("link", .link), ("visited", .visited)]

def ofName? (name : String) : Option PseudoClass := named.lookup (Text.lower name)

/-- The pseudo-class of a name that takes a formula. -/
def ofFormula? (name : String) (f : Nth) : Option PseudoClass :=
  match Text.lower name with
  | "nth-child" => some (.nthChild f)
  | "nth-last-child" => some (.nthLastChild f)
  | "nth-of-type" => some (.nthOfType f)
  | "nth-last-of-type" => some (.nthLastOfType f)
  | _ => none

end PseudoClass

namespace PseudoElement

def name : PseudoElement → String
  | .before => "before"
  | .after => "after"
  | .firstLine => "first-line"
  | .firstLetter => "first-letter"

/-- The canonical name, after two colons. -/
def key (p : PseudoElement) : String := "::" ++ p.name

/-- The pseudo-element of a name in any case, which may have one or two colons before it and blanks
around it. -/
def ofKey? (key : String) : Option PseudoElement :=
  let key := Text.trim key
  let bare := ((Text.after? "::" key).or (Text.after? ":" key)).getD key
  match Text.lower bare with
  | "before" => some .before
  | "after" => some .after
  | "first-line" => some .firstLine
  | "first-letter" => some .firstLetter
  | _ => none

end PseudoElement
end WebStyle
