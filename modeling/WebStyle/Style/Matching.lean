import WebStyle.Dom.Element
import WebStyle.Selector
/-!
Which elements selectors match. A complex selector matches if its compound selectors match elements
that lie to each other as its combinators say; all such elements are tried.
-/
set_option autoImplicit false

namespace WebStyle

/-- Compares the value of an attribute. -/
def AttributeOperator.holds (o : AttributeOperator) (actual expected : String) : Bool :=
  let a := actual.toList
  let e := expected.toList
  match o with
  | .equals => actual == expected
  | .includes => !e.isEmpty && !e.any Text.isBlank && (Text.words actual).contains expected
  | .dashMatch =>
    actual == expected || ((e.isPrefixOf? a).any fun rest => ['-'].isPrefixOf rest)
  | .startsWith => !e.isEmpty && e.isPrefixOf a
  | .endsWith => !e.isEmpty && e.isSuffixOf a
  | .contains => !e.isEmpty && Text.occursIn e a

namespace AttributeTest

def name : AttributeTest → String
  | .present name | .compares name _ _ _ => name

/-- Whether the test holds of an attribute's value; of a missing attribute it never does. -/
def holds (t : AttributeTest) : Option String → Bool
  | none => false
  | some actual =>
    match t with
    | .present _ => true
    | .compares _ o expected false => o.holds actual expected
    | .compares _ o expected true => o.holds (Text.lower actual) (Text.lower expected)

end AttributeTest

namespace Dom

/-- The place of an element, counted from 1, after the given elements. With `ofType` only those of
the same name count. -/
def place (d : Dom) (n : NodeId) (ofType : Bool) (others : List NodeId) : Nat :=
  1 + (others.filter fun m => !ofType || d.localName m == d.localName n).length

/-- The place among the siblings, from the start or from the end. -/
def position (d : Dom) (n : NodeId) (fromEnd ofType : Bool) : Nat :=
  d.place n ofType (if fromEnd then d.elementsAfter n else d.elementsBefore n)

/-- Whether a formula holds at a place. Places beyond its limit are none. -/
def atPlace (f : Nth) (place : Nat) : Bool := place ≤ Nth.limit && f.holdsAt place

def matchesPseudoClass (d : Dom) (n : NodeId) : PseudoClass → Bool
  | .root => d.isRoot n
  | .empty => d.isEmpty n
  | .firstChild => d.position n false false == 1
  | .lastChild => d.position n true false == 1
  | .onlyChild => d.position n false false == 1 && d.position n true false == 1
  | .firstOfType => d.position n false true == 1
  | .lastOfType => d.position n true true == 1
  | .onlyOfType => d.position n false true == 1 && d.position n true true == 1
  | .nthChild f => atPlace f (d.position n false false)
  | .nthLastChild f => atPlace f (d.position n true false)
  | .nthOfType f => atPlace f (d.position n false true)
  | .nthLastOfType f => atPlace f (d.position n true true)
  | .checked => d.isChecked n
  | .disabled => d.isDisabled n
  | .enabled => d.isEnabled n
  | .focus => d.isFocused n
  | .target => d.isTarget n
  | .hover => d.isHovered n
  | .active => d.isActive n
  | .link => d.isLink n
  | .visited => false

def matchesCondition (d : Dom) (n : NodeId) : Condition → Bool
  | .universal => true
  | .type name => d.localName n == name
  | .id name => d.id? n == some name
  | .hasClass name => d.hasClass n name
  | .attribute t => t.holds (d.attribute? n t.name)
  | .pseudoClass p => d.matchesPseudoClass n p

def matchesSimple (d : Dom) (n : NodeId) : SimpleSelector → Bool
  | .plain c => d.matchesCondition n c
  | .negation cs => !cs.all (d.matchesCondition n)

/-- Whether all simple selectors hold. A pseudo-element makes no difference here. -/
def matchesCompound (d : Dom) (n : NodeId) (c : CompoundSelector) : Bool :=
  c.simples.all (d.matchesSimple n)

/-- The elements that a combinator leads to from the one on its right. -/
def candidates (d : Dom) (n : NodeId) : Combinator → List NodeId
  | .descendant => d.ancestorElements n
  | .child => (d.parentElement? n).toList
  | .nextSibling => (d.previousElement? n).toList
  | .laterSibling => d.elementsBefore n

/-- Whether the rest of a selector matches to the left of an element. -/
def matchesLinks (d : Dom) (n : NodeId) : List (Combinator × CompoundSelector) → Bool
  | [] => true
  | (k, c) :: more => (d.candidates n k).any fun m => d.matchesCompound m c && d.matchesLinks m more

/-- Whether a selector matches an element, or the given pseudo-element of it. -/
def matchesComplex (d : Dom) (n : NodeId) (pseudo : Option PseudoElement) (s : ComplexSelector) :
    Bool :=
  s.pseudoElement == pseudo && d.matchesCompound n s.subject && d.matchesLinks n s.links

/-- The highest specificity among the selectors of a list that match. -/
def matchSpecificity? (d : Dom) (n : NodeId) (pseudo : Option PseudoElement) (l : SelectorList) :
    Option Specificity :=
  match (l.filter (d.matchesComplex n pseudo)).map (·.specificity) with
  | [] => none
  | s :: ss => some (ss.foldl Specificity.max s)

end Dom
end WebStyle
