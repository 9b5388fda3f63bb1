import WebStyle.Dom.Tree
/-!
What selectors ask of the elements of a tree.
-/
set_option autoImplicit false

namespace WebStyle.Dom

def parentElement? (d : Dom) (n : NodeId) : Option NodeId := (d.parent? n).filter d.isElement

/-- The elements above an element, the parent first. -/
def ancestorElements (d : Dom) (n : NodeId) : List NodeId := (d.ancestors n).takeWhile d.isElement

/-- Whether the element stands right below the document. -/
def isRoot (d : Dom) (n : NodeId) : Bool :=
  (((d.parent? n).bind d.node?).map (·.content)) == some .document

/-- The node that is linked to a node on one side. -/
def beside? (d : Dom) (forward : Bool) (n : NodeId) : Option NodeId :=
  if forward then d.next? n else d.previous? n

/-- The nearest element on one side of a node. What is no element is passed. -/
def elementBesideFuel? (d : Dom) (forward : Bool) : Nat → NodeId → Option NodeId
  | 0, _ => none
  | fuel + 1, n =>
    match d.beside? forward n with
    | none => none
    | some m => if d.isElement m then some m else d.elementBesideFuel? forward fuel m

def elementBeside? (d : Dom) (forward : Bool) (n : NodeId) : Option NodeId :=
  d.elementBesideFuel? forward d.nodes.slots.size n

/-- The elements on one side of a node, the nearest first. A walk passes each node at most once. -/
def elementsBesideFuel (d : Dom) (forward : Bool) : Nat → NodeId → List NodeId
  | 0, _ => []
  | fuel + 1, n =>
    match d.elementBeside? forward n with
    | none => []
    | some m => m :: d.elementsBesideFuel forward fuel m

def elementsBeside (d : Dom) (forward : Bool) (n : NodeId) : List NodeId :=
  d.elementsBesideFuel forward d.nodes.slots.size n

def previousElement? (d : Dom) (n : NodeId) : Option NodeId := d.elementBeside? false n

def nextElement? (d : Dom) (n : NodeId) : Option NodeId := d.elementBeside? true n

/-- The elements before a node among its siblings, the nearest first. -/
def elementsBefore (d : Dom) (n : NodeId) : List NodeId := d.elementsBeside false n

/-- The elements after a node among its siblings, the nearest first. -/
def elementsAfter (d : Dom) (n : NodeId) : List NodeId := d.elementsBeside true n

def childElements (d : Dom) (n : NodeId) : List NodeId := (d.children n).filter d.isElement

/-- The element's name; empty for what is no element. -/
def localName (d : Dom) (n : NodeId) : String := ((d.element? n).map (·.tag)).getD ""

def id? (d : Dom) (n : NodeId) : Option String := (d.element? n).bind Element.id?

def hasClass (d : Dom) (n : NodeId) (name : String) : Bool :=
  (d.element? n).any (·.classes.contains name)

def attribute? (d : Dom) (n : NodeId) (name : String) : Option String :=
  (d.element? n).bind (·.attribute? name)

/-- Whether an element holds neither elements nor text. Comments do not count. -/
def isEmpty (d : Dom) (n : NodeId) : Bool :=
  (d.children n).all fun c =>
    match d.node? c with
    | none => true
    | some node => node.content matches .comment _

def isLink (d : Dom) (n : NodeId) : Bool := (d.element? n).any Element.isLink

def isChecked (d : Dom) (n : NodeId) : Bool := (d.element? n).any (·.interaction.checked)

def isHovered (d : Dom) (n : NodeId) : Bool := (d.element? n).any (·.interaction.hovered)

def isActive (d : Dom) (n : NodeId) : Bool := (d.element? n).any (·.interaction.active)

/-- Whether the element can be disabled, and is: by an attribute of its own or of a field set around
it. -/
def isDisabled (d : Dom) (n : NodeId) : Bool :=
  (d.element? n).any fun e =>
    e.isControl && (e.hasAttribute "disabled" ||
      (d.ancestors n).any fun a =>
        (d.element? a).any fun f => f.tag == "fieldset" && f.hasAttribute "disabled")

def isEnabled (d : Dom) (n : NodeId) : Bool :=
  (d.element? n).any Element.isControl && !d.isDisabled n

def isFocused (d : Dom) (n : NodeId) : Bool := d.focused == some n

def isTarget (d : Dom) (n : NodeId) : Bool := d.target == some n

end WebStyle.Dom
