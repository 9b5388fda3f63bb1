import WebStyle.Dom.Node
/-!
Document trees, how they change, and how they are walked. Every change that selectors can see counts
up the tree's generation.
-/
set_option autoImplicit false

namespace WebStyle

/-- The nodes of a document, in the tree and out of it. Nodes are never freed. -/
structure Dom where
  nodes : Slots NodeKind Node
  document : NodeId
  generation : Nat
  focused : Option NodeId
  target : Option NodeId

namespace Dom

/-- An empty document. -/
def empty : Dom :=
  let (nodes, document) := Slots.insert ∅ (Node.detached .document)
  ⟨nodes, document, 0, none, none⟩

def node? (d : Dom) (n : NodeId) : Option Node := d.nodes.get? n

def element? (d : Dom) (n : NodeId) : Option Element := (d.node? n).bind Node.element?

def isElement (d : Dom) (n : NodeId) : Bool := (d.element? n).isSome

def parent? (d : Dom) (n : NodeId) : Option NodeId := (d.node? n).bind (·.parent)

def firstChild? (d : Dom) (n : NodeId) : Option NodeId := (d.node? n).bind (·.firstChild)

def lastChild? (d : Dom) (n : NodeId) : Option NodeId := (d.node? n).bind (·.lastChild)

def previous? (d : Dom) (n : NodeId) : Option NodeId := (d.node? n).bind (·.previous)

def next? (d : Dom) (n : NodeId) : Option NodeId := (d.node? n).bind (·.next)

/-- A node and those that follow it under its parent. -/
def siblingsFrom (d : Dom) : Nat → Option NodeId → List NodeId
  | 0, _ => []
  | _ + 1, none => []
  | fuel + 1, some n => n :: d.siblingsFrom fuel (d.next? n)

/-- The children of a node, in document order. A walk passes each node at most once. -/
def children (d : Dom) (n : NodeId) : List NodeId :=
  d.siblingsFrom d.nodes.slots.size (d.firstChild? n)

/-! ### Changes -/

/-- Adds a node without a place. -/
def create (d : Dom) (content : NodeContent) : Dom × NodeId :=
  let (nodes, n) := d.nodes.insert (.detached content)
  ({ d with nodes }, n)

def createElement (d : Dom) (tag : String) (attributes : List (String × String)) : Dom × NodeId :=
  d.create (.element (.ofAttributes tag attributes))

/-- Counts a change. -/
def touch (d : Dom) : Dom := { d with generation := d.generation + 1 }

def modify (d : Dom) (n : NodeId) (f : Node → Node) : Dom := { d with nodes := d.nodes.modify n f }

/-- Changes a node, if there is one. -/
def modifySome (d : Dom) (n : Option NodeId) (f : Node → Node) : Dom :=
  match n with
  | none => d
  | some n => d.modify n f

/-- Takes a child out from between its neighbours. -/
def unlink (d : Dom) (parent child : NodeId) : Dom :=
  let previous := d.previous? child
  let next := d.next? child
  let d := d.modifySome previous fun node => { node with next }
  let d := d.modifySome next fun node => { node with previous }
  let d := d.modify parent fun node =>
    { node with
      firstChild := if node.firstChild = some child then next else node.firstChild
      lastChild := if node.lastChild = some child then previous else node.lastChild }
  d.modify child fun node => { node with parent := none, previous := none, next := none }

/-- The child of a parent that stands before another one, or the last one. -/
def before? (d : Dom) (parent : NodeId) : Option NodeId → Option NodeId
  | some reference => d.previous? reference
  | none => d.lastChild? parent

/-- Makes a child the one that follows another one, or the first one. -/
def putAfter (d : Dom) (parent child : NodeId) : Option NodeId → Dom
  | some previous => d.modify previous fun node => { node with next := some child }
  | none => d.modify parent fun node => { node with firstChild := some child }

/-- Makes a child the one that stands before another one, or the last one. -/
def putBefore (d : Dom) (parent child : NodeId) : Option NodeId → Dom
  | some next => d.modify next fun node => { node with previous := some child }
  | none => d.modify parent fun node => { node with lastChild := some child }

/-- Puts a node without a place before a child of a parent, or after the last one. -/
def link (d : Dom) (parent child : NodeId) (reference : Option NodeId) : Dom :=
  let previous := d.before? parent reference
  let d := d.modify child fun node =>
    { node with parent := some parent, previous, next := reference }
  (d.putAfter parent child previous).putBefore parent child reference

/-- Takes a node out of its parent. -/
def detach (d : Dom) (n : NodeId) : Dom :=
  match d.parent? n with
  | none => d
  | some p => (d.unlink p n).touch

/-- Moves a node into a parent, before one of its children or to the end; to the end, too, if it is
to stand before itself. -/
def insertBefore (d : Dom) (parent child : NodeId) (reference : Option NodeId) : Dom :=
  let misplaced := reference.any fun r => d.parent? r != some parent
  if !d.nodes.contains parent || !d.nodes.contains child || parent == child || misplaced then d
  else ((d.detach child).link parent child (reference.filter (· != child))).touch

def append (d : Dom) (parent child : NodeId) : Dom := d.insertBefore parent child none

/-- Takes a node out of the given parent, if it is there. -/
def remove (d : Dom) (parent child : NodeId) : Dom :=
  if d.parent? child == some parent then d.detach child else d

/-- Changes an element, and counts that as a change if it is one. -/
def modifyElement (d : Dom) (n : NodeId) (f : Element → Element) : Dom :=
  match d.element? n with
  | none => d
  | some e =>
    if f e = e then d
    else (d.modify n fun node => { node with content := .element (f e) }).touch

/-- Sets an attribute, which always counts as a change. -/
def setAttribute (d : Dom) (n : NodeId) (name value : String) : Dom :=
  match d.element? n with
  | none => d
  | some e => (d.modify n fun node => { node with content := .element (e.setAttribute name value) }).touch

def removeAttribute (d : Dom) (n : NodeId) (name : String) : Dom :=
  d.modifyElement n (·.removeAttribute name)

def modifyInteraction (d : Dom) (n : NodeId) (f : Interaction → Interaction) : Dom :=
  d.modifyElement n fun e => { e with interaction := f e.interaction }

def setChecked (d : Dom) (n : NodeId) (on : Bool) : Dom :=
  d.modifyInteraction n fun i => { i with checked := on }

def setHovered (d : Dom) (n : NodeId) (on : Bool) : Dom :=
  d.modifyInteraction n fun i => { i with hovered := on }

def setActive (d : Dom) (n : NodeId) (on : Bool) : Dom :=
  d.modifyInteraction n fun i => { i with active := on }

def setFocus (d : Dom) (n : Option NodeId) : Dom :=
  if d.focused = n then d else { d with focused := n }.touch

/-! ### Walks -/

/-- The nodes above a node, the parent first. A walk passes each node at most once. -/
def ancestorsFuel (d : Dom) : Nat → NodeId → List NodeId
  | 0, _ => []
  | fuel + 1, n =>
    match d.parent? n with
    | none => []
    | some p => p :: d.ancestorsFuel fuel p

def ancestors (d : Dom) (n : NodeId) : List NodeId := d.ancestorsFuel d.nodes.slots.size n

/-- The nodes that are left to visit and those below them, each before those below it. -/
def visitFuel (d : Dom) : Nat → List NodeId → List NodeId
  | 0, _ => []
  | _ + 1, [] => []
  | fuel + 1, n :: left => n :: d.visitFuel fuel (d.children n ++ left)

/-- The nodes below a node, each before those below it. -/
def descendants (d : Dom) (n : NodeId) : List NodeId :=
  d.visitFuel d.nodes.slots.size (d.children n)

/-- The elements of the document, in tree order. -/
def elements (d : Dom) : List NodeId := (d.descendants d.document).filter d.isElement

/-- The first element of the document with an id. -/
def elementById? (d : Dom) (id : String) : Option NodeId :=
  d.elements.find? fun n => ((d.element? n).bind Element.id?) == some id

def elementsByTag (d : Dom) (tag : String) : List NodeId :=
  d.elements.filter fun n => (d.element? n).any fun e => Text.sameIgnoringCase e.tag tag

/-- Makes the element that a fragment of an address names the target. -/
def setTarget (d : Dom) (fragment : Option String) : Dom :=
  let target := (fragment.filter (· != "")).bind d.elementById?
  if d.target = target then d else { d with target }.touch

end Dom
end WebStyle
