import WebStyle.Slots
import WebStyle.Text.Ascii
/-!
The nodes of a document tree.
-/
set_option autoImplicit false

namespace WebStyle

/-- Marks the handles of nodes. -/
inductive NodeKind

abbrev NodeId := Handle NodeKind

/-- An attribute; its name is in lower case. -/
structure Attribute where
  name : String
  value : String
  deriving DecidableEq, Repr

/-- What a user does with an element. -/
structure Interaction where
  checked : Bool
  hovered : Bool
  active : Bool
  deriving DecidableEq, Repr

/-- An element, with its name in lower case. Its id and its classes are kept beside the attributes
that they come from. -/
structure Element where
  tag : String
  attributes : List Attribute
  id? : Option String
  classes : List String
  interaction : Interaction
  deriving DecidableEq, Repr

namespace Element

/-- The value of the first attribute of a name in any case. -/
def attribute? (e : Element) (name : String) : Option String :=
  (e.attributes.find? fun a => Text.sameIgnoringCase a.name name).map (·.value)

def hasAttribute (e : Element) (name : String) : Bool := (e.attribute? name).isSome

/-- Takes the id and the classes, the words of the `class` attribute, from the attributes. -/
def refresh (e : Element) : Element :=
  { e with
    id? := e.attribute? "id"
    classes := ((e.attribute? "class").map Text.words).getD [] }

/-- A new element. Input elements and options start out checked if an attribute says so. -/
def ofAttributes (tag : String) (attributes : List (String × String)) : Element :=
  let tag := Text.lower tag
  let attributes := attributes.map fun (name, value) => Attribute.mk (Text.lower name) value
  let checkable := tag == "input" || tag == "option"
  let marked := attributes.any fun a => a.name == "checked" || a.name == "selected"
  refresh ⟨tag, attributes, none, [], ⟨checkable && marked, false, false⟩⟩

/-- Sets the first attribute of a name, or adds one at the end. -/
def setAttribute (e : Element) (name value : String) : Element :=
  let rec go (name value : String) : List Attribute → List Attribute
    | [] => [⟨name, value⟩]
    | a :: r => if a.name == name then ⟨name, value⟩ :: r else a :: go name value r
  { e with attributes := go (Text.lower name) value e.attributes }.refresh

/-- Removes all attributes of a name. If there are none the element is left alone. -/
def removeAttribute (e : Element) (name : String) : Element :=
  let attributes := e.attributes.filter fun a => !Text.sameIgnoringCase a.name name
  if attributes.length = e.attributes.length then e else { e with attributes }.refresh

/-- Whether the element can be enabled or disabled. -/
def isControl (e : Element) : Bool :=
  ["input", "button", "select", "textarea", "option", "optgroup", "fieldset"].contains e.tag

/-- Whether the element is a link to somewhere. -/
def isLink (e : Element) : Bool :=
  ["a", "area", "link"].contains e.tag && e.hasAttribute "href"

end Element

inductive NodeContent where
  | document
  | element (e : Element)
  | text (data : String)
  | comment (data : String)
  deriving DecidableEq, Repr

/-- A node with its place in the tree. The children of a node are linked in both directions, from
the first one to the last. -/
structure Node where
  content : NodeContent
  parent : Option NodeId
  firstChild : Option NodeId
  lastChild : Option NodeId
  previous : Option NodeId
  next : Option NodeId
  deriving DecidableEq, Repr

namespace Node

/-- A node without a place. -/
def detached (content : NodeContent) : Node := ⟨content, none, none, none, none, none⟩

def element? (n : Node) : Option Element :=
  match n.content with
  | .element e => some e
  | _ => none

end Node
end WebStyle
