import WebStyle.Property.Name
import WebStyle.Property.Shorthand
/-!
Blocks of declarations: ordered lists in which a property has at most one declaration. A shorthand
is kept as its longhands, unless it has to wait for a custom property.
-/
set_option autoImplicit false

namespace WebStyle

structure DeclarationBlock where
  declarations : List Declaration
  deriving DecidableEq, Repr, Inhabited

namespace DeclarationBlock

def empty : DeclarationBlock := ⟨[]⟩

def size (b : DeclarationBlock) : Nat := b.declarations.length

def find? (b : DeclarationBlock) (name : String) : Option Declaration :=
  b.declarations.find? (·.name == name)

/-- Drops the declarations of the named properties. -/
def erase (b : DeclarationBlock) (names : List String) : DeclarationBlock :=
  ⟨b.declarations.filter fun d => !names.contains d.name⟩

/-- Adds a declaration at the end, in place of an earlier one of the same property. A normal
declaration does not displace an important one. -/
def add (b : DeclarationBlock) (d : Declaration) : DeclarationBlock :=
  match b.find? d.name with
  | some old =>
    if old.important && !d.important then b else ⟨(b.erase [d.name]).declarations ++ [d]⟩
  | none => ⟨b.declarations ++ [d]⟩

/-- The shorthand that a declaration is to be expanded for: one whose value mentions no custom
property. -/
def expandable? (name value : String) : Option Shorthand :=
  if mentionsVariable value then none else Shorthand.ofName? name

/-- The longhand declarations that a declaration stands for; none for a shorthand with an invalid
value. -/
def expansion (d : Declaration) : List Declaration :=
  match expandable? d.name d.value with
  | none => [d]
  | some s => ((s.expand? d.value).getD []).map fun (name, value) => ⟨name, value, d.important⟩

def ofDeclarations (ds : List Declaration) : DeclarationBlock :=
  (ds.flatMap expansion).foldl add empty

/-- The block that a `style` attribute or the body of a rule holds. -/
def ofString (text : String) : DeclarationBlock := ofDeclarations (Declaration.listOfString text)

/-- The name of the `i`-th declaration. -/
def item? (b : DeclarationBlock) (i : Nat) : Option String := (b.declarations[i]?).map (·.name)

/-- The value and the priority of a shorthand, when the block has all its longhands with one
priority and they can be written as one value. -/
def shorthandValue? (b : DeclarationBlock) (s : Shorthand) : Option (String × Bool) := do
  let ds ← s.longhands.mapM b.find?
  let first ← ds.head?
  if ds.all (·.important == first.important) then
    some (← s.reconstruct? fun n => (b.find? n).map (·.value), first.important)
  else none

/-- The value and the priority of a property, longhand or shorthand, of the given name. -/
def lookup? (b : DeclarationBlock) (name : String) : Option (String × Bool) :=
  match b.find? name with
  | some d => some (d.value, d.important)
  | none => (Shorthand.ofName? name).bind b.shorthandValue?

/-- The value of a property, empty if it has none. Scripts may name it their way. -/
def value (b : DeclarationBlock) (name : String) : String :=
  ((b.lookup? (propertyName name)).map (·.1)).getD ""

def isImportant (b : DeclarationBlock) (name : String) : Bool :=
  ((b.lookup? (propertyName name)).map (·.2)).getD false

/-- The properties that a name stands for: a property, and the longhands of a shorthand. -/
def covered (name : String) : List String :=
  name :: ((Shorthand.ofName? name).map Shorthand.longhands).getD []

/-- Removes a property, with its longhands if it is a shorthand. -/
def remove (b : DeclarationBlock) (name : String) : DeclarationBlock :=
  b.erase (covered (propertyName name))

/-- Sets a declaration where the property has one, else at the end. -/
def put (b : DeclarationBlock) (d : Declaration) : DeclarationBlock :=
  if (b.find? d.name).isSome then ⟨b.declarations.map fun old => if old.name == d.name then d else old⟩
  else ⟨b.declarations ++ [d]⟩

/-- The priority of a word: none, or important. Any other word is no priority. -/
def priority? (word : String) : Option Bool :=
  let word := Text.trim word
  if word == "" then some false
  else if Text.sameIgnoringCase word "important" then some true
  else none

/-- Sets a property of a style sheet's name, which overwrites what the block has for it. A value
that is not valid removes the property. -/
def assign (b : DeclarationBlock) (name value : String) (important : Bool) : DeclarationBlock :=
  match valueText? value with
  | none => b.erase (covered name)
  | some value =>
    match expandable? name value with
    | none => b.put ⟨name, value, important⟩
    | some s =>
      match s.expand? value with
      | none => b.erase (covered name)
      | some pairs =>
        pairs.foldl (fun b (longhand, v) => b.put ⟨longhand, v, important⟩) (b.erase [name])

/-- Sets a property, and tells whether it did. What is no priority leaves the block alone; a value
that is not valid removes the property, which counts if there was something to remove. -/
def set (b : DeclarationBlock) (name value word : String) : DeclarationBlock × Bool :=
  match priority? word with
  | none => (b, false)
  | some important =>
    let name := propertyName name
    let after := b.assign name value important
    let accepted := (valueText? value).any fun v =>
      (expandable? name v).all fun s => (s.expand? v).isSome
    (after, accepted || after.size != b.size)

def declarationText (name value : String) (important : Bool) : String :=
  name ++ ": " ++ value ++ (if important then " !important;" else ";")

/-- The shorthand to write in place of a longhand: the most preferred one that has a value and none
of whose longhands is already written. -/
def combined? (b : DeclarationBlock) (written : List String) (longhand : String) :
    Option (Shorthand × String × Bool) :=
  (Shorthand.covering longhand).findSome? fun s =>
    if s.longhands.any written.contains then none
    else (b.shorthandValue? s).map fun (value, important) => (s, value, important)

/-- The texts of declarations, of which those of the properties in `written` are left out. -/
def texts (b : DeclarationBlock) (written : List String) : List Declaration → List String
  | [] => []
  | d :: ds =>
    if written.contains d.name then b.texts written ds
    else match b.combined? written d.name with
      | some (s, value, important) =>
        declarationText s.name value important :: b.texts (s.longhands ++ written) ds
      | none =>
        declarationText d.name d.value d.important :: b.texts (d.name :: written) ds

/-- The text of the block. Complete shorthands are written in place of the first of their
longhands. -/
def text (b : DeclarationBlock) : String := String.intercalate " " (b.texts [] b.declarations)

end DeclarationBlock
end WebStyle
