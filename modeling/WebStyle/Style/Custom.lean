import WebStyle.Style.Specified
import WebStyle.Style.Substitution
/-!
Custom properties of one element: references among them are resolved, and properties that take part
in a cycle fall back to what they inherit.
-/
set_option autoImplicit false

namespace WebStyle
namespace Custom

/-- What is known while the properties of an element are resolved: the ones that are done, with
their values if they have any, and the ones that were found on a cycle. -/
structure Progress where
  done : Table String (Option String)
  cyclic : List String

/-- The values that an element declares for custom properties, and the ones it inherits. -/
structure Setting where
  declared : Table String String
  inherited : Table String String

/-- The names from the top of a stack down to the given one. -/
def upTo (name : String) : List String → List String
  | [] => []
  | n :: ns => if n == name then [n] else n :: upTo name ns

/-- The value of a property, while those on the stack wait for it. A property that waits for itself
has none, and puts all properties in between on a cycle. The stack holds declared properties, each
once, so that it never grows beyond the fuel. -/
def valueM (s : Setting) : Nat → List String → String → StateM Progress (Option String)
  | 0, _, _ => pure none
  | fuel + 1, stack, name => do
    match (← get).done.find? name with
    | some known => pure known
    | none =>
      match s.declared.find? name with
      | none => pure (s.inherited.find? name)
      | some raw =>
        if stack.contains name then
          modify fun p => { p with cyclic := upTo name stack ++ p.cyclic }
          pure none
        else do
          let keyword := Text.lower (Text.trim raw)
          let inherits := ["inherit", "unset", "revert"].contains keyword
          let substituted ←
            if keyword == "initial" || inherits then pure none
            else Substitution.substituteM (valueM s fuel (name :: stack)) raw
          let isCyclic := (← get).cyclic.contains name
          let value :=
            if isCyclic then s.inherited.find? name
            else if keyword == "initial" then none
            else substituted.or (s.inherited.find? name)
          modify fun p => { p with done := p.done.insert name value }
          pure value

/-- Resolves the properties in order, each with its value. -/
def resolveAll (s : Setting) (names : List String) : List (String × Option String) :=
  let resolve (name : String) : StateM Progress (String × Option String) := do
    pure (name, ← valueM s (s.declared.size + 1) [] name)
  ((names.mapM resolve).run ⟨.empty, []⟩).1

/-- The custom properties that a list of specified values declares. -/
def declaredOnes (specified : SpecifiedValues) : Table String String :=
  ⟨(specified.entries.filter (isCustomName ·.1)).map fun (name, v) => (name, v.text)⟩

/-- The custom properties of an element that inherits the given ones. They are resolved in the order
of their names. -/
def resolve (specified : SpecifiedValues) (inherited : Table String String) : Table String String :=
  let s : Setting := ⟨declaredOnes specified, inherited⟩
  let names := s.declared.keys.mergeSort fun a b => !decide (b < a)
  (resolveAll s names).foldl
    (fun t (name, value) => match value with
      | some v => t.insert name v
      | none => t.erase name)
    inherited

end Custom
end WebStyle
