import WebStyle.Table
/-!
Results that hold for one generation of what they were computed from.
-/
set_option autoImplicit false

namespace WebStyle

structure GenerationCache (κ α : Type) where
  /-- The generation that the entries belong to, if it is known. -/
  generation : Option Nat
  entries : Table κ α

namespace GenerationCache

variable {κ α : Type} [DecidableEq κ]

def empty : GenerationCache κ α := ⟨none, .empty⟩

def size (c : GenerationCache κ α) : Nat := c.entries.size

def find? (c : GenerationCache κ α) (k : κ) : Option α := c.entries.find? k

def insert (c : GenerationCache κ α) (k : κ) (v : α) : GenerationCache κ α :=
  { c with entries := c.entries.insert k v }

/-- Drops the entries unless they belong to the given generation, and tells whether there were
any. -/
def validate (c : GenerationCache κ α) (generation : Nat) : GenerationCache κ α × Bool :=
  if c.generation = some generation then (c, false)
  else (⟨some generation, .empty⟩, !c.entries.entries.isEmpty)

end GenerationCache
end WebStyle
