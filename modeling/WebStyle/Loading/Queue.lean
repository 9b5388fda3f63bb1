import WebStyle.Encoding
import WebStyle.Url
/-!
Loads that are under way, in the order in which they should be fetched. Each has a ticket, by which
it can be completed in any order.
-/
set_option autoImplicit false

namespace WebStyle

/-- A load, with the target that its result is for. -/
structure PendingLoad (τ : Type) where
  ticket : Nat
  url : Url
  target : τ
  /-- The encoding of the document or sheet that refers to it. -/
  referrer : Option Encoding
  /-- The label that the referring element gives. -/
  declared : Option String
  deriving DecidableEq, Repr

structure LoadQueue (τ : Type) where
  pending : List (PendingLoad τ)
  /-- The next ticket. Tickets are never given out twice. -/
  next : Nat

namespace LoadQueue

variable {τ : Type}

/-- The first ticket is 1. -/
def empty : LoadQueue τ := ⟨[], 1⟩

def size (q : LoadQueue τ) : Nat := q.pending.length

/-- Adds a load behind all others. -/
def pushBack (q : LoadQueue τ) (url : Url) (target : τ) (referrer : Option Encoding) :
    LoadQueue τ × Nat :=
  (⟨q.pending ++ [⟨q.next, url, target, referrer, none⟩], q.next + 1⟩, q.next)

/-- Adds a load before all others. -/
def pushFront (q : LoadQueue τ) (url : Url) (target : τ) (referrer : Option Encoding) :
    LoadQueue τ × Nat :=
  (⟨⟨q.next, url, target, referrer, none⟩ :: q.pending, q.next + 1⟩, q.next)

/-- Gives a load the label that the referring element declares. -/
def declare (q : LoadQueue τ) (ticket : Nat) (label : Option String) : LoadQueue τ :=
  { q with pending := q.pending.map fun l =>
      if l.ticket == ticket then { l with declared := label } else l }

def front? (q : LoadQueue τ) : Option (PendingLoad τ) := q.pending.head?

/-- Takes the load of a ticket out, if it is there. -/
def take (q : LoadQueue τ) (ticket : Nat) : LoadQueue τ × Option (PendingLoad τ) :=
  match q.pending.find? (·.ticket == ticket) with
  | none => (q, none)
  | some l => ({ q with pending := q.pending.filter (·.ticket != ticket) }, some l)

/-- Keeps the loads that satisfy `p`. -/
def filter (q : LoadQueue τ) (p : PendingLoad τ → Bool) : LoadQueue τ :=
  { q with pending := q.pending.filter p }

/-- Gives up all loads. -/
def clear (q : LoadQueue τ) : LoadQueue τ := { q with pending := [] }

end LoadQueue
end WebStyle
