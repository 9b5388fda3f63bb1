/-!
Slots for values, with handles that go stale. A freed slot is reused, the last freed one first, and
its handles are told from older ones by a generation.
-/
set_option autoImplicit false

namespace WebStyle

/-- Refers to a value in the slots of the given kind. -/
structure Handle (κ : Type) where
  index : Nat
  generation : UInt32
  deriving Inhabited

namespace Handle

variable {κ : Type}

instance : DecidableEq (Handle κ) := fun a b =>
  decidable_of_iff (a.index = b.index ∧ a.generation = b.generation) (by
    cases a; cases b; simp)

/-- Index and generation, with a letter between them. -/
def digits (h : Handle κ) : String := s!"{h.index}v{h.generation.toNat}"

/-- The handle as messages show it. -/
def text (h : Handle κ) : String := "Id(" ++ h.digits ++ ")"

instance : Repr (Handle κ) := ⟨fun h _ => h.text⟩

/-- Handles are ordered by index, and by generation within a slot. -/
def le (a b : Handle κ) : Bool :=
  a.index < b.index || (a.index == b.index && a.generation ≤ b.generation)

end Handle

/-- A place for a value. -/
structure Slot (α : Type) where
  /-- How often the place was freed. -/
  freed : Nat
  value : Option α
  /-- The place that was freed before this one, while both are free. -/
  next : Option Nat
  deriving Repr, Inhabited

/-- What tells the handles of a slot from each other. It comes round again once the slot was freed
2^32 times. -/
def Slot.generation {α : Type} (s : Slot α) : UInt32 := .ofNat s.freed

/-- Slots of a kind. The empty ones are linked, the last freed one first. -/
structure Slots (κ α : Type) where
  slots : Array (Slot α)
  /-- The place that was freed last, if one is free. -/
  free : Option Nat
  /-- The number of values. -/
  size : Nat
  deriving Inhabited

namespace Slots

variable {κ α : Type}

def empty : Slots κ α := ⟨#[], none, 0⟩

instance : EmptyCollection (Slots κ α) := ⟨empty⟩

/-- The value that a handle refers to, unless the handle is stale. -/
def get? (s : Slots κ α) (h : Handle κ) : Option α :=
  match s.slots[h.index]? with
  | some slot => if slot.generation = h.generation then slot.value else none
  | none => none

def contains (s : Slots κ α) (h : Handle κ) : Bool := (s.get? h).isSome

/-- Stores a value: in the slot that was freed last, or in a new one. -/
def insert (s : Slots κ α) (v : α) : Slots κ α × Handle κ :=
  match s.free with
  | none => (⟨s.slots.push ⟨0, some v, none⟩, none, s.size + 1⟩, ⟨s.slots.size, 0⟩)
  | some i =>
    let slot := (s.slots[i]?).getD ⟨0, none, none⟩
    (⟨s.slots.setIfInBounds i ⟨slot.freed, some v, none⟩, slot.next, s.size + 1⟩,
      ⟨i, slot.generation⟩)

/-- Replaces the value that a handle refers to; a stale handle replaces nothing. -/
def set (s : Slots κ α) (h : Handle κ) (v : α) : Slots κ α :=
  if s.contains h then
    { s with slots := s.slots.modify h.index fun slot => { slot with value := some v } }
  else s

/-- Changes the value that a handle refers to, unless the handle is stale. -/
def modify (s : Slots κ α) (h : Handle κ) (f : α → α) : Slots κ α :=
  match s.get? h with
  | some v => s.set h (f v)
  | none => s

/-- Frees the slot that a handle refers to, and returns its value; all its handles go stale. -/
def take (s : Slots κ α) (h : Handle κ) : Option α × Slots κ α :=
  match s.get? h with
  | some v => (some v,
      ⟨s.slots.modify h.index fun slot => ⟨slot.freed + 1, none, s.free⟩, some h.index, s.size - 1⟩)
  | none => (none, s)

def erase (s : Slots κ α) (h : Handle κ) : Slots κ α := (s.take h).2

/-- The values with their handles, in the order of the slots. -/
def toList (s : Slots κ α) : List (Handle κ × α) :=
  s.slots.toList.zipIdx.filterMap fun (slot, i) => slot.value.map fun v => (⟨i, slot.generation⟩, v)

/-- What a slot adds to the sum of a measure. -/
def slotWeight (f : α → Nat) (slot : Slot α) : Nat := (slot.value.map f).getD 0

/-- The sum of a measure over the values. -/
def total (f : α → Nat) (s : Slots κ α) : Nat :=
  s.slots.toList.foldr (fun slot n => slotWeight f slot + n) 0

theorem foldr_slotWeight_modify (f : α → Nat) (g : Slot α → Slot α) (l : List (Slot α)) (i : Nat)
    (h : i < l.length) :
    (l.modify i g).foldr (fun slot n => slotWeight f slot + n) 0 + slotWeight f l[i]
      = l.foldr (fun slot n => slotWeight f slot + n) 0 + slotWeight f (g l[i]) := by
  induction l generalizing i with
  | nil => simp at h
  | cons a l ih =>
    cases i with
    | zero =>
      simp only [List.modify_zero_cons, List.foldr_cons, List.getElem_cons_zero]
      omega
    | succ i =>
      have := ih i (Nat.lt_of_succ_lt_succ h)
      simp only [List.modify_succ_cons, List.foldr_cons, List.getElem_cons_succ]
      omega

theorem erase_eq {s : Slots κ α} {h : Handle κ} {v : α} (hv : s.get? h = some v) :
    s.erase h = ⟨s.slots.modify h.index fun slot => ⟨slot.freed + 1, none, s.free⟩, some h.index,
      s.size - 1⟩ := by
  simp [erase, take, hv]

/-- Freeing a slot takes its value out of the sum, and no other. -/
theorem total_erase (f : α → Nat) {s : Slots κ α} {h : Handle κ} {v : α} (hv : s.get? h = some v) :
    (s.erase h).total f + f v = s.total f := by
  rw [erase_eq hv]
  simp only [get?] at hv
  split at hv
  · rename_i slot hs
    split at hv
    · obtain ⟨hi, hs⟩ := Array.getElem?_eq_some_iff.1 hs
      have hset := foldr_slotWeight_modify f (fun slot => ⟨slot.freed + 1, none, s.free⟩)
        s.slots.toList h.index hi
      have hslot : slotWeight f s.slots.toList[h.index] = f v := by
        simp [slotWeight, hs, hv]
      rw [hslot, show slotWeight f ⟨_ + 1, none, s.free⟩ = 0 from rfl, Nat.add_zero] at hset
      simpa only [total, Array.toList_modify] using hset
    · simp at hv
  · simp at hv

end Slots
end WebStyle
