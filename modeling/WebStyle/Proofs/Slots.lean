import Mathlib.Algebra.Group.Nat.Defs
import Mathlib.Data.List.Nodup
import Mathlib.Data.List.Perm.Subperm
import WebStyle.Slots
/-!
What the operations on slots do to each handle. A handle that was given out is never given out
again, as long as no slot was freed so often that its generation came round.
-/
set_option autoImplicit false

namespace WebStyle.Slots

variable {κ α : Type}

/-- The places that are linked from one on: each is there, and empty. -/
inductive IsLinked (slots : Array (Slot α)) : Option Nat → List Nat → Prop
  | nil : IsLinked slots none []
  | cons {i : Nat} {l : List Nat} {slot : Slot α} (hslot : slots[i]? = some slot)
      (hvalue : slot.value = none) (hnext : IsLinked slots slot.next l) :
      IsLinked slots (some i) (i :: l)

/-- The places that are free, the last freed one first. -/
structure Frees (s : Slots κ α) (l : List Nat) : Prop where
  linked : IsLinked s.slots s.free l
  nodup : l.Nodup
  mem : ∀ (i : Nat) (slot : Slot α), s.slots[i]? = some slot → slot.value = none → i ∈ l

/-- The free places are linked, each once, and the values are counted. -/
structure Valid (s : Slots κ α) : Prop where
  frees : ∃ l, s.Frees l
  size_eq : s.size = s.total fun _ => 1

/-- Whether a handle was given out at some time. -/
def Issued (s : Slots κ α) (h : Handle κ) : Prop :=
  ∃ slot, s.slots[h.index]? = some slot ∧ (h.generation.toNat < slot.freed ∨
    h.generation.toNat = slot.freed ∧ slot.value.isSome)

/-- Whether the generation of no slot came round. -/
def Unwrapped (s : Slots κ α) : Prop := ∀ slot ∈ s.slots, slot.freed < 2 ^ 32

instance (s : Slots κ α) : Decidable s.Unwrapped :=
  inferInstanceAs (Decidable (∀ slot ∈ s.slots, slot.freed < 2 ^ 32))

/-- How the slots can change: the places stay, and are freed again and again. -/
structure Grows (s t : Slots κ α) : Prop where
  size_le : s.slots.size ≤ t.slots.size
  freed_le : ∀ (i : Nat) (slot : Slot α), s.slots[i]? = some slot →
    ∃ slot' : Slot α, t.slots[i]? = some slot' ∧ slot.freed ≤ slot'.freed
  issued : ∀ h, s.Issued h → t.Issued h

theorem Grows.refl (s : Slots κ α) : s.Grows s :=
  ⟨Nat.le_refl _, fun _ slot h => ⟨slot, h, Nat.le_refl _⟩, fun _ h => h⟩

theorem Grows.trans {s t u : Slots κ α} (h : s.Grows t) (h' : t.Grows u) : s.Grows u where
  size_le := Nat.le_trans h.size_le h'.size_le
  freed_le i slot hs := by
    obtain ⟨slot', ht, hle⟩ := h.freed_le i slot hs
    obtain ⟨slot'', hu, hle'⟩ := h'.freed_le i slot' ht
    exact ⟨slot'', hu, Nat.le_trans hle hle'⟩
  issued k hk := h'.issued k (h.issued k hk)

theorem Unwrapped.of_grows {s t : Slots κ α} (ht : t.Unwrapped) (h : s.Grows t) :
    s.Unwrapped := by
  intro slot hs
  obtain ⟨i, hi, rfl⟩ := Array.mem_iff_getElem.1 hs
  obtain ⟨slot', hs', hle⟩ := h.freed_le i s.slots[i] (Array.getElem?_eq_getElem hi)
  exact Nat.lt_of_le_of_lt hle (ht slot' (Array.mem_of_getElem? hs'))

/-! ### The free places -/

namespace IsLinked

variable {slots : Array (Slot α)} {head : Option Nat} {l : List Nat}

theorem isFree (h : IsLinked slots head l) {i : Nat} (hi : i ∈ l) :
    ∃ slot, slots[i]? = some slot ∧ slot.value = none := by
  induction h with
  | nil => cases hi
  | cons hslot hvalue _ ih =>
    rcases List.mem_cons.1 hi with rfl | hi
    · exact ⟨_, hslot, hvalue⟩
    · exact ih hi

/-- The links stay when no linked place changes. -/
theorem congr (h : IsLinked slots head l) {slots' : Array (Slot α)}
    (hsame : ∀ i ∈ l, slots'[i]? = slots[i]?) : IsLinked slots' head l := by
  induction h with
  | nil => exact .nil
  | cons hslot hvalue _ ih =>
    exact .cons ((hsame _ List.mem_cons_self).trans hslot) hvalue
      (ih fun i hi => hsame i (List.mem_cons_of_mem _ hi))

end IsLinked

theorem frees_empty : (∅ : Slots κ α).Frees [] :=
  ⟨.nil, List.nodup_nil, fun i slot hi => by
    change (empty : Slots κ α).slots[i]? = some slot at hi
    simp [empty] at hi⟩

theorem valid_empty : (∅ : Slots κ α).Valid := ⟨⟨[], frees_empty⟩, rfl⟩

theorem Frees.free_eq {s : Slots κ α} {l : List Nat} (h : s.Frees l) : s.free = l.head? := by
  obtain ⟨hl, -, -⟩ := h
  generalize s.free = head at hl
  cases hl <;> rfl

theorem Frees.eq_nil {s : Slots κ α} {l : List Nat} (h : s.Frees l) (hf : s.free = none) :
    l = [] := by
  rw [h.free_eq] at hf
  exact List.head?_eq_none_iff.1 hf

/-- The place that was freed last is empty, and links those that were freed before. -/
theorem Frees.exists_cons {s : Slots κ α} {l : List Nat} {i : Nat} (h : s.Frees l)
    (hf : s.free = some i) : ∃ (slot : Slot α) (rest : List Nat), l = i :: rest ∧
      s.slots[i]? = some slot ∧ slot.value = none ∧ IsLinked s.slots slot.next rest := by
  obtain ⟨hl, -, -⟩ := h
  rw [hf] at hl
  cases hl with
  | cons hslot hvalue hnext => exact ⟨_, _, rfl, hslot, hvalue, hnext⟩

theorem Valid.isFree {s : Slots κ α} (hs : s.Valid) {i : Nat} (hf : s.free = some i) :
    ∃ slot, s.slots[i]? = some slot ∧ slot.value = none := by
  obtain ⟨l, hl⟩ := hs.frees
  obtain ⟨slot, -, -, hslot, hvalue, -⟩ := hl.exists_cons hf
  exact ⟨slot, hslot, hvalue⟩

/-! ### What handles refer to -/

theorem unwrapped_empty : (∅ : Slots κ α).Unwrapped := by
  intro slot hslot
  change slot ∈ (empty : Slots κ α).slots at hslot
  simp [empty] at hslot

theorem get?_empty (h : Handle κ) : (∅ : Slots κ α).get? h = none := by
  change (empty : Slots κ α).get? h = none
  simp [get?, empty]

theorem get?_eq_some_iff {s : Slots κ α} {h : Handle κ} {v : α} :
    s.get? h = some v ↔ ∃ slot, s.slots[h.index]? = some slot ∧
      slot.generation = h.generation ∧ slot.value = some v := by
  simp only [get?]
  cases s.slots[h.index]? with
  | none => simp
  | some slot => by_cases hg : slot.generation = h.generation <;> simp [hg]

/-- The live handle of a slot is told by the index alone. -/
theorem eq_of_index_eq {s : Slots κ α} {h k : Handle κ} {v w : α} (hv : s.get? h = some v)
    (hw : s.get? k = some w) (hi : h.index = k.index) : h = k := by
  obtain ⟨slot, hs, hg, -⟩ := get?_eq_some_iff.1 hv
  obtain ⟨slot', hs', hg', -⟩ := get?_eq_some_iff.1 hw
  rw [hi] at hs
  obtain rfl : slot = slot' := Option.some.inj (hs.symm.trans hs')
  cases h; cases k
  simp_all

theorem index_lt {s : Slots κ α} {h : Handle κ} {v : α} (hv : s.get? h = some v) :
    h.index < s.slots.size := by
  obtain ⟨slot, hs, -⟩ := get?_eq_some_iff.1 hv
  exact (Array.getElem?_eq_some_iff.1 hs).1

/-- There are no more live handles than slots. -/
theorem length_le_size {s : Slots κ α} {l : List (Handle κ)} (hl : l.Nodup)
    (hv : ∀ h ∈ l, (s.get? h).isSome) : l.length ≤ s.slots.size := by
  have hnodup : (l.map Handle.index).Nodup := by
    refine List.Nodup.map_on (fun h hh k hk hi => ?_) hl
    obtain ⟨v, hv'⟩ := Option.isSome_iff_exists.1 (hv h hh)
    obtain ⟨w, hw'⟩ := Option.isSome_iff_exists.1 (hv k hk)
    exact eq_of_index_eq hv' hw' hi
  have hsub : l.map Handle.index ⊆ List.range s.slots.size := by
    intro i hi
    obtain ⟨h, hh, rfl⟩ := List.mem_map.1 hi
    obtain ⟨v, hv'⟩ := Option.isSome_iff_exists.1 (hv h hh)
    exact List.mem_range.2 (index_lt hv')
  have := (List.subperm_of_subset hnodup hsub).length_le
  simpa using this

theorem issued_of_get? {s : Slots κ α} {h : Handle κ} {v : α} (hv : s.get? h = some v) :
    s.Issued h := by
  obtain ⟨slot, hs, hg, hval⟩ := get?_eq_some_iff.1 hv
  refine ⟨slot, hs, ?_⟩
  have hmod : h.generation.toNat = slot.freed % 2 ^ 32 := by
    rw [← hg, Slot.generation, UInt32.toNat_ofNat']
  have hle := Nat.mod_le slot.freed (2 ^ 32)
  by_cases heq : h.generation.toNat = slot.freed
  · exact .inr ⟨heq, by simp [hval]⟩
  · exact .inl (by omega)

/-! ### Changing a value -/

theorem get?_set {s : Slots κ α} {h k : Handle κ} {v : α} :
    (s.set h v).get? k = if h = k ∧ s.contains h then some v else s.get? k := by
  by_cases hc : s.contains h
  · obtain ⟨w, hw⟩ := Option.isSome_iff_exists.1 hc
    obtain ⟨slot, hs, hg, hval⟩ := get?_eq_some_iff.1 hw
    simp only [set, hc, ↓reduceIte, and_true, get?, Array.getElem?_modify]
    by_cases hi : h.index = k.index
    · rw [← hi, hs]
      by_cases hk : slot.generation = k.generation
      · have heq : h = k := by
          cases h; cases k
          simp_all
        simp only [Slot.generation] at hk
        simp [heq, Slot.generation, hk]
      · have hne : h ≠ k := fun heq => hk (heq ▸ hg)
        simp only [Slot.generation] at hk
        simp [hne, Slot.generation, hk]
    · have hne : h ≠ k := fun heq => hi (heq ▸ rfl)
      simp [hi, hne]
  · simp [set, hc]

theorem get?_modify {s : Slots κ α} {h k : Handle κ} {f : α → α} :
    (s.modify h f).get? k = if h = k then (s.get? k).map f else s.get? k := by
  simp only [modify]
  cases hv : s.get? h with
  | none =>
    by_cases hk : h = k
    · subst hk
      simp [hv]
    · simp [hk]
  | some v =>
    rw [get?_set]
    by_cases hk : h = k
    · subst hk
      simp [contains, hv]
    · simp [hk]

theorem modify_eq {s : Slots κ α} {h : Handle κ} {f : α → α} {v : α} (hv : s.get? h = some v) :
    s.modify h f =
      { s with slots := s.slots.modify h.index fun slot => { slot with value := some (f v) } } := by
  simp [modify, set, contains, hv]

theorem modify_of_none {s : Slots κ α} {h : Handle κ} {f : α → α} (hv : s.get? h = none) :
    s.modify h f = s := by
  simp [modify, hv]

theorem modify_congr {s : Slots κ α} {k : Handle κ} {f g : α → α}
    (h : ∀ v ∈ s.get? k, f v = g v) : s.modify k f = s.modify k g := by
  cases hv : s.get? k with
  | none => rw [modify_of_none hv, modify_of_none hv]
  | some v => rw [modify_eq hv, modify_eq hv, h v hv]

theorem modify_eq_self {s : Slots κ α} {k : Handle κ} {f : α → α}
    (h : ∀ v ∈ s.get? k, f v = v) : s.modify k f = s := by
  cases hv : s.get? k with
  | none => exact modify_of_none hv
  | some v =>
    have hslots : s.slots.modify k.index (fun slot => { slot with value := some v }) = s.slots := by
      refine Array.ext_getElem? fun i => ?_
      rw [Array.getElem?_modify]
      split
      · rename_i heq
        subst heq
        cases hslot : s.slots[k.index]? with
        | none => rfl
        | some slot =>
          simp only [get?, hslot] at hv
          split at hv
          · rw [Option.map_some, ← hv]
          · cases hv
      · rfl
    rw [modify_eq hv, h v hv, hslots]

theorem Frees.modify {s : Slots κ α} {l : List Nat} (hs : s.Frees l) (h : Handle κ) (f : α → α) :
    (s.modify h f).Frees l := by
  cases hv : s.get? h with
  | none => rwa [modify_of_none hv]
  | some v =>
    rw [modify_eq hv]
    obtain ⟨slot', hslot', -, hval'⟩ := get?_eq_some_iff.1 hv
    refine ⟨hs.linked.congr fun i hi => ?_, hs.nodup, fun i slot hi hvalue => ?_⟩
    · obtain ⟨slot, hslot, hval⟩ := hs.linked.isFree hi
      have hne : h.index ≠ i := by
        rintro rfl
        simp_all
      simp [Array.getElem?_modify, hne]
    · simp only [Array.getElem?_modify] at hi
      split at hi
      · obtain ⟨old, -, rfl⟩ := Option.map_eq_some_iff.1 hi
        cases hvalue
      · exact hs.mem i slot hi hvalue

theorem total_modify (s : Slots κ α) (h : Handle κ) (f : α → α) :
    ((s.modify h f).total fun _ => 1) = s.total fun _ => 1 := by
  cases hv : s.get? h with
  | none => rw [modify_of_none hv]
  | some v =>
    rw [modify_eq hv]
    obtain ⟨slot, hs, -, hval⟩ := get?_eq_some_iff.1 hv
    obtain ⟨hi, hs⟩ := Array.getElem?_eq_some_iff.1 hs
    have hset := foldr_slotWeight_modify (fun _ => 1)
      (fun slot => { slot with value := some (f v) }) s.slots.toList h.index hi
    have hslot : slotWeight (fun _ => 1) s.slots.toList[h.index] = 1 := by
      simp [slotWeight, hs, hval]
    rw [hslot, show slotWeight (fun _ => 1) { s.slots.toList[h.index] with value := some (f v) } = 1
      from rfl] at hset
    simpa only [total, Array.toList_modify, Nat.add_right_cancel_iff] using hset

theorem size_modify (s : Slots κ α) (h : Handle κ) (f : α → α) : (s.modify h f).size = s.size := by
  cases hv : s.get? h with
  | none => rw [modify_of_none hv]
  | some v => rw [modify_eq hv]

theorem Valid.modify {s : Slots κ α} (hs : s.Valid) (h : Handle κ) (f : α → α) :
    (s.modify h f).Valid := by
  obtain ⟨l, hl⟩ := hs.frees
  exact ⟨⟨l, hl.modify h f⟩, by rw [size_modify, total_modify, hs.size_eq]⟩

theorem grows_modify (s : Slots κ α) (h : Handle κ) (f : α → α) : s.Grows (s.modify h f) := by
  cases hv : s.get? h with
  | none =>
    rw [modify_of_none hv]
    exact .refl s
  | some v =>
    rw [modify_eq hv]
    have hget : ∀ (i : Nat) (slot : Slot α), s.slots[i]? = some slot → ∃ slot' : Slot α,
        (s.slots.modify h.index fun slot => { slot with value := some (f v) })[i]? = some slot' ∧
          slot'.freed = slot.freed ∧ (slot.value.isSome → slot'.value.isSome) := by
      intro i slot hi
      by_cases hne : h.index = i
      · exact ⟨{ slot with value := some (f v) }, by simp [Array.getElem?_modify, hne, hi], rfl,
          fun _ => rfl⟩
      · exact ⟨slot, by simp [Array.getElem?_modify, hne, hi], rfl, id⟩
    refine ⟨by simp, fun i slot hi => ?_, fun k hk => ?_⟩
    · obtain ⟨slot', hs', hf, -⟩ := hget i slot hi
      exact ⟨slot', hs', Nat.le_of_eq hf.symm⟩
    · obtain ⟨slot, hi, hk⟩ := hk
      obtain ⟨slot', hs', hf, hval⟩ := hget k.index slot hi
      refine ⟨slot', hs', ?_⟩
      rcases hk with hk | ⟨hk, hsome⟩
      · exact .inl (hf ▸ hk)
      · exact .inr ⟨hf ▸ hk, hval hsome⟩

/-! ### Adding a value -/

theorem insert_of_none {s : Slots κ α} (hf : s.free = none) (v : α) :
    s.insert v =
      (⟨s.slots.push ⟨0, some v, none⟩, none, s.size + 1⟩, ⟨s.slots.size, 0⟩) := by
  simp [insert, hf]

theorem insert_of_some {s : Slots κ α} {i : Nat} (hf : s.free = some i) (v : α) : s.insert v =
    (⟨s.slots.setIfInBounds i ⟨((s.slots[i]?).getD ⟨0, none, none⟩).freed, some v, none⟩,
        ((s.slots[i]?).getD ⟨0, none, none⟩).next, s.size + 1⟩,
      ⟨i, ((s.slots[i]?).getD ⟨0, none, none⟩).generation⟩) := by
  simp [insert, hf]

theorem get?_insert_of_ne {s : Slots κ α} {v : α} {h : Handle κ} (hne : h ≠ (s.insert v).2) :
    (s.insert v).1.get? h = s.get? h := by
  obtain ⟨i, g⟩ := h
  cases hf : s.free with
  | none =>
    rw [insert_of_none hf] at hne ⊢
    simp only [get?, Array.getElem?_push]
    by_cases hi : i = s.slots.size
    · have hg : g ≠ 0 := fun hg => hne (by simp [hi, hg])
      have hg' : (0 : UInt32) ≠ g := Ne.symm hg
      simp [hi, Slot.generation, hg']
    · simp [hi]
  | some j =>
    rw [insert_of_some hf] at hne ⊢
    simp only [get?, Array.getElem?_setIfInBounds]
    by_cases hi : j = i
    · subst hi
      cases hs : s.slots[j]? with
      | none => simp [Nat.not_lt.2 (Array.getElem?_eq_none_iff.1 hs)]
      | some slot =>
        have hlt := (Array.getElem?_eq_some_iff.1 hs).1
        have hg : ¬ slot.generation = g := fun hg => hne (by simp [hs, hg])
        have hg' : ¬ UInt32.ofNat slot.freed = g := hg
        simp [hlt, Slot.generation, hg']
    · simp [hi]

theorem Valid.get?_insert {s : Slots κ α} (hs : s.Valid) (v : α) (h : Handle κ) :
    (s.insert v).1.get? h = if h = (s.insert v).2 then some v else s.get? h := by
  split
  · rename_i heq
    subst heq
    cases hf : s.free with
    | none => simp [insert_of_none hf, get?, Slot.generation]
    | some i =>
      obtain ⟨slot, hslot, -⟩ := hs.isFree hf
      have hlt := (Array.getElem?_eq_some_iff.1 hslot).1
      simp [insert_of_some hf, get?, hlt, Slot.generation]
  · rename_i hne
    exact get?_insert_of_ne hne

theorem Valid.get?_insert_self {s : Slots κ α} (hs : s.Valid) (v : α) :
    (s.insert v).1.get? (s.insert v).2 = some v := by
  rw [hs.get?_insert, if_pos rfl]

theorem Valid.get?_fresh {s : Slots κ α} (hs : s.Valid) (v : α) :
    s.get? (s.insert v).2 = none := by
  cases hf : s.free with
  | none => simp [insert_of_none hf, get?]
  | some i =>
    obtain ⟨slot, hslot, hval⟩ := hs.isFree hf
    simp [insert_of_some hf, get?, hslot, hval]

/-- A fresh handle was never given out before. -/
theorem Valid.not_issued_fresh {s : Slots κ α} (hs : s.Valid) (hw : s.Unwrapped) (v : α) :
    ¬ s.Issued (s.insert v).2 := by
  rintro ⟨slot, hslot, hk⟩
  cases hf : s.free with
  | none => simp [insert_of_none hf] at hslot
  | some i =>
    obtain ⟨slot', hslot', hval⟩ := hs.isFree hf
    rw [insert_of_some hf] at hslot hk
    obtain rfl : slot' = slot := Option.some.inj (hslot'.symm.trans hslot)
    have hlt := hw slot' (Array.mem_of_getElem? hslot)
    simp only [hslot', Option.getD_some, Slot.generation, UInt32.toNat_ofNat',
      Nat.mod_eq_of_lt hlt, hval] at hk
    simp at hk

/-- A value goes to the place that was freed last. -/
theorem Frees.insert {s : Slots κ α} {l : List Nat} (hs : s.Frees l) (v : α) :
    (s.insert v).1.Frees l.tail := by
  cases hf : s.free with
  | none =>
    obtain rfl := hs.eq_nil hf
    rw [insert_of_none hf]
    refine ⟨.nil, List.nodup_nil, fun i slot hi hvalue => ?_⟩
    simp only [Array.getElem?_push] at hi
    split at hi
    · obtain rfl := Option.some.inj hi
      cases hvalue
    · exact hs.mem i slot hi hvalue
  | some i =>
    obtain ⟨slot, rest, rfl, hslot, -, hnext⟩ := hs.exists_cons hf
    obtain ⟨hi, hnodup⟩ := List.nodup_cons.1 hs.nodup
    rw [insert_of_some hf]
    have hother : ∀ (v : Slot α) (j : Nat), i ≠ j →
        (s.slots.setIfInBounds i v)[j]? = s.slots[j]? := fun v j hne => by simp [hne]
    refine ⟨?_, hnodup, fun j slot' hj hvalue => ?_⟩
    · simp only [hslot, Option.getD_some]
      exact hnext.congr fun j hj => hother _ j fun heq => hi (heq ▸ hj)
    · by_cases hne : i = j
      · subst hne
        have hlt := (Array.getElem?_eq_some_iff.1 hslot).1
        simp only [Array.getElem?_setIfInBounds, hlt, ↓reduceIte, Option.some.injEq] at hj
        obtain rfl := hj
        cases hvalue
      · rw [hother _ j hne] at hj
        exact (List.mem_cons.1 (hs.mem j slot' hj hvalue)).resolve_left (Ne.symm hne)

theorem size_insert (s : Slots κ α) (v : α) : (s.insert v).1.size = s.size + 1 := by
  cases hf : s.free with
  | none => rw [insert_of_none hf]
  | some i => rw [insert_of_some hf]

theorem foldr_slotWeight_append (f : α → Nat) (l : List (Slot α)) (slot : Slot α) :
    (l ++ [slot]).foldr (fun slot n => slotWeight f slot + n) 0
      = l.foldr (fun slot n => slotWeight f slot + n) 0 + slotWeight f slot := by
  induction l with
  | nil => simp
  | cons a l ih =>
    simp only [List.cons_append, List.foldr_cons, ih]
    omega

theorem Valid.total_insert {s : Slots κ α} (hs : s.Valid) (f : α → Nat) (v : α) :
    (s.insert v).1.total f = s.total f + f v := by
  cases hf : s.free with
  | none =>
    rw [insert_of_none hf]
    have hpush := foldr_slotWeight_append f s.slots.toList (⟨0, some v, none⟩ : Slot α)
    rw [show slotWeight f ⟨0, some v, none⟩ = f v from rfl] at hpush
    simpa only [total, Array.toList_push] using hpush
  | some i =>
    obtain ⟨slot, hslot, hval⟩ := hs.isFree hf
    rw [insert_of_some hf, hslot, Option.getD_some]
    obtain ⟨hi, rfl⟩ := Array.getElem?_eq_some_iff.1 hslot
    have hset := foldr_slotWeight_modify f
      (fun _ => ⟨s.slots[i].freed, some v, none⟩) s.slots.toList i hi
    have hempty : slotWeight f s.slots.toList[i] = 0 := by simp [slotWeight, hval]
    rw [hempty, show slotWeight f ⟨s.slots[i].freed, some v, none⟩ = f v from rfl] at hset
    simpa [total, Array.toList_setIfInBounds, List.modify_eq_set_getElem?, hi] using hset

theorem Valid.insert {s : Slots κ α} (hs : s.Valid) (v : α) : (s.insert v).1.Valid := by
  obtain ⟨l, hl⟩ := hs.frees
  exact ⟨⟨l.tail, hl.insert v⟩, by rw [size_insert, hs.total_insert, hs.size_eq]⟩

theorem grows_insert (s : Slots κ α) (v : α) : s.Grows (s.insert v).1 := by
  have hget : ∀ (i : Nat) (slot : Slot α), s.slots[i]? = some slot → ∃ slot' : Slot α,
      (s.insert v).1.slots[i]? = some slot' ∧ slot'.freed = slot.freed ∧
        (slot.value.isSome → slot'.value.isSome) := by
    intro i slot hi
    have hlt := (Array.getElem?_eq_some_iff.1 hi).1
    cases hf : s.free with
    | none =>
      rw [insert_of_none hf]
      exact ⟨slot, by simp [Array.getElem?_push, Nat.ne_of_lt hlt, hi], rfl, id⟩
    | some j =>
      rw [insert_of_some hf]
      by_cases hij : j = i
      · subst hij
        refine ⟨⟨slot.freed, some v, none⟩, ?_, rfl, fun _ => rfl⟩
        simp [hlt, (Array.getElem?_eq_some_iff.1 hi).2]
      · exact ⟨slot, by simp [hij, hi], rfl, id⟩
  refine ⟨?_, fun i slot hi => ?_, fun k hk => ?_⟩
  · cases hf : s.free with
    | none => simp [insert_of_none hf]
    | some j => simp [insert_of_some hf]
  · obtain ⟨slot', hs', hf, -⟩ := hget i slot hi
    exact ⟨slot', hs', Nat.le_of_eq hf.symm⟩
  · obtain ⟨slot, hi, hk⟩ := hk
    obtain ⟨slot', hs', hf, hval⟩ := hget k.index slot hi
    refine ⟨slot', hs', ?_⟩
    rcases hk with hk | ⟨hk, hsome⟩
    · exact .inl (hf ▸ hk)
    · exact .inr ⟨hf ▸ hk, hval hsome⟩

theorem Valid.issued_fresh {s : Slots κ α} (hs : s.Valid) (v : α) :
    (s.insert v).1.Issued (s.insert v).2 :=
  issued_of_get? (hs.get?_insert_self v)

/-! ### Freeing a slot -/

theorem erase_of_none {s : Slots κ α} {h : Handle κ} (hv : s.get? h = none) : s.erase h = s := by
  simp [erase, take, hv]

/-- Taking a value answers with the value. -/
theorem take_fst (s : Slots κ α) (h : Handle κ) : (s.take h).1 = s.get? h := by
  cases hv : s.get? h <;> simp [take, hv]

theorem get?_erase {s : Slots κ α} {h k : Handle κ} :
    (s.erase h).get? k = if h = k then none else s.get? k := by
  cases hw : s.get? h with
  | none =>
    rw [erase_of_none hw]
    split
    · rename_i heq
      exact heq ▸ hw
    · rfl
  | some w =>
    obtain ⟨slot, hs, hg, -⟩ := get?_eq_some_iff.1 hw
    simp only [erase_eq hw, get?, Array.getElem?_modify]
    by_cases hi : h.index = k.index
    · rw [← hi, hs]
      by_cases heq : h = k
      · simp [heq]
      · have hk : slot.generation ≠ k.generation := by
          intro hk
          refine heq ?_
          cases h; cases k
          simp_all
        simp [heq, hk]
    · have hne : h ≠ k := fun heq => hi (heq ▸ rfl)
      simp [hi, hne]

/-- A freed place comes before those that were freed before. -/
theorem Frees.erase {s : Slots κ α} {l : List Nat} {h : Handle κ} {v : α} (hs : s.Frees l)
    (hv : s.get? h = some v) : (s.erase h).Frees (h.index :: l) := by
  rw [erase_eq hv]
  obtain ⟨slot, hslot, -, hval⟩ := get?_eq_some_iff.1 hv
  have hfree : h.index ∉ l := by
    intro hi
    obtain ⟨slot', hslot', hval'⟩ := hs.linked.isFree hi
    simp_all
  have hother : ∀ (f : Slot α → Slot α) (i : Nat), h.index ≠ i →
      (s.slots.modify h.index f)[i]? = s.slots[i]? := fun f i hne => by
    simp [Array.getElem?_modify, hne]
  have hemptied : (s.slots.modify h.index fun slot => ⟨slot.freed + 1, none, s.free⟩)[h.index]? =
      some ⟨slot.freed + 1, none, s.free⟩ := by
    simp [Array.getElem?_modify, hslot]
  refine ⟨.cons hemptied rfl ?_, List.nodup_cons.2 ⟨hfree, hs.nodup⟩, fun i slot' hi hvalue => ?_⟩
  · exact hs.linked.congr fun i hi => hother _ i fun heq => hfree (heq ▸ hi)
  · by_cases hne : h.index = i
    · exact List.mem_cons.2 (.inl hne.symm)
    · rw [hother _ i hne] at hi
      exact List.mem_cons_of_mem _ (hs.mem i slot' hi hvalue)

theorem Valid.erase {s : Slots κ α} (hs : s.Valid) (h : Handle κ) : (s.erase h).Valid := by
  cases hv : s.get? h with
  | none => rwa [erase_of_none hv]
  | some v =>
    obtain ⟨l, hl⟩ := hs.frees
    refine ⟨⟨h.index :: l, hl.erase hv⟩, ?_⟩
    have hsize : (s.erase h).size = s.size - 1 := by rw [erase_eq hv]
    have htotal := total_erase (fun _ => 1) hv
    rw [hsize, hs.size_eq]
    omega

theorem grows_erase (s : Slots κ α) (h : Handle κ) : s.Grows (s.erase h) := by
  cases hv : s.get? h with
  | none =>
    rw [erase_of_none hv]
    exact .refl s
  | some v =>
    rw [erase_eq hv]
    refine ⟨by simp, fun i slot hi => ?_, fun k ⟨slot, hi, hk⟩ => ?_⟩
    · by_cases hne : h.index = i
      · exact ⟨⟨slot.freed + 1, none, s.free⟩, by simp [Array.getElem?_modify, hne, hi], by simp⟩
      · exact ⟨slot, by simp [Array.getElem?_modify, hne, hi], Nat.le_refl _⟩
    · by_cases hne : h.index = k.index
      · refine ⟨⟨slot.freed + 1, none, s.free⟩, by simp [Array.getElem?_modify, hne, hi], .inl ?_⟩
        simp only
        omega
      · exact ⟨slot, by simp [Array.getElem?_modify, hne, hi], hk⟩

/-! ### Handles that were given up -/

/-- Whether the slot of a handle goes by another generation, so that a new value does not bring the
handle back. -/
def Retired (s : Slots κ α) (h : Handle κ) : Prop :=
  ∃ slot, s.slots[h.index]? = some slot ∧ slot.generation ≠ h.generation

/-- Whether a retired handle left its slot empty. -/
def Vacated (s : Slots κ α) (h : Handle κ) : Prop :=
  ∃ slot, s.slots[h.index]? = some slot ∧ slot.generation ≠ h.generation ∧ slot.value = none

variable {s : Slots κ α} {h : Handle κ}

theorem Vacated.retired (hv : s.Vacated h) : s.Retired h := by
  obtain ⟨slot, hs, hg, -⟩ := hv
  exact ⟨slot, hs, hg⟩

theorem Retired.get?_eq_none (hr : s.Retired h) : s.get? h = none := by
  obtain ⟨slot, hs, hg⟩ := hr
  simp [get?, hs, hg]

theorem generation_succ_ne (n : Nat) (v w : Option α) (i j : Option Nat) :
    (Slot.mk (n + 1) v i).generation ≠ (Slot.mk n w j).generation := by
  intro heq
  have hnat := congrArg UInt32.toNat heq
  simp only [Slot.generation, UInt32.toNat_ofNat'] at hnat
  omega

theorem vacated_erase {v : α} (hv : s.get? h = some v) : (s.erase h).Vacated h := by
  obtain ⟨slot, hs, hg, -⟩ := get?_eq_some_iff.1 hv
  refine ⟨⟨slot.freed + 1, none, s.free⟩, by simp [erase_eq hv, Array.getElem?_modify, hs], ?_, rfl⟩
  rw [← hg]
  exact generation_succ_ne slot.freed none slot.value s.free slot.next

/-- An empty slot is not freed again. -/
theorem Vacated.erase (hv : s.Vacated h) (k : Handle κ) : (s.erase k).Vacated h := by
  obtain ⟨slot, hs, hg, hnone⟩ := hv
  cases hk : s.get? k with
  | none =>
    rw [erase_of_none hk]
    exact ⟨slot, hs, hg, hnone⟩
  | some v =>
    have hne : k.index ≠ h.index := by
      intro heq
      obtain ⟨slot', hs', -, hval⟩ := get?_eq_some_iff.1 hk
      rw [heq, hs] at hs'
      obtain rfl := Option.some.inj hs'
      simp [hnone] at hval
    exact ⟨slot, by simp [erase_eq hk, Array.getElem?_modify, hne, hs], hg, hnone⟩

theorem Retired.modify (hr : s.Retired h) (k : Handle κ) (f : α → α) :
    (s.modify k f).Retired h := by
  obtain ⟨slot, hs, hg⟩ := hr
  cases hk : s.get? k with
  | none =>
    rw [modify_of_none hk]
    exact ⟨slot, hs, hg⟩
  | some v =>
    rw [modify_eq hk]
    by_cases hi : k.index = h.index
    · exact ⟨{ slot with value := some (f v) }, by simp [Array.getElem?_modify, hi, hs], hg⟩
    · exact ⟨slot, by simp [Array.getElem?_modify, hi, hs], hg⟩

theorem Retired.insert (hr : s.Retired h) (v : α) : (s.insert v).1.Retired h := by
  obtain ⟨slot, hs, hg⟩ := hr
  have hlt := (Array.getElem?_eq_some_iff.1 hs).1
  cases hf : s.free with
  | none =>
    rw [insert_of_none hf]
    exact ⟨slot, by simp [Array.getElem?_push, Nat.ne_of_lt hlt, hs], hg⟩
  | some i =>
    rw [insert_of_some hf]
    by_cases hi : i = h.index
    · exact ⟨⟨slot.freed, some v, none⟩, by
        simp [hi, hlt, (Array.getElem?_eq_some_iff.1 hs).2], hg⟩
    · exact ⟨slot, by simp [hi, hs], hg⟩

end WebStyle.Slots
