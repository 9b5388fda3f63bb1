import WebStyle.Dom.Element
import WebStyle.Proofs.Dom.Changes
/-!
What the walks through a tree pass. A walk up that ends passes no node twice, so that its fuel never
runs out.
-/
set_option autoImplicit false

namespace WebStyle.Dom

/-- The nodes above a node, up to one without a parent. -/
inductive IsWalk (d : Dom) : NodeId → List NodeId → Prop where
  | root {n : NodeId} (h : d.parent? n = none) : IsWalk d n []
  | up {n p : NodeId} {l : List NodeId} (h : d.parent? n = some p) (hl : IsWalk d p l) :
      IsWalk d n (p :: l)

namespace IsWalk

variable {d : Dom} {n m : NodeId} {l l' : List NodeId}

theorem unique (h : d.IsWalk n l) (h' : d.IsWalk n l') : l = l' := by
  induction h generalizing l' with
  | root h =>
    cases h' with
    | root => rfl
    | up hp => simp [h] at hp
  | up h _ ih =>
    cases h' with
    | root hp => simp [h] at hp
    | up hp hl =>
      obtain rfl := Option.some.inj (h.symm.trans hp)
      rw [ih hl]

theorem of_mem (h : d.IsWalk n l) (hm : m ∈ l) : ∃ l', d.IsWalk m l' ∧ l'.length < l.length := by
  induction h with
  | root => simp at hm
  | up _ hl ih =>
    rcases List.mem_cons.1 hm with rfl | hm
    · exact ⟨_, hl, Nat.lt_succ_self _⟩
    · obtain ⟨l', hl', hlt⟩ := ih hm
      exact ⟨l', hl', Nat.lt_succ_of_lt hlt⟩

theorem nodup (h : d.IsWalk n l) : (n :: l).Nodup := by
  have hself : ∀ {n l}, d.IsWalk n l → n ∉ l := by
    intro n l h hm
    obtain ⟨l', hl', hlt⟩ := h.of_mem hm
    rw [h.unique hl'] at hlt
    exact Nat.lt_irrefl _ hlt
  induction h with
  | root => simp
  | up h hl ih => exact List.nodup_cons.2 ⟨hself (.up h hl), ih⟩

theorem ancestorsFuel_eq (h : d.IsWalk n l) {fuel : Nat} (hf : l.length ≤ fuel) :
    d.ancestorsFuel fuel n = l := by
  induction h generalizing fuel with
  | root h => cases fuel <;> simp [ancestorsFuel, h]
  | up h _ ih =>
    cases fuel with
    | zero => simp at hf
    | succ fuel => simp [ancestorsFuel, h, ih (Nat.le_of_succ_le_succ hf)]

theorem exists_node (hd : d.Consistent) (h : d.IsWalk n l) (hm : m ∈ l) :
    ∃ node, d.node? m = some node := by
  induction h with
  | root => simp at hm
  | up h _ ih =>
    rcases List.mem_cons.1 hm with rfl | hm
    · exact hd.exists_parent_node h
    · exact ih hm

theorem grounded (h : d.IsWalk n l) : d.Grounded n := by
  induction h with
  | root h => exact .intro _ fun p hp => by simp [h] at hp
  | up h _ ih =>
    refine .intro _ fun q hq => ?_
    obtain rfl := Option.some.inj (h.symm.trans hq)
    exact ih

theorem grounded_of_mem (h : d.IsWalk n l) (hg : d.Grounded n) (hm : m ∈ l) : d.Grounded m := by
  induction h with
  | root => simp at hm
  | up h _ ih =>
    rcases List.mem_cons.1 hm with rfl | hm
    · exact Acc.inv hg h
    · exact ih (Acc.inv hg h) hm

theorem length_le (hd : d.Consistent) (h : d.IsWalk n l) : l.length ≤ d.nodes.slots.size := by
  refine Slots.length_le_size (List.nodup_cons.1 h.nodup).2 fun m hm => ?_
  obtain ⟨node, hn⟩ := h.exists_node hd hm
  exact Option.isSome_iff_exists.2 ⟨node, hn⟩

theorem length_lt (hd : d.Consistent) (h : d.IsWalk n l) (hn : (d.node? n).isSome) :
    l.length < d.nodes.slots.size := by
  refine Slots.length_le_size h.nodup fun m hm => ?_
  rcases List.mem_cons.1 hm with rfl | hm
  · exact hn
  · obtain ⟨node, hn⟩ := h.exists_node hd hm
    exact Option.isSome_iff_exists.2 ⟨node, hn⟩

end IsWalk

theorem Grounded.exists_isWalk {d : Dom} {n : NodeId} (h : d.Grounded n) : ∃ l, d.IsWalk n l := by
  induction h with
  | intro n _ ih =>
    cases hp : d.parent? n with
    | none => exact ⟨[], .root hp⟩
    | some p =>
      obtain ⟨l, hl⟩ := ih p hp
      exact ⟨p :: l, .up hp hl⟩

theorem Grounded.isWalk {d : Dom} (hd : d.Consistent) {n : NodeId} (h : d.Grounded n) :
    d.IsWalk n (d.ancestors n) := by
  obtain ⟨l, hl⟩ := h.exists_isWalk
  rwa [ancestors, hl.ancestorsFuel_eq (hl.length_le hd)]

theorem Grounded.parent {d : Dom} {n p : NodeId} (h : d.Grounded n) (hp : d.parent? n = some p) :
    d.Grounded p :=
  Acc.inv h hp

theorem parentElement?_eq_some_iff {d : Dom} {n p : NodeId} :
    d.parentElement? n = some p ↔ d.parent? n = some p ∧ d.isElement p := by
  simp [parentElement?, Option.filter_eq_some_iff]

/-- The elements above an element: its parent's, after the parent. -/
theorem Grounded.ancestorElements_eq {d : Dom} (hd : d.Consistent) {n : NodeId}
    (h : d.Grounded n) : d.ancestorElements n =
      match d.parentElement? n with
      | none => []
      | some p => p :: d.ancestorElements p := by
  simp only [ancestorElements]
  cases hp : d.parent? n with
  | none =>
    rw [(h.isWalk hd).unique (.root hp)]
    simp [parentElement?, hp]
  | some p =>
    rw [(h.isWalk hd).unique (.up hp ((h.parent hp).isWalk hd))]
    by_cases he : d.isElement p <;> simp [parentElement?, hp, he, Option.filter]

end WebStyle.Dom
