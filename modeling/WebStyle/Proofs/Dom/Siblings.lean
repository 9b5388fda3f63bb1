import WebStyle.Proofs.Dom.Walks
/-!
The walks along the children of a node. From a child, the links lead backwards through those that
stand before it, and forwards through those after it; what is no element is passed.
-/
set_option autoImplicit false

namespace WebStyle.Dom

variable {d : Dom} {forward : Bool} {n m p : NodeId} {l before after : List NodeId}

/-- The nodes that the links on one side of a node lead through. -/
inductive Leads (d : Dom) (forward : Bool) : NodeId → List NodeId → Prop where
  | last {n : NodeId} (h : d.beside? forward n = none) : Leads d forward n []
  | pass {n m : NodeId} {l : List NodeId} (h : d.beside? forward n = some m)
      (hl : Leads d forward m l) : Leads d forward n (m :: l)

namespace Leads

theorem of_append (h : d.Leads forward n (before ++ m :: after)) : d.Leads forward m after := by
  induction before generalizing n with
  | nil =>
    cases h with
    | pass _ hl => exact hl
  | cons a before ih =>
    cases h with
    | pass _ hl => exact ih hl

theorem elementBesideFuel?_eq (h : d.Leads forward n l) {fuel : Nat} (hf : l.length ≤ fuel) :
    d.elementBesideFuel? forward fuel n = l.find? d.isElement := by
  induction h generalizing fuel with
  | last h => cases fuel <;> simp [elementBesideFuel?, h]
  | @pass n m l h _ ih =>
    cases fuel with
    | zero => simp at hf
    | succ fuel =>
      simp only [elementBesideFuel?, h, ih (Nat.le_of_succ_le_succ hf), List.find?_cons]
      cases d.isElement m <;> rfl

variable (hsize : l.length ≤ d.nodes.slots.size)
include hsize

/-- The walk finds the first element on its way. -/
theorem elementBeside?_eq (h : d.Leads forward n l) :
    d.elementBeside? forward n = l.find? d.isElement :=
  h.elementBesideFuel?_eq hsize

theorem elementsBesideFuel_eq (h : d.Leads forward n l) {fuel : Nat} (hf : l.length ≤ fuel) :
    d.elementsBesideFuel forward fuel n = l.filter d.isElement := by
  induction fuel generalizing n l with
  | zero =>
    obtain rfl := List.eq_nil_of_length_eq_zero (Nat.le_zero.1 hf)
    rfl
  | succ fuel ih =>
    rw [elementsBesideFuel, h.elementBeside?_eq hsize]
    cases hfind : l.find? d.isElement with
    | none => exact (List.filter_eq_nil_iff.2 (List.find?_eq_none.1 hfind)).symm
    | some m =>
      obtain ⟨hm, passed, rest, rfl, hpassed⟩ := List.find?_eq_some_iff_append.1 hfind
      have hnone : passed.filter d.isElement = [] :=
        List.filter_eq_nil_iff.2 fun a ha => by simpa using hpassed a ha
      simp only [List.length_append, List.length_cons] at hsize hf
      simp only [List.filter_append, hnone, List.nil_append, List.filter_cons_of_pos hm]
      rw [ih (by omega) h.of_append (by omega)]

/-- The walk from element to element passes all elements on its way. -/
theorem elementsBeside_eq (h : d.Leads forward n l) :
    d.elementsBeside forward n = l.filter d.isElement :=
  h.elementsBesideFuel_eq hsize hsize

end Leads

theorem Lists.leads_back (h : d.Lists p (before ++ n :: after)) :
    d.Leads false n before.reverse := by
  induction before using List.reverseRecOn generalizing n after with
  | nil => exact .last h.previous?_eq
  | append_singleton before a ih =>
    have ha : d.beside? false n = some a := h.previous?_eq.trans (by simp)
    rw [List.append_assoc] at h
    rw [List.reverse_append]
    exact .pass ha (ih h)

theorem Lists.leads_on (h : d.Lists p (before ++ n :: after)) : d.Leads true n after := by
  induction after generalizing n before with
  | nil => exact .last h.next?_eq
  | cons a after ih =>
    have ha : d.beside? true n = some a := h.next?_eq
    rw [List.append_cons] at h
    exact .pass ha (ih h)

/-- The nodes with the same parent; a node without one is alone. -/
def siblings (d : Dom) (n : NodeId) : List NodeId :=
  match d.parent? n with
  | some p => d.children p
  | none => [n]

theorem siblings_of_parent (h : d.parent? n = some p) : d.siblings n = d.children p := by
  simp only [siblings, h]

theorem siblings_of_root (h : d.parent? n = none) : d.siblings n = [n] := by
  simp only [siblings, h]

theorem sides_of_root (hp : d.parent? n = none) (h : d.siblings n = before ++ n :: after) :
    before = [] ∧ after = [] := by
  rw [siblings_of_root hp] at h
  have hlength := congrArg List.length h
  simp only [List.length_cons, List.length_nil, List.length_append] at hlength
  exact ⟨List.eq_nil_of_length_eq_zero (by omega), List.eq_nil_of_length_eq_zero (by omega)⟩

namespace Consistent

variable (hd : d.Consistent)
include hd

theorem exists_siblings_eq (n : NodeId) : ∃ before after, d.siblings n = before ++ n :: after := by
  refine List.append_of_mem ?_
  cases hp : d.parent? n with
  | none => simp [siblings_of_root hp]
  | some p => exact siblings_of_parent hp ▸ hd.mem_children hp

theorem nodup_siblings (n : NodeId) : (d.siblings n).Nodup := by
  cases hp : d.parent? n with
  | none => simp [siblings_of_root hp]
  | some p => exact siblings_of_parent hp ▸ hd.nodup p

theorem isSome_of_mem_siblings (hn : (d.node? n).isSome) (hm : m ∈ d.siblings n) :
    (d.node? m).isSome := by
  rw [siblings] at hm
  split at hm
  · exact hd.isSome_of_mem_children hm
  · rwa [List.mem_singleton.1 hm]

theorem grounded_of_mem_siblings (hn : d.Grounded n) (hm : m ∈ d.siblings n) : d.Grounded m := by
  rw [siblings] at hm
  split at hm
  · rename_i p hp
    refine .intro m fun q hq => ?_
    obtain rfl := Option.some.inj ((hd.parent_of_mem hm).symm.trans hq)
    exact hn.parent hp
  · rwa [List.mem_singleton.1 hm]

section Sides

variable (h : d.siblings n = before ++ n :: after)
include h

theorem leads (forward : Bool) :
    d.Leads forward n (if forward then after else before.reverse) := by
  cases hp : d.parent? n with
  | none =>
    obtain ⟨rfl, rfl⟩ := sides_of_root hp h
    cases forward with
    | false => exact .last (hd.alone n hp).1
    | true => exact .last (hd.alone n hp).2
  | some p =>
    have hlists := hd.lists p
    rw [← siblings_of_parent hp, h] at hlists
    cases forward with
    | false => exact hlists.leads_back
    | true => exact hlists.leads_on

/-- A walk passes each node at most once, so that its fuel does not run out. -/
theorem length_side_le (forward : Bool) :
    (if forward then after else before.reverse).length ≤ d.nodes.slots.size := by
  have hle : before.length + after.length ≤ d.nodes.slots.size := by
    cases hp : d.parent? n with
    | none =>
      obtain ⟨rfl, rfl⟩ := sides_of_root hp h
      exact Nat.zero_le _
    | some p =>
      have hle := Slots.length_le_size (hd.nodup_siblings n) fun m =>
        hd.isSome_of_mem_siblings (isSome_of_parent hp)
      rw [h, List.length_append, List.length_cons] at hle
      omega
  cases forward with
  | false =>
    rw [if_neg Bool.false_ne_true, List.length_reverse]
    omega
  | true =>
    rw [if_pos rfl]
    omega

theorem elementBeside?_eq (forward : Bool) : d.elementBeside? forward n =
    (if forward then after else before.reverse).find? d.isElement :=
  (hd.leads h forward).elementBeside?_eq (hd.length_side_le h forward)

theorem elementsBeside_eq (forward : Bool) : d.elementsBeside forward n =
    (if forward then after else before.reverse).filter d.isElement :=
  (hd.leads h forward).elementsBeside_eq (hd.length_side_le h forward)

end Sides

theorem elementBeside?_eq_head? :
    d.elementBeside? forward n = (d.elementsBeside forward n).head? := by
  obtain ⟨before, after, h⟩ := hd.exists_siblings_eq n
  rw [hd.elementBeside?_eq h, hd.elementsBeside_eq h, List.head?_filter]

theorem mem_siblings_of_mem_elementsBeside (hm : m ∈ d.elementsBeside forward n) :
    m ∈ d.siblings n := by
  obtain ⟨before, after, h⟩ := hd.exists_siblings_eq n
  rw [hd.elementsBeside_eq h] at hm
  have hmem := (List.mem_filter.1 hm).1
  rw [h]
  cases forward with
  | false => simp [List.mem_reverse.1 hmem]
  | true => simp [show m ∈ after from hmem]

end Consistent
end WebStyle.Dom
