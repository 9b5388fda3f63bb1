import Mathlib.Data.List.Chain
import WebStyle.Dom.Tree
import WebStyle.Proofs.Slots
/-!
The links between the children of a node. Where they are linked in the order of a list, the walk
from the first one gives that list; taking a node out of such a list, and putting one in, relinks
its neighbours only.
-/
set_option autoImplicit false

namespace WebStyle.Dom

variable {d d' : Dom} {a b c n m p q : NodeId} {l l₁ l₂ : List NodeId} {r : Option NodeId}

/-! ### Nodes that are changed -/

theorem node?_modify {f : Node → Node} :
    (d.modify n f).node? m = if n = m then (d.node? m).map f else d.node? m :=
  Slots.get?_modify

theorem node?_modify_eq_map {f : Node → Node} :
    (d.modify n f).node? m = (d.node? m).map fun node => if n = m then f node else node := by
  rw [node?_modify]
  split <;> simp

theorem node?_modifySome_eq_map {f : Node → Node} :
    (d.modifySome r f).node? m =
      (d.node? m).map fun node => if r = some m then f node else node := by
  cases r with
  | none => simp [modifySome]
  | some n => simp [modifySome, node?_modify_eq_map]

/-- A node after a child was taken out from between its neighbours. -/
theorem node?_unlink : (d.unlink p n).node? m = (d.node? m).map fun node =>
    { node with
      parent := if n = m then none else node.parent
      firstChild := if p = m ∧ node.firstChild = some n then d.next? n else node.firstChild
      lastChild := if p = m ∧ node.lastChild = some n then d.previous? n else node.lastChild
      previous := if n = m then none else
        if d.next? n = some m then d.previous? n else node.previous
      next := if n = m then none else
        if d.previous? n = some m then d.next? n else node.next } := by
  simp only [unlink, node?_modify_eq_map, node?_modifySome_eq_map, Option.map_map]
  generalize d.previous? n = previous
  generalize d.next? n = next
  congr 1
  funext node
  simp only [Function.comp_apply]
  by_cases hn : n = m <;> by_cases hp : p = m <;> by_cases hprevious : previous = some m <;>
    by_cases hnext : next = some m <;> simp [hn, hp, hprevious, hnext]

theorem node?_putAfter : (d.putAfter p c r).node? m = (d.node? m).map fun node =>
    { node with
      firstChild := if p = m ∧ r = none then some c else node.firstChild
      next := if r = some m then some c else node.next } := by
  cases r with
  | none =>
    simp only [putAfter, node?_modify_eq_map]
    by_cases hp : p = m <;> simp [hp]
  | some a =>
    simp only [putAfter, node?_modify_eq_map]
    by_cases ha : a = m <;> simp [ha]

theorem node?_putBefore : (d.putBefore p c r).node? m = (d.node? m).map fun node =>
    { node with
      lastChild := if p = m ∧ r = none then some c else node.lastChild
      previous := if r = some m then some c else node.previous } := by
  cases r with
  | none =>
    simp only [putBefore, node?_modify_eq_map]
    by_cases hp : p = m <;> simp [hp]
  | some a =>
    simp only [putBefore, node?_modify_eq_map]
    by_cases ha : a = m <;> simp [ha]

/-- A node after a child was put into a parent. -/
theorem node?_link : (d.link p c r).node? m = (d.node? m).map fun node =>
    { node with
      parent := if c = m then some p else node.parent
      firstChild := if p = m ∧ d.before? p r = none then some c else node.firstChild
      lastChild := if p = m ∧ r = none then some c else node.lastChild
      previous := if r = some m then some c else if c = m then d.before? p r else node.previous
      next := if d.before? p r = some m then some c else if c = m then r else node.next } := by
  simp only [link, node?_putBefore, node?_putAfter, node?_modify_eq_map, Option.map_map]
  congr 1
  funext node
  by_cases hc : c = m <;> simp [hc]

/-! ### The links that are changed -/

theorem node?_unlink_isSome : ((d.unlink p n).node? m).isSome = (d.node? m).isSome := by
  rw [node?_unlink, Option.isSome_map]

theorem node?_link_isSome : ((d.link p c r).node? m).isSome = (d.node? m).isSome := by
  rw [node?_link, Option.isSome_map]

theorem parent?_unlink : (d.unlink p n).parent? m = if n = m then none else d.parent? m := by
  cases hm : d.node? m <;> simp [parent?, node?_unlink, hm]

theorem firstChild?_unlink : (d.unlink p n).firstChild? m =
    if p = m ∧ d.firstChild? m = some n then d.next? n else d.firstChild? m := by
  cases hm : d.node? m <;> simp [firstChild?, node?_unlink, hm]

theorem lastChild?_unlink : (d.unlink p n).lastChild? m =
    if p = m ∧ d.lastChild? m = some n then d.previous? n else d.lastChild? m := by
  cases hm : d.node? m <;> simp [lastChild?, node?_unlink, hm]

theorem ne_of_isSome (hn : (d.node? n).isSome) (hm : d.node? m = none) : n ≠ m := by
  rintro rfl
  simp [hm] at hn

theorem parent?_link (hc : (d.node? c).isSome) :
    (d.link p c r).parent? m = if c = m then some p else d.parent? m := by
  cases hm : d.node? m with
  | none => simp [parent?, node?_link, hm, ne_of_isSome hc hm]
  | some node => simp [parent?, node?_link, hm]

theorem firstChild?_link (hp : (d.node? p).isSome) : (d.link p c r).firstChild? m =
    if p = m ∧ d.before? p r = none then some c else d.firstChild? m := by
  cases hm : d.node? m with
  | none => simp [firstChild?, node?_link, hm, ne_of_isSome hp hm]
  | some node => simp [firstChild?, node?_link, hm]

theorem lastChild?_link (hp : (d.node? p).isSome) : (d.link p c r).lastChild? m =
    if p = m ∧ r = none then some c else d.lastChild? m := by
  cases hm : d.node? m with
  | none => simp [lastChild?, node?_link, hm, ne_of_isSome hp hm]
  | some node => simp [lastChild?, node?_link, hm]

section Fields

variable (hm : (d.node? m).isSome)
include hm

theorem previous?_unlink (hne : m ≠ n) : (d.unlink p n).previous? m =
    if d.next? n = some m then d.previous? n else d.previous? m := by
  obtain ⟨node, hnode⟩ := Option.isSome_iff_exists.1 hm
  simp [previous?, node?_unlink, hnode, hne.symm]

theorem next?_unlink (hne : m ≠ n) : (d.unlink p n).next? m =
    if d.previous? n = some m then d.next? n else d.next? m := by
  obtain ⟨node, hnode⟩ := Option.isSome_iff_exists.1 hm
  simp [next?, node?_unlink, hnode, hne.symm]

theorem previous?_link : (d.link p c r).previous? m =
    if r = some m then some c else if c = m then d.before? p r else d.previous? m := by
  obtain ⟨node, hnode⟩ := Option.isSome_iff_exists.1 hm
  simp [previous?, node?_link, hnode]

theorem next?_link : (d.link p c r).next? m =
    if d.before? p r = some m then some c else if c = m then r else d.next? m := by
  obtain ⟨node, hnode⟩ := Option.isSome_iff_exists.1 hm
  simp [next?, node?_link, hnode]

end Fields

/-! ### Linked lists -/

/-- Whether two nodes are neighbours by the links of both. -/
def Linked (d : Dom) (a b : NodeId) : Prop := d.next? a = some b ∧ d.previous? b = some a

/-- Whether the children of a node are those of a list, each once, and are linked in its order from
the first to the last. -/
structure Lists (d : Dom) (p : NodeId) (l : List NodeId) : Prop where
  nodup : l.Nodup
  mem_iff : ∀ c : NodeId, c ∈ l ↔ d.parent? c = some p
  first : d.firstChild? p = l.head?
  last : d.lastChild? p = l.getLast?
  linked : l.IsChain d.Linked
  start : ∀ c ∈ l.head?, d.previous? c = none
  stop : ∀ c ∈ l.getLast?, d.next? c = none

/-- Whether a node has no neighbours. -/
def Alone (d : Dom) (n : NodeId) : Prop := d.previous? n = none ∧ d.next? n = none

theorem alone_of_node?_eq_none (h : d.node? n = none) : d.Alone n := by
  simp [Alone, previous?, next?, h]

theorem isSome_of_parent (h : d.parent? n = some p) : (d.node? n).isSome := by
  obtain ⟨node, hnode, -⟩ := Option.bind_eq_some_iff.1 h
  exact Option.isSome_iff_exists.2 ⟨node, hnode⟩

theorem siblingsFrom_eq (hl : l.IsChain d.Linked) (hstop : ∀ c ∈ l.getLast?, d.next? c = none)
    {fuel : Nat} (hfuel : l.length ≤ fuel) : d.siblingsFrom fuel l.head? = l := by
  induction l generalizing fuel with
  | nil => cases fuel <;> rfl
  | cons c l ih =>
    cases fuel with
    | zero => simp at hfuel
    | succ fuel =>
      have hnext : d.next? c = l.head? := by
        cases l with
        | nil => exact hstop c rfl
        | cons b l => exact (List.isChain_cons_cons.1 hl).1.1
      rw [List.head?_cons, siblingsFrom, hnext, ih hl.tail ?_ (Nat.le_of_succ_le_succ hfuel)]
      intro b hb
      exact hstop b (by rw [List.getLast?_cons, hb]; rfl)

theorem children_of_node?_eq_none (h : d.node? n = none) : d.children n = [] := by
  rw [children, firstChild?, h]
  cases d.nodes.slots.size <;> rfl

theorem getLast?_middle {α : Type} (l₁ : List α) (n : α) (l₂ : List α) (z : α) :
    (l₁ ++ n :: (l₂ ++ [z])).getLast? = some z := by
  rw [← List.cons_append, ← List.append_assoc, List.getLast?_concat]

namespace Lists

theorem isSome (h : d.Lists p l) (hc : c ∈ l) : (d.node? c).isSome :=
  isSome_of_parent ((h.mem_iff c).1 hc)

theorem isSome_parent (h : d.Lists p l) (hl : l ≠ []) : (d.node? p).isSome := by
  obtain ⟨c, hc⟩ := Option.ne_none_iff_exists'.1 (mt List.head?_eq_none_iff.1 hl)
  obtain ⟨node, hnode, -⟩ := Option.bind_eq_some_iff.1 (h.first.trans hc)
  exact Option.isSome_iff_exists.2 ⟨node, hnode⟩

/-- The walk through the links gives the list. -/
theorem children_eq (h : d.Lists p l) : d.children p = l := by
  rw [children, h.first]
  exact siblingsFrom_eq h.linked h.stop (Slots.length_le_size h.nodup fun c hc => h.isSome hc)

section Middle

variable (h : d.Lists p (l₁ ++ n :: l₂))
include h

theorem linked_getLast? (ha : a ∈ l₁.getLast?) : d.Linked a n :=
  (List.isChain_append.1 h.linked).2.2 a ha n rfl

theorem linked_head? (hb : b ∈ l₂.head?) : d.Linked n b :=
  (List.isChain_cons.1 (List.isChain_append.1 h.linked).2.1).1 b hb

theorem previous?_eq : d.previous? n = l₁.getLast? := by
  cases hl : l₁.getLast? with
  | none =>
    obtain rfl := List.getLast?_eq_none_iff.1 hl
    exact h.start n rfl
  | some a => exact (h.linked_getLast? hl).2

theorem next?_eq : d.next? n = l₂.head? := by
  cases hl : l₂.head? with
  | none =>
    obtain rfl := List.head?_eq_none_iff.1 hl
    exact h.stop n (by simp)
  | some b => exact (h.linked_head? hl).1

/-- Taking a node out keeps the links between all others. -/
theorem linked_unlink (hab : d.Linked a b) (ha : a ≠ n) (hb : b ≠ n) (hae : (d.node? a).isSome)
    (hbe : (d.node? b).isSome) : (d.unlink p n).Linked a b := by
  constructor
  · rw [next?_unlink hae ha, if_neg, hab.1]
    intro hprevious
    rw [h.previous?_eq] at hprevious
    exact hb (Option.some.inj (hab.1.symm.trans (h.linked_getLast? hprevious).1))
  · rw [previous?_unlink hbe hb, if_neg, hab.2]
    intro hnext
    rw [h.next?_eq] at hnext
    exact ha (Option.some.inj (hab.2.symm.trans (h.linked_head? hnext).2))

theorem ne_of_mem_sides (ha : a ∈ l₁ ++ l₂) : a ≠ n := by
  rintro rfl
  exact (List.nodup_cons.1 (List.nodup_middle.1 h.nodup)).1 ha

theorem isSome_of_mem_sides (ha : a ∈ l₁ ++ l₂) : (d.node? a).isSome :=
  h.isSome (List.perm_middle.mem_iff.2 (List.mem_cons_of_mem n ha))

theorem disjoint_sides : l₁.Disjoint l₂ :=
  List.disjoint_of_nodup_append (List.nodup_cons.1 (List.nodup_middle.1 h.nodup)).2

theorem first_unlink : (d.unlink p n).firstChild? p = (l₁ ++ l₂).head? := by
  rw [firstChild?_unlink, h.first, h.next?_eq]
  cases l₁ with
  | nil => simp
  | cons a l₁ => simp [h.ne_of_mem_sides (a := a) (by simp)]

theorem last_unlink : (d.unlink p n).lastChild? p = (l₁ ++ l₂).getLast? := by
  rw [lastChild?_unlink, h.last, h.previous?_eq]
  rcases List.eq_nil_or_concat' l₂ with rfl | ⟨l, z, rfl⟩
  · simp
  · rw [getLast?_middle, if_neg, ← List.append_assoc, List.getLast?_concat]
    exact fun heq => h.ne_of_mem_sides (a := z) (by simp) (Option.some.inj heq.2)

/-- The neighbours of a node that is taken out become neighbours. -/
theorem isChain_unlink : (l₁ ++ l₂).IsChain (d.unlink p n).Linked := by
  have hlinked : ∀ {a b}, a ∈ l₁ ++ l₂ → b ∈ l₁ ++ l₂ → d.Linked a b →
      (d.unlink p n).Linked a b := fun ha hb hab =>
    h.linked_unlink hab (h.ne_of_mem_sides ha) (h.ne_of_mem_sides hb) (h.isSome_of_mem_sides ha)
      (h.isSome_of_mem_sides hb)
  obtain ⟨hfront, hback, -⟩ := List.isChain_append.1 h.linked
  refine List.isChain_append.2 ⟨?_, ?_, fun x hx y hy => ⟨?_, ?_⟩⟩
  · exact hfront.imp_of_mem_imp fun a b ha hb =>
      hlinked (List.mem_append_left _ ha) (List.mem_append_left _ hb)
  · exact hback.tail.imp_of_mem_imp fun a b ha hb =>
      hlinked (List.mem_append_right _ ha) (List.mem_append_right _ hb)
  · have hmem := List.mem_append_left l₂ (List.mem_of_getLast? hx)
    rw [next?_unlink (h.isSome_of_mem_sides hmem) (h.ne_of_mem_sides hmem),
      if_pos (h.previous?_eq.trans hx), h.next?_eq, hy]
  · have hmem := List.mem_append_right l₁ (List.mem_of_mem_head? hy)
    rw [previous?_unlink (h.isSome_of_mem_sides hmem) (h.ne_of_mem_sides hmem),
      if_pos (h.next?_eq.trans hy), h.previous?_eq, hx]

theorem start_unlink (hc : c ∈ (l₁ ++ l₂).head?) : (d.unlink p n).previous? c = none := by
  have hmem := List.mem_of_mem_head? hc
  rw [previous?_unlink (h.isSome_of_mem_sides hmem) (h.ne_of_mem_sides hmem), h.next?_eq,
    h.previous?_eq]
  cases l₁ with
  | nil => exact if_pos hc
  | cons a l₁ =>
    obtain rfl : a = c := Option.some.inj hc
    rw [if_neg, h.start a rfl]
    exact fun heq => h.disjoint_sides List.mem_cons_self (List.mem_of_mem_head? heq)

theorem stop_unlink (hc : c ∈ (l₁ ++ l₂).getLast?) : (d.unlink p n).next? c = none := by
  have hmem := List.mem_of_getLast? hc
  rw [next?_unlink (h.isSome_of_mem_sides hmem) (h.ne_of_mem_sides hmem), h.next?_eq,
    h.previous?_eq]
  rcases List.eq_nil_or_concat' l₂ with rfl | ⟨l, z, rfl⟩
  · exact if_pos (by simpa using hc)
  · obtain rfl : z = c := by simpa using hc
    rw [if_neg, h.stop z (getLast?_middle l₁ n l z)]
    exact fun heq => h.disjoint_sides (List.mem_of_getLast? heq) (by simp)

/-- Taking a node out takes it out of the list. -/
theorem unlink : (d.unlink p n).Lists p (l₁ ++ l₂) where
  nodup := (List.nodup_cons.1 (List.nodup_middle.1 h.nodup)).2
  mem_iff c := by
    rw [parent?_unlink]
    split
    · rename_i heq
      simpa using fun hc => h.ne_of_mem_sides hc heq.symm
    · rename_i hne
      rw [← h.mem_iff c, List.perm_middle.mem_iff, List.mem_cons, or_iff_right (Ne.symm hne)]
  first := h.first_unlink
  last := h.last_unlink
  linked := h.isChain_unlink
  start _ := h.start_unlink
  stop _ := h.stop_unlink

/-- The children of other nodes stay as they are. -/
theorem unlink_of_ne (hq : q ≠ p) (hl : d.Lists q l) : (d.unlink p n).Lists q l := by
  have hn : d.parent? n = some p := (h.mem_iff n).1 (by simp)
  have hne : ∀ {a}, a ∈ l → a ≠ n := by
    rintro a ha rfl
    exact hq (Option.some.inj (((hl.mem_iff a).1 ha).symm.trans hn))
  refine ⟨hl.nodup, fun c => ?_, ?_, ?_, ?_, fun c hc => ?_, fun c hc => ?_⟩
  · rw [parent?_unlink, hl.mem_iff]
    split
    · rename_i heq
      simp [← heq, hn, hq.symm]
    · rfl
  · rw [firstChild?_unlink, if_neg (fun heq => hq heq.1.symm), hl.first]
  · rw [lastChild?_unlink, if_neg (fun heq => hq heq.1.symm), hl.last]
  · exact hl.linked.imp_of_mem_imp fun a b ha hb hab =>
      h.linked_unlink hab (hne ha) (hne hb) (hl.isSome ha) (hl.isSome hb)
  · have hmem := List.mem_of_mem_head? hc
    rw [previous?_unlink (hl.isSome hmem) (hne hmem), if_neg, hl.start c hc]
    intro hnext
    rw [h.next?_eq] at hnext
    exact Option.some_ne_none n ((h.linked_head? hnext).2.symm.trans (hl.start c hc))
  · have hmem := List.mem_of_getLast? hc
    rw [next?_unlink (hl.isSome hmem) (hne hmem), if_neg, hl.stop c hc]
    intro hprevious
    rw [h.previous?_eq] at hprevious
    exact Option.some_ne_none n ((h.linked_getLast? hprevious).1.symm.trans (hl.stop c hc))

/-- What had no parent is no neighbour of the node that is taken out, which has none left. -/
theorem alone_unlink (halone : ∀ m : NodeId, d.parent? m = none → d.Alone m)
    (hm : (d.unlink p n).parent? m = none) : (d.unlink p n).Alone m := by
  rcases Option.eq_none_or_eq_some (d.node? m) with hnode | ⟨node, hnode⟩
  · exact alone_of_node?_eq_none (by rw [node?_unlink, hnode, Option.map_none])
  by_cases hmn : n = m
  · simp [Alone, previous?, next?, node?_unlink, hnode, hmn]
  rw [parent?_unlink, if_neg hmn] at hm
  have hsome : (d.node? m).isSome := Option.isSome_of_eq_some hnode
  have hout : m ∉ l₁ ++ n :: l₂ := fun hmem => by simp [(h.mem_iff m).1 hmem] at hm
  refine ⟨?_, ?_⟩
  · rw [previous?_unlink hsome (Ne.symm hmn), h.next?_eq, if_neg, (halone m hm).1]
    exact fun heq => hout (by simp [List.mem_of_mem_head? heq])
  · rw [next?_unlink hsome (Ne.symm hmn), h.previous?_eq, if_neg, (halone m hm).2]
    exact fun heq => hout (by simp [List.mem_of_getLast? heq])

end Middle

/-- A node without a parent is in no list. -/
theorem ne_of_root (h : d.Lists q l) (hc : d.parent? c = none) (ha : a ∈ l) : a ≠ c := by
  rintro rfl
  simp [(h.mem_iff a).1 ha] at hc

/-! A place among the children: the one before it, and the one after it. -/

theorem getLast?_ne (h : d.Lists p (l₁ ++ l₂)) (ha : a ∈ l₂) : l₁.getLast? ≠ some a := fun heq =>
  List.disjoint_of_nodup_append h.nodup (List.mem_of_getLast? heq) ha

theorem getLast?_ne_of_root (h : d.Lists p (l₁ ++ l₂)) (hc : d.parent? c = none) :
    l₁.getLast? ≠ some c := fun heq =>
  h.ne_of_root hc (List.mem_append_left _ (List.mem_of_getLast? heq)) rfl

section Place

variable (h : d.Lists p (l₁ ++ l₂)) (hr : l₂.head? = r)
include h hr

theorem reference_ne (ha : a ∈ l₁) : r ≠ some a := fun heq =>
  List.disjoint_of_nodup_append h.nodup ha (List.mem_of_mem_head? (hr.trans heq))

theorem reference_ne_of_root (hc : d.parent? c = none) : r ≠ some c := fun heq =>
  h.ne_of_root hc (List.mem_append_right _ (List.mem_of_mem_head? (hr.trans heq))) rfl

/-- What stands before a place among the children. -/
theorem before?_eq : d.before? p r = l₁.getLast? := by
  cases l₂ with
  | nil =>
    subst hr
    rw [List.head?_nil, before?, h.last, List.append_nil]
  | cons x l₂ =>
    subst hr
    exact h.previous?_eq

theorem next?_of_getLast? (ha : l₁.getLast? = some a) : d.next? a = r := by
  obtain ⟨l, rfl⟩ := List.getLast?_eq_some_iff.1 ha
  rw [List.append_assoc] at h
  exact hr ▸ h.next?_eq

theorem previous?_of_head? (hb : r = some b) : d.previous? b = l₁.getLast? := by
  subst hb
  exact h.before?_eq hr

theorem first_link (hp : (d.node? p).isSome) :
    (d.link p c r).firstChild? p = (l₁ ++ c :: l₂).head? := by
  rw [firstChild?_link hp, h.before?_eq hr, h.first]
  cases l₁ <;> simp

theorem last_link (hp : (d.node? p).isSome) :
    (d.link p c r).lastChild? p = (l₁ ++ c :: l₂).getLast? := by
  rw [lastChild?_link hp, h.last]
  rcases List.eq_nil_or_concat' l₂ with rfl | ⟨l, z, rfl⟩
  · simp [← hr]
  · rw [getLast?_middle, if_neg, ← List.append_assoc, List.getLast?_concat]
    rintro ⟨-, rfl⟩
    simp at hr

/-- What has no parent is no neighbour of the node that is put in. -/
theorem alone_link (hcn : (d.node? c).isSome)
    (halone : ∀ m : NodeId, d.parent? m = none → d.Alone m)
    (hm : (d.link p c r).parent? m = none) : (d.link p c r).Alone m := by
  rcases Option.eq_none_or_eq_some (d.node? m) with hnode | ⟨node, hnode⟩
  · exact alone_of_node?_eq_none (by rw [node?_link, hnode, Option.map_none])
  have hcm : c ≠ m := by
    rintro rfl
    simp [parent?_link hcn] at hm
  rw [parent?_link hcn, if_neg hcm] at hm
  have hsome : (d.node? m).isSome := Option.isSome_of_eq_some hnode
  refine ⟨?_, ?_⟩
  · rw [previous?_link hsome, if_neg (h.reference_ne_of_root hr hm), if_neg hcm, (halone m hm).1]
  · rw [next?_link hsome, h.before?_eq hr, if_neg (h.getLast?_ne_of_root hm), if_neg hcm,
      (halone m hm).2]

variable (hc : d.parent? c = none)
include hc

/-- Putting a node in keeps the links between others, but where it is put. -/
theorem linked_link (hl : d.Lists q l) (ha : a ∈ l) (hb : b ∈ l) (hab : d.Linked a b)
    (hbefore : l₁.getLast? ≠ some a) (hafter : r ≠ some b) : (d.link p c r).Linked a b := by
  constructor
  · rw [next?_link (hl.isSome ha), h.before?_eq hr, if_neg hbefore,
      if_neg (hl.ne_of_root hc ha).symm, hab.1]
  · rw [previous?_link (hl.isSome hb), if_neg hafter, if_neg (hl.ne_of_root hc hb).symm, hab.2]

variable (hcn : (d.node? c).isSome)
include hcn

/-- A node that is put in becomes the neighbour of those on both sides. -/
theorem isChain_link : (l₁ ++ c :: l₂).IsChain (d.link p c r).Linked := by
  have hbefore := h.getLast?_ne_of_root hc
  have hafter := h.reference_ne_of_root hr hc
  obtain ⟨hfront, hback, -⟩ := List.isChain_append.1 h.linked
  refine List.isChain_append.2 ⟨?_, List.isChain_cons.2 ⟨fun y hy => ⟨?_, ?_⟩, ?_⟩, ?_⟩
  · refine hfront.imp_of_mem_imp fun a b ha hb hab => h.linked_link hr hc h
      (List.mem_append_left _ ha) (List.mem_append_left _ hb) hab (fun heq => ?_)
      (h.reference_ne hr hb)
    exact h.reference_ne hr hb ((h.next?_of_getLast? hr heq).symm.trans hab.1)
  · rw [next?_link hcn, h.before?_eq hr, if_neg hbefore, if_pos rfl, ← hr, hy]
  · rw [previous?_link (h.isSome (List.mem_append_right _ (List.mem_of_mem_head? hy))),
      if_pos (hr.symm.trans hy)]
  · refine hback.imp_of_mem_imp fun a b ha hb hab => h.linked_link hr hc h
      (List.mem_append_right _ ha) (List.mem_append_right _ hb) hab (h.getLast?_ne ha) fun heq => ?_
    exact h.getLast?_ne ha ((h.previous?_of_head? hr heq).symm.trans hab.2)
  · rintro x hx y ⟨⟩
    constructor
    · rw [next?_link (h.isSome (List.mem_append_left _ (List.mem_of_getLast? hx))),
        h.before?_eq hr, if_pos (Option.mem_def.1 hx)]
    · rw [previous?_link hcn, if_neg hafter, if_pos rfl, h.before?_eq hr, hx]

theorem start_link (ha : a ∈ (l₁ ++ c :: l₂).head?) : (d.link p c r).previous? a = none := by
  cases l₁ with
  | nil =>
    obtain rfl : c = a := Option.some.inj ha
    rw [previous?_link hcn, if_neg (h.reference_ne_of_root hr hc), if_pos rfl, h.before?_eq hr,
      List.getLast?_nil]
  | cons x l₁ =>
    obtain rfl : x = a := Option.some.inj ha
    rw [previous?_link (h.isSome (by simp)), if_neg (h.reference_ne hr (by simp)),
      if_neg (h.ne_of_root hc (by simp)).symm, h.start x rfl]

theorem stop_link (ha : a ∈ (l₁ ++ c :: l₂).getLast?) : (d.link p c r).next? a = none := by
  rcases List.eq_nil_or_concat' l₂ with rfl | ⟨l, z, rfl⟩
  · obtain rfl : c = a := by simpa using ha
    rw [next?_link hcn, h.before?_eq hr, if_neg (h.getLast?_ne_of_root hc), if_pos rfl, ← hr,
      List.head?_nil]
  · obtain rfl : z = a := Option.some.inj ((getLast?_middle l₁ c l z).symm.trans ha)
    rw [next?_link (h.isSome (by simp)), h.before?_eq hr, if_neg (h.getLast?_ne (by simp)),
      if_neg (h.ne_of_root hc (by simp)).symm, h.stop z]
    rw [← List.append_assoc, List.getLast?_concat]
    rfl

variable (hp : (d.node? p).isSome)
include hp

/-- Putting a node in puts it into the list. -/
theorem link : (d.link p c r).Lists p (l₁ ++ c :: l₂) where
  nodup := List.nodup_middle.2 (List.nodup_cons.2 ⟨fun hmem => h.ne_of_root hc hmem rfl, h.nodup⟩)
  mem_iff a := by
    rw [parent?_link hcn]
    split
    · rename_i heq
      simp [heq]
    · rename_i hca
      rw [← h.mem_iff, List.perm_middle.mem_iff, List.mem_cons, or_iff_right (Ne.symm hca)]
  first := h.first_link hr hp
  last := h.last_link hr hp
  linked := h.isChain_link hr hc hcn
  start _ := h.start_link hr hc hcn
  stop _ := h.stop_link hr hc hcn

/-- The children of other nodes stay as they are. -/
theorem link_of_ne (hq : q ≠ p) (hl : d.Lists q l) : (d.link p c r).Lists q l := by
  have hother : ∀ {a}, a ∈ l → a ∉ l₁ ++ l₂ := fun ha hmem =>
    hq (Option.some.inj (((hl.mem_iff _).1 ha).symm.trans ((h.mem_iff _).1 hmem)))
  have hleft : ∀ {a}, a ∈ l → l₁.getLast? ≠ some a := fun ha heq =>
    hother ha (List.mem_append_left _ (List.mem_of_getLast? heq))
  have hright : ∀ {a}, a ∈ l → r ≠ some a := fun ha heq =>
    hother ha (List.mem_append_right _ (List.mem_of_mem_head? (hr.trans heq)))
  refine ⟨hl.nodup, fun a => ?_, ?_, ?_, ?_, fun a ha => ?_, fun a ha => ?_⟩
  · rw [parent?_link hcn, hl.mem_iff]
    split
    · rename_i heq
      simp [← heq, hc, hq.symm]
    · rfl
  · rw [firstChild?_link hp, if_neg (fun heq => hq heq.1.symm), hl.first]
  · rw [lastChild?_link hp, if_neg (fun heq => hq heq.1.symm), hl.last]
  · exact hl.linked.imp_of_mem_imp fun a b ha hb hab =>
      h.linked_link hr hc hl ha hb hab (hleft ha) (hright hb)
  · have hmem := List.mem_of_mem_head? ha
    rw [previous?_link (hl.isSome hmem), if_neg (hright hmem), if_neg (hl.ne_of_root hc hmem).symm,
      hl.start a ha]
  · have hmem := List.mem_of_getLast? ha
    rw [next?_link (hl.isSome hmem), h.before?_eq hr, if_neg (hleft hmem),
      if_neg (hl.ne_of_root hc hmem).symm, hl.stop a ha]

end Place

end Lists

/-! ### What linking leaves alone -/

/-- Whether a tree differs from another one in its nodes only, and its slots are as good. -/
structure Rewired (d d' : Dom) : Prop where
  valid : d.nodes.Valid → d'.nodes.Valid
  document : d'.document = d.document
  generation : d'.generation = d.generation

theorem Rewired.trans {d'' : Dom} (h : d.Rewired d') (h' : d'.Rewired d'') : d.Rewired d'' :=
  ⟨h'.valid ∘ h.valid, h'.document.trans h.document, h'.generation.trans h.generation⟩

theorem rewired_modify (d : Dom) (n : NodeId) (f : Node → Node) : d.Rewired (d.modify n f) :=
  ⟨fun h => h.modify n f, rfl, rfl⟩

theorem rewired_modifySome (d : Dom) (r : Option NodeId) (f : Node → Node) :
    d.Rewired (d.modifySome r f) := by
  cases r with
  | none => exact ⟨id, rfl, rfl⟩
  | some n => exact d.rewired_modify n f

theorem rewired_unlink (d : Dom) (p n : NodeId) : d.Rewired (d.unlink p n) :=
  (((d.rewired_modifySome _ _).trans (rewired_modifySome _ _ _)).trans
    (rewired_modify _ _ _)).trans (rewired_modify _ _ _)

theorem rewired_link (d : Dom) (p c : NodeId) (r : Option NodeId) : d.Rewired (d.link p c r) := by
  have hafter : ∀ (d : Dom) (r : Option NodeId), d.Rewired (d.putAfter p c r) := by
    intro d r
    cases r <;> exact rewired_modify _ _ _
  have hbefore : ∀ (d : Dom) (r : Option NodeId), d.Rewired (d.putBefore p c r) := by
    intro d r
    cases r <;> exact rewired_modify _ _ _
  exact ((d.rewired_modify _ _).trans (hafter _ _)).trans (hbefore _ _)

/-! ### Changes that leave the links alone -/

/-- Whether the links of two trees are the same. -/
structure SameLinks (d d' : Dom) : Prop where
  parent : ∀ n : NodeId, d'.parent? n = d.parent? n
  first : ∀ n : NodeId, d'.firstChild? n = d.firstChild? n
  last : ∀ n : NodeId, d'.lastChild? n = d.lastChild? n
  previous : ∀ n : NodeId, d'.previous? n = d.previous? n
  next : ∀ n : NodeId, d'.next? n = d.next? n

theorem SameLinks.lists (h : d.SameLinks d') (hl : d.Lists p l) : d'.Lists p l where
  nodup := hl.nodup
  mem_iff c := by rw [h.parent, hl.mem_iff]
  first := by rw [h.first, hl.first]
  last := by rw [h.last, hl.last]
  linked := hl.linked.imp fun a b hab => ⟨by rw [h.next, hab.1], by rw [h.previous, hab.2]⟩
  start c hc := by rw [h.previous, hl.start c hc]
  stop c hc := by rw [h.next, hl.stop c hc]

theorem SameLinks.alone (h : d.SameLinks d') (hn : d.Alone n) : d'.Alone n :=
  ⟨(h.previous n).trans hn.1, (h.next n).trans hn.2⟩

theorem SameLinks.of_node? (h : ∀ n, d'.node? n = d.node? n) : d.SameLinks d' := by
  constructor <;> intro n
  · rw [parent?, h, parent?]
  · rw [firstChild?, h, firstChild?]
  · rw [lastChild?, h, lastChild?]
  · rw [previous?, h, previous?]
  · rw [next?, h, next?]

theorem sameLinks_touch (d : Dom) : d.SameLinks d.touch := .of_node? fun _ => rfl

/-- What is read of the nodes, if the one that is changed keeps it. -/
theorem bind_modify_of_eq {g : Node → Option NodeId} {f : Node → Node}
    (h : ∀ node, g (f node) = g node) : ((d.modify n f).node? m).bind g = (d.node? m).bind g := by
  rw [node?_modify]
  split
  · cases d.node? m <;> simp [h]
  · rfl

/-- A node is changed in its content only. -/
theorem sameLinks_setContent (d : Dom) (n : NodeId) (content : NodeContent) :
    d.SameLinks (d.modify n fun node => { node with content }) where
  parent _ := bind_modify_of_eq fun _ => rfl
  first _ := bind_modify_of_eq fun _ => rfl
  last _ := bind_modify_of_eq fun _ => rfl
  previous _ := bind_modify_of_eq fun _ => rfl
  next _ := bind_modify_of_eq fun _ => rfl

end WebStyle.Dom
