import Mathlib.Data.List.TakeWhile
import Mathlib.Logic.Relation
import WebStyle.Proofs.Dom.Links
/-!
What each change of a tree does to parents and children, and what all changes keep: a node is among
the children of its parent, once, and of no other node.
-/
set_option autoImplicit false

namespace WebStyle

/-- Puts an element before another one in a list, or at the end. -/
def insertBefore {α : Type} [DecidableEq α] (x : α) (reference : Option α) (l : List α) : List α :=
  match reference with
  | none => l ++ [x]
  | some r => l.takeWhile (· != r) ++ x :: l.dropWhile (· != r)

/-- The place where an element is put. -/
theorem exists_insertBefore_eq {α : Type} [DecidableEq α] {x : α} {r : Option α} {l : List α}
    (hr : ∀ y ∈ r, y ∈ l) :
    ∃ l₁ l₂, l = l₁ ++ l₂ ∧ l₂.head? = r ∧ insertBefore x r l = l₁ ++ x :: l₂ := by
  cases r with
  | none => exact ⟨l, [], (List.append_nil l).symm, rfl, rfl⟩
  | some y =>
    refine ⟨_, _, List.takeWhile_append_dropWhile.symm, ?_, rfl⟩
    obtain ⟨before, after, rfl, hy⟩ := List.eq_append_cons_of_mem (hr y rfl)
    have hne : ∀ z ∈ before, (z != y) = true := fun z hz =>
      bne_iff_ne.2 (ne_of_mem_of_not_mem hz hy)
    rw [List.dropWhile_append_of_pos hne]
    simp

/-- An element that is not there is no place. -/
theorem insertBefore_of_notMem {α : Type} [DecidableEq α] {x y : α} {l : List α} (h : y ∉ l) :
    insertBefore x (some y) l = insertBefore x none l := by
  have hne : ∀ z ∈ l, (z != y) = true := fun z hz => bne_iff_ne.2 (ne_of_mem_of_not_mem hz h)
  simp only [insertBefore, List.takeWhile_eq_self_iff.2 hne, List.dropWhile_eq_nil_iff.2 hne]

theorem insertBefore_eq_filter {α : Type} [DecidableEq α] {x : α} {r : Option α} {l : List α}
    (h : x ∉ l) : insertBefore x r l = insertBefore x (r.filter (· != x)) l := by
  cases r with
  | none => rfl
  | some y =>
    by_cases hy : y = x
    · rw [hy, insertBefore_of_notMem h]
      simp [Option.filter]
    · simp [Option.filter, hy]

namespace Dom

/-- Whether parents and children agree, the children are linked in their order, and what is no child
is linked to nothing. -/
structure Consistent (d : Dom) : Prop where
  valid : d.nodes.Valid
  document : (d.node? d.document).isSome
  lists : ∀ p : NodeId, d.Lists p (d.children p)
  alone : ∀ n : NodeId, d.parent? n = none → d.Alone n

/-- Whether the walk up from a node ends. -/
def Grounded (d : Dom) : NodeId → Prop := Acc fun p c => d.parent? c = some p

/-- A change of a tree. -/
inductive Edit where
  | create (content : NodeContent)
  | insertBefore (parent child : NodeId) (reference : Option NodeId)
  | remove (parent child : NodeId)
  | detach (n : NodeId)
  | setAttribute (n : NodeId) (name value : String)
  | removeAttribute (n : NodeId) (name : String)
  | modifyInteraction (n : NodeId) (f : Interaction → Interaction)
  | setFocus (n : Option NodeId)
  | setTarget (fragment : Option String)

def Edit.apply (d : Dom) : Edit → Dom
  | .create content => (d.create content).1
  | .insertBefore parent child reference => d.insertBefore parent child reference
  | .remove parent child => d.remove parent child
  | .detach n => d.detach n
  | .setAttribute n name value => d.setAttribute n name value
  | .removeAttribute n name => d.removeAttribute n name
  | .modifyInteraction n f => d.modifyInteraction n f
  | .setFocus n => d.setFocus n
  | .setTarget fragment => d.setTarget fragment

/-- Whether a change puts no node below itself. -/
def Edit.IsAcyclic (d : Dom) : Edit → Prop
  | .insertBefore parent child _ =>
    ¬ Relation.ReflTransGen (fun c p => d.parent? c = some p) parent child
  | _ => True

/-- Trees that acyclic changes lead to. -/
inductive Reached : Dom → Prop where
  | empty : Reached .empty
  | apply {d : Dom} {e : Edit} (h : Reached d) (he : e.IsAcyclic d) : Reached (e.apply d)

section Lookup

variable {d : Dom} {n m p c : NodeId}

theorem exists_node_of_isElement (h : d.isElement n) : ∃ node, d.node? n = some node := by
  obtain ⟨e, he⟩ := Option.isSome_iff_exists.1 h
  obtain ⟨node, hn, -⟩ := Option.bind_eq_some_iff.1 he
  exact ⟨node, hn⟩

@[simp] theorem node?_touch : d.touch.node? n = d.node? n := rfl

theorem detach_of_root (h : d.parent? n = none) : d.detach n = d := by simp [detach, h]

theorem detach_of_parent (h : d.parent? n = some p) : d.detach n = (d.unlink p n).touch := by
  simp [detach, h]

@[simp] theorem document_detach : (d.detach n).document = d.document := by
  cases h : d.parent? n with
  | none => rw [detach_of_root h]
  | some p => rw [detach_of_parent h]; exact (d.rewired_unlink p n).document

theorem node?_detach_isSome : ((d.detach n).node? m).isSome = (d.node? m).isSome := by
  cases h : d.parent? n with
  | none => rw [detach_of_root h]
  | some p => rw [detach_of_parent h, node?_touch, node?_unlink_isSome]

theorem parent?_detach :
    (d.detach n).parent? m = if n = m then none else d.parent? m := by
  cases hp : d.parent? n with
  | none =>
    rw [detach_of_root hp]
    split
    · rename_i h
      rw [← h, hp]
    · rfl
  | some p => rw [detach_of_parent hp, (sameLinks_touch _).parent, parent?_unlink]

/-- Whether a node can be moved to a place. -/
structure CanInsert (d : Dom) (p c : NodeId) (r : Option NodeId) : Prop where
  parent : (d.node? p).isSome
  child : (d.node? c).isSome
  ne : p ≠ c
  reference : ∀ x, r = some x → d.parent? x = some p

theorem canInsert_iff {r : Option NodeId} : d.CanInsert p c r ↔
    (!d.nodes.contains p || !d.nodes.contains c || p == c ||
      r.any fun x => d.parent? x != some p) = false := by
  constructor
  · rintro ⟨hp, hc, hne, hr⟩
    have hp' : d.nodes.contains p = true := hp
    have hc' : d.nodes.contains c = true := hc
    cases r with
    | none => simp [hp', hc', hne]
    | some x => simp [hp', hc', hne, hr x rfl]
  · intro h
    simp only [Bool.or_eq_false_iff, Bool.not_eq_false', beq_eq_false_iff_ne] at h
    obtain ⟨⟨⟨hp, hc⟩, hne⟩, hr⟩ := h
    refine ⟨hp, hc, hne, fun x hx => ?_⟩
    subst hx
    simpa using hr

theorem insertBefore_of_not {r : Option NodeId} (h : ¬ d.CanInsert p c r) :
    d.insertBefore p c r = d := by
  rw [canInsert_iff, Bool.not_eq_false] at h
  simp only [insertBefore, h, ↓reduceIte]

theorem insertBefore_of_canInsert {r : Option NodeId} (h : d.CanInsert p c r) :
    d.insertBefore p c r = ((d.detach c).link p c (r.filter (· != c))).touch := by
  rw [canInsert_iff] at h
  simp only [insertBefore, h, Bool.false_eq_true, ↓reduceIte]

theorem parent?_insertBefore {r : Option NodeId} (h : d.CanInsert p c r) :
    (d.insertBefore p c r).parent? m = if c = m then some p else d.parent? m := by
  rw [insertBefore_of_canInsert h, (sameLinks_touch _).parent, parent?_link, parent?_detach]
  · split <;> rfl
  · rw [node?_detach_isSome]
    exact h.child

theorem node?_insertBefore_isSome {r : Option NodeId} :
    ((d.insertBefore p c r).node? m).isSome = (d.node? m).isSome := by
  by_cases h : d.CanInsert p c r
  · rw [insertBefore_of_canInsert h, node?_touch, node?_link_isSome, node?_detach_isSome]
  · rw [insertBefore_of_not h]

end Lookup

/-- Trees with linked children keep parents and children in agreement. -/
theorem consistent_of_lists {d : Dom} (hv : d.nodes.Valid) (hdoc : (d.node? d.document).isSome)
    {l : NodeId → List NodeId} (hl : ∀ p, d.Lists p (l p))
    (halone : ∀ n, d.parent? n = none → d.Alone n) : d.Consistent :=
  ⟨hv, hdoc, fun p => by rw [(hl p).children_eq]; exact hl p, halone⟩

namespace Consistent

variable {d : Dom} (hd : d.Consistent)
include hd

theorem mem_children {c p : NodeId} (h : d.parent? c = some p) : c ∈ d.children p :=
  ((hd.lists p).mem_iff c).2 h

theorem parent_of_mem {c p : NodeId} (h : c ∈ d.children p) : d.parent? c = some p :=
  ((hd.lists p).mem_iff c).1 h

theorem nodup (n : NodeId) : (d.children n).Nodup := (hd.lists n).nodup

/-- Whoever keeps nodes and links keeps the invariant. -/
theorem of_sameLinks {d' : Dom} (hv : d'.nodes.Valid) (hdoc : (d'.node? d'.document).isSome)
    (h : d.SameLinks d') : d'.Consistent :=
  consistent_of_lists hv hdoc (fun p => h.lists (hd.lists p)) fun n hn =>
    h.alone (hd.alone n (by rwa [h.parent] at hn))

theorem exists_parent_node {n p : NodeId} (h : d.parent? n = some p) :
    ∃ node, d.node? p = some node :=
  Option.isSome_iff_exists.1 ((hd.lists p).isSome_parent (List.ne_nil_of_mem (hd.mem_children h)))

theorem isSome_of_mem_children {c p : NodeId} (h : c ∈ d.children p) : (d.node? c).isSome :=
  (hd.lists p).isSome h

/-! ### Adding a node -/

theorem node?_create (content : NodeContent) (n : NodeId) :
    (d.create content).1.node? n =
      if n = (d.create content).2 then some (.detached content) else d.node? n :=
  hd.valid.get?_insert _ n

theorem node?_fresh (content : NodeContent) : d.node? (d.create content).2 = none :=
  hd.valid.get?_fresh _

/-- What is read of the nodes, if there is nothing of it in a new one. -/
theorem bind_create {content : NodeContent} {g : Node → Option NodeId}
    (hg : g (.detached content) = none) (n : NodeId) :
    ((d.create content).1.node? n).bind g = (d.node? n).bind g := by
  rw [hd.node?_create]
  split
  · rename_i h
    simp [h, hd.node?_fresh, hg]
  · rfl

theorem sameLinks_create (content : NodeContent) : d.SameLinks (d.create content).1 where
  parent := hd.bind_create rfl
  first := hd.bind_create rfl
  last := hd.bind_create rfl
  previous := hd.bind_create rfl
  next := hd.bind_create rfl

theorem parent?_create (content : NodeContent) (n : NodeId) :
    (d.create content).1.parent? n = d.parent? n :=
  (hd.sameLinks_create content).parent n

theorem children_create (content : NodeContent) (n : NodeId) :
    (d.create content).1.children n = d.children n :=
  ((hd.sameLinks_create content).lists (hd.lists n)).children_eq

theorem children_fresh (content : NodeContent) :
    (d.create content).1.children (d.create content).2 = [] := by
  rw [hd.children_create, children_of_node?_eq_none (hd.node?_fresh content)]

theorem create (content : NodeContent) : (d.create content).1.Consistent := by
  refine hd.of_sameLinks (hd.valid.insert _) ?_ (hd.sameLinks_create content)
  change ((d.create content).1.node? d.document).isSome
  rw [hd.node?_create]
  split
  · rfl
  · exact hd.document

/-! ### Taking a node out of its parent -/

theorem filter_eq_children {n m : NodeId} (h : d.parent? n ≠ some m) :
    (d.children m).filter (· != n) = d.children m := by
  refine List.filter_eq_self.2 fun c hc => bne_iff_ne.2 ?_
  rintro rfl
  exact h (hd.parent_of_mem hc)

theorem lists_detach (n m : NodeId) :
    (d.detach n).Lists m ((d.children m).filter (· != n)) := by
  cases hp : d.parent? n with
  | none =>
    rw [detach_of_root hp, hd.filter_eq_children (by simp [hp])]
    exact hd.lists m
  | some p =>
    obtain ⟨l₁, l₂, hl⟩ := List.append_of_mem (hd.mem_children hp)
    have h := hd.lists p
    rw [hl] at h
    rw [detach_of_parent hp]
    refine (sameLinks_touch _).lists ?_
    by_cases hm : m = p
    · subst hm
      have hn := (List.nodup_cons.1 (List.nodup_middle.1 h.nodup)).1
      have hfilter : (l₁ ++ n :: l₂).filter (· != n) = l₁ ++ l₂ := by
        rw [List.filter_append, List.filter_cons_of_neg (by simp), ← List.filter_append]
        exact List.filter_eq_self.2 fun c hc => bne_iff_ne.2 (ne_of_mem_of_not_mem hc hn)
      rw [hl, hfilter]
      exact h.unlink
    · rw [hd.filter_eq_children (by simpa [hp] using Ne.symm hm)]
      exact h.unlink_of_ne hm (hd.lists m)

theorem children_detach (n m : NodeId) :
    (d.detach n).children m = (d.children m).filter (· != n) :=
  (hd.lists_detach n m).children_eq

theorem alone_detach (n : NodeId) {m : NodeId} (hm : (d.detach n).parent? m = none) :
    (d.detach n).Alone m := by
  cases hp : d.parent? n with
  | none =>
    rw [detach_of_root hp] at hm ⊢
    exact hd.alone m hm
  | some p =>
    obtain ⟨l₁, l₂, hl⟩ := List.append_of_mem (hd.mem_children hp)
    have h := hd.lists p
    rw [hl] at h
    rw [detach_of_parent hp] at hm ⊢
    exact (sameLinks_touch _).alone (h.alone_unlink hd.alone hm)

theorem detach (n : NodeId) : (d.detach n).Consistent := by
  refine consistent_of_lists ?_ ?_ (hd.lists_detach n) fun m => hd.alone_detach n
  · cases hp : d.parent? n with
    | none => rw [detach_of_root hp]; exact hd.valid
    | some p => rw [detach_of_parent hp]; exact (d.rewired_unlink p n).valid hd.valid
  · rw [document_detach, node?_detach_isSome]
    exact hd.document

/-! ### Moving a node -/

/-- The place where a node is put, among the children without it. -/
theorem exists_place {p c : NodeId} {r : Option NodeId} (h : d.CanInsert p c r) :
    ∃ l₁ l₂, (d.detach c).Lists p (l₁ ++ l₂) ∧ l₂.head? = r.filter (· != c) ∧
      WebStyle.insertBefore c r ((d.children p).filter (· != c)) = l₁ ++ c :: l₂ := by
  have hreference : ∀ x ∈ r.filter (· != c), x ∈ (d.children p).filter (· != c) := by
    intro x hx
    obtain ⟨hx, hne⟩ := Option.filter_eq_some_iff.1 hx
    exact List.mem_filter.2 ⟨hd.mem_children (h.reference x hx), hne⟩
  obtain ⟨l₁, l₂, heq, hhead, hinsert⟩ := exists_insertBefore_eq (x := c) hreference
  refine ⟨l₁, l₂, heq ▸ hd.lists_detach c p, hhead, ?_⟩
  rw [insertBefore_eq_filter (by simp), hinsert]

theorem lists_insertBefore {p c : NodeId} {r : Option NodeId} (h : d.CanInsert p c r)
    (m : NodeId) :
    (d.insertBefore p c r).Lists m
      (if p = m then WebStyle.insertBefore c r ((d.children m).filter (· != c))
      else (d.children m).filter (· != c)) := by
  rw [insertBefore_of_canInsert h]
  refine (sameLinks_touch _).lists ?_
  have hc : (d.detach c).parent? c = none := by rw [parent?_detach, if_pos rfl]
  have hcn : ((d.detach c).node? c).isSome := by rw [node?_detach_isSome]; exact h.child
  have hpn : ((d.detach c).node? p).isSome := by rw [node?_detach_isSome]; exact h.parent
  obtain ⟨l₁, l₂, hp, hhead, hinsert⟩ := hd.exists_place h
  split
  · rename_i hm
    subst hm
    rw [hinsert]
    exact hp.link hhead hc hcn hpn
  · rename_i hm
    exact hp.link_of_ne hhead hc hcn hpn (Ne.symm hm) (hd.lists_detach c m)

theorem alone_insertBefore {p c m : NodeId} {r : Option NodeId} (h : d.CanInsert p c r)
    (hm : (d.insertBefore p c r).parent? m = none) : (d.insertBefore p c r).Alone m := by
  rw [insertBefore_of_canInsert h] at hm ⊢
  have hcn : ((d.detach c).node? c).isSome := by rw [node?_detach_isSome]; exact h.child
  obtain ⟨l₁, l₂, hp, hhead, -⟩ := hd.exists_place h
  exact (sameLinks_touch _).alone (hp.alone_link hhead hcn (fun n => hd.alone_detach c) hm)

theorem children_insertBefore {p c : NodeId} {r : Option NodeId} (h : d.CanInsert p c r)
    (m : NodeId) :
    (d.insertBefore p c r).children m =
      if p = m then WebStyle.insertBefore c r ((d.children m).filter (· != c))
      else (d.children m).filter (· != c) :=
  (hd.lists_insertBefore h m).children_eq

theorem insertBefore (p c : NodeId) (r : Option NodeId) : (d.insertBefore p c r).Consistent := by
  by_cases h : d.CanInsert p c r
  · refine consistent_of_lists ?_ ?_ (hd.lists_insertBefore h) fun m => hd.alone_insertBefore h
    · rw [insertBefore_of_canInsert h]
      exact (rewired_link _ _ _ _).valid (hd.detach c).valid
    · rw [insertBefore_of_canInsert h, node?_touch, touch, (rewired_link _ _ _ _).document]
      exact node?_link_isSome.trans (hd.detach c).document
  · rwa [insertBefore_of_not h]

/-! ### Changing a node where it stands -/

theorem setContent (n : NodeId) (content : NodeContent) :
    (d.modify n fun node => { node with content }).touch.Consistent := by
  have hcontent := hd.of_sameLinks (hd.valid.modify n _) ?_ (sameLinks_setContent d n content)
  · exact hcontent.of_sameLinks hcontent.valid hcontent.document (sameLinks_touch _)
  · rw [node?_modify_eq_map, Option.isSome_map]
    exact hd.document

theorem modifyElement (n : NodeId) (f : Element → Element) : (d.modifyElement n f).Consistent := by
  simp only [Dom.modifyElement]
  split
  · exact hd
  · split
    · exact hd
    · exact hd.setContent n _

/-- Every change keeps parents and children in agreement. -/
theorem apply (e : Edit) : (e.apply d).Consistent := by
  cases e with
  | create content => exact hd.create content
  | insertBefore p c r => exact hd.insertBefore p c r
  | remove p c =>
    simp only [Edit.apply, remove]
    split
    · exact hd.detach c
    · exact hd
  | detach n => exact hd.detach n
  | setAttribute n name value =>
    simp only [Edit.apply, setAttribute]
    split
    · exact hd
    · exact hd.setContent n _
  | removeAttribute n name => exact hd.modifyElement n _
  | modifyInteraction n f => exact hd.modifyElement n _
  | setFocus n =>
    simp only [Edit.apply, setFocus]
    split
    · exact hd
    · exact hd.of_sameLinks hd.valid hd.document (.of_node? fun _ => rfl)
  | setTarget fragment =>
    simp only [Edit.apply, setTarget]
    split
    · exact hd
    · exact hd.of_sameLinks hd.valid hd.document (.of_node? fun _ => rfl)

end Consistent

theorem node?_empty (n : NodeId) :
    empty.node? n = if n = empty.document then some (.detached .document) else none := by
  have hv : (∅ : Slots NodeKind Node).Valid := Slots.valid_empty
  have h := hv.get?_insert (Node.detached .document) n
  rwa [Slots.get?_empty] at h

theorem consistent_empty : empty.Consistent := by
  have hnone : ∀ {g : Node → Option NodeId}, g (.detached .document) = none →
      ∀ n, (empty.node? n).bind g = none := by
    intro g hg n
    rw [node?_empty]
    split
    · exact hg
    · rfl
  refine consistent_of_lists (Slots.valid_empty.insert _) ?_ (l := fun _ => []) (fun p => ?_)
    fun n _ => ⟨hnone rfl n, hnone rfl n⟩
  · rw [node?_empty, if_pos rfl]
    rfl
  · refine ⟨List.nodup_nil, fun c => ?_, hnone rfl p, hnone rfl p, .nil, by simp, by simp⟩
    rw [parent?, hnone rfl]
    simp

/-! ### Acyclic changes -/

/-- Nodes that lose their parents do no harm. -/
theorem Grounded.of_parents {d d' : Dom} {n : NodeId} (h : d.Grounded n)
    (hp : ∀ c p : NodeId, d'.parent? c = some p → d.parent? c = some p) : d'.Grounded n :=
  Subrelation.accessible (hp _ _) h

theorem Grounded.modify {d : Dom} {n m : NodeId} {f : Node → Node} (h : d.Grounded n)
    (hf : ∀ node, (f node).parent = node.parent) : (d.modify m f).Grounded n :=
  h.of_parents fun c p hp => by rwa [parent?, bind_modify_of_eq hf] at hp

theorem Grounded.detach {d : Dom} {n : NodeId} (h : d.Grounded n) (m : NodeId) :
    (d.detach m).Grounded n := by
  refine h.of_parents fun c p hp => ?_
  rw [parent?_detach] at hp
  split at hp
  · simp at hp
  · exact hp

theorem Grounded.insertBefore {d : Dom} {p c : NodeId} {r : Option NodeId}
    (h : ∀ n, d.Grounded n)
    (hc : ¬ Relation.ReflTransGen (fun c p => d.parent? c = some p) p c) (n : NodeId) :
    (d.insertBefore p c r).Grounded n := by
  by_cases hr : d.CanInsert p c r
  swap
  · rw [insertBefore_of_not hr]
    exact h n
  -- above the new parent nothing has changed, as the moved node is not there
  have habove : ∀ m, ¬ Relation.ReflTransGen (fun c p => d.parent? c = some p) m c →
      (d.insertBefore p c r).Grounded m := by
    intro m
    induction h m with
    | intro m _ ih =>
      intro hm
      have hne : c ≠ m := by
        rintro rfl
        exact hm .refl
      refine Acc.intro m fun q hq => ?_
      rw [parent?_insertBefore hr, if_neg hne] at hq
      exact ih q hq fun hqc => hm (.head hq hqc)
  induction h n with
  | intro n _ ih =>
    refine Acc.intro n fun q hq => ?_
    rw [parent?_insertBefore hr] at hq
    split at hq
    · rw [← Option.some.inj hq]
      exact habove p hc
    · exact ih q hq

theorem Grounded.modifyElement {d : Dom} {n m : NodeId} {f : Element → Element}
    (h : d.Grounded n) : (d.modifyElement m f).Grounded n := by
  simp only [Dom.modifyElement]
  split
  · exact h
  · split
    · exact h
    · exact h.modify fun _ => rfl

theorem Grounded.apply {d : Dom} (hd : d.Consistent) (h : ∀ n, d.Grounded n) {e : Edit}
    (he : e.IsAcyclic d) (n : NodeId) : (e.apply d).Grounded n := by
  cases e with
  | create content => exact (h n).of_parents fun c p hp => by rwa [← hd.parent?_create content]
  | insertBefore p c r => exact Grounded.insertBefore h he n
  | remove p c =>
    simp only [Edit.apply, remove]
    split
    · exact (h n).detach c
    · exact h n
  | detach m => exact (h n).detach m
  | setAttribute m name value =>
    simp only [Edit.apply, setAttribute]
    split
    · exact h n
    · exact (h n).modify fun _ => rfl
  | removeAttribute m name => exact (h n).modifyElement
  | modifyInteraction m f => exact (h n).modifyElement
  | setFocus m =>
    simp only [Edit.apply, setFocus]
    split <;> exact h n
  | setTarget fragment =>
    simp only [Edit.apply, setTarget]
    split <;> exact h n

theorem Reached.consistent {d : Dom} (h : d.Reached) : d.Consistent := by
  induction h with
  | empty => exact consistent_empty
  | apply _ _ ih => exact ih.apply _

theorem Reached.grounded {d : Dom} (h : d.Reached) (n : NodeId) : d.Grounded n := by
  induction h generalizing n with
  | empty =>
    refine Acc.intro n fun p hp => ?_
    rw [parent?, node?_empty] at hp
    split at hp <;> simp [Node.detached] at hp
  | apply h he ih => exact Grounded.apply h.consistent ih he n

/-! ### New children -/

/-- Nothing is put below itself where a node without children is moved. -/
theorem Consistent.isAcyclic_of_no_children {d : Dom} (hd : d.Consistent) {p c : NodeId}
    {r : Option NodeId} (hne : p ≠ c) (hc : d.children c = []) :
    (Edit.insertBefore p c r).IsAcyclic d := by
  intro h
  rcases Relation.ReflTransGen.cases_tail h with rfl | ⟨b, -, hb⟩
  · exact hne rfl
  · have hmem := hd.mem_children hb
    rw [hc] at hmem
    simp at hmem

theorem Reached.addChild {d : Dom} (h : d.Reached) {n : NodeId} (hn : (d.node? n).isSome)
    (content : NodeContent) :
    ((d.create content).1.append n (d.create content).2).Reached := by
  have hd := h.consistent
  have hne : n ≠ (d.create content).2 := by
    rintro rfl
    simp [hd.node?_fresh] at hn
  exact (h.apply (e := .create content) trivial).apply
    (e := .insertBefore n (d.create content).2 none)
    ((hd.create content).isAcyclic_of_no_children hne (hd.children_fresh content))

/-- Adds nodes of which each is a child of the one before, the first one of the given node. -/
def addBelow (d : Dom) (n : NodeId) : List NodeContent → Dom
  | [] => d
  | content :: rest =>
    ((d.create content).1.append n (d.create content).2).addBelow (d.create content).2 rest

/-- A tree in which each node is the only child of the one before. -/
def chain (contents : List NodeContent) : Dom := empty.addBelow empty.document contents

theorem Reached.addBelow {d : Dom} (h : d.Reached) {n : NodeId} (hn : (d.node? n).isSome)
    (contents : List NodeContent) : (d.addBelow n contents).Reached := by
  induction contents generalizing d n with
  | nil => exact h
  | cons content rest ih =>
    refine ih (h.addChild hn content) ?_
    rw [append, node?_insertBefore_isSome, h.consistent.node?_create, if_pos rfl]
    rfl

end Dom
end WebStyle

