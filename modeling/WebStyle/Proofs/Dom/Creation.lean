import WebStyle.Proofs.Dom.Preorder
import WebStyle.Proofs.Dom.Siblings
import WebStyle.Style.Matching
/-!
Nodes that are created have no place in the tree: nothing that selectors ask of other nodes changes.
Therefore creating one does not count as a change.
-/
set_option autoImplicit false

namespace WebStyle.Dom

theorem any_congr_of_mem {α : Type} {l : List α} {p q : α → Bool} (h : ∀ a ∈ l, p a = q a) :
    l.any p = l.any q := by
  rw [Bool.eq_iff_iff, List.any_eq_true, List.any_eq_true]
  refine exists_congr fun a => and_congr_right fun ha => ?_
  rw [h a ha]

/-- Whether a tree has all nodes of another, and perhaps more that have no place. -/
structure Extends (d d' : Dom) : Prop where
  consistent : d.Consistent
  consistent' : d'.Consistent
  node : ∀ n : NodeId, (d.node? n).isSome → d'.node? n = d.node? n
  parent : ∀ n : NodeId, d'.parent? n = d.parent? n
  children : ∀ n : NodeId, d'.children n = d.children n
  size : d.nodes.slots.size ≤ d'.nodes.slots.size
  document : d'.document = d.document
  generation : d'.generation = d.generation
  focused : d'.focused = d.focused
  target : d'.target = d.target

theorem Consistent.extends_create {d : Dom} (hd : d.Consistent) (content : NodeContent) :
    d.Extends (d.create content).1 where
  consistent := hd
  consistent' := hd.create content
  node n hn := by
    have hne : n ≠ (d.create content).2 := by
      rintro rfl
      simp [hd.node?_fresh content] at hn
    rw [hd.node?_create, if_neg hne]
  parent := hd.parent?_create content
  children := hd.children_create content
  size := (Slots.grows_insert _ _).size_le
  document := rfl
  generation := rfl
  focused := rfl
  target := rfl

theorem Consistent.extends_refl {d : Dom} (hd : d.Consistent) : d.Extends d :=
  ⟨hd, hd, fun _ _ => rfl, fun _ => rfl, fun _ => rfl, Nat.le_refl _, rfl, rfl, rfl, rfl⟩

theorem isSome_node?_of_isElement {d : Dom} {n : NodeId} (h : d.isElement n) :
    (d.node? n).isSome := by
  obtain ⟨node, hn⟩ := exists_node_of_isElement h
  exact Option.isSome_iff_exists.2 ⟨node, hn⟩

namespace Extends

variable {d d' : Dom} (h : d.Extends d') {n m : NodeId}
include h

theorem element?_eq (hn : (d.node? n).isSome) : d'.element? n = d.element? n := by
  rw [element?, element?, h.node n hn]

theorem isElement_eq (hn : (d.node? n).isSome) : d'.isElement n = d.isElement n := by
  rw [isElement, isElement, h.element?_eq hn]

theorem isElement (hn : d.isElement n) : d'.isElement n := by
  rwa [h.isElement_eq (isSome_node?_of_isElement hn)]

theorem grounded (hn : d.Grounded n) : d'.Grounded n :=
  hn.of_parents fun c p hp => by rwa [h.parent] at hp

theorem attribute?_eq (hn : (d.node? n).isSome) (name : String) :
    d'.attribute? n name = d.attribute? n name := by
  rw [attribute?, attribute?, h.element?_eq hn]

theorem localName_eq (hn : (d.node? n).isSome) : d'.localName n = d.localName n := by
  rw [localName, localName, h.element?_eq hn]

/-! ### Siblings -/

theorem siblings_eq : d'.siblings n = d.siblings n := by
  simp only [siblings, h.parent, h.children]

theorem elementsBeside_eq (hn : (d.node? n).isSome) (forward : Bool) :
    d'.elementsBeside forward n = d.elementsBeside forward n := by
  obtain ⟨before, after, hs⟩ := h.consistent.exists_siblings_eq n
  rw [h.consistent.elementsBeside_eq hs, h.consistent'.elementsBeside_eq (h.siblings_eq.trans hs)]
  refine List.filter_congr fun m hm => h.isElement_eq ?_
  refine h.consistent.isSome_of_mem_siblings hn ?_
  rw [hs]
  cases forward with
  | false => simp [List.mem_reverse.1 hm]
  | true => simp [show m ∈ after from hm]

theorem elementBeside?_eq (hn : (d.node? n).isSome) (forward : Bool) :
    d'.elementBeside? forward n = d.elementBeside? forward n := by
  rw [h.consistent.elementBeside?_eq_head?, h.consistent'.elementBeside?_eq_head?,
    h.elementsBeside_eq hn]

theorem isSome_of_mem_elementsBeside (hn : (d.node? n).isSome) {forward : Bool}
    (hm : m ∈ d.elementsBeside forward n) : (d.node? m).isSome :=
  h.consistent.isSome_of_mem_siblings hn (h.consistent.mem_siblings_of_mem_elementsBeside hm)

theorem position_eq (hn : (d.node? n).isSome) (fromEnd ofType : Bool) :
    d'.position n fromEnd ofType = d.position n fromEnd ofType := by
  have hplace : ∀ l : List NodeId, (∀ m ∈ l, (d.node? m).isSome) →
      d'.place n ofType l = d.place n ofType l := by
    intro l hl
    rw [place, place]
    congr 2
    refine List.filter_congr fun m hm => ?_
    rw [h.localName_eq (hl m hm), h.localName_eq hn]
  cases fromEnd with
  | false =>
    have hbefore : d'.elementsBefore n = d.elementsBefore n := h.elementsBeside_eq hn false
    rw [position, position, hbefore]
    exact hplace _ fun m hm => h.isSome_of_mem_elementsBeside hn hm
  | true =>
    have hafter : d'.elementsAfter n = d.elementsAfter n := h.elementsBeside_eq hn true
    rw [position, position, hafter]
    exact hplace _ fun m hm => h.isSome_of_mem_elementsBeside hn hm

/-! ### Walks -/

theorem ancestors_eq (hg : d.Grounded n) : d'.ancestors n = d.ancestors n := by
  have hwalk : ∀ {n l}, d.IsWalk n l → d'.IsWalk n l := by
    intro n l hl
    induction hl with
    | root hp => exact .root (by rwa [h.parent])
    | up hp _ ih => exact .up (by rwa [h.parent]) ih
  exact ((h.grounded hg).isWalk h.consistent').unique (hwalk (hg.isWalk h.consistent))

theorem isSome_of_mem_ancestors (hg : d.Grounded n) (hm : m ∈ d.ancestors n) :
    (d.node? m).isSome := by
  obtain ⟨node, hnode⟩ := (hg.isWalk h.consistent).exists_node h.consistent hm
  exact Option.isSome_iff_exists.2 ⟨node, hnode⟩

theorem ancestorElements_eq (hg : d.Grounded n) :
    d'.ancestorElements n = d.ancestorElements n := by
  have hcongr : ∀ l : List NodeId, (∀ m ∈ l, (d.node? m).isSome) →
      l.takeWhile d'.isElement = l.takeWhile d.isElement := by
    intro l hl
    induction l with
    | nil => rfl
    | cons a l ih =>
      rw [List.takeWhile_cons, List.takeWhile_cons, h.isElement_eq (hl a (by simp)),
        ih fun m hm => hl m (List.mem_cons_of_mem _ hm)]
  rw [ancestorElements, ancestorElements, h.ancestors_eq hg]
  exact hcongr _ fun m hm => h.isSome_of_mem_ancestors hg hm

theorem descendants_eq (hg : d.Grounded n) : d'.descendants n = d.descendants n := by
  have hn := h.consistent.depthAtMost_children hg
  have hn' := h.consistent'.depthAtMost_children (h.grounded hg)
  rw [h.consistent'.descendants_eq_trees (h.grounded hg) hn',
    h.consistent.descendants_eq_trees hg hn, trees_congr h.children, h.children,
    trees_eq hn h.size]

/-- The elements of the document are the same. -/
theorem elements_eq (hg : d.Grounded d.document) : d'.elements = d.elements := by
  rw [elements, elements, h.document, h.descendants_eq hg]
  exact List.filter_congr fun m hm => h.isElement_eq (h.consistent.isSome_of_mem_descendants hm)

/-! ### Matching -/

theorem isEmpty_eq : d'.isEmpty n = d.isEmpty n := by
  rw [isEmpty, isEmpty, h.children, Bool.eq_iff_iff, List.all_eq_true, List.all_eq_true]
  refine forall_congr' fun c => forall_congr' fun hc => ?_
  rw [h.node c (h.consistent.isSome_of_mem_children hc)]

theorem isRoot_eq : d'.isRoot n = d.isRoot n := by
  rw [isRoot, isRoot, h.parent]
  cases hp : d.parent? n with
  | none => rfl
  | some p =>
    obtain ⟨node, hnode⟩ := h.consistent.exists_parent_node hp
    rw [Option.bind_some, Option.bind_some, h.node p (by simp [hnode])]

theorem isDisabled_eq (hn : (d.node? n).isSome) (hg : d.Grounded n) :
    d'.isDisabled n = d.isDisabled n := by
  have hancestors : ((d.ancestors n).any fun a =>
        (d'.element? a).any fun f => f.tag == "fieldset" && f.hasAttribute "disabled") =
      (d.ancestors n).any fun a =>
        (d.element? a).any fun f => f.tag == "fieldset" && f.hasAttribute "disabled" :=
    any_congr_of_mem fun a ha => by rw [h.element?_eq (h.isSome_of_mem_ancestors hg ha)]
  rw [isDisabled, isDisabled, h.element?_eq hn, h.ancestors_eq hg, hancestors]

theorem matchesPseudoClass_eq (hn : (d.node? n).isSome) (hg : d.Grounded n) (p : PseudoClass) :
    d'.matchesPseudoClass n p = d.matchesPseudoClass n p := by
  cases p with
  | root => exact h.isRoot_eq
  | empty => exact h.isEmpty_eq
  | disabled => exact h.isDisabled_eq hn hg
  | enabled =>
    simp only [matchesPseudoClass, isEnabled, h.element?_eq hn, h.isDisabled_eq hn hg]
  | focus => simp only [matchesPseudoClass, isFocused, h.focused]
  | target => simp only [matchesPseudoClass, isTarget, h.target]
  | checked => simp only [matchesPseudoClass, isChecked, h.element?_eq hn]
  | hover => simp only [matchesPseudoClass, isHovered, h.element?_eq hn]
  | active => simp only [matchesPseudoClass, isActive, h.element?_eq hn]
  | link => simp only [matchesPseudoClass, isLink, h.element?_eq hn]
  | visited => rfl
  | _ => simp only [matchesPseudoClass, h.position_eq hn]

theorem matchesCompound_eq (hn : (d.node? n).isSome) (hg : d.Grounded n) (c : CompoundSelector) :
    d'.matchesCompound n c = d.matchesCompound n c := by
  have hcondition : d'.matchesCondition n = d.matchesCondition n := by
    funext c
    cases c with
    | universal => rfl
    | type name => simp only [matchesCondition, h.localName_eq hn]
    | id name => simp only [matchesCondition, id?, h.element?_eq hn]
    | hasClass name => simp only [matchesCondition, Dom.hasClass, h.element?_eq hn]
    | «attribute» t => simp only [matchesCondition, h.attribute?_eq hn]
    | pseudoClass p => exact h.matchesPseudoClass_eq hn hg p
  have hsimple : d'.matchesSimple n = d.matchesSimple n := by
    funext s
    cases s <;> simp only [matchesSimple, hcondition]
  rw [matchesCompound, matchesCompound, hsimple]

theorem candidates_eq (hn : (d.node? n).isSome) (hg : d.Grounded n) (k : Combinator) :
    d'.candidates n k = d.candidates n k := by
  cases k with
  | descendant => exact h.ancestorElements_eq hg
  | child =>
    simp only [candidates, parentElement?, h.parent]
    cases hp : d.parent? n with
    | none => rfl
    | some p =>
      obtain ⟨node, hnode⟩ := h.consistent.exists_parent_node hp
      simp only [Option.filter, h.isElement_eq (n := p) (by simp [hnode])]
  | nextSibling => exact congrArg Option.toList (h.elementBeside?_eq hn false)
  | laterSibling => exact h.elementsBeside_eq hn false

theorem of_mem_candidates (hn : (d.node? n).isSome) (hg : d.Grounded n) {k : Combinator}
    (hm : m ∈ d.candidates n k) : (d.node? m).isSome ∧ d.Grounded m := by
  have hbefore : ∀ {m}, m ∈ d.elementsBefore n → (d.node? m).isSome ∧ d.Grounded m :=
    fun hm => ⟨h.isSome_of_mem_elementsBeside hn hm, h.consistent.grounded_of_mem_siblings hg
      (h.consistent.mem_siblings_of_mem_elementsBeside hm)⟩
  cases k with
  | descendant =>
    have hm' : m ∈ d.ancestors n := (List.takeWhile_sublist _).mem hm
    exact ⟨h.isSome_of_mem_ancestors hg hm', (hg.isWalk h.consistent).grounded_of_mem hg hm'⟩
  | child =>
    obtain ⟨hp, he⟩ := parentElement?_eq_some_iff.1 (Option.mem_toList.1 hm)
    exact ⟨isSome_node?_of_isElement he, hg.parent hp⟩
  | nextSibling =>
    have hm' : m ∈ d.elementBeside? false n := Option.mem_toList.1 hm
    rw [h.consistent.elementBeside?_eq_head?] at hm'
    exact hbefore (List.mem_of_mem_head? hm')
  | laterSibling => exact hbefore hm

theorem matchesLinks_eq (hn : (d.node? n).isSome) (hg : d.Grounded n)
    (links : List (Combinator × CompoundSelector)) :
    d'.matchesLinks n links = d.matchesLinks n links := by
  induction links generalizing n with
  | nil => rfl
  | cons link links ih =>
    obtain ⟨k, c⟩ := link
    rw [matchesLinks, matchesLinks, h.candidates_eq hn hg]
    refine any_congr_of_mem fun m hm => ?_
    obtain ⟨hn', hg'⟩ := h.of_mem_candidates hn hg hm
    rw [h.matchesCompound_eq hn' hg', ih hn' hg']

theorem matchSpecificity?_eq (hn : (d.node? n).isSome) (hg : d.Grounded n)
    (pseudo : Option PseudoElement) (l : SelectorList) :
    d'.matchSpecificity? n pseudo l = d.matchSpecificity? n pseudo l := by
  have hcomplex : d'.matchesComplex n pseudo = d.matchesComplex n pseudo := by
    funext s
    rw [matchesComplex, matchesComplex, h.matchesCompound_eq hn hg, h.matchesLinks_eq hn hg]
  rw [matchSpecificity?, matchSpecificity?, hcomplex]

end Extends

theorem generation_touch (d : Dom) : d.touch.generation = d.generation + 1 := rfl

theorem generation_detach_le (d : Dom) (n : NodeId) : d.generation ≤ (d.detach n).generation := by
  simp only [detach]
  split
  · exact Nat.le_refl _
  · simp only [generation_touch, (d.rewired_unlink _ _).generation]
    omega

/-- Every change either counts up the generation, or makes no difference to what is there. -/
theorem Consistent.lt_generation_or_extends {d : Dom} (hd : d.Consistent) (e : Edit) :
    d.generation < (e.apply d).generation ∨ d.Extends (e.apply d) := by
  have hsame : d.Extends d := hd.extends_refl
  have hdetach : ∀ n, d.generation < (d.detach n).generation ∨ d.Extends (d.detach n) := by
    intro n
    cases hp : d.parent? n with
    | none => exact .inr (by rwa [detach_of_root hp])
    | some p =>
      rw [detach_of_parent hp, generation_touch, (d.rewired_unlink p n).generation]
      exact .inl (Nat.lt_succ_self _)
  have helement : ∀ n f, d.generation < (d.modifyElement n f).generation ∨
      d.Extends (d.modifyElement n f) := by
    intro n f
    simp only [Dom.modifyElement]
    split
    · exact .inr hsame
    · split
      · exact .inr hsame
      · exact .inl (Nat.lt_succ_self _)
  cases e with
  | create content => exact .inr (hd.extends_create content)
  | insertBefore p c r =>
    by_cases h : d.CanInsert p c r
    · refine .inl ?_
      rw [Edit.apply, insertBefore_of_canInsert h, generation_touch,
        (rewired_link _ _ _ _).generation]
      exact Nat.lt_succ_of_le (d.generation_detach_le c)
    · exact .inr (by rwa [Edit.apply, insertBefore_of_not h])
  | remove p c =>
    simp only [Edit.apply, remove]
    split
    · exact hdetach c
    · exact .inr hsame
  | detach n => exact hdetach n
  | setAttribute n name value =>
    simp only [Edit.apply, Dom.setAttribute]
    split
    · exact .inr hsame
    · exact .inl (Nat.lt_succ_self _)
  | removeAttribute n name => exact helement n _
  | modifyInteraction n f => exact helement n _
  | setFocus n =>
    simp only [Edit.apply, setFocus]
    split
    · exact .inr hsame
    · exact .inl (Nat.lt_succ_self _)
  | setTarget fragment =>
    simp only [Edit.apply, setTarget]
    split
    · exact .inr hsame
    · exact .inl (Nat.lt_succ_self _)

end WebStyle.Dom
