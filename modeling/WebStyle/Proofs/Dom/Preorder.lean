import WebStyle.Proofs.Depth
import WebStyle.Proofs.Dom.Walks
/-!
The walk down from a node. It visits the trees of the children, one after the other, and passes
exactly the nodes from which the walk up passes the node, each of them once. In every tree that is
built by changes of which none puts a node below itself, or before itself, links, parents and walks
agree, and a node that is moved leaves one list of children for its place in another one.
-/
set_option autoImplicit false

namespace WebStyle.Dom

variable {d d' : Dom} {n m c : NodeId} {k j fuel : Nat}

/-- Whether a node stands below another one. -/
def Below (d : Dom) (m n : NodeId) : Prop := Relation.TransGen (fun c p => d.parent? c = some p) m n

/-- The nodes of a list and those below them, so many levels of them, each before those below it. -/
def trees (d : Dom) : Nat → List NodeId → List NodeId
  | 0, _ => []
  | k + 1, l => l.flatMap fun c => c :: d.trees k (d.children c)

theorem trees_cons (k : Nat) (c : NodeId) (l : List NodeId) :
    d.trees (k + 1) (c :: l) = c :: (d.trees k (d.children c) ++ d.trees (k + 1) l) := by
  rw [trees, List.flatMap_cons, List.cons_append, ← trees]

/-- A walk with fuel for the trees of the children visits them, and then what was left. -/
theorem visitFuel_children (hn : DepthAtMost d.children k n) (fuel : Nat) (left : List NodeId) :
    d.visitFuel (fuel + (d.trees k (d.children n)).length) (d.children n ++ left) =
      d.trees k (d.children n) ++ d.visitFuel fuel left := by
  induction k generalizing n fuel left with
  | zero =>
    rw [show d.children n = [] from hn]
    rfl
  | succ k ih =>
    have main : ∀ l : List NodeId, (∀ c ∈ l, DepthAtMost d.children k c) →
        d.visitFuel (fuel + (d.trees (k + 1) l).length) (l ++ left) =
          d.trees (k + 1) l ++ d.visitFuel fuel left := by
      intro l hl
      induction l with
      | nil => rfl
      | cons c l ih' =>
        have hfuel : fuel + (d.trees (k + 1) (c :: l)).length =
            (fuel + (d.trees (k + 1) l).length + (d.trees k (d.children c)).length) + 1 := by
          rw [trees_cons, List.length_cons, List.length_append]
          omega
        rw [hfuel, List.cons_append, visitFuel, ih (hl c List.mem_cons_self),
          ih' fun c hc => hl c (List.mem_cons_of_mem _ hc), trees_cons, List.cons_append,
          List.append_assoc]
    exact main _ hn

/-- Levels that are not there add nothing. -/
theorem trees_eq (hn : DepthAtMost d.children k n) (hk : k ≤ j) :
    d.trees j (d.children n) = d.trees k (d.children n) := by
  induction k generalizing n j with
  | zero =>
    rw [show d.children n = [] from hn]
    cases j <;> rfl
  | succ k ih =>
    obtain ⟨j, rfl⟩ := Nat.exists_eq_add_of_le' hk
    rw [← Nat.add_assoc, trees, trees]
    refine List.flatMap_congr fun c hc => ?_
    rw [ih (hn c hc) (by omega)]

theorem trees_congr (h : ∀ n, d'.children n = d.children n) (l : List NodeId) :
    d'.trees k l = d.trees k l := by
  induction k generalizing l with
  | zero => rfl
  | succ k ih =>
    rw [trees, trees]
    refine List.flatMap_congr fun c _ => ?_
    rw [h, ih]

/-! ### What is below a node -/

theorem IsWalk.mem_iff {l : List NodeId} (h : d.IsWalk n l) : m ∈ l ↔ d.Below n m := by
  induction h with
  | root hp =>
    refine ⟨by simp, fun h => ?_⟩
    obtain ⟨p, hp', -⟩ := Relation.TransGen.head'_iff.1 h
    simp [hp] at hp'
  | up hp _ ih =>
    rw [List.mem_cons, ih]
    constructor
    · rintro (rfl | hm)
      · exact .single hp
      · exact .head hp hm
    · intro hm
      obtain ⟨q, hq, hqm⟩ := Relation.TransGen.head'_iff.1 hm
      obtain rfl := Option.some.inj (hp.symm.trans hq)
      exact Relation.reflTransGen_iff_eq_or_transGen.1 hqm

/-- No node whose walk up ends is below itself. -/
theorem Grounded.not_below (h : d.Grounded n) : ¬ d.Below n n := by
  obtain ⟨l, hl⟩ := h.exists_isWalk
  rw [← hl.mem_iff]
  exact (List.nodup_cons.1 hl.nodup).1

theorem Grounded.child (h : d.Grounded n) (hc : d.parent? c = some n) : d.Grounded c := by
  refine .intro c fun p hp => ?_
  obtain rfl := Option.some.inj (hc.symm.trans hp)
  exact h

/-- Nothing is in the trees of two children. -/
theorem Grounded.eq_of_below {a b : NodeId} (hg : d.Grounded n) (ha : d.parent? a = some n)
    (hb : d.parent? b = some n) (hma : m = a ∨ d.Below m a) (hmb : m = b ∨ d.Below m b) :
    a = b := by
  have hpath : ∀ {c}, m = c ∨ d.Below m c →
      Relation.ReflTransGen (fun c p => d.parent? c = some p) m c := by
    rintro c (rfl | h)
    · exact .refl
    · exact h.to_reflTransGen
  have hne : ∀ {a b}, d.parent? a = some n → d.parent? b = some n →
      Relation.ReflTransGen (fun c p => d.parent? c = some p) a b → a = b := by
    intro a b ha hb hab
    rcases Relation.ReflTransGen.cases_head hab with rfl | ⟨q, hq, hqb⟩
    · rfl
    · obtain rfl := Option.some.inj (ha.symm.trans hq)
      exact absurd (Relation.TransGen.tail' hqb hb) hg.not_below
  rcases Relation.ReflTransGen.total_of_right_unique
    (fun _ _ _ h h' => Option.some.inj (h.symm.trans h')) (hpath hma) (hpath hmb) with h | h
  · exact hne ha hb h
  · exact (hne hb ha h).symm

namespace Consistent

variable (hd : d.Consistent)
include hd

/-- The walk down from a node whose walk up ends does not go deeper than there are nodes. -/
theorem depthAtMost_children (hg : d.Grounded n) :
    DepthAtMost d.children d.nodes.slots.size n := by
  have main : ∀ k n l, d.IsWalk n l → (d.node? n).isSome →
      d.nodes.slots.size ≤ k + l.length → DepthAtMost d.children k n := by
    intro k
    induction k with
    | zero =>
      intro n l hl hn hk
      have hlt := hl.length_lt hd hn
      omega
    | succ k ih =>
      intro n l hl hn hk c hc
      refine ih c (n :: l) (.up (hd.parent_of_mem hc) hl) (hd.isSome_of_mem_children hc) ?_
      simp only [List.length_cons]
      omega
  cases hn : d.node? n with
  | none =>
    have hnil := children_of_node?_eq_none hn
    cases d.nodes.slots.size with
    | zero => exact hnil
    | succ k => exact fun c hc => by simp [hnil] at hc
  | some node => exact main _ n _ (hg.isWalk hd) (by simp [hn]) (Nat.le_add_right _ _)

/-- What is below a node is a child of it, or below one. -/
theorem below_iff : d.Below m n ↔ ∃ c ∈ d.children n, m = c ∨ d.Below m c := by
  constructor
  · intro h
    obtain ⟨c, hmc, hc⟩ := Relation.TransGen.tail'_iff.1 h
    exact ⟨c, hd.mem_children hc,
      (Relation.reflTransGen_iff_eq_or_transGen.1 hmc).imp Eq.symm id⟩
  · rintro ⟨c, hc, rfl | hmc⟩
    · exact .single (hd.parent_of_mem hc)
    · exact .tail hmc (hd.parent_of_mem hc)

theorem mem_trees_iff (hn : DepthAtMost d.children k n) :
    m ∈ d.trees k (d.children n) ↔ d.Below m n := by
  induction k generalizing n with
  | zero =>
    rw [hd.below_iff, show d.children n = [] from hn]
    simp [trees]
  | succ k ih =>
    simp only [trees, List.mem_flatMap, List.mem_cons]
    rw [hd.below_iff]
    exact exists_congr fun c => and_congr_right fun hc => or_congr_right (ih (hn c hc))

theorem nodup_trees (hg : d.Grounded n) (hn : DepthAtMost d.children k n) :
    (d.trees k (d.children n)).Nodup := by
  induction k generalizing n with
  | zero => exact List.nodup_nil
  | succ k ih =>
    rw [trees, List.nodup_flatMap]
    refine ⟨fun c hc => List.nodup_cons.2 ⟨?_, ?_⟩, ?_⟩
    · rw [hd.mem_trees_iff (hn c hc)]
      exact (hg.child (hd.parent_of_mem hc)).not_below
    · exact ih (hg.child (hd.parent_of_mem hc)) (hn c hc)
    · refine (hd.nodup n).imp_of_mem fun {a b} ha hb hab x hxa hxb => hab ?_
      rw [List.mem_cons, hd.mem_trees_iff (hn _ ‹_›)] at hxa hxb
      exact hg.eq_of_below (hd.parent_of_mem ha) (hd.parent_of_mem hb) hxa hxb

theorem isSome_of_mem_visitFuel {l : List NodeId} (hl : ∀ c ∈ l, (d.node? c).isSome)
    (h : m ∈ d.visitFuel fuel l) : (d.node? m).isSome := by
  induction fuel generalizing l with
  | zero => simp [visitFuel] at h
  | succ fuel ih =>
    cases l with
    | nil => simp [visitFuel] at h
    | cons c l =>
      rw [visitFuel, List.mem_cons] at h
      rcases h with rfl | h
      · exact hl m List.mem_cons_self
      · refine ih (fun b hb => ?_) h
        rcases List.mem_append.1 hb with hb | hb
        · exact hd.isSome_of_mem_children hb
        · exact hl b (List.mem_cons_of_mem _ hb)

theorem isSome_of_mem_descendants (h : m ∈ d.descendants n) : (d.node? m).isSome :=
  hd.isSome_of_mem_visitFuel (fun _ hc => hd.isSome_of_mem_children hc) h

/-- The fuel lasts for all that is below a node. -/
theorem descendants_eq_trees (hg : d.Grounded n) (hn : DepthAtMost d.children k n) :
    d.descendants n = d.trees k (d.children n) := by
  have hlength : (d.trees k (d.children n)).length ≤ d.nodes.slots.size := by
    refine Slots.length_le_size (hd.nodup_trees hg hn) fun m hm => ?_
    obtain ⟨p, hp, -⟩ := Relation.TransGen.head'_iff.1 ((hd.mem_trees_iff hn).1 hm)
    exact isSome_of_parent hp
  obtain ⟨fuel, hfuel⟩ := Nat.exists_eq_add_of_le' hlength
  have hvisit := visitFuel_children hn fuel []
  rw [List.append_nil, ← hfuel] at hvisit
  rw [descendants, hvisit]
  cases fuel <;> simp [visitFuel]

/-- The walk down from a node passes a child, then what is below it, and then the other children. -/
theorem descendants_eq (hg : d.Grounded n) :
    d.descendants n = (d.children n).flatMap fun c => c :: d.descendants c := by
  have hn := hd.depthAtMost_children hg
  rw [hd.descendants_eq_trees hg hn]
  generalize d.nodes.slots.size = k at hn
  cases k with
  | zero => simp [trees, show d.children n = [] from hn]
  | succ k =>
    rw [trees]
    refine List.flatMap_congr fun c hc => ?_
    rw [hd.descendants_eq_trees (hg.child (hd.parent_of_mem hc)) (hn c hc)]

end Consistent

end WebStyle.Dom

namespace WebStyle.Dom

/-! ### Trees that are built by changes -/

variable {d : Dom} {p c : NodeId} {r : Option NodeId}

/-- Whether a change, if it is made at all, puts no node below itself, or before itself. -/
def Edit.IsProper (d : Dom) : Edit → Prop
  | .insertBefore p c r => d.CanInsert p c r → ¬ d.Below p c ∧ r ≠ some c
  | _ => True

/-- Trees that proper changes of the empty one lead to. -/
inductive Built : Dom → Prop where
  | empty : Built .empty
  | apply {d : Dom} {e : Edit} (h : Built d) (he : e.IsProper d) : Built (e.apply d)

/-- What a node that is moved into a parent does to the children of all nodes. It stands before the
reference, or last; it has left the children of the parent it had; other children stay. -/
structure Moves (d : Dom) (p c : NodeId) (r : Option NodeId) (d' : Dom) : Prop where
  placed : ∃ before after : List NodeId, (d.children p).erase c = before ++ after ∧
    after.head? = r ∧ d'.children p = before ++ c :: after
  left : ∀ q : NodeId, q ≠ p → d.parent? c = some q → d'.children q = (d.children q).erase c
  kept : ∀ q : NodeId, q ≠ p → d.parent? c ≠ some q → d'.children q = d.children q

/-- Whether links, parents and walks agree, and go on to do so where a node is moved. -/
structure Intact (d : Dom) : Prop where
  /-- The links from the first child on pass those with the parent, and those back mirror them. -/
  lists : ∀ p : NodeId, d.Lists p (d.children p)
  acyclic : ∀ n : NodeId, ¬ d.Below n n
  moves : ∀ (p c : NodeId) (r : Option NodeId), d.CanInsert p c r → r ≠ some c →
    d.Moves p c r (d.insertBefore p c r)
  below : ∀ n m : NodeId, m ∈ d.descendants n ↔ d.Below m n
  once : ∀ n : NodeId, (d.descendants n).Nodup
  preorder : ∀ n : NodeId,
    d.descendants n = (d.children n).flatMap fun c => c :: d.descendants c

/-- A change that is refused leads nowhere. -/
theorem Built.reached (h : Built d) : d.Reached := by
  induction h with
  | empty => exact .empty
  | @apply d e _ he ih =>
    cases e with
    | insertBefore p c r =>
      by_cases hr : d.CanInsert p c r
      · refine ih.apply fun hpc => ?_
        rcases Relation.reflTransGen_iff_eq_or_transGen.1 hpc with rfl | hbelow
        · exact hr.ne rfl
        · exact (he hr).1 hbelow
      · rwa [Edit.apply, insertBefore_of_not hr]
    | _ => exact ih.apply trivial

theorem Consistent.moves (hd : d.Consistent) (h : d.CanInsert p c r) (hr : r ≠ some c) :
    d.Moves p c r (d.insertBefore p c r) := by
  have herase : ∀ q, (d.children q).erase c = (d.children q).filter (· != c) := fun q =>
    (hd.nodup q).erase_eq_filter c
  have hother : ∀ q, q ≠ p →
      (d.insertBefore p c r).children q = (d.children q).filter (· != c) := by
    intro q hq
    rw [hd.children_insertBefore h, if_neg hq.symm]
  refine ⟨?_, fun q hq _ => ?_, fun q hq hcq => ?_⟩
  · have hreference : ∀ x ∈ r, x ∈ (d.children p).filter (· != c) := by
      rintro x rfl
      exact List.mem_filter.2 ⟨hd.mem_children (h.reference x rfl), bne_iff_ne.2 fun heq =>
        hr (congrArg some heq)⟩
    rw [herase, hd.children_insertBefore h, if_pos rfl]
    exact exists_insertBefore_eq hreference
  · rw [hother q hq, herase]
  · rw [hother q hq, hd.filter_eq_children hcq]

theorem Built.intact (h : d.Built) : d.Intact := by
  have hd := h.reached.consistent
  have hg := h.reached.grounded
  have htrees := fun n => hd.descendants_eq_trees (hg n) (hd.depthAtMost_children (hg n))
  exact {
    lists := hd.lists
    acyclic n := (hg n).not_below
    moves p c r hc hr := hd.moves hc hr
    below n m := by rw [htrees, hd.mem_trees_iff (hd.depthAtMost_children (hg n))]
    once n := by
      rw [htrees]
      exact hd.nodup_trees (hg n) (hd.depthAtMost_children (hg n))
    preorder n := hd.descendants_eq (hg n) }

/-- To give a new node a place is proper. -/
theorem Built.place (h : d.Built) (content : NodeContent) (p : NodeId)
    (hr : r ≠ some (d.create content).2) :
    ((d.create content).1.insertBefore p (d.create content).2 r).Built := by
  have hd := h.reached.consistent
  refine (h.apply (e := .create content) trivial).apply
    (e := .insertBefore p (d.create content).2 r) fun hi => ⟨fun hbelow => ?_, hr⟩
  exact (hd.create content).isAcyclic_of_no_children (r := r) hi.ne (hd.children_fresh content)
    hbelow.to_reflTransGen

/-- A text in a paragraph in a division, in which a comment is put before the paragraph. -/
def division : Dom :=
  [Edit.create (.element (.ofAttributes "div" [])), .insertBefore ⟨0, 0⟩ ⟨1, 0⟩ none,
    .create (.element (.ofAttributes "p" [])), .insertBefore ⟨1, 0⟩ ⟨2, 0⟩ none,
    .create (.text "a"), .insertBefore ⟨2, 0⟩ ⟨3, 0⟩ none,
    .create (.comment "b"), .insertBefore ⟨1, 0⟩ ⟨4, 0⟩ (some ⟨2, 0⟩)].foldl Edit.apply empty

theorem built_division : division.Built := by
  have hdiv := Built.empty.place (r := none) (.element (.ofAttributes "div" [])) ⟨0, 0⟩ (by decide)
  have hp := hdiv.place (r := none) (.element (.ofAttributes "p" [])) ⟨1, 0⟩ (by decide)
  have htext := hp.place (r := none) (.text "a") ⟨2, 0⟩ (by decide)
  exact htext.place (r := some ⟨2, 0⟩) (.comment "b") ⟨1, 0⟩ (by decide)

/-- The text is moved out of the paragraph, to the place before it. -/
theorem intact_division : division.Built ∧
    division.descendants ⟨0, 0⟩ = [⟨1, 0⟩, ⟨4, 0⟩, ⟨2, 0⟩, ⟨3, 0⟩] ∧ division.Intact ∧
    division.Moves ⟨1, 0⟩ ⟨3, 0⟩ (some ⟨2, 0⟩)
      (division.insertBefore ⟨1, 0⟩ ⟨3, 0⟩ (some ⟨2, 0⟩)) :=
  ⟨built_division, by decide, built_division.intact,
    built_division.intact.moves _ _ _ (canInsert_iff.2 (by decide)) (by decide)⟩

end WebStyle.Dom
