import WebStyle.Style.Matching
import WebStyle.Proofs.Dom.Siblings
/-!
The structural pseudo-classes, told by the siblings of an element: a formula matches if one of its
values is the place among the siblings that count.
-/
set_option autoImplicit false

namespace WebStyle

namespace PseudoClass

/-- The pseudo-class that asks for a place: from the start or the end, among all elements or only
those of the same name. -/
def nth : Bool → Bool → Nth → PseudoClass
  | false, false => .nthChild
  | true, false => .nthLastChild
  | false, true => .nthOfType
  | true, true => .nthLastOfType

/-- The pseudo-class that asks for the first place, from the start or the end. -/
def first : Bool → Bool → PseudoClass
  | false, false => .firstChild
  | true, false => .lastChild
  | false, true => .firstOfType
  | true, true => .lastOfType

/-- The pseudo-class that asks for the only place. -/
def only : Bool → PseudoClass
  | false => .onlyChild
  | true => .onlyOfType

end PseudoClass

namespace Dom

variable {d : Dom} {e : NodeId} {before after : List NodeId}

/-- Whether a node counts for the place of an element: if it is an element and, with `ofType`, has
the same name. -/
def counts (d : Dom) (e : NodeId) (ofType : Bool) (m : NodeId) : Bool :=
  d.isElement m && (!ofType || d.localName m == d.localName e)

section Sides

variable (hd : d.Consistent) (hs : d.siblings e = before ++ e :: after)
include hd hs

/-- The place of an element comes after the siblings on one side that count. -/
theorem Consistent.position_eq (fromEnd ofType : Bool) : d.position e fromEnd ofType =
    1 + (if fromEnd then after else before).countP (d.counts e ofType) := by
  have hplace : ∀ side : List NodeId, d.place e ofType (side.filter d.isElement) =
      1 + side.countP (d.counts e ofType) := by
    intro side
    rw [place, List.filter_filter, List.countP_eq_length_filter]
    congr 3
    funext m
    exact Bool.and_comm _ _
  cases fromEnd with
  | false =>
    have hbefore : d.elementsBefore e = before.reverse.filter d.isElement :=
      hd.elementsBeside_eq hs false
    rw [position, if_neg Bool.false_ne_true, hbefore, hplace, List.countP_reverse,
      if_neg Bool.false_ne_true]
  | true =>
    have hafter : d.elementsAfter e = after.filter d.isElement := hd.elementsBeside_eq hs true
    rw [position, if_pos rfl, hafter, hplace, if_pos rfl]

end Sides

/-- Adds nodes at the end of the children of a node. -/
def addChildren (d : Dom) (n : NodeId) : List NodeContent → Dom
  | [] => d
  | content :: rest =>
    ((d.create content).1.append n (d.create content).2).addChildren n rest

theorem Reached.addChildren (h : d.Reached) {n : NodeId} (hn : (d.node? n).isSome)
    (contents : List NodeContent) : (d.addChildren n contents).Reached := by
  induction contents generalizing d with
  | nil => exact h
  | cons content rest ih =>
    refine ih (h.addChild hn content) ?_
    rw [append, node?_insertBefore_isSome, h.consistent.node?_create]
    split
    · rfl
    · exact hn

end Dom
end WebStyle
