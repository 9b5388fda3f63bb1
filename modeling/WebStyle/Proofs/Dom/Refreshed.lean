import WebStyle.Style.Matching
import WebStyle.Proofs.Dom.Changes
/-!
An element keeps its id and its classes beside the attributes that they come from. Every change
refreshes them, so that selectors by id and by class match like those that read the attributes,
except that no selector reads an attribute for a word with a blank of Unicode in it.
-/
set_option autoImplicit false

namespace WebStyle

namespace Text

theorem ne_empty_of_mem_words {word text : String} (h : word ∈ words text) : word ≠ "" := by
  obtain ⟨cs, hcs, rfl⟩ := List.mem_map.1 h
  have hne := (List.mem_filter.1 hcs).2
  rintro hempty
  rw [String.ofList_eq_empty_iff.1 hempty] at hne
  exact Bool.noConfusion hne

end Text

namespace Element

variable {e : Element} {name value : String}

/-- Whether the id and the classes are those that the attributes give. -/
structure IsRefreshed (e : Element) : Prop where
  id : e.id? = e.attribute? "id"
  classes : e.classes = ((e.attribute? "class").map Text.words).getD []

/-- The attributes are all that a refresh reads, and it leaves them as they are. -/
theorem isRefreshed_refresh (e : Element) : e.refresh.IsRefreshed := ⟨rfl, rfl⟩

theorem isRefreshed_ofAttributes (tag : String) (attributes : List (String × String)) :
    (ofAttributes tag attributes).IsRefreshed :=
  isRefreshed_refresh _

theorem isRefreshed_setAttribute : (e.setAttribute name value).IsRefreshed := isRefreshed_refresh _

/-- Where no attribute is removed nothing is refreshed, and need not be. -/
theorem IsRefreshed.removeAttribute (h : e.IsRefreshed) : (e.removeAttribute name).IsRefreshed := by
  unfold Element.removeAttribute
  dsimp only
  split
  · exact h
  · exact isRefreshed_refresh _

theorem IsRefreshed.setInteraction (h : e.IsRefreshed) (interaction : Interaction) :
    { e with interaction }.IsRefreshed :=
  ⟨h.id, h.classes⟩

/-- The attribute and the id are compared with the same text. -/
theorem IsRefreshed.holds_id (h : e.IsRefreshed) (x : String) :
    (AttributeTest.compares "id" .equals x false).holds (e.attribute? "id") =
      (e.id? == some x) := by
  rw [h.id]
  cases e.attribute? "id" <;> rfl

/-- The words of the attribute are the classes, but a text with a blank in it is not looked for. -/
theorem IsRefreshed.holds_class (h : e.IsRefreshed) (x : String) :
    (AttributeTest.compares "class" .includes x false).holds (e.attribute? "class") =
      (e.classes.contains x && !x.toList.any Text.isBlank) := by
  rw [h.classes]
  cases e.attribute? "class" with
  | none => rfl
  | some actual =>
    change (!x.toList.isEmpty && !x.toList.any Text.isBlank && (Text.words actual).contains x) =
      ((Text.words actual).contains x && !x.toList.any Text.isBlank)
    cases hcontains : (Text.words actual).contains x with
    | false => rw [Bool.and_false, Bool.false_and]
    | true =>
      have hne := Text.ne_empty_of_mem_words (List.contains_iff_mem.1 hcontains)
      have hempty : x.toList.isEmpty = false := by simpa using hne
      simp only [hempty, Bool.not_false, Bool.true_and, Bool.and_true]

end Element

namespace Dom

variable {d : Dom} {n m p c : NodeId} {r : Option NodeId}

/-! ### Elements after a change -/

theorem element?_unlink : (d.unlink p n).element? m = d.element? m := by
  rw [element?, element?, node?_unlink]
  cases d.node? m <;> rfl

theorem element?_link : (d.link p c r).element? m = d.element? m := by
  rw [element?, element?, node?_link]
  cases d.node? m <;> rfl

theorem element?_detach : (d.detach n).element? m = d.element? m := by
  cases hp : d.parent? n with
  | none => rw [detach_of_root hp]
  | some p =>
    rw [detach_of_parent hp]
    exact element?_unlink

theorem element?_insertBefore : (d.insertBefore p c r).element? m = d.element? m := by
  by_cases h : d.CanInsert p c r
  · rw [insertBefore_of_canInsert h]
    exact element?_link.trans element?_detach
  · rw [insertBefore_of_not h]

/-- A node whose content is set has that element, and all others have theirs. -/
theorem eq_or_of_element?_setContent {e e' : Element}
    (h : (d.modify n fun node => { node with content := .element e }).touch.element? m = some e') :
    e' = e ∨ d.element? m = some e' := by
  rw [element?, node?_touch, node?_modify] at h
  split at h
  · obtain ⟨node, hnode, he⟩ := Option.bind_eq_some_iff.1 h
    obtain ⟨old, -, rfl⟩ := Option.map_eq_some_iff.1 hnode
    exact .inl (Option.some.inj he).symm
  · exact .inr h

/-! ### Changes that refresh -/

/-- Whether the elements of a tree have the ids and the classes that their attributes give. -/
def Refreshed (d : Dom) : Prop :=
  ∀ (n : NodeId) (e : Element), d.element? n = some e → e.IsRefreshed

namespace Refreshed

variable (h : d.Refreshed)
include h

theorem of_element?_eq {d' : Dom} (heq : ∀ n, d'.element? n = d.element? n) : d'.Refreshed :=
  fun n e he => h n e ((heq n).symm.trans he)

theorem setContent {e : Element} (he : e.IsRefreshed) :
    (d.modify n fun node => { node with content := .element e }).touch.Refreshed := by
  intro m e' he'
  rcases eq_or_of_element?_setContent he' with rfl | hold
  · exact he
  · exact h m e' hold

theorem modifyElement {f : Element → Element}
    (hf : ∀ e : Element, e.IsRefreshed → (f e).IsRefreshed) : (d.modifyElement n f).Refreshed := by
  simp only [Dom.modifyElement]
  split
  · exact h
  · rename_i e he
    split
    · exact h
    · exact h.setContent (hf e (h n e he))

theorem create (hd : d.Consistent) {content : NodeContent}
    (hcontent : ∀ e, content = .element e → e.IsRefreshed) : (d.create content).1.Refreshed := by
  intro m e he
  rw [element?, hd.node?_create] at he
  split at he
  · refine hcontent e ?_
    cases content with
    | element e' => exact congrArg NodeContent.element (Option.some.inj he)
    | _ => exact absurd he (Option.some_ne_none e).symm
  · exact h m e he

end Refreshed

/-- Whether a change creates elements from names and attributes only. -/
def Edit.IsPlain : Edit → Prop
  | .create (.element e) => ∃ tag attributes, e = .ofAttributes tag attributes
  | _ => True

/-- Every change refreshes what it has to. -/
theorem Refreshed.apply (h : d.Refreshed) (hd : d.Consistent) {e : Edit} (he : e.IsPlain) :
    (e.apply d).Refreshed := by
  cases e with
  | create content =>
    refine h.create hd ?_
    rintro element rfl
    obtain ⟨tag, attributes, rfl⟩ := he
    exact Element.isRefreshed_ofAttributes tag attributes
  | insertBefore p c r => exact h.of_element?_eq fun _ => element?_insertBefore
  | remove p c =>
    simp only [Edit.apply, remove]
    split
    · exact h.of_element?_eq fun _ => element?_detach
    · exact h
  | detach n => exact h.of_element?_eq fun _ => element?_detach
  | setAttribute n name value =>
    simp only [Edit.apply, setAttribute]
    split
    · exact h
    · exact h.setContent Element.isRefreshed_setAttribute
  | removeAttribute n name => exact h.modifyElement fun _ hr => hr.removeAttribute
  | modifyInteraction n f => exact h.modifyElement fun _ hr => hr.setInteraction _
  | setFocus n =>
    simp only [Edit.apply, setFocus]
    split <;> exact h
  | setTarget fragment =>
    simp only [Edit.apply, setTarget]
    split <;> exact h

/-- Trees that are made by any changes, of elements that are created from names and attributes. -/
inductive Made : Dom → Prop where
  | empty : Made .empty
  | apply {d : Dom} {e : Edit} (h : Made d) (he : e.IsPlain) : Made (e.apply d)

namespace Made

theorem consistent (h : d.Made) : d.Consistent := by
  induction h with
  | empty => exact consistent_empty
  | apply _ _ ih => exact ih.apply _

theorem refreshed (h : d.Made) : d.Refreshed := by
  induction h with
  | empty =>
    intro n e he
    rw [element?, node?_empty] at he
    split at he <;> exact absurd he (Option.some_ne_none e).symm
  | apply h he ih => exact ih.apply h.consistent he

/-- A selector by id matches like one by the attribute. One by class does, too, if there is no blank
in the class: a selector by the attribute never looks for a word with a blank of Unicode in it,
though such a blank does not divide classes. -/
theorem matchesCondition_attribute (h : d.Made) (n : NodeId) (x : String) :
    d.matchesCondition n (.attribute (.compares "id" .equals x false)) =
        d.matchesCondition n (.id x) ∧
      d.matchesCondition n (.attribute (.compares "class" .includes x false)) =
        (d.matchesCondition n (.hasClass x) && !x.toList.any Text.isBlank) := by
  simp only [matchesCondition, AttributeTest.name, Dom.attribute?, Dom.id?, Dom.hasClass]
  cases he : d.element? n with
  | none => exact ⟨rfl, rfl⟩
  | some e =>
    have hrefreshed := h.refreshed n e he
    exact ⟨hrefreshed.holds_id x, hrefreshed.holds_class x⟩

end Made

/-- A paragraph of two classes, of which the attribute was set after another one was removed. -/
def classified : Dom :=
  [Edit.create (.element (.ofAttributes "p" [("CLASS", "c"), ("id", "i")])),
    .removeAttribute ⟨1, 0⟩ "Class", .setAttribute ⟨1, 0⟩ "class" "a b",
    .insertBefore ⟨0, 0⟩ ⟨1, 0⟩ none].foldl Edit.apply empty

theorem made_classified : classified.Made := by
  have hplain : (Edit.create
      (.element (.ofAttributes "p" [("CLASS", "c"), ("id", "i")]))).IsPlain :=
    ⟨"p", [("CLASS", "c"), ("id", "i")], rfl⟩
  have hremoved := (Made.empty.apply hplain).apply (e := .removeAttribute ⟨1, 0⟩ "Class") trivial
  have hset := hremoved.apply (e := .setAttribute ⟨1, 0⟩ "class" "a b") trivial
  exact hset.apply (e := .insertBefore ⟨0, 0⟩ ⟨1, 0⟩ none) trivial

theorem matchesCondition_attribute_classified :
    classified.Made ∧ classified.matchesCondition ⟨1, 0⟩ (.hasClass "b") = true ∧
      classified.matchesCondition ⟨1, 0⟩ (.attribute (.compares "class" .includes "b" false)) =
        (classified.matchesCondition ⟨1, 0⟩ (.hasClass "b") && !"b".toList.any Text.isBlank) :=
  ⟨made_classified, by decide, (made_classified.matchesCondition_attribute ⟨1, 0⟩ "b").2⟩

/-- A class may hold a no-break space, which is no ASCII blank, and a selector by the attribute does
not find it. -/
theorem not_matchesCondition_attribute :
    ¬ ∀ d : Dom, d.Made → ∀ n, d.isElement n → ∀ x : String, x ≠ "" →
      (∀ c ∈ x.toList, ¬ Text.isAsciiBlank c) →
        d.matchesCondition n (.hasClass x) =
          d.matchesCondition n (.attribute (.compares "class" .includes x false)) := by
  intro h
  let spaced := Edit.create (.element (.ofAttributes "p" [("class", "a\u00a0b")]))
  have hmade : (spaced.apply .empty).Made :=
    Made.empty.apply ⟨"p", [("class", "a\u00a0b")], rfl⟩
  have hblanks : "a\u00a0b".toList.all (!Text.isAsciiBlank ·) = true := by decide
  have heq := h _ hmade ⟨1, 0⟩ (by decide) "a\u00a0b" (by decide)
    (by simpa using List.all_eq_true.1 hblanks)
  have hclass : (spaced.apply .empty).matchesCondition ⟨1, 0⟩ (.hasClass "a\u00a0b") = true := by
    decide
  have hattribute : (spaced.apply .empty).matchesCondition ⟨1, 0⟩
      (.attribute (.compares "class" .includes "a\u00a0b" false)) = false := by decide
  rw [hclass, hattribute] at heq
  exact Bool.noConfusion heq

end Dom
end WebStyle
