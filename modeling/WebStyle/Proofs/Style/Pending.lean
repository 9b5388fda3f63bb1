import WebStyle.Proofs.Style.Computed
import WebStyle.Proofs.Style.Leading
/-!
Shorthands that wait for custom properties. One that is declared with references, and is expanded
when values are computed, gives its longhands the same values as one that is declared without them,
and is expanded when it is read.
-/
set_option autoImplicit false

namespace WebStyle

open DeclarationBlock

variable {lookup : String → Option String} {property : String}

namespace Declaration

variable {d d' e : Declaration} {ds ds' : List Declaration} {acc acc' : Option Declaration}

/-- Whether a declaration is what becomes of a shorthand that waits for custom properties, once they
are looked up: its value is valid and mentions none any more, nor do the values of its longhands. -/
def Resolves (lookup : String → Option String) (d d' : Declaration) : Prop :=
  ∃ s v pairs, Shorthand.ofName? d.name = some s ∧ mentionsVariable d.value = true ∧
    substitute? lookup d.value = some v ∧ mentionsVariable v = false ∧ s.expand? v = some pairs ∧
    (∀ p ∈ pairs, mentionsVariable (Text.lower p.2) = false) ∧ d' = { d with value := v }

/-- Whether two declarations that set a property are computed alike. -/
def Alike (lookup : String → Option String) (property : String) (d e : Declaration) : Prop :=
  e.important = d.important ∧ (d.valueFor property).Alike lookup property (e.valueFor property)

theorem Alike.refl (lookup : String → Option String) (property : String) (d : Declaration) :
    d.Alike lookup property d := ⟨rfl, .inl rfl⟩

/-- Declarations that are alike take each other's place. -/
theorem rel_prefer (hacc : Option.Rel (Alike lookup property) acc acc') (hd : d.Sets property)
    (he : e.Sets property) (h : d.Alike lookup property e) :
    Option.Rel (Alike lookup property) (prefer property acc d) (prefer property acc' e) := by
  rw [prefer_of_sets hd, prefer_of_sets he]
  cases hacc with
  | none => exact .some h
  | @some a a' ha =>
    rw [Option.filter_some, Option.filter_some, ha.1, h.1]
    split
    · exact .some ha
    · exact .some h

theorem rel_foldl_prefer (hacc : Option.Rel (Alike lookup property) acc acc') :
    Option.Rel (Alike lookup property) (ds.foldl (prefer property) acc)
      (ds.foldl (prefer property) acc') := by
  induction ds generalizing acc acc' with
  | nil => exact hacc
  | cons d ds ih =>
    by_cases hd : d.Sets property
    · exact ih (rel_prefer hacc hd hd (.refl _ _ _))
    · rw [List.foldl_cons, List.foldl_cons, prefer_of_not_sets hd, prefer_of_not_sets hd]
      exact ih hacc

theorem foldl_prefer_of_not_sets (h : ∀ d ∈ ds, ¬ d.Sets property) :
    ds.foldl (prefer property) acc = acc := by
  induction ds with
  | nil => rfl
  | cons d ds ih =>
    rw [List.foldl_cons, prefer_of_not_sets (h d List.mem_cons_self)]
    exact ih fun e he => h e (List.mem_cons_of_mem d he)

/-- Longhands set themselves only. -/
theorem sets_of_longhand {s : Shorthand} (hd : d.name ∈ s.longhands) :
    d.Sets property ↔ d.name = property := by
  simp [Sets, Shorthand.ofName?_of_mem_longhands hd]

theorem isCustomName_of_mem_longhands {s : Shorthand} {n : String} (h : n ∈ s.longhands) :
    isCustomName n = false := by
  have hall : ∀ n ∈ s.longhands, isCustomName n = false := by
    cases s <;> decide
  exact hall n h

/-- What a shorthand that waits gives a longhand in the end is what the value that it ends up with
gives it. -/
theorem alike_of_mem_pairs {s : Shorthand} {v w : String} {pairs : List (String × String)}
    (hs : Shorthand.ofName? d.name = some s) (hv : substitute? lookup d.value = some v)
    (hpairs : s.expand? v = some pairs) (hw : pairs.lookup property = some w)
    (hplain : mentionsVariable (Text.lower w) = false) (hmem : property ∈ s.longhands) :
    d.Alike lookup property ⟨property, w, d.important⟩ := by
  have hne : d.name ≠ property := by
    rintro rfl
    rw [Shorthand.ofName?_of_mem_longhands hmem] at hs
    cases hs
  refine ⟨rfl, .inr ⟨isCustomName_of_mem_longhands hmem, fun scope hscope => ?_⟩⟩
  simp [valueFor, hne, Scope.declaredText, hscope, hv, hs, hpairs, hw, hplain]

/-- A shorthand that waits is taken into account like the longhands that it ends up as. -/
theorem rel_foldl_expansion_of_resolves (hacc : Option.Rel (Alike lookup property) acc acc')
    (hlong : Shorthand.ofName? property = none) (h : d.Resolves lookup d') :
    Option.Rel (Alike lookup property)
      ((expansion d).foldl (prefer property) acc)
      ((expansion d').foldl (prefer property) acc') := by
  obtain ⟨s, v, pairs, hs, hwaits, hv, hready, hpairs, hplain, rfl⟩ := h
  have hd : expansion d = [d] := by
    simp [expansion, expandable?, hwaits]
  have hd' : expansion { d with value := v } =
      pairs.map fun p => ⟨p.1, p.2, d.important⟩ := by
    simp [expansion, expandable?, hready, hs, hpairs]
  have hkeys := Shorthand.keys_of_expand? hpairs
  have hsets : ∀ p ∈ pairs,
      (⟨p.1, p.2, d.important⟩ : Declaration).Sets property ↔ p.1 = property :=
    fun p hp => sets_of_longhand (s := s) (hkeys ▸ List.mem_map_of_mem hp)
  rw [hd, hd', List.foldl_cons, List.foldl_nil]
  by_cases hmem : property ∈ s.longhands
  · -- just one of the longhands is the property
    obtain ⟨⟨n, w⟩, hp, hn⟩ := List.mem_map.1 (hkeys ▸ hmem)
    obtain rfl : n = property := hn
    obtain ⟨l, r, rfl⟩ := List.append_of_mem hp
    have hnodup : ((l ++ (n, w) :: r).map Prod.fst).Nodup := hkeys ▸ s.nodup_longhands
    rw [List.map_append, List.map_cons, List.nodup_middle, List.nodup_cons,
      ← List.map_append] at hnodup
    have hothers : ∀ p ∈ l ++ r, ¬ (⟨p.1, p.2, d.important⟩ : Declaration).Sets n := by
      intro p hp' hset
      have hp'' : p ∈ l ++ (n, w) :: r := by
        rcases List.mem_append.1 hp' with h | h <;> simp [h]
      exact hnodup.1 (List.mem_map.2 ⟨p, hp', (hsets p hp'').1 hset⟩)
    have hlookup : (l ++ (n, w) :: r).lookup n = some w := by
      refine List.lookup_eq_some_iff.2 ⟨l, r, rfl, fun p hp' => ?_⟩
      rw [bne_iff_ne]
      exact fun hn => hnodup.1 (List.mem_map.2 ⟨p, List.mem_append_left r hp', hn.symm⟩)
    have hskip : ∀ ps ⊆ l ++ r, ∀ acc, (ps.map fun p =>
        (⟨p.1, p.2, d.important⟩ : Declaration)).foldl (prefer n) acc = acc := by
      intro ps hps acc
      refine foldl_prefer_of_not_sets fun e he => ?_
      obtain ⟨p, hp', rfl⟩ := List.mem_map.1 he
      exact hothers p (hps hp')
    rw [List.map_append, List.map_cons, List.foldl_append, List.foldl_cons,
      hskip l (List.subset_append_left l r), hskip r (List.subset_append_right l r)]
    refine rel_prefer hacc (.inr ⟨s, hs, hmem⟩) (.inl rfl) ?_
    exact alike_of_mem_pairs hs hv hpairs hlookup (hplain _ hp) hmem
  · rw [prefer_of_not_sets, foldl_prefer_of_not_sets]
    · exact hacc
    · intro e he
      obtain ⟨p, hp, rfl⟩ := List.mem_map.1 he
      rw [hsets p hp]
      rintro rfl
      exact hmem (hkeys ▸ List.mem_map_of_mem hp)
    · rintro (rfl | ⟨t, ht, hmem'⟩)
      · rw [hs] at hlong
        cases hlong
      · rw [hs] at ht
        exact hmem (Option.some.inj ht ▸ hmem')

/-- Where shorthands that wait are replaced by what becomes of them, what leads is computed
alike. -/
theorem rel_leading?_flatMap_expansion (hlong : Shorthand.ofName? property = none)
    (h : List.Forall₂ (fun d d' => d' = d ∨ d.Resolves lookup d') ds ds') :
    Option.Rel (Alike lookup property) (leading? property (ds.flatMap expansion))
      (leading? property (ds'.flatMap expansion)) := by
  have hfold : ∀ acc acc', Option.Rel (Alike lookup property) acc acc' →
      Option.Rel (Alike lookup property)
        ((ds.flatMap expansion).foldl (prefer property) acc)
        ((ds'.flatMap expansion).foldl (prefer property) acc') := by
    induction h with
    | nil => exact fun _ _ hacc => hacc
    | cons h _ ih =>
      intro acc acc' hacc
      rw [List.flatMap_cons, List.flatMap_cons, List.foldl_append, List.foldl_append]
      refine ih _ _ ?_
      rcases h with rfl | h
      · exact rel_foldl_prefer hacc
      · exact rel_foldl_expansion_of_resolves hacc hlong h
  exact hfold none none .none

end Declaration

/-- Whether a block is read from declarations of which some are what becomes, once custom properties
are looked up, of those that another block is read from. -/
def DeclarationBlock.Resolves (lookup : String → Option String) (b b' : DeclarationBlock) : Prop :=
  ∃ ds ds', b = ofDeclarations ds ∧ b' = ofDeclarations ds' ∧
    List.Forall₂ (fun d d' => d' = d ∨ d.Resolves lookup d') ds ds'

/-- Whether a rule is another one but for such a block. -/
def MatchedRule.Resolves (lookup : String → Option String) (r r' : MatchedRule) : Prop :=
  r.block.Resolves lookup r'.block ∧ r' = { r with block := r'.block }

section Cascade

open Cascade

variable {matched matched' : List MatchedRule} {inline inline' : Option DeclarationBlock}
  {b b' : DeclarationBlock}

theorem DeclarationBlock.Resolves.rel_leading? (h : b.Resolves lookup b')
    (hlong : Shorthand.ofName? property = none) :
    Option.Rel (Declaration.Alike lookup property) (Declaration.leading? property b.declarations)
      (Declaration.leading? property b'.declarations) := by
  obtain ⟨ds, ds', rfl, rfl, h⟩ := h
  rw [leading?_ofDeclarations, leading?_ofDeclarations]
  exact Declaration.rel_leading?_flatMap_expansion hlong h

theorem leads_sources (hlong : Shorthand.ofName? property = none)
    (hm : List.Forall₂ (MatchedRule.Resolves lookup) matched matched')
    (hi : Option.Rel (DeclarationBlock.Resolves lookup) inline inline') :
    List.Forall₂ (Source.Leads (Declaration.Alike lookup property) property)
      (sources matched inline) (sources matched' inline') := by
  refine List.rel_append ?_ ?_
  · rw [List.forall₂_map_left_iff, List.forall₂_map_right_iff]
    refine hm.imp fun r r' h => ⟨?_, h.1.rel_leading? hlong⟩
    rw [h.2]
    exact ⟨rfl, rfl, rfl, rfl⟩
  · cases hi with
    | none => exact .nil
    | some h => exact .cons ⟨⟨rfl, rfl, rfl, rfl⟩, h.rel_leading? hlong⟩ .nil

theorem alike_cascade (hm : matched.Pairwise fun r r' => r.order < r'.order)
    (hrules : List.Forall₂ (MatchedRule.Resolves lookup) matched matched')
    (hinline : Option.Rel (DeclarationBlock.Resolves lookup) inline inline') :
    (cascade matched inline).Alike lookup (cascade matched' inline') := by
  have horders : matched'.map (·.order) = matched.map (·.order) := by
    clear hm
    induction hrules with
    | nil => rfl
    | cons h _ ih => rw [List.map_cons, List.map_cons, ih, h.2]
  have hm' : matched'.Pairwise fun r r' => r.order < r'.order := by
    rw [← List.pairwise_map (R := (· < ·)), horders, List.pairwise_map]
    exact hm
  refine ⟨nodup_keys_cascade _ _, nodup_keys_cascade _ _, fun property => ?_⟩
  by_cases hlong : Shorthand.ofName? property = none
  · have hrel := rel_find?_cascade (fun d e h => h.1) hm hm' (leads_sources hlong hrules hinline)
    generalize (cascade matched inline).find? property = v at hrel
    generalize (cascade matched' inline').find? property = v' at hrel
    cases hrel with
    | none => exact .none
    | some h =>
      obtain ⟨d, d', h, rfl, rfl⟩ := h
      exact .some h.2
  · have hnone : ∀ {matched inline}, List.Pairwise (fun r r' => r.order < r'.order) matched →
        (cascade matched inline).find? property = none := by
      intro matched inline hm
      refine Option.eq_none_iff_forall_ne_some.2 fun v hv => hlong ?_
      exact ((find?_cascade_eq_some_iff hm v).1 hv).1
    rw [hnone hm, hnone hm']
    exact .none

end Cascade

/-- Where a shorthand that waits for custom properties is replaced by what becomes of it once they
are looked up, in whatever block and among whatever other declarations, every property is computed
as before. -/
theorem find?_compute_resolves {matched matched' : List MatchedRule}
    {inline inline' : Option DeclarationBlock} (ctx : ComputeContext)
    (hm : matched.Pairwise fun r r' => r.order < r'.order)
    (hrules : List.Forall₂ (MatchedRule.Resolves (customsOf (cascade matched inline) ctx).find?)
      matched matched')
    (hinline : Option.Rel
      (DeclarationBlock.Resolves (customsOf (cascade matched inline) ctx).find?) inline inline')
    (name : String) :
    (compute (cascade matched' inline') ctx).find? name =
      (compute (cascade matched inline) ctx).find? name :=
  find?_compute_of_alike (alike_cascade hm hrules hinline) name

/-! ### A margin and a border color -/

/-- An element on its own. -/
def rootContext : ComputeContext := ⟨.screen 800.0 600.0, none, 16.0, none⟩

/-- A rule with an important margin of one side. -/
def importantMargin : MatchedRule :=
  ⟨⟨0, 0⟩, ofDeclarations [⟨"margin-left", "2px", true⟩], ⟨0, 0, 1⟩, .author, 1⟩

/-- The same margin on two opposite sides, by a custom property or not. -/
def oppositeMargins (margin : String) : DeclarationBlock :=
  ofDeclarations [⟨"margin", margin, false⟩, ⟨"--m", "5px", false⟩]

theorem find?_compute_resolves_oppositeMargins :
    let waiting :=
      compute (cascade [importantMargin] (some (oppositeMargins "var(--m) 1px"))) rootContext
    let ready := compute (cascade [importantMargin] (some (oppositeMargins "5px 1px"))) rootContext
    ∀ name, ready.find? name = waiting.find? name := by
  intro waiting ready
  have hmargin : Declaration.Resolves
      (customsOf (cascade [importantMargin] (some (oppositeMargins "var(--m) 1px")))
        rootContext).find?
      ⟨"margin", "var(--m) 1px", false⟩ ⟨"margin", "5px 1px", false⟩ :=
    ⟨.margin, "5px 1px", [("margin-top", "5px"), ("margin-right", "1px"), ("margin-bottom", "5px"),
      ("margin-left", "1px")], by decide +kernel, by decide +kernel, by decide +kernel,
      by decide +kernel, by decide +kernel, by decide +kernel, rfl⟩
  exact find?_compute_resolves rootContext (List.pairwise_singleton _ _)
    (.cons ⟨⟨_, _, rfl, rfl, .cons (.inl rfl) .nil⟩, rfl⟩ .nil)
    (.some ⟨_, _, rfl, rfl, .cons (.inr hmargin) (.cons (.inl rfl) .nil)⟩)

/-- A border color that is red above and below. -/
def borderColor (value : String) : DeclarationBlock :=
  ofDeclarations [⟨"color", "lime", false⟩, ⟨"--c", "red", false⟩, ⟨"border-color", value, false⟩]

/-- Without the condition on the longhands it fails: tokens of the value that stand side by side are
printed as a comment that holds the text of a reference, and the value of a longhand that holds that
comment is printed once more, without it, by which two numbers become one. -/
theorem not_find?_compute_resolves :
    let waiting := "var(--c) rgb(1////**/**//**/**///**/**//**/*va///**/**//**/**/r(*/2 3)"
    let ready := "red rgb(1//**/*va/**/r(*/2 3)"
    let specified := cascade [] (some (borderColor waiting))
    mentionsVariable waiting = true ∧
      substitute? (customsOf specified rootContext).find? waiting = some ready ∧
      mentionsVariable ready = false ∧ (Shorthand.borderColor.expand? ready).isSome ∧
      (compute (cascade [] (some (borderColor ready))) rootContext).find? "border-right-color" ≠
        (compute specified rootContext).find? "border-right-color" :=
  ⟨by decide +kernel, by decide +kernel, by decide +kernel, by decide +kernel, by decide +kernel⟩

end WebStyle
