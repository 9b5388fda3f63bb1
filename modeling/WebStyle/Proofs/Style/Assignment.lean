import WebStyle.Proofs.Style.Leading
/-!
What setting and removing properties of a block does in the cascade. A declaration is set where the
property had one, and only what has one of the names is removed: a declaration of another name that
sets the property too may count for more.
-/
set_option autoImplicit false

namespace WebStyle

namespace Declaration

variable {d e : Declaration} {i j : Nat}

theorem Beats.total (h : i ≠ j) (d e : Declaration) : d.Beats i e j ∨ e.Beats j d i := by
  unfold Beats
  cases d.important <;> cases e.important <;> simp <;> omega

theorem Beats.irrefl : ¬ d.Beats i d i := fun h => h.asymm h

end Declaration

namespace DeclarationBlock

open Declaration

/-- Blocks that come about by reading declarations and by setting and removing properties. -/
inductive Edited : DeclarationBlock → Prop
  | read (ds : List Declaration) : Edited (ofDeclarations ds)
  | set {b : DeclarationBlock} (h : Edited b) (name value word : String) :
    Edited (b.set name value word).1
  | remove {b : DeclarationBlock} (h : Edited b) (name : String) : Edited (b.remove name)

variable {b : DeclarationBlock} {d e : Declaration} {ds : List Declaration}
  {n property value v : String} {ns : List String} {important : Bool}

/-! ### Removing -/

theorem mem_erase : d ∈ (b.erase ns).declarations ↔ d ∈ b.declarations ∧ d.name ∉ ns := by
  simp [erase]

theorem erase_nil (b : DeclarationBlock) : b.erase [] = b := by
  simp [erase]

theorem erase_erase {ms : List String} (h : ms ⊆ ns) : (b.erase ms).erase ns = b.erase ns := by
  simp only [erase, List.filter_filter]
  congr 1
  refine List.filter_congr fun d _ => ?_
  by_cases hd : d.name ∈ ns
  · simp [hd]
  · have hms : d.name ∉ ms := fun hm => hd (h hm)
    simp [hd, hms]

theorem Flat.erase (hb : b.Flat) (ns : List String) : (b.erase ns).Flat :=
  ⟨hb.nodup.sublist (List.filter_sublist.map _), fun d hd => hb.settled d (mem_erase.1 hd).1⟩

theorem mem_covered_iff : property ∈ covered n ↔
    n = property ∨ ∃ s, Shorthand.ofName? n = some s ∧ property ∈ s.longhands := by
  cases hn : Shorthand.ofName? n <;> simp [covered, hn, eq_comm]

theorem sets_iff : d.Sets property ↔ property ∈ covered d.name := mem_covered_iff.symm

/-- What a name covers covers nothing else. -/
theorem covered_subset {m : String} (h : m ∈ covered n) : covered m ⊆ covered n := by
  rcases mem_covered_iff.1 h with rfl | ⟨s, hs, hm⟩
  · exact List.Subset.refl _
  · simpa [covered, Shorthand.ofName?_of_mem_longhands hm] using h

/-- Declarations of the properties that a name covers make no difference to others. -/
theorem leading?_erase_covered (h : property ∉ covered n) :
    leading? property (b.erase (covered n)).declarations = leading? property b.declarations := by
  refine leading?_filter fun d _ hd => ?_
  have hmem : d.name ∉ covered n := fun hmem => h (covered_subset hmem (sets_iff.1 hd))
  simpa using hmem

/-! ### Setting in place -/

theorem put_of_isSome (h : (b.find? d.name).isSome) :
    b.put d = ⟨b.declarations.map fun old => if old.name == d.name then d else old⟩ :=
  if_pos h

theorem put_of_notMem (h : d.name ∉ names b.declarations) : b.put d = ⟨b.declarations ++ [d]⟩ :=
  if_neg (by simp [find?_eq_none.2 h])

theorem names_put (b : DeclarationBlock) (d : Declaration) : names (b.put d).declarations =
    if d.name ∈ names b.declarations then names b.declarations
    else names b.declarations ++ [d.name] := by
  split
  · rename_i h
    rw [put_of_isSome (Option.isSome_iff_ne_none.2 fun hnone => find?_eq_none.1 hnone h), names,
      List.map_map]
    refine List.map_congr_left fun old _ => ?_
    by_cases hold : old.name = d.name <;> simp [hold]
  · rename_i h
    simp [put_of_notMem h]

theorem mem_put : e ∈ (b.put d).declarations ↔ e = d ∨ e ∈ b.declarations ∧ e.name ≠ d.name := by
  by_cases h : d.name ∈ names b.declarations
  · rw [put_of_isSome (Option.isSome_iff_ne_none.2 fun hnone => find?_eq_none.1 hnone h),
      List.mem_map]
    constructor
    · rintro ⟨old, hold, rfl⟩
      by_cases hname : old.name = d.name <;> simp [hname, hold]
    · rintro (rfl | ⟨he, hname⟩)
      · obtain ⟨old, hold, hname⟩ := List.mem_map.1 h
        exact ⟨old, hold, by simp [hname]⟩
      · exact ⟨e, he, by simp [hname]⟩
  · have hne : e ∈ b.declarations → e.name ≠ d.name := fun he heq =>
      h (heq ▸ List.mem_map_of_mem he)
    rw [put_of_notMem h, List.mem_append, List.mem_singleton]
    tauto

theorem Flat.put (hb : b.Flat) (hd : expandable? d.name d.value = none) : (b.put d).Flat := by
  refine ⟨?_, fun e he => ?_⟩
  · rw [names_put]
    split
    · exact hb.nodup
    · rename_i h
      refine List.nodup_append.2 ⟨hb.nodup, List.nodup_singleton _, fun n hn m hm heq => ?_⟩
      obtain rfl := List.mem_singleton.1 hm
      exact h (heq ▸ hn)
  · rcases mem_put.1 he with rfl | ⟨he, -⟩
    · exact hd
    · exact hb.settled e he

theorem erase_put (h : d.name ∈ ns) : (b.put d).erase ns = b.erase ns := by
  by_cases hd : d.name ∈ names b.declarations
  · rw [put_of_isSome (Option.isSome_iff_ne_none.2 fun hnone => find?_eq_none.1 hnone hd)]
    obtain ⟨l⟩ := b
    simp only [DeclarationBlock.erase]
    congr 1
    clear hd
    induction l with
    | nil => rfl
    | cons old l ih =>
      by_cases hold : old.name = d.name
      · simpa [hold, h] using ih
      · by_cases hmem : old.name ∈ ns <;> simpa [hold, hmem] using ih
  · simp [put_of_notMem hd, DeclarationBlock.erase, h]

theorem erase_foldl_put (h : names ds ⊆ ns) : (ds.foldl put b).erase ns = b.erase ns := by
  induction ds generalizing b with
  | nil => rfl
  | cons d ds ih =>
    obtain ⟨hd, hds⟩ := List.cons_subset.1 h
    rw [List.foldl_cons, ih hds, erase_put hd]

theorem Flat.foldl_put (hb : b.Flat) (h : ∀ d ∈ ds, expandable? d.name d.value = none) :
    (ds.foldl DeclarationBlock.put b).Flat := by
  induction ds generalizing b with
  | nil => exact hb
  | cons d ds ih =>
    exact ih (hb.put (h d List.mem_cons_self)) fun e he => h e (List.mem_cons_of_mem d he)

theorem mem_foldl_put (hds : (names ds).Nodup) : e ∈ (ds.foldl put b).declarations ↔
    e ∈ ds ∨ e ∈ b.declarations ∧ e.name ∉ names ds := by
  induction ds generalizing b with
  | nil => simp
  | cons d ds ih =>
    obtain ⟨hd, hds⟩ := List.nodup_cons.1 hds
    have hne : e = d → e.name ∉ names ds := fun h => h ▸ hd
    have hnames : e.name ∈ names (d :: ds) ↔ e.name = d.name ∨ e.name ∈ names ds := List.mem_cons
    rw [List.foldl_cons, ih hds, mem_put, List.mem_cons, hnames]
    tauto

/-! ### What is set -/

/-- Whether a value is valid for what the name stands for. -/
def Accepts (n v : String) : Prop := ∀ s, expandable? n v = some s → (s.expand? v).isSome

instance (n v : String) : Decidable (Accepts n v) :=
  decidable_of_iff ((expandable? n v).all fun s => (s.expand? v).isSome) (by
    cases h : expandable? n v <;> simp [Accepts, h])

/-- A value that is valid is set for a property, or for the longhands of a shorthand. -/
theorem names_expansion (important : Bool) (h : Accepts n v) :
    names (expansion ⟨n, v, important⟩) = [n] ∨
      ∃ s, Shorthand.ofName? n = some s ∧ names (expansion ⟨n, v, important⟩) = s.longhands := by
  unfold expansion
  cases hs : expandable? n v with
  | none => exact .inl rfl
  | some s =>
    obtain ⟨pairs, hpairs⟩ := Option.isSome_iff_exists.1 (h s hs)
    refine .inr ⟨s, ?_, ?_⟩
    · unfold expandable? at hs
      split at hs
      · cases hs
      · exact hs
    · rw [← Shorthand.keys_of_expand? hpairs]
      simp [hpairs, names, Function.comp_def]

theorem nodup_names_expansion (important : Bool) (h : Accepts n v) :
    (names (expansion ⟨n, v, important⟩)).Nodup := by
  rcases names_expansion important h with hn | ⟨s, -, hn⟩ <;> rw [hn]
  · exact List.nodup_singleton n
  · exact s.nodup_longhands

theorem names_expansion_subset (important : Bool) (h : Accepts n v) :
    names (expansion ⟨n, v, important⟩) ⊆ covered n := by
  rcases names_expansion important h with hn | ⟨s, hs, hn⟩ <;> rw [hn]
  · simp [covered]
  · simp [covered, hs]

/-- Just one of the declarations sets a longhand that the name covers. -/
theorem existsUnique_sets_of_covered (important : Bool) (h : Accepts n v)
    (hlong : Shorthand.ofName? property = none) (hmem : property ∈ covered n) :
    ∃! e, e ∈ expansion ⟨n, v, important⟩ ∧ e.Sets property := by
  have hnodup := nodup_names_expansion important h
  obtain ⟨m, hm, hiff⟩ : ∃ m ∈ names (expansion ⟨n, v, important⟩),
      ∀ k ∈ names (expansion ⟨n, v, important⟩), property ∈ covered k ↔ k = m := by
    rcases names_expansion important h with hn | ⟨s, hs, hn⟩ <;> rw [hn]
    · refine ⟨n, List.mem_singleton_self n, fun k hk => ?_⟩
      obtain rfl := List.mem_singleton.1 hk
      exact iff_of_true hmem rfl
    · have hprop : property ∈ s.longhands := by
        rcases mem_covered_iff.1 hmem with rfl | ⟨t, ht, hprop⟩
        · rw [hs] at hlong
          cases hlong
        · rw [hs] at ht
          exact Option.some.inj ht ▸ hprop
      refine ⟨property, hprop, fun k hk => ?_⟩
      simp [covered, Shorthand.ofName?_of_mem_longhands hk, eq_comm]
  obtain ⟨e, he, rfl⟩ := List.mem_map.1 hm
  refine ⟨e, ⟨he, sets_iff.2 ((hiff _ hm).2 rfl)⟩, ?_⟩
  rintro e' ⟨he', hsets⟩
  exact List.inj_on_of_nodup_map hnodup he' he
    ((hiff _ (List.mem_map_of_mem he')).1 (sets_iff.1 hsets))

theorem ofDeclarations_singleton (h : Accepts n v) :
    ofDeclarations [⟨n, v, important⟩] = ⟨expansion ⟨n, v, important⟩⟩ := by
  rw [ofDeclarations, List.flatMap_singleton, foldl_add_of_nodup]
  · rfl
  · exact nodup_names_expansion important h

/-- What is set takes the places that the properties have. -/
theorem assign_eq_foldl_put (b : DeclarationBlock) (important : Bool)
    (hv : valueText? value = some v) (h : Accepts n v) :
    ∃ ms ⊆ covered n, b.assign n value important =
      (expansion ⟨n, v, important⟩).foldl put (b.erase ms) := by
  rw [assign, hv]
  cases hs : expandable? n v with
  | none => exact ⟨[], List.nil_subset _, by simp [expansion, hs, erase_nil]⟩
  | some s =>
    obtain ⟨pairs, hpairs⟩ := Option.isSome_iff_exists.1 (h s hs)
    refine ⟨[n], by simp [covered], ?_⟩
    simp [expansion, hs, hpairs, List.foldl_map]

/-- A value that is not valid removes what the name covers. -/
theorem assign_of_not_accepts (h : ¬ ∃ v, valueText? value = some v ∧ Accepts n v) :
    b.assign n value important = b.erase (covered n) := by
  unfold assign
  split
  · rfl
  · rename_i v hv
    obtain ⟨s, hs, hnone⟩ : ∃ s, expandable? n v = some s ∧ s.expand? v = none := by
      by_contra hnot
      refine h ⟨v, hv, fun s hs => Option.isSome_iff_ne_none.2 fun hnone => ?_⟩
      exact hnot ⟨s, hs, hnone⟩
    rw [hs]
    simp only [hnone]

/-- Whatever is set or removed, nothing else is. -/
theorem erase_assign (b : DeclarationBlock) (n value : String) (important : Bool) :
    (b.assign n value important).erase (covered n) = b.erase (covered n) := by
  by_cases haccepted : ∃ v, valueText? value = some v ∧ Accepts n v
  · obtain ⟨v, hv, h⟩ := haccepted
    obtain ⟨ms, hms, heq⟩ := assign_eq_foldl_put b important hv h
    rw [heq, erase_foldl_put (names_expansion_subset important h), erase_erase hms]
  · rw [assign_of_not_accepts haccepted, erase_erase (List.Subset.refl _)]

theorem Flat.assign (hb : b.Flat) (n value : String) (important : Bool) :
    (b.assign n value important).Flat := by
  by_cases haccepted : ∃ v, valueText? value = some v ∧ Accepts n v
  · obtain ⟨v, hv, h⟩ := haccepted
    obtain ⟨ms, -, heq⟩ := assign_eq_foldl_put b important hv h
    rw [heq]
    exact (hb.erase ms).foldl_put fun d hd => settled_of_mem_expansion hd
  · rw [assign_of_not_accepts haccepted]
    exact hb.erase _

theorem set_of_priority {name word : String} (h : priority? word = some important) :
    (b.set name value word).1 = b.assign (propertyName name) value important := by
  rw [set, h]

theorem set_of_no_priority {name word : String} (h : priority? word = none) :
    (b.set name value word).1 = b := by
  rw [set, h]

theorem Edited.flat (h : b.Edited) : b.Flat := by
  induction h with
  | read ds => exact flat_ofDeclarations ds
  | set h name value word ih =>
    cases hpriority : priority? word with
    | none => exact set_of_no_priority hpriority ▸ ih
    | some important => exact set_of_priority hpriority ▸ ih.assign _ _ _
  | remove h name ih => exact ih.erase _

/-! ### What takes effect -/

/-- Whether another declaration of a block that sets the property counts more than a declaration. -/
def Overruled (b : DeclarationBlock) (property : String) (e : Declaration) : Prop :=
  ∃ i j, ∃ d : Declaration, b.declarations[i]? = some e ∧ b.declarations[j]? = some d ∧
    d.Sets property ∧ d.Beats j e i

theorem leading?_eq_some_iff_not_overruled (hb : b.Flat) (he : e ∈ b.declarations)
    (hs : e.Sets property) :
    leading? property b.declarations = some e ↔ ¬ b.Overruled property e := by
  have hinj : ∀ {i j}, b.declarations[i]? = some e → b.declarations[j]? = some e → i = j :=
    fun hi hj => (List.getElem?_inj (List.getElem?_eq_some_iff.1 hi).1 hb.nodup.of_map).1
      (hi.trans hj.symm)
  rw [leading?_eq_some_iff]
  constructor
  · rintro ⟨i, hi, -, hbeats⟩ ⟨i', j, d, hi', hj, hd, hbeats'⟩
    obtain rfl := hinj hi hi'
    by_cases hji : j = i
    · subst hji
      obtain rfl := Option.some.inj (hi.symm.trans hj)
      exact hbeats'.irrefl
    · exact (hbeats j d hj hd hji).asymm hbeats'
  · intro hnot
    obtain ⟨i, hi⟩ := List.getElem?_of_mem he
    refine ⟨i, hi, hs, fun j d hj hd hji => ?_⟩
    exact (Beats.total hji d e).resolve_left fun h => hnot ⟨i, j, d, hi, hj, hd, h⟩

/-- A declaration among others settles what it settles alone just if none of them overrules it. -/
theorem find?_cascade_eq_iff_not_overruled (hb : b.Flat) (hlong : Shorthand.ofName? property = none)
    (he : e ∈ b.declarations) (hs : e.Sets property) :
    (cascade [] (some b)).find? property = some (e.valueFor property) ↔
      ¬ b.Overruled property e := by
  rw [find?_cascade_inline, if_pos hlong, ← leading?_eq_some_iff_not_overruled hb he hs,
    Option.map_eq_some_iff]
  constructor
  · rintro ⟨l, hl, hvalue⟩
    obtain ⟨i, hi, -⟩ := beats_of_leading? hl
    rw [hl, List.inj_on_of_nodup_map hb.nodup (List.mem_of_getElem? hi) he
      (name_eq_of_valueFor_eq hvalue)]
  · exact fun hl => ⟨e, hl, rfl⟩

theorem find?_cascade_erase_covered (h : property ∉ covered n) :
    (cascade [] (some (b.erase (covered n)))).find? property =
      (cascade [] (some b)).find? property := by
  rw [find?_cascade_inline, find?_cascade_inline, leading?_erase_covered h]

/-- What is set settles what it covers as it does in a block of its own, wherever no declaration of
another name overrules it. -/
theorem find?_cascade_assign (hb : b.Flat) (hv : valueText? value = some v) (h : Accepts n v)
    (hmem : property ∈ covered n) :
    (cascade [] (some (b.assign n value important))).find? property =
      (cascade [] (some (ofDeclarations [⟨n, v, important⟩]))).find? property ↔
    (Shorthand.ofName? property = none →
      ∀ e ∈ (ofDeclarations [⟨n, v, important⟩]).declarations, e.Sets property →
        ¬ (b.assign n value important).Overruled property e) := by
  by_cases hlong : Shorthand.ofName? property = none
  · obtain ⟨e, ⟨he, hs⟩, hunique⟩ :=
      existsUnique_sets_of_covered important h hlong hmem
    have hafter : e ∈ (b.assign n value important).declarations := by
      obtain ⟨ms, -, heq⟩ := assign_eq_foldl_put b important hv h
      rw [heq, mem_foldl_put (nodup_names_expansion important h)]
      exact .inl he
    have halone : (cascade [] (some (ofDeclarations [⟨n, v, important⟩]))).find? property =
        some (e.valueFor property) := by
      rw [find?_cascade_eq_iff_not_overruled (flat_ofDeclarations _) hlong
        (ofDeclarations_singleton h ▸ he) hs]
      rintro ⟨i, j, d, hi, hj, hd, hbeats⟩
      rw [ofDeclarations_singleton h] at hi hj
      obtain rfl := hunique d ⟨List.mem_of_getElem? hj, hd⟩
      have hnodup := (nodup_names_expansion important h).of_map
      have hlt := (List.getElem?_eq_some_iff.1 hi).1
      obtain rfl := (List.getElem?_inj hlt hnodup).1 (hi.trans hj.symm)
      exact hbeats.irrefl
    rw [halone, find?_cascade_eq_iff_not_overruled (hb.assign _ _ _) hlong hafter hs,
      ofDeclarations_singleton h]
    constructor
    · intro hnot _ e' he' hs'
      exact hunique e' ⟨he', hs'⟩ ▸ hnot
    · exact fun hall => hall hlong e he hs
  · rw [find?_cascade_inline, find?_cascade_inline, if_neg hlong, if_neg hlong]
    simp [hlong]

/-- What is removed is no longer settled, wherever no declaration of another name sets it. -/
theorem find?_cascade_remove (name : String) :
    (cascade [] (some (b.remove name))).find? property = none ↔
      (Shorthand.ofName? property = none →
        ∀ d ∈ b.declarations, d.Sets property → d.name ∈ covered (propertyName name)) := by
  rw [find?_cascade_inline]
  by_cases hlong : Shorthand.ofName? property = none
  · rw [if_pos hlong, Option.map_eq_none_iff, leading?_eq_none]
    simp only [remove, mem_erase, hlong, forall_const]
    exact forall_congr' fun d => by tauto
  · simp [hlong]

end DeclarationBlock

open DeclarationBlock

/-- Setting a property to a value that is accepted settles the property, or all longhands of a
shorthand, as the new declaration alone does, except where a declaration of another name overrules
it: as what is set stays where the property stood, a shorthand that waits for a custom property may
come later or alone be important, or the longhand if it is such a shorthand that is set. Removing a
property leaves it settled only where such a shorthand sets it. All else is settled as before. -/
theorem find?_cascade_edited {b : DeclarationBlock} (hb : b.Edited) (name : String) :
    (∀ value word important v, priority? word = some important → valueText? value = some v →
      Accepts (propertyName name) v →
        let after := (b.set name value word).1
        let alone := ofDeclarations [⟨propertyName name, v, important⟩]
        (∀ property ∈ covered (propertyName name),
          (cascade [] (some after)).find? property = (cascade [] (some alone)).find? property ↔
            (Shorthand.ofName? property = none → ∀ e ∈ alone.declarations, e.Sets property →
              ¬ after.Overruled property e)) ∧
        ∀ property ∉ covered (propertyName name),
          (cascade [] (some after)).find? property = (cascade [] (some b)).find? property) ∧
    (∀ property ∈ covered (propertyName name),
      (cascade [] (some (b.remove name))).find? property = none ↔
        (Shorthand.ofName? property = none →
          ∀ d ∈ b.declarations, d.Sets property → d.name ∈ covered (propertyName name))) ∧
    ∀ property ∉ covered (propertyName name),
      (cascade [] (some (b.remove name))).find? property =
        (cascade [] (some b)).find? property := by
  refine ⟨?_, fun property _ => find?_cascade_remove name,
    fun property hmem => find?_cascade_erase_covered hmem⟩
  intro value word important v hpriority hv h after alone
  have hafter : after = b.assign (propertyName name) value important := set_of_priority hpriority
  refine ⟨fun property hmem => ?_, fun property hmem => ?_⟩
  · rw [hafter]
    exact find?_cascade_assign hb.flat hv h hmem
  · rw [hafter, ← find?_cascade_erase_covered hmem, erase_assign, find?_cascade_erase_covered hmem]

/-- The margin of one side, and after it a margin that waits for a custom property. -/
def waitingMargin : DeclarationBlock := ofDeclarations
  [⟨"color", "red", true⟩, ⟨"margin-top", "1px", false⟩, ⟨"margin", "var(--x)", false⟩]

theorem find?_cascade_edited_waitingMargin :
    let after := (waitingMargin.set "margin" "5px" "").1
    (∀ e ∈ (ofDeclarations [⟨"margin", "5px", false⟩]).declarations, e.Sets "margin-top" →
      ¬ after.Overruled "margin-top" e) ∧
    (cascade [] (some after)).find? "color" = some (.declared "red") := by
  intro after
  have hedited : waitingMargin.Edited := .read _
  have hset := (find?_cascade_edited hedited "margin").1 "5px" "" false "5px"
    (by decide +kernel) (by decide +kernel) (by decide +kernel)
  refine ⟨(hset.1 "margin-top" (by decide +kernel)).1 (by decide +kernel) (by decide +kernel), ?_⟩
  exact (hset.2 "color" (by decide +kernel)).trans (by decide +kernel)

/-- The margin that waits for a custom property comes after the margin of its side that is set, and
sets it where that is removed. -/
theorem not_find?_cascade_edited :
    waitingMargin.Edited ∧ priority? "" = some false ∧ valueText? "5px" = some "5px" ∧
      Accepts "margin-top" "5px" ∧
      (cascade [] (some (waitingMargin.set "margin-top" "5px" "").1)).find? "margin-top" ≠
        (cascade [] (some (ofDeclarations [⟨"margin-top", "5px", false⟩]))).find? "margin-top" ∧
      (cascade [] (some (waitingMargin.remove "margin-top"))).find? "margin-top" ≠ none :=
  ⟨.read _, by decide +kernel, by decide +kernel, by decide +kernel, by decide +kernel,
    by decide +kernel⟩

end WebStyle
