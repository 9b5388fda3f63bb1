import WebStyle.Proofs.Block
import WebStyle.Proofs.Value.Component
/-!
Shorthands that are expanded and put together again. The value that is put together from the values
of the longhands gives them the same values, as long as the parts of the first value are read back
from their canonical texts.
-/
set_option autoImplicit false

namespace WebStyle

open Lexer

namespace Shorthand

variable {s : Shorthand} {aspect : Aspect} {value : String} {parts values : List String}
  {pairs : List (String × String)}

/-! ### The values that longhands get -/

/-- The initial values of the longhands of borders. -/
def initials : List (Aspect × String) :=
  [(.width, initialWidth), (.style, initialStyle), (.color, initialColor)]

/-- The values that an aspect gets from the parts of a value: a part as longhands have it, or the
initial value. -/
def Aspect.Gives (aspect : Aspect) (parts : List String) (value : String) : Prop :=
  (∃ part ∈ parts, aspect.takes part ∧ value = aspect.spell part) ∨ (aspect, value) ∈ initials

/-- What is known of values that are read back. -/
structure Aspect.Settles (aspect : Aspect) (value : String) : Prop where
  stable : tokensText (tokenize value) = value
  takes : aspect.takes value
  spelled : aspect.spell value = value

theorem Aspect.takes_congr {value' : String}
    (h : Component.ofString value' = Component.ofString value) (aspect : Aspect) :
    aspect.takes value' = aspect.takes value := by
  simp only [takes, h]

theorem settles_initial : ∀ p ∈ initials, p.1.Settles p.2 := by
  have hkeyword : ∀ p ∈ initials, p.2 ∈ p.1.keywords := by decide
  intro p hp
  obtain ⟨hstable, htakes, hlower⟩ := Aspect.takes_of_mem_keywords (hkeyword p hp)
  refine ⟨hstable, htakes, ?_⟩
  cases p.1 with
  | width | style => exact hlower
  | _ => rfl

theorem Aspect.Gives.settles (h : aspect.Gives parts value)
    (hstable : ∀ part ∈ parts, tokensText (tokenize part) = part) : aspect.Settles value := by
  rcases h with ⟨part, hpart, htakes, rfl⟩ | hinitial
  · have hpart := hstable part hpart
    have hlower : aspect = .width ∨ aspect = .style → aspect.Settles (Text.lower part) := by
      intro haspect
      obtain ⟨hstable, hof⟩ := ofString_lower haspect htakes hpart
      refine ⟨hstable, (takes_congr hof aspect).trans htakes, ?_⟩
      rcases haspect with rfl | rfl <;> exact Text.lower_lower part
    cases aspect with
    | width => exact hlower (.inl rfl)
    | style => exact hlower (.inr rfl)
    | _ => exact ⟨hpart, htakes, rfl⟩
  · exact settles_initial _ hinitial

theorem Aspect.Gives.not_isWideKeyword (h : aspect.Gives parts value) :
    isWideKeyword value = false := by
  rcases h with ⟨part, -, htakes, rfl⟩ | hinitial
  · have hpart := Aspect.not_isWideKeyword htakes
    have hlower : isWideKeyword (Text.lower part) = false := by
      rwa [isWideKeyword, Text.lower_lower]
    cases aspect with
    | width | style => exact hlower
    | _ => exact hpart
  · exact Aspect.not_isWideKeyword (settles_initial _ hinitial).takes

/-! ### Parts of borders -/

/-- The aspects of a border. -/
def borderAspects : List Aspect := [.width, .style, .color]

/-- Nothing is a value of two aspects of a border. -/
theorem Aspect.eq_of_takes {a b : Aspect} (ha : a ∈ borderAspects) (hb : b ∈ borderAspects)
    (hta : a.takes value) (htb : b.takes value) : a = b := by
  cases hof : Component.ofString value with
  | keyword name =>
    have hdisjoint : ∀ a ∈ borderAspects, ∀ b ∈ borderAspects, ∀ name ∈ a.keywords,
        name ∈ b.keywords → a = b := by decide
    exact hdisjoint a ha b hb name ((takes_keyword hof).1 hta) ((takes_keyword hof).1 htb)
  | _ =>
    simp only [borderAspects, List.mem_cons, List.not_mem_nil, or_false] at ha hb
    rcases ha with rfl | rfl | rfl <;> rcases hb with rfl | rfl | rfl <;>
      simp [takes, hof] at hta htb ⊢

namespace BorderParts

variable {found found' : BorderParts} {part : String}

/-- The part found for an aspect. -/
def found? (found : BorderParts) : Aspect → Option String
  | .width => found.width
  | .style => found.style
  | .color => found.color
  | _ => none

def put (found : BorderParts) (part : String) : Aspect → BorderParts
  | .width => { found with width := some part }
  | .style => { found with style := some part }
  | .color => { found with color := some part }
  | _ => found

theorem found?_put (ha : aspect ∈ borderAspects) (b : Aspect) :
    (found.put part aspect).found? b = if b = aspect then some part else found.found? b := by
  simp only [borderAspects, List.mem_cons, List.not_mem_nil, or_false] at ha
  rcases ha with rfl | rfl | rfl <;> cases b <;> rfl

theorem take?_of_takes (ha : aspect ∈ borderAspects) (h : aspect.takes part) :
    found.take? part =
      if (found.found? aspect).isSome then none else some (found.put part aspect) := by
  have hother : ∀ b ∈ borderAspects, b ≠ aspect → b.takes part = false := fun b hb hne =>
    Bool.eq_false_iff.2 fun hb' => hne (Aspect.eq_of_takes hb ha hb' h)
  simp only [borderAspects, List.mem_cons, List.not_mem_nil, or_false] at ha
  rcases ha with rfl | rfl | rfl
  · simp only [take?, h, ↓reduceIte]
    rfl
  · simp only [take?, hother .width (by decide) (by decide), h, ↓reduceIte]
    rfl
  · simp only [take?, hother .width (by decide) (by decide), hother .style (by decide) (by decide),
      h, ↓reduceIte]
    rfl

theorem exists_of_take? (h : found.take? part = some found') :
    ∃ a ∈ borderAspects, a.takes part ∧ found' = found.put part a := by
  obtain ⟨a, ha, htakes⟩ : ∃ a ∈ borderAspects, a.takes part := by
    by_contra hnone
    have hnone : ∀ a ∈ borderAspects, a.takes part = false := fun a ha =>
      Bool.eq_false_iff.2 fun htakes => hnone ⟨a, ha, htakes⟩
    simp [take?, hnone .width (by decide), hnone .style (by decide),
      hnone .color (by decide)] at h
  refine ⟨a, ha, htakes, ?_⟩
  rw [take?_of_takes ha htakes] at h
  split at h
  · cases h
  · exact (Option.some.inj h).symm

/-- What is found is among the parts. -/
theorem mem_of_foldlM_take? (h : parts.foldlM take? found = some found') {v : String}
    (hv : found'.found? aspect = some v) :
    found.found? aspect = some v ∨ v ∈ parts ∧ aspect.takes v := by
  induction parts generalizing found with
  | nil => exact .inl (Option.some.inj h ▸ hv)
  | cons part parts ih =>
    obtain ⟨next, hnext, h⟩ := Option.bind_eq_some_iff.1 h
    rcases ih h with hfound | ⟨hmem, htakes⟩
    · obtain ⟨a, ha, htakes, rfl⟩ := exists_of_take? hnext
      rw [found?_put ha] at hfound
      split at hfound
      · rename_i heq
        obtain rfl := Option.some.inj hfound
        exact .inr ⟨List.mem_cons_self, heq ▸ htakes⟩
      · exact .inl hfound
    · exact .inr ⟨List.mem_cons_of_mem part hmem, htakes⟩

end BorderParts

/-- Where the values of a border come from. -/
theorem gives_of_borderValues? {w st c : String} (h : borderValues? parts = some (w, st, c)) :
    Aspect.width.Gives parts w ∧ Aspect.style.Gives parts st ∧ Aspect.color.Gives parts c := by
  unfold borderValues? at h
  split at h
  · cases h
  · obtain ⟨found, hfound, h⟩ := Option.bind_eq_some_iff.1 h
    have hgives : ∀ {a : Aspect} {initial : String}, (a, initial) ∈ initials →
        a.Gives parts (((found.found? a).map a.spell).getD initial) := by
      intro a initial hinitial
      cases hv : found.found? a with
      | none => exact .inr hinitial
      | some v =>
        rcases BorderParts.mem_of_foldlM_take? hfound hv with hnone | ⟨hmem, htakes⟩
        · cases a <;> cases hnone
        · exact .inl ⟨v, hmem, htakes, rfl⟩
    have hcolor : (found.color.map Aspect.color.spell).getD initialColor =
        found.color.getD initialColor := by
      cases found.color <;> rfl
    have hwidth := hgives (show (Aspect.width, initialWidth) ∈ initials by decide)
    have hstyle := hgives (show (Aspect.style, initialStyle) ∈ initials by decide)
    have hcolor' := hgives (show (Aspect.color, initialColor) ∈ initials by decide)
    cases h
    exact ⟨hwidth, hstyle, hcolor ▸ hcolor'⟩

/-! ### Values that are put together -/

theorem exists_joinSides_eq (top right bottom left : String) :
    ∃ kept, joinSides top right bottom left = String.intercalate " " kept ∧ kept ≠ [] ∧
      (∀ v ∈ kept, v ∈ [top, right, bottom, left]) ∧
      onSides? kept = some [top, right, bottom, left] := by
  unfold joinSides
  split
  · exact ⟨_, rfl, by simp, by simp, rfl⟩
  · rename_i hright
    obtain rfl : right = left := by simpa using hright
    split
    · exact ⟨_, rfl, by simp, by simp, rfl⟩
    · rename_i hbottom
      obtain rfl : top = bottom := by simpa using hbottom
      split
      · exact ⟨_, rfl, by simp, by simp, rfl⟩
      · rename_i hright
        obtain rfl : top = right := by simpa using hright
        exact ⟨[top], by simp, by simp, by simp, rfl⟩

theorem exists_joinBorder_eq {w st c : String} (hw : Aspect.width.Settles w)
    (hst : Aspect.style.Settles st) (hc : Aspect.color.Settles c) :
    ∃ kept, joinBorder w st c = String.intercalate " " kept ∧ kept ≠ [] ∧
      (∀ v ∈ kept, v ∈ [w, st, c]) ∧ borderValues? kept = some (w, st, c) := by
  have hwidth : ∀ found : BorderParts, found.take? w =
      if found.width.isSome then none else some { found with width := some w } := fun found =>
    BorderParts.take?_of_takes (by decide) hw.takes
  have hstyle : ∀ found : BorderParts, found.take? st =
      if found.style.isSome then none else some { found with style := some st } := fun found =>
    BorderParts.take?_of_takes (by decide) hst.takes
  have hcolor : ∀ found : BorderParts, found.take? c =
      if found.color.isSome then none else some { found with color := some c } := fun found =>
    BorderParts.take?_of_takes (by decide) hc.takes
  have hw := hw.spelled
  have hst := hst.spelled
  by_cases hw₀ : w = initialWidth <;> by_cases hst₀ : st = initialStyle <;>
    by_cases hc₀ : c = initialColor
  · subst hw₀ hst₀ hc₀
    refine ⟨[initialStyle], by simp [joinBorder], by simp, by simp, ?_⟩
    simp [borderValues?, hstyle, hst]
  all_goals
    refine ⟨([(w, initialWidth), (st, initialStyle), (c, initialColor)].filter
      fun p => p.1 != p.2).map (·.1), ?_, ?_, ?_, ?_⟩
    · simp [joinBorder, hw₀, hst₀, hc₀]
    · simp [hw₀, hst₀, hc₀]
    · simp [hw₀, hst₀, hc₀]
    · simp [borderValues?, hwidth, hstyle, hcolor, hw, hst, hw₀, hst₀, hc₀]

theorem exists_of_onSides? (h : onSides? parts = some values) :
    ∃ top right bottom left, values = [top, right, bottom, left] ∧ ∀ v ∈ values, v ∈ parts := by
  unfold onSides? at h
  split at h <;> first
    | (obtain rfl := Option.some.inj h; exact ⟨_, _, _, _, rfl, by simp⟩)
    | cases h

/-- What a shorthand makes of the values of a border. -/
def spread (s : Shorthand) (w st c : String) : List String :=
  match s with
  | .border => List.replicate 4 w ++ List.replicate 4 st ++ List.replicate 4 c
  | _ => [w, st, c]

/-- The values that a shorthand gives, by its kind. -/
theorem values?_cases (h : s.values? parts = some values) :
    (∃ aspect, s.boxAspect? = some aspect ∧ (∀ part ∈ parts, aspect.takes part) ∧
      onSides? (parts.map aspect.spell) = some values) ∨
    (s.boxAspect? = none ∧ ∃ w st c, borderValues? parts = some (w, st, c) ∧
      values = s.spread w st c) := by
  unfold values? at h
  split at h
  · rename_i aspect hbox
    split at h
    · rename_i htakes
      exact .inl ⟨aspect, hbox, List.all_eq_true.1 htakes, h⟩
    · cases h
  · rename_i hbox
    obtain ⟨⟨w, st, c⟩, hborder, h⟩ := Option.bind_eq_some_iff.1 h
    refine .inr ⟨hbox, w, st, c, hborder, ?_⟩
    cases s <;> exact (Option.some.inj h).symm

theorem join?_spread (h : s.boxAspect? = none) (w st c : String) :
    s.join? (s.spread w st c) = some (joinBorder w st c) := by
  cases s <;> simp_all [join?, spread, boxAspect?, List.replicate]

theorem values?_of_borderValues? (h : s.boxAspect? = none) {w st c : String}
    (hborder : borderValues? parts = some (w, st, c)) :
    s.values? parts = some (s.spread w st c) := by
  cases s <;> simp_all [values?, boxAspect?, spread]

/-- The values of the longhands come from the parts of the value. -/
theorem exists_gives (h : s.values? parts = some values) :
    ∀ v ∈ values, ∃ a : Aspect, a.Gives parts v := by
  rcases values?_cases h with ⟨aspect, -, htakes, hsides⟩ | ⟨-, w, st, c, hborder, rfl⟩
  · obtain ⟨_, _, _, _, -, hmem⟩ := exists_of_onSides? hsides
    intro v hv
    obtain ⟨part, hpart, rfl⟩ := List.mem_map.1 (hmem v hv)
    exact ⟨aspect, .inl ⟨part, hpart, htakes part hpart, rfl⟩⟩
  · obtain ⟨hw, hst, hc⟩ := gives_of_borderValues? hborder
    have hspread : ∀ v ∈ s.spread w st c, v = w ∨ v = st ∨ v = c := by
      cases s <;> simp [spread, List.replicate]
    intro v hv
    rcases hspread v hv with rfl | rfl | rfl
    · exact ⟨_, hw⟩
    · exact ⟨_, hst⟩
    · exact ⟨_, hc⟩

theorem isSome_join? (h : s.values? parts = some values) : (s.join? values).isSome := by
  rcases values?_cases h with ⟨aspect, hbox, -, hsides⟩ | ⟨hbox, w, st, c, -, rfl⟩
  · obtain ⟨_, _, _, _, rfl, -⟩ := exists_of_onSides? hsides
    simp [join?, hbox]
  · rw [join?_spread hbox]
    rfl

/-- The value that is put together has parts that give the same values again. -/
theorem exists_join?_eq (h : s.values? parts = some values)
    (hstable : ∀ part ∈ parts, tokensText (tokenize part) = part) :
    ∃ kept, s.join? values = some (String.intercalate " " kept) ∧ kept ≠ [] ∧
      (∀ v ∈ kept, ∃ a : Aspect, a.Settles v) ∧ s.values? kept = some values := by
  rcases values?_cases h with ⟨aspect, hbox, htakes, hsides⟩ | ⟨hbox, w, st, c, hborder, rfl⟩
  · obtain ⟨top, right, bottom, left, rfl, hmem⟩ := exists_of_onSides? hsides
    obtain ⟨kept, hjoin, hne, hkept, hback⟩ := exists_joinSides_eq top right bottom left
    have hsettles : ∀ v ∈ kept, aspect.Settles v := by
      intro v hv
      obtain ⟨part, hpart, rfl⟩ := List.mem_map.1 (hmem v (hkept v hv))
      exact Aspect.Gives.settles (.inl ⟨part, hpart, htakes part hpart, rfl⟩) hstable
    refine ⟨kept, by simp [join?, hbox, hjoin], hne, fun v hv => ⟨aspect, hsettles v hv⟩, ?_⟩
    have hall : kept.all aspect.takes := List.all_eq_true.2 fun v hv => (hsettles v hv).takes
    have hspell : kept.map aspect.spell = kept :=
      (List.map_congr_left fun v hv => (hsettles v hv).spelled).trans (List.map_id kept)
    simp [values?, hbox, hall, hspell, hback]
  · obtain ⟨hw, hst, hc⟩ := gives_of_borderValues? hborder
    have hw := hw.settles hstable
    have hst := hst.settles hstable
    have hc := hc.settles hstable
    obtain ⟨kept, hjoin, hne, hkept, hback⟩ := exists_joinBorder_eq hw hst hc
    refine ⟨kept, by rw [join?_spread hbox, hjoin], hne, fun v hv => ?_,
      values?_of_borderValues? hbox hback⟩
    rcases List.mem_cons.1 (hkept v hv) with rfl | hv
    · exact ⟨_, hw⟩
    rcases List.mem_cons.1 hv with rfl | hv
    · exact ⟨_, hst⟩
    · exact ⟨_, List.mem_singleton.1 hv ▸ hc⟩

/-! ### Round trip -/

/-- No value with a blank in it is a wide keyword. -/
theorem not_isWideKeyword_joined {kept : List String} (hne : kept ≠ [])
    (h : ∀ v ∈ kept, ∃ a : Aspect, a.Settles v) :
    isWideKeyword (String.intercalate " " kept) = false := by
  match kept with
  | [] => exact absurd rfl hne
  | [v] =>
    obtain ⟨a, ha⟩ := h v List.mem_cons_self
    rw [String.intercalate_singleton]
    exact Aspect.not_isWideKeyword ha.takes
  | v :: next :: more =>
    refine Bool.eq_false_iff.2 fun hwide => ?_
    have hblank : ' ' ∈ (Text.lower (String.intercalate " " (v :: next :: more))).toList := by
      rw [Text.toList_lower, toList_joined]
      exact List.mem_map.2 ⟨' ', by simp, by decide⟩
    have hwords : ∀ word ∈ wideKeywords, ' ' ∉ word.toList := by decide
    exact hwords _ (List.contains_iff_mem.1 hwide) hblank

/-- A value whose parts are read back from their canonical texts is read back. -/
theorem expand?_joined {kept : List String} (hne : kept ≠ [])
    (h : ∀ v ∈ kept, ∃ a : Aspect, a.Settles v) :
    s.expand? (String.intercalate " " kept) = (s.values? kept).map (s.longhands.zip ·) := by
  have hcomponent : ∀ v ∈ kept, IsComponent v := by
    intro v hv
    obtain ⟨a, ha⟩ := h v hv
    exact isComponent_of_isSimple (Aspect.isSimple_of_takes ha.takes) ha.stable
  have hstable : ∀ v ∈ kept, tokensText (tokenize v) = v := by
    intro v hv
    obtain ⟨a, ha⟩ := h v hv
    exact ha.stable
  simp [expand?, trim_joined hne hcomponent, not_isWideKeyword_joined hne h,
    splitComponents_joined hne hcomponent hstable]

/-- Looking up all longhands of an expanded value gives back all values. -/
theorem mapM_lookup_expand? (h : s.expand? value = some pairs) :
    s.longhands.mapM (fun n => pairs.lookup n) = some (pairs.map Prod.snd) := by
  have hkeys := keys_of_expand? h
  rw [← hkeys]
  exact mapM_lookup (hkeys ▸ s.nodup_longhands)

theorem isWideKeyword_lower (value : String) :
    isWideKeyword (Text.lower value) = isWideKeyword value := by
  rw [isWideKeyword, isWideKeyword, Text.lower_lower]

theorem expand?_of_isWideKeyword (h : isWideKeyword value) :
    s.expand? (Text.lower value) = some (s.longhands.map (·, Text.lower value)) := by
  have htrim : ∀ word ∈ wideKeywords, Text.trim word = word := by decide
  have hwide := (isWideKeyword_lower value).trans h
  simp [expand?, htrim _ (List.contains_iff_mem.1 h), hwide]

theorem reconstruct?_of_isWideKeyword (h : isWideKeyword value)
    {lookup : String → Option String}
    (hlookup : s.longhands.mapM lookup = some (s.longhands.map fun _ => value)) :
    s.reconstruct? lookup = some value := by
  obtain ⟨n, ns, hlonghands⟩ := List.exists_cons_of_ne_nil s.longhands_ne_nil
  rw [reconstruct?, hlookup, hlonghands]
  simp [h]

theorem reconstruct?_of_not_isWideKeyword (h : ∀ v ∈ values, isWideKeyword v = false)
    {lookup : String → Option String} (hlookup : s.longhands.mapM lookup = some values) :
    s.reconstruct? lookup = s.join? values := by
  have hany : values.any isWideKeyword = false := by simpa using h
  rw [reconstruct?, hlookup]
  simp only [Option.bind_eq_bind, Option.bind_some, hany, Bool.false_eq_true, ↓reduceIte]

theorem expand?_cases (h : s.expand? value = some pairs) :
    (isWideKeyword (Text.trim value) ∧
      pairs = s.longhands.map (·, Text.lower (Text.trim value))) ∨
    ∃ values, s.values? (splitComponents (Text.trim value)) = some values ∧
      pairs = s.longhands.zip values := by
  unfold expand? at h
  simp only at h
  split at h
  · rename_i hwide
    exact .inl ⟨hwide, (Option.some.inj h).symm⟩
  · obtain ⟨values, hvalues, rfl⟩ := Option.map_eq_some_iff.1 h
    exact .inr ⟨values, hvalues, rfl⟩

/-- A value that is expanded names all longhands in order, a value can be put together from theirs,
and that value is expanded to the same, if the parts of the first are read back from their canonical
texts. -/
theorem reconstruct?_expand? (h : s.expand? value = some pairs) :
    pairs.map Prod.fst = s.longhands ∧ s.longhands.Nodup ∧
      ∃ text, s.reconstruct? (fun n => pairs.lookup n) = some text ∧
        ((∀ part ∈ splitComponents (Text.trim value), tokensText (tokenize part) = part) →
          s.expand? text = some pairs) := by
  refine ⟨keys_of_expand? h, s.nodup_longhands, ?_⟩
  have hlookup := mapM_lookup_expand? h
  rcases expand?_cases h with ⟨hwide, rfl⟩ | ⟨values, hvalues, rfl⟩
  · rw [List.map_map] at hlookup
    exact ⟨Text.lower (Text.trim value),
      reconstruct?_of_isWideKeyword ((isWideKeyword_lower _).trans hwide) hlookup,
      fun _ => expand?_of_isWideKeyword hwide⟩
  · rw [List.map_snd_zip (length_values? hvalues).le] at hlookup
    have hplain : ∀ v ∈ values, isWideKeyword v = false := by
      intro v hv
      obtain ⟨a, ha⟩ := exists_gives hvalues v hv
      exact ha.not_isWideKeyword
    obtain ⟨text, htext⟩ := Option.isSome_iff_exists.1 (isSome_join? hvalues)
    refine ⟨text, (reconstruct?_of_not_isWideKeyword hplain hlookup).trans htext, fun hstable => ?_⟩
    obtain ⟨kept, hjoin, hne, hsettles, hagain⟩ := exists_join?_eq hvalues hstable
    obtain rfl := Option.some.inj (htext.symm.trans hjoin)
    rw [expand?_joined hne hsettles, hagain, Option.map_some]

theorem reconstruct?_expand?_border :
    border.expand? "Thin  RED" = some (border.longhands.zip (border.spread "thin" "none" "RED")) ∧
      ∃ text, border.reconstruct?
          (fun n => (border.longhands.zip (border.spread "thin" "none" "RED")).lookup n) =
            some text ∧
        border.expand? text = some (border.longhands.zip (border.spread "thin" "none" "RED")) := by
  have h : border.expand? "Thin  RED" =
      some (border.longhands.zip (border.spread "thin" "none" "RED")) := by decide +kernel
  obtain ⟨-, -, text, htext, hback⟩ := reconstruct?_expand? h
  exact ⟨h, text, htext, hback (by decide +kernel)⟩

/-- A slash and an asterisk that only a comment keeps apart are printed as the start of one. -/
theorem not_reconstruct?_expand? :
    ¬ ∀ (s : Shorthand) (value : String) (pairs : List (String × String)),
      s.expand? value = some pairs →
        ∃ text, s.reconstruct? (fun n => pairs.lookup n) = some text ∧
          s.expand? text = some pairs := by
  intro h
  obtain ⟨text, htext, hback⟩ := h .borderColor "red//**/*"
    (borderColor.longhands.map (·, "red/*")) (by decide +kernel)
  have hjoined : borderColor.reconstruct?
      (fun n => (borderColor.longhands.map (·, "red/*")).lookup n) = some "red/*" := by
    decide +kernel
  obtain rfl : "red/*" = text := Option.some.inj (hjoined.symm.trans htext)
  exact absurd hback (by decide +kernel)

end Shorthand

end WebStyle
