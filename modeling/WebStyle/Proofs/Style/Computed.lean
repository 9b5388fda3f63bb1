import Mathlib.Data.List.Sort
import Mathlib.Data.String.Basic
import WebStyle.Proofs.Cascade
import WebStyle.Style.Computed
/-!
What computed values depend on: each known property on its own specified value, as it reads after
substitution, and on what the scope knows of the element.
-/
set_option autoImplicit false

namespace WebStyle

/-- Whether two specified values of a property are computed alike, given the custom properties. -/
def SpecifiedValue.Alike (lookup : String → Option String) (property : String)
    (v v' : SpecifiedValue) : Prop :=
  v' = v ∨ isCustomName property = false ∧ ∀ s : Scope, s.customs.find? = lookup →
    s.declaredText property v' = s.declaredText property v

/-- Whether two lists of specified values are computed alike, given the custom properties. -/
structure SpecifiedValues.Alike (lookup : String → Option String)
    (specified specified' : SpecifiedValues) : Prop where
  nodup : specified.keys.Nodup
  nodup' : specified'.keys.Nodup
  rel : ∀ property, Option.Rel (SpecifiedValue.Alike lookup property) (specified.find? property)
    (specified'.find? property)

variable {lookup : String → Option String} {specified specified' : SpecifiedValues}
  {name : String}

theorem perm_entries_of_find? {α : Type} {t u : Table String α} (ht : t.keys.Nodup)
    (hu : u.keys.Nodup) (h : ∀ name, u.find? name = t.find? name) : u.entries.Perm t.entries := by
  refine (List.perm_ext_iff_of_nodup hu.of_map ht.of_map).2 fun p => ?_
  rw [← Table.find?_eq_some_iff hu, ← Table.find?_eq_some_iff ht, h]

namespace Custom

theorem valueM_congr {s s' : Setting} (hd : s'.declared.find? = s.declared.find?)
    (hi : s'.inherited = s.inherited) (fuel : Nat) : valueM s' fuel = valueM s fuel := by
  induction fuel with
  | zero => rfl
  | succ fuel ih =>
    funext stack name
    simp only [valueM, hd, hi, ih]

theorem find?_declaredOnes (specified : SpecifiedValues) (name : String) :
    (declaredOnes specified).find? name =
      if isCustomName name then (specified.find? name).map (·.text) else none :=
  Cascade.find?_filter_map SpecifiedValue.text isCustomName specified name

theorem keys_declaredOnes (specified : SpecifiedValues) :
    (declaredOnes specified).keys = specified.keys.filter isCustomName := by
  simp [declaredOnes, Table.keys, List.filter_map, Function.comp_def]

/-- Custom properties depend on what is specified for them, in whatever order. -/
theorem resolve_congr (hn : specified.keys.Nodup) (hn' : specified'.keys.Nodup)
    (h : ∀ name, isCustomName name = true → specified'.find? name = specified.find? name)
    (inherited : Table String String) :
    resolve specified' inherited = resolve specified inherited := by
  have hfind : ∀ name,
      (declaredOnes specified').find? name = (declaredOnes specified).find? name := by
    intro name
    rw [find?_declaredOnes, find?_declaredOnes]
    split
    · rename_i hname
      rw [h name hname]
    · rfl
  have hperm : (declaredOnes specified').entries.Perm (declaredOnes specified).entries :=
    perm_entries_of_find? (keys_declaredOnes specified ▸ hn.filter _)
      (keys_declaredOnes specified' ▸ hn'.filter _) hfind
  have hsort : (declaredOnes specified').keys.mergeSort (fun a b => !decide (b < a)) =
      (declaredOnes specified).keys.mergeSort fun a b => !decide (b < a) := by
    have hle : (fun a b : String => !decide (b < a)) = fun a b => decide (a ≤ b) := by
      funext a b
      simp [← not_lt]
    rw [hle]
    refine List.Perm.eq_of_pairwise' (r := (· ≤ ·)) (List.pairwise_mergeSort' (· ≤ ·) _)
      (List.pairwise_mergeSort' (· ≤ ·) _) ?_
    exact (List.mergeSort_perm _ _).trans ((hperm.map _).trans (List.mergeSort_perm _ _).symm)
  have hsize : (declaredOnes specified').size = (declaredOnes specified).size := hperm.length_eq
  have hvalue : ∀ fuel, valueM ⟨declaredOnes specified', inherited⟩ fuel =
      valueM ⟨declaredOnes specified, inherited⟩ fuel := valueM_congr (funext hfind) rfl
  simp only [resolve, resolveAll, hsort, hsize, hvalue]

end Custom

/-- What is found among values that are made of specified ones. -/
theorem find?_filterMap {α β : Type} {l : List (String × α)} (hn : (l.map Prod.fst).Nodup)
    (f : String → α → Option β) (name : String) :
    (Table.mk (l.filterMap fun p => (f p.1 p.2).map (p.1, ·))).find? name =
      ((Table.mk l).find? name).bind (f name) := by
  induction l with
  | nil => rfl
  | cons p l ih =>
    obtain ⟨a, v⟩ := p
    obtain ⟨ha, hn⟩ := List.nodup_cons.1 hn
    have ih := ih hn
    simp only [Table.find?] at ih ⊢
    by_cases hname : a = name
    · subst hname
      have hnone : (l.find? fun p => p.1 == a) = none := by
        refine List.find?_eq_none.2 fun p hp hpa => ha ?_
        exact List.mem_map.2 ⟨p, hp, by simpa using hpa⟩
      rw [hnone] at ih
      cases hf : f a v with
      | none => simpa [hf] using ih
      | some w => simp [hf]
    · cases hf : f a v with
      | none => simpa [hf, hname] using ih
      | some w => simpa [hf, hname] using ih

theorem find?_append {α : Type} (l l' : List (String × α)) (name : String) :
    (Table.mk (l ++ l')).find? name =
      ((Table.mk l).find? name).or ((Table.mk l').find? name) := by
  simp [Table.find?, List.find?_append, Option.map_or]

/-- The custom properties of an element. -/
def customsOf (specified : SpecifiedValues) (ctx : ComputeContext) : Table String String :=
  Custom.resolve specified ((ctx.parent.map ComputedStyle.customProperties).getD .empty)

namespace Scope

variable {s : Scope}

/-- The scope of an element for which something else is specified. -/
def specify (s : Scope) (specified : SpecifiedValues) : Scope := { s with specified := specified }

/-! The stages of the computation. -/

/-- Knows the font size, by which other lengths are computed. -/
def sized (s : Scope) : Scope :=
  { s with fontSize := ((s.valueOf? "font-size").bind pixelValue?).getD mediumFontSize }

/-- Knows the color as well, for which `currentcolor` stands. -/
def colored (s : Scope) : Scope := { s.sized with color := s.sized.valueOf? "color" }

/-- The known properties other than the widths of borders, which depend on them. -/
def plain (s : Scope) : Table String String :=
  ⟨(Property.all.filter fun p => !p.kind == .borderWidth).map fun p =>
    if p.kind == .fontSize then (p.name, s.value p)
    else if p.name == "color" then (p.name, s.sized.value p)
    else (p.name, s.colored.value p)⟩

def styled (s : Scope) : Scope := { s.colored with styles := s.plain }

def widths (s : Scope) : Table String String :=
  ⟨(Property.all.filter fun p => p.kind == .borderWidth).map fun p => (p.name, s.styled.value p)⟩

def unknown (s : Scope) : Table String String :=
  ⟨s.specified.entries.filterMap fun (name, v) =>
    if isCustomName name || (Property.ofName? name).isSome then none
    else (s.unknownValue? name v).map (name, ·)⟩

/-! What is specified makes no difference but through the declared texts. -/

@[simp] theorem specified_specify : (s.specify specified).specified = specified := rfl

@[simp] theorem ctx_specify : (s.specify specified).ctx = s.ctx := rfl

@[simp] theorem color_specify : (s.specify specified).color = s.color := rfl

@[simp] theorem declaredText_specify : (s.specify specified).declaredText = s.declaredText := rfl

@[simp] theorem absolute?_specify : (s.specify specified).absolute? = s.absolute? := rfl

@[simp] theorem inherit_specify : (s.specify specified).inherit = s.inherit := rfl

@[simp] theorem initial_specify : (s.specify specified).initial = s.initial := rfl

@[simp] theorem unset_specify : (s.specify specified).unset = s.unset := rfl

@[simp] theorem unknownValue?_specify :
    (s.specify specified).unknownValue? = s.unknownValue? := by
  funext name v
  simp only [unknownValue?, declaredText_specify, ctx_specify]

theorem declaredText_of_alike {v v' : SpecifiedValue}
    (h : v.Alike s.customs.find? name v') : s.declaredText name v' = s.declaredText name v := by
  rcases h with rfl | ⟨-, h⟩
  · rfl
  · exact h s rfl

theorem find?_unknown (hn : s.specified.keys.Nodup) (name : String) : s.unknown.find? name =
    if isCustomName name || (Property.ofName? name).isSome then none
    else (s.specified.find? name).bind (s.unknownValue? name) := by
  have hentries : s.unknown = ⟨s.specified.entries.filterMap fun p =>
      (if isCustomName p.1 || (Property.ofName? p.1).isSome then none
        else s.unknownValue? p.1 p.2).map (p.1, ·)⟩ := by
    rw [unknown]
    congr 2
    funext ⟨name, v⟩
    simp only
    split <;> rfl
  rw [hentries, find?_filterMap hn fun name v =>
    if isCustomName name || (Property.ofName? name).isSome then none else s.unknownValue? name v]
  split
  · cases (Table.mk s.specified.entries).find? name <;> rfl
  · rfl

section Alike

variable (h : s.specified.Alike s.customs.find? specified')
include h

theorem value_specify (p : Property) : (s.specify specified').value p = s.value p := by
  simp only [value, specified_specify, color_specify, absolute?_specify, inherit_specify,
    initial_specify, unset_specify, declaredText_specify]
  have hrel := h.rel p.name
  generalize s.specified.find? p.name = v at hrel
  generalize specified'.find? p.name = v' at hrel
  cases hrel with
  | none => rfl
  | some hv => simp only [declaredText_of_alike hv]

theorem valueOf?_specify (name : String) :
    (s.specify specified').valueOf? name = s.valueOf? name := by
  rw [valueOf?, funext (value_specify h)]
  rfl

theorem sized_specify : (s.specify specified').sized = s.sized.specify specified' := by
  rw [sized, valueOf?_specify h]
  rfl

theorem colored_specify : (s.specify specified').colored = s.colored.specify specified' := by
  rw [colored, sized_specify h, valueOf?_specify (s := s.sized) h]
  rfl

theorem plain_specify : (s.specify specified').plain = s.plain := by
  rw [plain, sized_specify h, colored_specify h]
  simp only [value_specify h, value_specify (s := s.sized) h, value_specify (s := s.colored) h]
  rfl

theorem styled_specify : (s.specify specified').styled = s.styled.specify specified' := by
  rw [styled, colored_specify h, plain_specify h]
  rfl

theorem widths_specify : (s.specify specified').widths = s.widths := by
  rw [widths, styled_specify h]
  simp only [value_specify (s := s.styled) h]
  rfl

theorem find?_unknown_specify (name : String) :
    (s.specify specified').unknown.find? name = s.unknown.find? name := by
  rw [find?_unknown h.nodup', find?_unknown h.nodup, unknownValue?_specify, specified_specify]
  have hrel := h.rel name
  generalize s.specified.find? name = v at hrel
  generalize specified'.find? name = v' at hrel
  cases hrel with
  | none => rfl
  | some hv => simp only [Option.bind_some, unknownValue?, declaredText_of_alike hv]

end Alike

end Scope

theorem compute_eq (specified : SpecifiedValues) (ctx : ComputeContext) :
    let start : Scope := ⟨specified, customsOf specified ctx, ctx, ctx.parentFontSize, none, .empty⟩
    compute specified ctx = ⟨⟨start.plain.entries ++ start.widths.entries ++
      start.styled.unknown.entries ++ (customsOf specified ctx).entries⟩⟩ := rfl

theorem customsOf_of_alike {ctx : ComputeContext} (h : specified.Alike lookup specified') :
    customsOf specified' ctx = customsOf specified ctx := by
  refine Custom.resolve_congr h.nodup h.nodup' (fun name hname => ?_) _
  have hrel := h.rel name
  generalize specified.find? name = v at hrel
  generalize specified'.find? name = v' at hrel
  cases hrel with
  | none => rfl
  | some hv =>
    rcases hv with rfl | ⟨hnot, -⟩
    · rfl
    · rw [hname] at hnot
      cases hnot

/-- Values that are specified alike are computed alike. -/
theorem find?_compute_of_alike {ctx : ComputeContext}
    (h : specified.Alike (customsOf specified ctx).find? specified') (name : String) :
    (compute specified' ctx).find? name = (compute specified ctx).find? name := by
  rw [ComputedStyle.find?, ComputedStyle.find?, compute_eq, compute_eq, customsOf_of_alike h]
  generalize hs : (⟨specified, customsOf specified ctx, ctx, ctx.parentFontSize, none, .empty⟩ :
    Scope) = s
  have hstart : (⟨specified', customsOf specified ctx, ctx, ctx.parentFontSize, none, .empty⟩ :
    Scope) = s.specify specified' := by rw [← hs]; rfl
  have halike : s.specified.Alike s.customs.find? specified' := by rw [← hs]; exact h
  have hunknown := Scope.find?_unknown_specify (s := s.styled) halike name
  simp only [hstart, Scope.plain_specify halike, Scope.widths_specify halike,
    Scope.styled_specify halike]
  simp only [find?_append, hunknown]

end WebStyle
