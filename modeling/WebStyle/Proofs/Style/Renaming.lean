import Mathlib.Data.Set.Finite.List
import Mathlib.Logic.Equiv.Defs
import Mathlib.Order.WellFoundedSet
import WebStyle.Proofs.Style.Computed
import WebStyle.Proofs.Style.Cycles
/-!
Custom properties under other names. They are resolved in the order of their names, which makes a
difference on some cycles; where it makes none, what is found is the same under other names.
-/
set_option autoImplicit false

namespace WebStyle
namespace Custom

open Relation Substitution

variable {s s' : Setting} {p p' : Progress} {x y name raw : String} {R R' : String → Option String}

/-- Whether a declared value becomes another when names are changed. A keyword refers to nothing. -/
inductive RenamedValue (ρ : String → String) : String → String → Prop where
  | keyword {raw raw' : String} (h : isWide raw)
    (hsame : Text.lower (Text.trim raw') = Text.lower (Text.trim raw)) : RenamedValue ρ raw raw'
  | value {raw raw' : String} (h : ¬ isWide raw) (h' : ¬ isWide raw')
    (hrenamed : Substitution.Renamed ρ raw raw') : RenamedValue ρ raw raw'

/-- Whether a setting becomes another when names are changed. -/
structure Setting.Renamed (ρ : String ≃ String) (s s' : Setting) : Prop where
  declared : ∀ x, Option.Rel (RenamedValue ρ) (s.declared.find? x) (s'.declared.find? (ρ x))
  inherited : ∀ x, s'.inherited.find? (ρ x) = s.inherited.find? x

instance decidableRenamedValue (ρ : String → String) (raw raw' : String) :
    Decidable (RenamedValue ρ raw raw') :=
  if h : isWide raw then
    decidable_of_iff (Text.lower (Text.trim raw') = Text.lower (Text.trim raw))
      ⟨.keyword h, by rintro (⟨-, hsame⟩ | ⟨hnot, -, -⟩); exacts [hsame, absurd h hnot]⟩
  else
    decidable_of_iff (¬ isWide raw' ∧ Substitution.Renamed ρ raw raw')
      ⟨fun h' => .value h h'.1 h'.2,
        by rintro (⟨hwide, -⟩ | ⟨-, h', hrenamed⟩); exacts [absurd hwide h, ⟨h', hrenamed⟩]⟩

instance decidableRel {α β : Type} {r : α → β → Prop} [∀ a b, Decidable (r a b)] :
    ∀ a b, Decidable (Option.Rel r a b)
  | none, none => isTrue .none
  | none, some _ => isFalse nofun
  | some _, none => isFalse nofun
  | some a, some b => decidable_of_iff (r a b) ⟨.some, by rintro ⟨⟩; assumption⟩

/-- It is enough to look at the names that the settings have. -/
theorem Setting.renamed_iff {ρ : String ≃ String} : s.Renamed ρ s' ↔
    (∀ x ∈ s.declared.keys ++ s'.declared.keys.map ρ.symm,
      Option.Rel (RenamedValue ρ) (s.declared.find? x) (s'.declared.find? (ρ x))) ∧
    ∀ x ∈ s.inherited.keys ++ s'.inherited.keys.map ρ.symm,
      s'.inherited.find? (ρ x) = s.inherited.find? x := by
  have hnone : ∀ {t t' : Table String String} {x}, x ∉ t.keys ++ t'.keys.map ρ.symm →
      t.find? x = none ∧ t'.find? (ρ x) = none := by
    intro t t' x hx
    rw [List.mem_append, not_or] at hx
    refine ⟨Table.find?_eq_none_iff.2 hx.1, Table.find?_eq_none_iff.2 fun hmem => hx.2 ?_⟩
    exact List.mem_map.2 ⟨ρ x, hmem, ρ.symm_apply_apply x⟩
  refine ⟨fun h => ⟨fun x _ => h.declared x, fun x _ => h.inherited x⟩, fun ⟨hd, hi⟩ => ⟨fun x => ?_,
    fun x => ?_⟩⟩
  · by_cases hx : x ∈ s.declared.keys ++ s'.declared.keys.map ρ.symm
    · exact hd x hx
    · rw [(hnone hx).1, (hnone hx).2]
      exact .none
  · by_cases hx : x ∈ s.inherited.keys ++ s'.inherited.keys.map ρ.symm
    · exact hi x hx
    · rw [(hnone hx).1, (hnone hx).2]

instance decidableRenamed (ρ : String ≃ String) (s s' : Setting) : Decidable (s.Renamed ρ s') :=
  decidable_of_iff' _ Setting.renamed_iff

theorem isWide_of_same {raw' : String}
    (h : Text.lower (Text.trim raw') = Text.lower (Text.trim raw)) (hraw : isWide raw) :
    isWide raw' := by
  rwa [isWide, h]

namespace RenamedValue

variable {ρ : String → String} {raw' : String}

theorem bare_mem (h : RenamedValue ρ raw raw') (hname : some (name, none) ∈ references raw) :
    some (ρ name, none) ∈ references raw' := by
  cases h with
  | keyword h hsame =>
    rw [references_of_isWide h] at hname
    cases hname
  | value h h' hrenamed => exact bare_mem_of_renamed (forall₂_references hrenamed) hname

theorem mentioned_eq (h : RenamedValue ρ raw raw') : mentioned raw' = (mentioned raw).map ρ := by
  cases h with
  | keyword h hsame =>
    rw [mentioned_of_isWide h, mentioned_of_isWide (isWide_of_same hsame h)]
    rfl
  | value h h' hrenamed => exact mentioned_of_renamed hrenamed

theorem asked_eq (h : RenamedValue ρ raw raw') (f : String → Option String) :
    asked f raw' = (asked (fun name => f (ρ name)) raw).map ρ := by
  cases h with
  | keyword h hsame =>
    rw [asked_of_isWide h, asked_of_isWide (isWide_of_same hsame h)]
    rfl
  | value h h' hrenamed => exact asked_of_renamed hrenamed f

/-- A value reads the same with values for the names that it has. -/
theorem valueWith_eq {f g : String → Option String} (h : RenamedValue ρ raw raw')
    (hfg : ∀ name ∈ mentioned raw, f name = g (ρ name))
    (hinherited : s'.inherited.find? (ρ x) = s.inherited.find? x) :
    s'.valueWith (ρ x) raw' g = s.valueWith x raw f := by
  cases h with
  | keyword h hsame =>
    rw [Setting.valueWith, Setting.valueWith, if_pos h, if_pos (isWide_of_same hsame h),
      Setting.settledValue, Setting.settledValue, hsame, hinherited]
  | value h h' hrenamed =>
    have hinitial : ∀ {text}, ¬ isWide text → ¬ Text.lower (Text.trim text) == "initial" := by
      intro text htext hinitial
      simp_all [isWide]
    rw [Setting.valueWith, Setting.valueWith, if_neg h, if_neg h', Setting.settledValue,
      Setting.settledValue, if_neg (hinitial h), if_neg (hinitial h'), hinherited,
      substitute?_of_renamed hrenamed,
      substitute?_congr fun name hname => hfg name (asked_subset f raw hname)]

end RenamedValue

namespace Setting

/-- Whether what one property leads to leads to another, but not back. -/
def Below (s : Setting) (x y : String) : Prop :=
  TransGen s.Mentions y x ∧ ¬ ReflTransGen s.Mentions x y

instance isStrictOrder_below (s : Setting) : IsStrictOrder String s.Below where
  irrefl _ h := h.2 .refl
  trans _ _ _ hxy hyz :=
    ⟨hyz.1.trans hxy.1, fun hxz => hyz.2 (hxy.1.to_reflTransGen.trans hxz)⟩

/-- An element declares but finitely many properties, so that what holds of one if it holds of those
below it holds of all. -/
theorem below_induction (s : Setting) {P : String → Prop}
    (h : ∀ x, (s.declared.find? x).isSome →
      (∀ y, (s.declared.find? y).isSome → s.Below y x → P y) → P x)
    (hx : (s.declared.find? x).isSome) : P x := by
  have hmem : ∀ y, y ∈ {y | y ∈ s.declared.keys} ↔ (s.declared.find? y).isSome := fun y => by
    rw [Set.mem_ofPred_eq, ← not_iff_not, ← Table.find?_eq_none_iff, Option.not_isSome_iff_eq_none]
  have hfinite : {y | y ∈ s.declared.keys}.Finite := List.finite_toSet _
  refine (hfinite.wellFoundedOn (r := s.Below)).induction ((hmem x).2 hx) fun y hy ih => ?_
  exact h y ((hmem y).1 hy) fun z hz => ih z ((hmem z).2 hz)

namespace Renamed

variable {ρ : String ≃ String} (h : s.Renamed ρ s')
include h

theorem exists_declared (hraw : s.declared.find? x = some raw) :
    ∃ raw', s'.declared.find? (ρ x) = some raw' ∧ RenamedValue ρ raw raw' := by
  have hrel := h.declared x
  rw [hraw] at hrel
  cases hd : s'.declared.find? (ρ x) with
  | none =>
    rw [hd] at hrel
    cases hrel
  | some raw' =>
    rw [hd] at hrel
    cases hrel with
    | some hrel => exact ⟨raw', rfl, hrel⟩

theorem isSome_declared : (s'.declared.find? (ρ x)).isSome = (s.declared.find? x).isSome := by
  have hrel := h.declared x
  generalize s.declared.find? x = raw at hrel
  generalize s'.declared.find? (ρ x) = raw' at hrel
  cases hrel <;> rfl

theorem mentions_iff : s'.Mentions (ρ x) (ρ y) ↔ s.Mentions x y := by
  cases hraw : s.declared.find? x with
  | none =>
    have hnone : s'.declared.find? (ρ x) = none := by
      rw [← Option.not_isSome_iff_eq_none, h.isSome_declared, hraw]
      simp
    simp [Mentions, hraw, hnone]
  | some raw =>
    obtain ⟨raw', hraw', hvalue⟩ := h.exists_declared hraw
    simp [Mentions, hraw, hraw', hvalue.mentioned_eq]

theorem leads_iff : ReflTransGen s'.Mentions (ρ x) (ρ y) ↔ ReflTransGen s.Mentions x y := by
  refine ⟨fun hxy => ?_, ReflTransGen.lift ρ (fun _ _ => h.mentions_iff.2) x y⟩
  have hback : ∀ a b, s'.Mentions a b → s.Mentions (ρ.symm a) (ρ.symm b) := by
    intro a b hab
    rwa [← h.mentions_iff, ρ.apply_symm_apply, ρ.apply_symm_apply]
  have hlift := ReflTransGen.lift ρ.symm hback _ _ hxy
  rwa [Function.onFun, ρ.symm_apply_apply, ρ.symm_apply_apply] at hlift

theorem tied_iff : s'.Tied (ρ x) (ρ y) ↔ s.Tied x y := and_congr h.leads_iff h.leads_iff

theorem loops_iff : s'.Loops (ρ x) ↔ s.Loops x := by
  rw [Loops, Loops, TransGen.head'_iff, TransGen.head'_iff]
  refine ⟨fun ⟨y, hxy, hyx⟩ => ?_, fun ⟨y, hxy, hyx⟩ => ?_⟩
  · obtain ⟨y, rfl⟩ := ρ.surjective y
    exact ⟨y, h.mentions_iff.1 hxy, h.leads_iff.1 hyx⟩
  · exact ⟨ρ y, h.mentions_iff.2 hxy, h.leads_iff.2 hyx⟩

theorem bare (hxy : s.Bare x y) : s'.Bare (ρ x) (ρ y) := by
  obtain ⟨raw, hraw, href, hy, hnone⟩ := hxy
  obtain ⟨raw', hraw', hvalue⟩ := h.exists_declared hraw
  exact ⟨raw', hraw', hvalue.bare_mem href, by rwa [h.isSome_declared], by rw [h.inherited, hnone]⟩

theorem isBare (hx : s.IsBare x) : s'.IsBare (ρ x) := by
  obtain ⟨y, hxy, hyy⟩ := hx
  exact ⟨ρ y, ReflTransGen.lift ρ (fun _ _ => h.bare) x y hxy,
    TransGen.lift ρ (fun _ _ => h.bare) y y hyy⟩

/-- A ring stays one, if the values of what it refers to outside of it are known. -/
theorem isRing (hring : s.IsRing R x)
    (hvalues : ∀ y, s.Below y x → R y = R' (ρ y)) : s'.IsRing R' (ρ x) := by
  intro u' hu'
  obtain ⟨u, rfl⟩ := ρ.surjective u'
  have hu := h.tied_iff.1 hu'
  obtain ⟨raw, hraw, next, hasked, hnext⟩ := hring u hu
  obtain ⟨raw', hraw', hvalue⟩ := h.exists_declared hraw
  refine ⟨raw', hraw', ρ next, ?_, ?_⟩
  · rw [hvalue.asked_eq]
    refine List.mem_map_of_mem ?_
    -- what is asked for before is not tied
    by_contra hno
    have hsame : asked (fun name => R' (ρ name)) raw = asked R raw := by
      refine asked_congr fun name hname => ?_
      have hmem := asked_subset _ _ hname
      have hnot : ¬ s.Tied x name := fun htied => hno ((hnext name hmem).1 htied ▸ hname)
      have hlead : TransGen s.Mentions x name := .tail' hu.1 ⟨raw, hraw, hmem⟩
      exact (hvalues name ⟨hlead, fun hback => hnot ⟨hlead.to_reflTransGen, hback⟩⟩).symm
    exact hno (hsame ▸ hasked)
  · rw [hvalue.mentioned_eq]
    intro z' hz'
    obtain ⟨z, hz, rfl⟩ := List.mem_map.1 hz'
    rw [h.tied_iff, hnext z hz, ρ.apply_eq_iff_eq]

end Renamed
end Setting

/-- Under other names, properties have the values that they had, if those that lead back to
themselves do so without fallbacks or in one way only. -/
theorem Resolved.eq_of_renamed {ρ : String ≃ String} {l l' : List (String × Option String)}
    (h : Resolved s p R) (h' : Resolved s' p' R')
    (hasks : Asks (valueM s (s.declared.size + 1) []) ⟨.empty, []⟩ l p)
    (hasks' : Asks (valueM s' (s'.declared.size + 1) []) ⟨.empty, []⟩ l' p')
    (hrenamed : s.Renamed ρ s')
    (hcycles : ∀ x, s.Loops x → s.IsBare x ∨ s.IsRing R x) (x : String) :
    R' (ρ x) = R x := by
  have hundeclared : ∀ x, s.declared.find? x = none → R' (ρ x) = R x := by
    intro x hx
    rw [h.undeclared x hx, h'.undeclared (ρ x), hrenamed.inherited]
    rw [← Option.not_isSome_iff_eq_none, hrenamed.isSome_declared, hx]
    simp
  by_cases hx : (s.declared.find? x).isSome
  · refine s.below_induction (P := fun x => R' (ρ x) = R x) (fun x hx ih => ?_) hx
    have hbelow : ∀ y, s.Below y x → R y = R' (ρ y) := by
      intro y hy
      by_cases hd : (s.declared.find? y).isSome
      · exact (ih y hd hy).symm
      · exact (hundeclared y (Option.not_isSome_iff_eq_none.1 hd)).symm
    by_cases hloops : s.Loops x
    · rcases hcycles x hloops with hbare | hring
      · rw [h.eq_inherited_of_isBare hbare, h'.eq_inherited_of_isBare (hrenamed.isBare hbare),
          hrenamed.inherited]
      · have hring' := hrenamed.isRing hring hbelow
        rw [h.eq_inherited_of_ring hring hasks hloops,
          h'.eq_inherited_of_ring hring' hasks' (hrenamed.loops_iff.2 hloops), hrenamed.inherited]
    · obtain ⟨raw, hraw⟩ := Option.isSome_iff_exists.1 hx
      obtain ⟨raw', hraw', hvalue⟩ := hrenamed.exists_declared hraw
      have heq := (h.looped_or_eq hraw).resolve_left fun hx => hloops hx.1
      have heq' := (h'.looped_or_eq hraw').resolve_left fun hx =>
        hloops (hrenamed.loops_iff.1 hx.1)
      rw [heq, heq']
      refine hvalue.valueWith_eq (fun name hname => hbelow name ?_) (hrenamed.inherited x)
      have hmention : s.Mentions x name := ⟨raw, hraw, hname⟩
      exact ⟨.single hmention, fun hback => hloops (.head' hmention hback)⟩
  · exact hundeclared x (Option.not_isSome_iff_eq_none.1 hx)

end Custom

/-! ### The computed style -/

open Relation

variable {specified : SpecifiedValues} {ctx : ComputeContext} {x : String}

/-- The custom properties that an element declares, and those that it inherits. -/
def customSetting (specified : SpecifiedValues) (ctx : ComputeContext) : Custom.Setting :=
  Custom.settingOf specified ((ctx.parent.map ComputedStyle.customProperties).getD .empty)

theorem find?_customProperties (style : ComputedStyle) (x : String) :
    style.customProperties.find? x = if isCustomName x then style.find? x else none := by
  have h := Cascade.find?_filter_map id isCustomName style.values x
  simpa [ComputedStyle.customProperties, ComputedStyle.find?] using h

theorem find?_inherited (specified : SpecifiedValues) (ctx : ComputeContext) (x : String) :
    (customSetting specified ctx).inherited.find? x =
      if isCustomName x then ctx.parentValue? x else none := by
  change ((ctx.parent.map ComputedStyle.customProperties).getD .empty).find? x = _
  rw [ComputeContext.parentValue?]
  cases ctx.parent with
  | none => exact (ite_self none).symm
  | some parent => exact find?_customProperties parent x

theorem isCustomName_of_declared (h : ((customSetting specified ctx).declared.find? x).isSome) :
    isCustomName x := by
  by_contra hx
  change ((Custom.declaredOnes specified).find? x).isSome at h
  rw [Custom.find?_declaredOnes, if_neg hx] at h
  cases h

/-- A table of known properties has no custom ones. -/
theorem find?_of_known {ps : List Property} (hps : ∀ p ∈ ps, p ∈ Property.all)
    (f : Property → String × String) (hf : ∀ p, (f p).1 = p.name) (hx : isCustomName x) :
    (Table.mk (ps.map f)).find? x = none := by
  have hnames : ∀ p ∈ Property.all, isCustomName p.name = false := by decide +kernel
  refine Table.find?_eq_none_iff.2 fun hmem => ?_
  obtain ⟨p, hp, rfl⟩ := List.mem_map.1 (by simpa [Table.keys] using hmem)
  rw [hf, hnames p (hps p hp)] at hx
  cases hx

/-- Nor have the properties that are not known. -/
theorem find?_unknown_of_custom (scope : Scope) (hx : isCustomName x) :
    scope.unknown.find? x = none := by
  refine Table.find?_eq_none_iff.2 fun hmem => ?_
  obtain ⟨⟨y, text⟩, hy, rfl⟩ := List.mem_map.1 hmem
  obtain ⟨⟨name, v⟩, -, hv⟩ := List.mem_filterMap.1 hy
  simp only [Option.ite_none_left_eq_some, Option.map_eq_some_iff, Prod.mk.injEq] at hv
  obtain ⟨hname, _, -, rfl, -⟩ := hv
  exact hname (by simp [show isCustomName name from hx])

/-- Of the computed style, the custom properties are those that are resolved. -/
theorem find?_customProperties_compute (specified : SpecifiedValues) (ctx : ComputeContext) :
    (compute specified ctx).customProperties.find? = (customsOf specified ctx).find? := by
  funext x
  rw [find?_customProperties]
  split
  · rename_i hx
    rw [ComputedStyle.find?, compute_eq]
    simp only [find?_append]
    generalize (⟨specified, customsOf specified ctx, ctx, ctx.parentFontSize, none, .empty⟩ :
      Scope) = scope
    have hplain : scope.plain.find? x = none :=
      find?_of_known (fun p hp => List.mem_of_mem_filter hp) _ (fun p => by split_ifs <;> rfl) hx
    have hwidths : scope.widths.find? x = none :=
      find?_of_known (fun p hp => List.mem_of_mem_filter hp) _ (fun _ => rfl) hx
    exact congrArg₂ Option.or (congrArg₂ Option.or (congrArg₂ Option.or hplain hwidths)
      (find?_unknown_of_custom scope.styled hx)) rfl
  · rename_i hx
    obtain ⟨l, p, -, hresolved⟩ :=
      Custom.exists_resolved specified ((ctx.parent.map ComputedStyle.customProperties).getD .empty)
    have hnone : (customSetting specified ctx).declared.find? x = none := by
      by_contra hd
      exact hx (isCustomName_of_declared (Option.isSome_iff_ne_none.2 hd))
    have := (hresolved.undeclared x hnone).trans (find?_inherited specified ctx x)
    rw [if_neg hx] at this
    exact this.symm

theorem find?_compute_custom (hx : isCustomName x) :
    (compute specified ctx).find? x = (customsOf specified ctx).find? x := by
  rw [← find?_customProperties_compute, find?_customProperties, if_pos hx]

/-- On each cycle of references some custom property has what it inherits. Any property on a cycle
has, if it leads without fallbacks to a cycle without, or if each property that is tied to it leads
back in one way only. If this holds of all that lead back to themselves, the computed style does not
depend on the names. -/
theorem find?_compute_of_cycles (specified : SpecifiedValues) (ctx : ComputeContext) :
    (∀ x ys, (x :: ys ++ [x]).IsChain (customSetting specified ctx).Depends →
      ∃ y ∈ x :: ys, (compute specified ctx).find? y = ctx.parentValue? y) ∧
    (∀ x, TransGen (customSetting specified ctx).Depends x x →
      (customSetting specified ctx).IsBare x ∨
        (customSetting specified ctx).IsRing (compute specified ctx).customProperties.find? x →
      (compute specified ctx).find? x = ctx.parentValue? x) ∧
    ∀ (ρ : String ≃ String) (specified' : SpecifiedValues) (ctx' : ComputeContext),
      (customSetting specified ctx).Renamed ρ (customSetting specified' ctx') →
      (∀ x, (customSetting specified ctx).Loops x → (customSetting specified ctx).IsBare x ∨
        (customSetting specified ctx).IsRing (compute specified ctx).customProperties.find? x) →
      ∀ x, (compute specified' ctx').customProperties.find? (ρ x) =
        (compute specified ctx).customProperties.find? x := by
  have hresolved := Custom.exists_resolved
  simp only [find?_customProperties_compute]
  obtain ⟨l, p, hasks, h⟩ := hresolved specified
    ((ctx.parent.map ComputedStyle.customProperties).getD .empty)
  have hinherited : ∀ x, ((customSetting specified ctx).declared.find? x).isSome →
      (customsOf specified ctx).find? x = (customSetting specified ctx).inherited.find? x →
      (compute specified ctx).find? x = ctx.parentValue? x := by
    intro x hx heq
    have hname := isCustomName_of_declared hx
    rw [find?_compute_custom hname, heq, find?_inherited, if_pos hname]
  refine ⟨fun x ys hcycle => ?_, fun x hx hcond => ?_, fun ρ specified' ctx' hrenamed hcycles => ?_⟩
  · obtain ⟨y, hy, heq⟩ := h.exists_mem_eq_inherited hcycle
    exact ⟨y, hy, hinherited y (Custom.Setting.declared_of_isChain hcycle y hy) heq⟩
  · have hloops := Custom.Setting.loops_of_depends hx
    refine hinherited x hloops.declared ?_
    rcases hcond with hbare | hring
    · exact h.eq_inherited_of_isBare hbare
    · exact h.eq_inherited_of_ring hring hasks hloops
  · obtain ⟨l', p', hasks', h'⟩ := hresolved specified'
      ((ctx'.parent.map ComputedStyle.customProperties).getD .empty)
    exact h.eq_of_renamed h' hasks hasks' hrenamed hcycles

/-- Names that are in order are resolved as they come. -/
theorem customsOf_of_pairwise
    (h : (Custom.declaredOnes specified).keys.Pairwise fun a b => !decide (b < a)) :
    customsOf specified ctx =
      (Custom.resolveAll (customSetting specified ctx) (Custom.declaredOnes specified).keys).foldl
        Custom.record (customSetting specified ctx).inherited := by
  rw [customsOf, Custom.resolve, List.mergeSort_of_pairwise h]
  rfl

/-- Declared values with the given texts. -/
def declaring (texts : List (String × String)) : SpecifiedValues :=
  ⟨texts.map fun (name, text) => (name, .declared text)⟩

/-- An element whose parent has values for custom properties. -/
def innerContext (customs : List (String × String)) : ComputeContext :=
  ⟨.screen 800.0 600.0, some ⟨⟨customs⟩⟩, 16.0, none⟩

/-- Two properties that refer to each other, and one that refers to itself, with a fallback. -/
def mutualReferences (name : String) : SpecifiedValues := declaring
  [(name, "var(--b)"), ("--b", "var(" ++ name ++ ")"), ("--c", "var(--c, 1px)")]

theorem find?_compute_of_cycles_mutualReferences :
    let ctx := innerContext [("--c", "5px")]
    let s := customSetting (mutualReferences "--a") ctx
    let style := compute (mutualReferences "--a") ctx
    ["--a", "--b", "--a"].IsChain s.Depends ∧ s.IsBare "--a" ∧
      s.IsRing style.customProperties.find? "--c" ∧
      s.Renamed (Equiv.swap "--a" "--z") (customSetting (mutualReferences "--z") ctx) ∧
      style.find? "--a" = none ∧ style.find? "--c" = some "5px" ∧
      ∀ x, (compute (mutualReferences "--z") ctx).customProperties.find?
        (Equiv.swap "--a" "--z" x) = style.customProperties.find? x := by
  intro ctx s style
  obtain ⟨-, hinherited, hrenamed⟩ := find?_compute_of_cycles (mutualReferences "--a") ctx
  have hab : s.Bare "--a" "--b" := ⟨"var(--b)", by decide +kernel⟩
  have hba : s.Bare "--b" "--a" := ⟨"var(--a)", by decide +kernel⟩
  have ha : s.IsBare "--a" := ⟨"--a", .refl, .tail (.single hab) hba⟩
  have hb : s.IsBare "--b" := ⟨"--a", .single hba, .tail (.single hab) hba⟩
  have hc : s.Depends "--c" "--c" :=
    ⟨"var(--c, 1px)", some (tokenize " 1px"), by decide +kernel⟩
  have hring : s.IsRing style.customProperties.find? "--c" := by
    have honly : ∀ y, ReflTransGen s.Mentions "--c" y → y = "--c" := by
      intro y hy
      induction hy with
      | refl => rfl
      | tail _ hyz ih =>
        obtain ⟨raw, hraw, hz⟩ := hyz
        rw [ih, show s.declared.find? "--c" = some "var(--c, 1px)" by decide +kernel] at hraw
        obtain rfl := Option.some.inj hraw
        rw [show Substitution.mentioned "var(--c, 1px)" = ["--c"] by decide +kernel] at hz
        exact List.mem_singleton.1 hz
    intro y hy
    obtain rfl := honly y hy.1
    refine ⟨"var(--c, 1px)", by decide +kernel, "--c", ?_, fun z _ => ?_⟩
    · rw [find?_customProperties_compute, customsOf_of_pairwise (by decide +kernel)]
      decide +kernel
    · exact ⟨fun hz => honly z hz.1, by rintro rfl; exact ⟨.refl, .refl⟩⟩
  have hnames : s.Renamed (Equiv.swap "--a" "--z") (customSetting (mutualReferences "--z") ctx) := by
    decide +kernel
  refine ⟨.cons_cons hab.depends (.cons_cons hba.depends (.singleton _)), ha, hring, hnames, ?_, ?_,
    hrenamed _ _ _ hnames fun x hx => ?_⟩
  · exact (hinherited "--a" (.tail (.single hab.depends) hba.depends) (.inl ha)).trans
      (by decide +kernel)
  · exact (hinherited "--c" (.single hc) (.inr hring)).trans (by decide +kernel)
  · have hkeys : x ∈ ["--a", "--b", "--c"] := by
      by_contra hno
      have hnone : s.declared.find? x = none := Table.find?_eq_none_iff.2 hno
      have hx := hx.declared
      rw [hnone] at hx
      cases hx
    simp only [List.mem_cons, List.not_mem_nil, or_false] at hkeys
    rcases hkeys with rfl | rfl | rfl
    · exact .inl ha
    · exact .inl hb
    · exact .inr hring

/-- Otherwise it fails. The search does not get to a reference behind one without a value, so that it
finds no cycle there; and where properties lead back in several ways, it is done with some before it
finds the cycle that they are on, and with which ones depends on the names. -/
theorem not_find?_compute_of_cycles :
    let ctx := innerContext []
    let stopped := declaring [("--a", "var(--b,1)"), ("--b", "var(--none) var(--a)")]
    let shared := declaring
      [("--a", "var(--b,1) var(--c,2)"), ("--b", "var(--a)"), ("--c", "var(--b,3)")]
    let renamed := declaring
      [("--0", "var(--b,3)"), ("--a", "var(--b,1) var(--0,2)"), ("--b", "var(--a)")]
    (["--a", "--b", "--a"].IsChain (customSetting stopped ctx).Depends ∧
      (compute stopped ctx).find? "--a" = some "1" ∧ ctx.parentValue? "--a" = none) ∧
    (customSetting shared ctx).Renamed (Equiv.swap "--c" "--0") (customSetting renamed ctx) ∧
      (compute shared ctx).find? "--c" = some "3" ∧ (compute renamed ctx).find? "--0" = none := by
  intro ctx stopped shared renamed
  have hab : (customSetting stopped ctx).Depends "--a" "--b" :=
    ⟨"var(--b,1)", some (tokenize "1"), by decide +kernel⟩
  have hba : (customSetting stopped ctx).Depends "--b" "--a" :=
    ⟨"var(--none) var(--a)", none, by decide +kernel⟩
  refine ⟨⟨.cons_cons hab (.cons_cons hba (.singleton _)), ?_, by decide +kernel⟩,
    by decide +kernel, ?_, ?_⟩ <;>
    rw [find?_compute_custom (by decide +kernel), customsOf_of_pairwise (by decide +kernel)] <;>
    decide +kernel

end WebStyle
