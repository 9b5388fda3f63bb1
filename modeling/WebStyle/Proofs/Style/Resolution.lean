import Mathlib.Data.List.TakeWhile
import WebStyle.Proofs.Dom.Walks
import WebStyle.Style.Resolution
/-!
Computed styles with a cache are those without one, as long as what the cache holds is right; and
what is put into it is right.
-/
set_option autoImplicit false

namespace WebStyle

theorem GenerationCache.find?_insert {κ α : Type} [DecidableEq κ] (c : GenerationCache κ α)
    (k k' : κ) (v : α) : (c.insert k v).find? k' = if k = k' then some v else c.find? k' :=
  Table.find?_insert c.entries k k' v

namespace StyleContext

variable {ctx : StyleContext} {cache : StyleCache} {n : NodeId} {pseudo : Option PseudoElement}

/-- Computes one more element on the way down, without a cache. -/
def descendFresh (ctx : StyleContext) (above : Inherited) (n : NodeId) : Inherited :=
  let s := ctx.styleOf n none above.parent above.rootFontSize
  ⟨some s, if above.parent.isNone then s.fontSize else above.rootFontSize⟩

/-- What an element leaves to those below it. -/
def inheritance (ctx : StyleContext) (n : NodeId) : Inherited :=
  (n :: ctx.dom.ancestorElements n).reverse.foldl ctx.descendFresh ⟨none, ctx.env.rootFontSize⟩

/-- The style that does not depend on any cache. -/
def freshStyle (ctx : StyleContext) (n : NodeId) : Option PseudoElement → ComputedStyle
  | none => (ctx.inheritance n).parent.getD ⟨.empty⟩
  | some p =>
    ctx.styleOf n (some p) (ctx.inheritance n).parent (ctx.inheritance n).rootFontSize

/-- Whether a cache holds nothing but styles of elements as they are now. -/
def IsFresh (ctx : StyleContext) (cache : StyleCache) : Prop :=
  ∀ n pseudo style, cache.find? (n, pseudo) = some style →
    (ctx.dom.isElement n ∧ ctx.dom.Grounded n) ∧ style = ctx.freshStyle n pseudo

theorem isFresh_empty (ctx : StyleContext) (generation : Option Nat) :
    ctx.IsFresh ⟨generation, .empty⟩ := by
  intro n pseudo style h
  simp [GenerationCache.find?] at h

/-- What is computed and put into the cache is the fresh style, and so is what was there. -/
theorem IsFresh.cached (h : ctx.IsFresh cache) (he : ctx.dom.isElement n)
    (hg : ctx.dom.Grounded n) (style : Unit → ComputedStyle)
    (hs : style () = ctx.freshStyle n pseudo) :
    ∃ cache', (StyleContext.cached (n, pseudo) style).run cache =
      (ctx.freshStyle n pseudo, cache') ∧
      cache'.generation = cache.generation ∧ ctx.IsFresh cache' := by
  cases hf : cache.find? (n, pseudo) with
  | some s =>
    refine ⟨cache, ?_, rfl, h⟩
    rw [← (h n pseudo s hf).2]
    simp only [StyleContext.cached, StateT.run_bind, StateT.run_get, pure_bind, hf]
    rfl
  | none =>
    refine ⟨cache.insert (n, pseudo) (ctx.freshStyle n pseudo), ?_, rfl, fun n' pseudo' s hf' => ?_⟩
    · simp only [StyleContext.cached, StateT.run_bind, StateT.run_get, pure_bind, hf, hs]
      rfl
    · rw [GenerationCache.find?_insert] at hf'
      split at hf'
      · rename_i hk
        obtain ⟨rfl, rfl⟩ := Prod.mk.inj hk
        exact ⟨⟨he, hg⟩, (Option.some.inj hf').symm⟩
      · exact h n' pseudo' s hf'

section Chain

variable (hd : ctx.dom.Consistent)
include hd

/-- An element inherits from its parent element. -/
theorem inheritance_eq (hg : ctx.dom.Grounded n) : ctx.inheritance n =
    ctx.descendFresh (((ctx.dom.parentElement? n).map ctx.inheritance).getD
      ⟨none, ctx.env.rootFontSize⟩) n := by
  rw [inheritance, hg.ancestorElements_eq hd]
  cases hp : ctx.dom.parentElement? n with
  | none => rfl
  | some p => simp [inheritance]

theorem run_descend (h : ctx.IsFresh cache) (he : ctx.dom.isElement n) (hg : ctx.dom.Grounded n) :
    ∃ cache', (ctx.descend (((ctx.dom.parentElement? n).map ctx.inheritance).getD
        ⟨none, ctx.env.rootFontSize⟩) n).run cache = (ctx.inheritance n, cache') ∧
      cache'.generation = cache.generation ∧ ctx.IsFresh cache' := by
  have heq := ctx.inheritance_eq hd hg
  have hstyle : ctx.freshStyle n none = ctx.styleOf n none
      (((ctx.dom.parentElement? n).map ctx.inheritance).getD ⟨none, ctx.env.rootFontSize⟩).parent
      (((ctx.dom.parentElement? n).map ctx.inheritance).getD
        ⟨none, ctx.env.rootFontSize⟩).rootFontSize := by
    rw [freshStyle, heq]
    rfl
  obtain ⟨cache', hrun, hgen, hfresh⟩ := h.cached he hg (fun _ => _) hstyle.symm
  refine ⟨cache', ?_, hgen, hfresh⟩
  rw [descend, StateT.run_bind, hrun, heq, descendFresh, hstyle]
  rfl

/-- Going down to an element gives what it leaves to others, whatever the cache holds already. -/
theorem run_foldlM (h : ctx.IsFresh cache) (he : ctx.dom.isElement n) (hg : ctx.dom.Grounded n) :
    ∃ cache', ((n :: ctx.dom.ancestorElements n).reverse.foldlM ctx.descend
        ⟨none, ctx.env.rootFontSize⟩).run cache = (ctx.inheritance n, cache') ∧
      cache'.generation = cache.generation ∧ ctx.IsFresh cache' := by
  induction hg generalizing cache with
  | intro n hn ih =>
    have hg : ctx.dom.Grounded n := .intro n hn
    rw [hg.ancestorElements_eq hd]
    cases hp : ctx.dom.parentElement? n with
    | none =>
      obtain ⟨cache', hrun, hgen, hfresh⟩ := run_descend hd h he hg
      refine ⟨cache', ?_, hgen, hfresh⟩
      rw [hp, Option.map_none, Option.getD_none] at hrun
      simpa using hrun
    | some p =>
      obtain ⟨hpar, hep⟩ := Dom.parentElement?_eq_some_iff.1 hp
      obtain ⟨cache₁, hrun₁, hgen₁, hfresh₁⟩ := ih p hpar h hep
      obtain ⟨cache₂, hrun₂, hgen₂, hfresh₂⟩ := run_descend hd hfresh₁ he hg
      refine ⟨cache₂, ?_, hgen₂.trans hgen₁, hfresh₂⟩
      rw [hp, Option.map_some, Option.getD_some] at hrun₂
      rw [List.reverse_cons, List.foldlM_append, StateT.run_bind, hrun₁]
      refine Eq.trans ?_ hrun₂
      simp only [List.foldlM_cons, List.foldlM_nil, bind_pure]
      rfl

/-- With a right cache, the style is the one without a cache, and the cache stays right. -/
theorem run_computedStyleM (h : ctx.IsFresh cache) (he : ctx.dom.isElement n)
    (hg : ctx.dom.Grounded n) (pseudo : Option PseudoElement) :
    ∃ cache', (ctx.computedStyleM n pseudo).run cache = (ctx.freshStyle n pseudo, cache') ∧
      cache'.generation = cache.generation ∧ ctx.IsFresh cache' := by
  obtain ⟨cache₁, hrun₁, hgen₁, hfresh₁⟩ := run_foldlM hd h he hg
  cases pseudo with
  | none =>
    refine ⟨cache₁, ?_, hgen₁, hfresh₁⟩
    simp only [computedStyleM, StateT.run_bind, hrun₁]
    rfl
  | some p =>
    have hstyle : ctx.styleOf n (some p) (ctx.inheritance n).parent
        (ctx.inheritance n).rootFontSize = ctx.freshStyle n (some p) := rfl
    obtain ⟨cache₂, hrun₂, hgen₂, hfresh₂⟩ := hfresh₁.cached he hg (fun _ => _) hstyle
    refine ⟨cache₂, ?_, hgen₂.trans hgen₁, hfresh₂⟩
    simp only [computedStyleM, StateT.run_bind, hrun₁]
    exact hrun₂

theorem computedStyle_eq_freshStyle (he : ctx.dom.isElement n) (hg : ctx.dom.Grounded n)
    (pseudo : Option PseudoElement) : ctx.computedStyle n pseudo = ctx.freshStyle n pseudo := by
  obtain ⟨cache', hrun, -⟩ := run_computedStyleM hd (isFresh_empty ctx none) he hg pseudo
  rw [computedStyle, GenerationCache.empty, hrun]

end Chain

/-! ### Contexts that agree -/

/-- Whether two contexts say the same about the elements of the first. -/
structure Agrees (ctx ctx' : StyleContext) : Prop where
  isElement : ∀ n, ctx.dom.isElement n → ctx'.dom.isElement n
  grounded : ∀ n, ctx.dom.Grounded n → ctx'.dom.Grounded n
  ancestorElements : ∀ n, ctx.dom.Grounded n →
    ctx'.dom.ancestorElements n = ctx.dom.ancestorElements n
  env : ctx'.env = ctx.env
  layout : ctx'.layout = ctx.layout
  inline : ctx'.inline = ctx.inline
  cascade : ∀ n pseudo, ctx.dom.isElement n → ctx.dom.Grounded n →
    cascade (matchedRules ctx'.model ctx'.env ctx'.sheets ctx'.dom n pseudo) =
      cascade (matchedRules ctx.model ctx.env ctx.sheets ctx.dom n pseudo)

namespace Agrees

variable {ctx' : StyleContext} (h : ctx.Agrees ctx')
include h

theorem styleOf_eq (he : ctx.dom.isElement n) (hg : ctx.dom.Grounded n)
    (pseudo : Option PseudoElement) : ctx'.styleOf n pseudo = ctx.styleOf n pseudo := by
  funext parent rootFontSize
  simp only [styleOf, h.cascade n pseudo he hg, h.inline, h.layout]
  rw [h.env]

theorem inheritance_eq (hd : ctx.dom.Consistent) (he : ctx.dom.isElement n)
    (hg : ctx.dom.Grounded n) : ctx'.inheritance n = ctx.inheritance n := by
  rw [inheritance, inheritance, h.ancestorElements n hg, h.env]
  refine List.foldl_ext _ _ _ fun above m hm => ?_
  have hm' : ctx.dom.isElement m ∧ ctx.dom.Grounded m := by
    rcases List.mem_cons.1 (List.mem_reverse.1 hm) with rfl | hm
    · exact ⟨he, hg⟩
    · refine ⟨List.mem_takeWhile_imp hm, ?_⟩
      exact (hg.isWalk hd).grounded_of_mem hg ((List.takeWhile_sublist _).mem hm)
  rw [descendFresh, descendFresh, h.styleOf_eq hm'.1 hm'.2]

theorem freshStyle_eq (hd : ctx.dom.Consistent) (he : ctx.dom.isElement n)
    (hg : ctx.dom.Grounded n) (pseudo : Option PseudoElement) :
    ctx'.freshStyle n pseudo = ctx.freshStyle n pseudo := by
  cases pseudo with
  | none => rw [freshStyle, freshStyle, h.inheritance_eq hd he hg]
  | some p => rw [freshStyle, freshStyle, h.inheritance_eq hd he hg, h.styleOf_eq he hg]

/-- A cache that is right stays right where contexts agree. -/
theorem isFresh (hd : ctx.dom.Consistent) (hc : ctx.IsFresh cache) : ctx'.IsFresh cache := by
  intro n pseudo style hf
  obtain ⟨⟨he, hg⟩, rfl⟩ := hc n pseudo style hf
  exact ⟨⟨h.isElement n he, h.grounded n hg⟩, (h.freshStyle_eq hd he hg pseudo).symm⟩

end Agrees

end StyleContext
end WebStyle
