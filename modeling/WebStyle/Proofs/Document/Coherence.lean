import WebStyle.Document.Styling
import WebStyle.Proofs.Dom.Creation
import WebStyle.Proofs.ObjectModel.Edit
import WebStyle.Proofs.Style.Applied
import WebStyle.Proofs.Style.Resolution
/-!
What a document keeps of the styles it computed. As long as no change waits to be noticed, and the
tree is still of the same generation, this is what would be computed anew.
-/
set_option autoImplicit false

namespace WebStyle
namespace Document

/-- All that styles depend on as it is now, with the `style` attributes read again. -/
def currentContext (d : Document) : StyleContext :=
  ⟨d.model, d.appliedSheets, d.dom, d.settings.env, d.layout, inlineBlocks d.dom⟩

/-- Whether what is kept of earlier results is still right, where it can be used. -/
structure Coherent (d : Document) : Prop where
  dom : d.dom.Consistent
  model : d.model.Sound d.appliedSheets
  cacheGeneration : ∀ g, d.cache.generation = some g → g ≤ d.dom.generation
  inlineGeneration : ∀ g, d.inlineGeneration = some g → g ≤ d.dom.generation
  inline : d.dom.Grounded d.dom.document → d.inlineGeneration = some d.dom.generation →
    d.inline = inlineBlocks d.dom
  cache : d.dom.Grounded d.dom.document → d.model.changes = [] →
    d.cache.generation = some d.dom.generation → d.currentContext.IsFresh d.cache

variable {d : Document} {m : ObjectModel} {s : SheetId} {n : NodeId}

theorem matchedRules_congr {m m' : ObjectModel} {env : MediaEnvironment} {l l' : List SheetId}
    {dom dom' : Dom} (ha : m'.appliedRules env l' = m.appliedRules env l)
    (hm : ∀ n pseudo, dom.isElement n → dom.Grounded n →
      dom'.matchSpecificity? n pseudo = dom.matchSpecificity? n pseudo)
    (n : NodeId) (pseudo : Option PseudoElement) (he : dom.isElement n) (hg : dom.Grounded n) :
    matchedRules m' env l' dom' n pseudo = matchedRules m env l dom n pseudo := by
  rw [matchedRules, matchedRules, ha]
  simp only [hm n pseudo he hg]

/-- Contexts agree if the same rules apply in them. -/
theorem agrees_of_appliedRules {ctx : StyleContext} {sheets : List SheetId}
    (ha : m.appliedRules ctx.env sheets = ctx.model.appliedRules ctx.env ctx.sheets) :
    ctx.Agrees { ctx with model := m, sheets } :=
  ⟨fun _ h => h, fun _ h => h, fun _ _ => rfl, rfl, rfl, rfl,
    fun n pseudo he hg => congrArg cascade
      (matchedRules_congr ha (fun _ _ _ _ => rfl) n pseudo he hg)⟩

theorem isSome_of_mem_elements {dom : Dom} (hd : dom.Consistent) (hn : n ∈ dom.elements) :
    (dom.node? n).isSome :=
  hd.isSome_of_mem_descendants (List.mem_filter.1 hn).1

theorem inlineBlocks_eq {dom dom' : Dom} (h : dom.Extends dom')
    (hg : dom.Grounded dom.document) : inlineBlocks dom' = inlineBlocks dom := by
  rw [inlineBlocks, inlineBlocks, h.elements_eq hg]
  congr 1
  refine List.filterMap_congr fun n hn => ?_
  rw [h.attribute?_eq (isSome_of_mem_elements h.consistent hn)]

theorem agrees_of_extends {ctx : StyleContext} {dom : Dom} (h : ctx.dom.Extends dom) :
    ctx.Agrees { ctx with dom } where
  isElement _ hn := h.isElement hn
  grounded _ hn := h.grounded hn
  ancestorElements _ hn := h.ancestorElements_eq hn
  env := rfl
  layout := rfl
  inline := rfl
  cascade n pseudo he hg := by
    refine congrArg WebStyle.cascade (matchedRules_congr rfl (fun n pseudo he hg => ?_) n pseudo
      he hg)
    funext l
    exact h.matchSpecificity?_eq (Dom.isSome_node?_of_isElement he) hg pseudo l

namespace Coherent

variable (h : d.Coherent)
include h

/-- A change of the tree counts up its generation, or makes no difference. -/
theorem editDom (e : Dom.Edit) : { d with dom := e.apply d.dom }.Coherent := by
  rcases h.dom.lt_generation_or_extends e with hlt | hext
  · refine ⟨h.dom.apply e, h.model, fun g hg => ?_, fun g hg => ?_, fun _ hg => ?_,
      fun _ _ hg => ?_⟩
    · exact Nat.le_trans (h.cacheGeneration g hg) (Nat.le_of_lt hlt)
    · exact Nat.le_trans (h.inlineGeneration g hg) (Nat.le_of_lt hlt)
    · exact absurd (h.inlineGeneration _ hg) (Nat.not_le_of_lt hlt)
    · exact absurd (h.cacheGeneration _ hg) (Nat.not_le_of_lt hlt)
  · have hground : (e.apply d.dom).Grounded (e.apply d.dom).document →
        d.dom.Grounded d.dom.document := by
      intro hg
      rw [hext.document] at hg
      exact hg.of_parents fun c p hp => by rwa [hext.parent]
    refine ⟨h.dom.apply e, h.model, fun g hg => ?_, fun g hg => ?_, fun hg hi => ?_,
      fun hg hch hc => ?_⟩
    · rw [hext.generation]
      exact h.cacheGeneration g hg
    · rw [hext.generation]
      exact h.inlineGeneration g hg
    · rw [hext.generation] at hi
      exact (h.inline (hground hg) hi).trans (inlineBlocks_eq hext (hground hg)).symm
    · rw [hext.generation] at hc
      have hctx : { d with dom := e.apply d.dom }.currentContext =
          { d.currentContext with dom := e.apply d.dom } := by
        simp only [currentContext, inlineBlocks_eq hext (hground hg)]
        rfl
      have hagrees : d.currentContext.Agrees { d.currentContext with dom := e.apply d.dom } :=
        agrees_of_extends hext
      rw [hctx]
      exact hagrees.isFresh h.dom (h.cache (hground hg) hch hc)

/-- A change of the object model is noted, or makes no difference. -/
theorem editModel (he : d.model.Edits d.appliedSheets m) : { d with model := m }.Coherent := by
  refine ⟨h.dom, he.sound, h.cacheGeneration, h.inlineGeneration, h.inline, fun hg hch hc => ?_⟩
  obtain ⟨l, hl⟩ := he.evolves.changes
  have hnil : d.model.changes = [] := by
    have happend : d.model.changes ++ l = [] := hl.symm.trans hch
    exact (List.append_eq_nil_iff.1 happend).1
  have hq : d.model.Quiet d.appliedSheets m := he.quiet (hch.trans hnil.symm)
  have hagrees : d.currentContext.Agrees { d.currentContext with model := m } :=
    
    agrees_of_appliedRules (hq.appliedRules_eq h.model he.evolves.sheetsGrow.size_le
      he.evolves.rulesGrow.size_le)
  exact hagrees.isFresh h.dom (h.cache hg hnil hc)

/-- A sheet is added to the document's when this is noted, or when it has no rules yet. -/
theorem register (hs : d.model.Sound (s :: d.appliedSheets))
    (hrules : d.model.changes ≠ [] ∨ ∃ sheet, d.model.sheet? s = some sheet ∧ sheet.rules = []) :
    { d with sheets := d.sheets ++ [s] }.Coherent := by
  have happlied : { d with sheets := d.sheets ++ [s] }.appliedSheets = d.appliedSheets ++ [s] := by
    simp [appliedSheets]
  refine ⟨h.dom, ?_, h.cacheGeneration, h.inlineGeneration, h.inline, fun hg hch hc => ?_⟩
  · rw [happlied]
    exact hs.held_subset fun x hx => by simpa [or_comm] using hx
  · obtain ⟨sheet, hsheet, hnone⟩ := hrules.resolve_left (not_not_intro hch)
    have hsame : d.model.appliedRules d.settings.env (d.appliedSheets ++ [s]) =
        d.model.appliedRules d.settings.env d.appliedSheets := by
      simp [ObjectModel.appliedRules, ObjectModel.sheetRules, hsheet, hnone]
    have hagrees : d.currentContext.Agrees
        { d.currentContext with sheets := d.appliedSheets ++ [s] } := agrees_of_appliedRules hsame
    rw [currentContext, happlied]
    exact hagrees.isFresh h.dom (h.cache hg hch hc)

theorem setLayout (layout : NodeId → Option BlockSize) : (d.setLayout layout).Coherent :=
  ⟨h.dom, h.model, fun g hg => by simp [Document.setLayout, GenerationCache.empty] at hg,
    h.inlineGeneration, h.inline, fun _ _ hc => by
      simp [Document.setLayout, GenerationCache.empty] at hc⟩

/-- Sheets that are forgotten while a change waits to be noticed. -/
theorem forgetSheets {l : List SheetId} (hl : l ⊆ d.sheets) (hch : d.model.changes ≠ []) :
    { d with sheets := l }.Coherent := by
  refine ⟨h.dom, h.model.held_subset ?_, h.cacheGeneration, h.inlineGeneration, h.inline,
    fun _ hch' => absurd hch' hch⟩
  intro x hx
  simp only [appliedSheets, List.mem_append] at hx ⊢
  exact hx.imp id fun hx => hl hx

theorem of_loads (loads : LoadQueue LoadTarget) (encodings : Table SheetId Encoding) :
    { d with loads, encodings }.Coherent :=
  ⟨h.dom, h.model, h.cacheGeneration, h.inlineGeneration, h.inline, h.cache⟩

theorem setCharset (label : String) : (d.setCharset label).Coherent := by
  rw [Document.setCharset]
  generalize (Encoding.ofLabel? (Text.trim label)).getD d.encoding = encoding
  exact ⟨h.dom, h.model, h.cacheGeneration, h.inlineGeneration, h.inline, h.cache⟩

theorem discard : d.discard.Coherent :=
  ⟨h.dom, h.model, h.cacheGeneration, h.inlineGeneration, h.inline, h.cache⟩

end Coherent

/-! ### Taking notice -/

theorem exists_schedule (front : Bool) (d : Document) (i : SheetId × RuleId) :
    ∃ loads, schedule front d i = { d with loads } := by
  simp only [schedule]
  split
  · split
    · exact ⟨d.loads, rfl⟩
    · exact ⟨_, rfl⟩
  · exact ⟨d.loads, rfl⟩

theorem exists_foldl_schedule (front : Bool) (l : List (SheetId × RuleId)) (d : Document) :
    ∃ loads, l.foldl (schedule front) d = { d with loads } := by
  induction l generalizing d with
  | nil => exact ⟨d.loads, rfl⟩
  | cons i l ih =>
    obtain ⟨loads, hl⟩ := exists_schedule front d i
    obtain ⟨loads', hl'⟩ := ih { d with loads }
    exact ⟨loads', by rw [List.foldl_cons, hl, hl']⟩

theorem exists_dropRemoved (d : Document) (removed : List SheetId) :
    ∃ encodings loads, d.dropRemoved removed = { d with encodings, loads } := by
  cases removed with
  | nil => exact ⟨d.encodings, d.loads, rfl⟩
  | cons s l => exact ⟨_, _, rfl⟩

/-- The imports that were noted, in the order in which they are queued. -/
def announced (d : Document) (first : Bool) : List (SheetId × RuleId) :=
  if first then (d.model.changes.filterMap Change.imported?).reverse
  else d.model.changes.filterMap Change.imported?

theorem notice_eq (d : Document) (first : Bool) (hch : d.model.changes ≠ []) :
    d.notice first = (d.announced first).foldl (schedule first)
      ({ d with model := { d.model with changes := [] }, cache := .empty }.dropRemoved
        (d.model.changes.filterMap Change.removed?)) := by
  have hempty : d.model.changes.isEmpty = false := by simpa using hch
  simp only [notice, ObjectModel.takeChanges, hempty, Bool.false_eq_true, ↓reduceIte, announced]
  cases first <;> rfl

/-- Noticing changes clears the cache, and concerns loads and encodings otherwise. -/
theorem exists_notice (d : Document) (first : Bool) (hch : d.model.changes ≠ []) :
    ∃ encodings loads, d.notice first =
      { d with model := { d.model with changes := [] }, cache := .empty, encodings, loads } := by
  obtain ⟨encodings, loads, hdrop⟩ := exists_dropRemoved
    { d with model := { d.model with changes := [] }, cache := .empty }
    (d.model.changes.filterMap Change.removed?)
  obtain ⟨loads', hl⟩ := exists_foldl_schedule first (d.announced first)
    { d with model := { d.model with changes := [] }, cache := .empty, encodings, loads }
  exact ⟨encodings, loads', by rw [notice_eq d first hch, hdrop, hl]⟩

theorem notice_of_nil (d : Document) (first : Bool) (hch : d.model.changes = []) :
    d.notice first = d := by
  simp [notice, ObjectModel.takeChanges, hch]

theorem Coherent.notice (h : d.Coherent) (first : Bool) : (d.notice first).Coherent := by
  by_cases hch : d.model.changes = []
  · rwa [notice_of_nil d first hch]
  · obtain ⟨encodings, loads, heq⟩ := exists_notice d first hch
    rw [heq]
    exact ⟨h.dom, h.model.congr rfl rfl, fun g hg => by simp [GenerationCache.empty] at hg,
      h.inlineGeneration, h.inline, fun _ _ hc => by simp [GenerationCache.empty] at hc⟩

theorem changes_notice (d : Document) (first : Bool) : (d.notice first).model.changes = [] := by
  by_cases hch : d.model.changes = []
  · rwa [notice_of_nil d first hch]
  · obtain ⟨encodings, loads, heq⟩ := exists_notice d first hch
    rw [heq]

theorem dom_notice (d : Document) (first : Bool) : (d.notice first).dom = d.dom := by
  by_cases hch : d.model.changes = []
  · rw [notice_of_nil d first hch]
  · obtain ⟨encodings, loads, heq⟩ := exists_notice d first hch
    rw [heq]

/-! ### Asking for styles -/

section Styles

variable (h : d.Coherent)
include h

/-- Noticing changes does not change the styles that should be given. -/
theorem Coherent.agrees_notice (first : Bool) :
    d.currentContext.Agrees (d.notice first).currentContext := by
  by_cases hch : d.model.changes = []
  · rw [notice_of_nil d first hch]
    exact agrees_of_appliedRules rfl
  · obtain ⟨encodings, loads, heq⟩ := exists_notice d first hch
    have hquiet : d.model.Quiet d.appliedSheets { d.model with changes := [] } :=
      .of_lookups (fun _ => rfl) fun _ => rfl
    rw [heq]
    exact agrees_of_appliedRules
      (hquiet.appliedRules_eq h.model (Nat.le_refl _) (Nat.le_refl _))

theorem Coherent.refreshInline_eq (hdoc : d.dom.Grounded d.dom.document) (cache : StyleCache) :
    { d with cache := cache }.refreshInline =
      { d with cache := cache, inline := inlineBlocks d.dom,
               inlineGeneration := some d.dom.generation } := by
  rw [refreshInline]
  split
  · rename_i hi
    rw [← h.inline hdoc hi, ← hi]
  · rfl

/-- Where no change waits to be noticed, the style that is given is the one as of now, and what is
kept stays right. -/
theorem Coherent.computedStyle_of_nil (hch : d.model.changes = []) (he : d.dom.isElement n)
    (hg : d.dom.Grounded n) (hdoc : d.dom.Grounded d.dom.document)
    (pseudo : Option PseudoElement) :
    (d.computedStyle n pseudo).1 = d.currentContext.freshStyle n pseudo ∧
      (d.computedStyle n pseudo).2.Coherent := by
  have hcache : d.currentContext.IsFresh (d.cache.validate d.dom.generation).1 ∧
      (d.cache.validate d.dom.generation).1.generation = some d.dom.generation := by
    rw [GenerationCache.validate]
    split
    · rename_i hc
      exact ⟨h.cache hdoc hch hc, hc⟩
    · exact ⟨d.currentContext.isFresh_empty _, rfl⟩
  generalize hvalid : (d.cache.validate d.dom.generation).1 = cache at hcache
  obtain ⟨cache', hrun, hgen, hfresh⟩ :=
    StyleContext.run_computedStyleM h.dom hcache.1 he hg pseudo
  have hcomputed : d.computedStyle n pseudo = (d.currentContext.freshStyle n pseudo,
      { d with cache := cache', inline := inlineBlocks d.dom,
               inlineGeneration := some d.dom.generation }) := by
    have hrefresh := h.refreshInline_eq hdoc cache
    have hsync : d.sync = d := notice_of_nil d false hch
    simp only [Document.computedStyle, hsync, he, Bool.not_true, Bool.false_eq_true, ↓reduceIte,
      hvalid, hrefresh]
    rw [styleContext, appliedSheets]
    exact congrArg (fun run => (run.1, { d with cache := run.2, inline := inlineBlocks d.dom,
                                                inlineGeneration := some d.dom.generation })) hrun
  rw [hcomputed]
  refine ⟨rfl, h.dom, h.model, fun g hg => ?_, fun g hg => ?_, fun _ _ => rfl,
    fun _ _ _ => hfresh⟩
  · rw [hgen, hcache.2] at hg
    exact Nat.le_of_eq (Option.some.inj hg).symm
  · exact Nat.le_of_eq (Option.some.inj hg).symm

end Styles

end Document
end WebStyle
