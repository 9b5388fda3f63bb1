import WebStyle.Proofs.Document.Requests
import WebStyle.Proofs.Document.Trees
import WebStyle.Proofs.ObjectModel.Sources
/-!
What comes of a load in the end, with all the imports that it leads to, when each address has one
result. Nothing here depends on when which load is completed.
-/
set_option autoImplicit false

namespace WebStyle

namespace RuleSource

variable (keeps : RuleSource → Bool) (imports : String → Option SheetTree)

mutual

/-- A rule as written, with what its imports get. -/
def grow : RuleSource → RuleTree
  | .style selectors declarations => .style selectors (.ofDeclarations declarations)
  | .media l rules => .media l (growAll rules)
  | .importing href l => .ofImport href l (imports href)
  | .fontFace declarations => .fontFace (.ofDeclarations declarations)
  | .page selector declarations => .page selector (.ofDeclarations declarations)

def growAll : List RuleSource → List RuleTree
  | [] => []
  | source :: rest => if keeps source then grow source :: growAll rest else growAll rest

end

end RuleSource

/-- What loads depend on besides the loads themselves. -/
structure Arrivals where
  fetch : Url → Except FetchError Response
  loader : LoaderSettings
  /-- The address of the document. -/
  base : Option String
  keeps : RuleSource → Bool

namespace Arrivals

variable (a : Arrivals) (origin : Origin)

/-- The address that an import is loaded from. The sheet that it stands in and those around it have
the given addresses. -/
def importUrl? (base : Option String) (chain : List String) (href : String) : Option Url :=
  (do
    let url ← resolveHref (base.or a.base) href
    checkImport url chain a.loader.maxImportDepth
    pure url).toOption

/-- The text that is loaded. -/
def read (q : LoadRequest) : Option SheetText := q.read a.loader (a.fetch q.url)

/-- The rules of a text, where the given function tells what imports get. -/
def rulesOf (imports : Option String → List String → Encoding → String → Option SheetTree)
    (base : Option String) (chain : List String) (t : SheetText) : List RuleTree :=
  RuleSource.growAll a.keeps (imports base chain t.encoding) (SheetSource.ofString t.text).rules

/-- The sheet that an import gets, where the given function tells what the imports in it get. -/
def sheetOf (imports : Option String → List String → Encoding → String → Option SheetTree)
    (chain : List String) (q : LoadRequest) : Option SheetTree :=
  (a.read q).map fun t =>
    ⟨⟨some q.url.text, .ofString "", none, false, origin, none, some t.encoding⟩,
      a.rulesOf imports (some q.url.text) (q.url.text :: chain) t⟩

/-- What imports get in sheets of the given encoding, at most so many in a row. -/
def importsFuel : Nat → Option String → List String → Encoding → String → Option SheetTree
  | 0, _, _, _, _ => none
  | fuel + 1, base, chain, e, href => (a.importUrl? base chain href).bind fun url =>
    a.sheetOf origin (importsFuel fuel) chain ⟨url, some e, none⟩

def imports : Option String → List String → Encoding → String → Option SheetTree :=
  a.importsFuel origin a.loader.maxImportDepth

/-- The sheet that comes of a load for an import in a sheet with the given addresses around it. -/
def arrive (chain : List String) (q : LoadRequest) : Option SheetTree :=
  a.sheetOf origin (a.imports origin) chain q

variable {a} {origin}

theorem importUrl?_of_le {chain : List String} (h : a.loader.maxImportDepth ≤ chain.length)
    (base : Option String) (href : String) : a.importUrl? base chain href = none := by
  rw [importUrl?]
  cases resolveHref (base.or a.base) href with
  | error e => rfl
  | ok url =>
    have hcheck : ∃ e, checkImport url chain a.loader.maxImportDepth = .error e := by
      rw [checkImport]
      split
      · exact ⟨_, rfl⟩
      · exact ⟨_, rfl⟩
    obtain ⟨e, he⟩ := hcheck
    simp only [bind, Except.bind, he]
    rfl

/-- Each import in a row has one more address around it, so that the fuel does not matter beyond the
limit. -/
theorem importsFuel_eq {fuel fuel' : Nat} {chain : List String}
    (hf : a.loader.maxImportDepth ≤ fuel + chain.length)
    (hf' : a.loader.maxImportDepth ≤ fuel' + chain.length) (base : Option String) (e : Encoding) :
    a.importsFuel origin fuel base chain e = a.importsFuel origin fuel' base chain e := by
  induction fuel generalizing fuel' base chain e with
  | zero =>
    funext href
    cases fuel' with
    | zero => rfl
    | succ fuel' => rw [importsFuel, importsFuel, importUrl?_of_le (by omega), Option.bind_none]
  | succ fuel ih =>
    funext href
    cases fuel' with
    | zero => rw [importsFuel, importsFuel, importUrl?_of_le (by omega), Option.bind_none]
    | succ fuel' =>
      rw [importsFuel, importsFuel]
      congr 1
      funext url
      simp only [sheetOf, rulesOf]
      congr 1
      funext t
      have hinner : a.importsFuel origin fuel (some url.text) (url.text :: chain) t.encoding =
          a.importsFuel origin fuel' (some url.text) (url.text :: chain) t.encoding :=
        ih (by simp only [List.length_cons]; omega) (by simp only [List.length_cons]; omega) _ _
      rw [hinner]

/-- An import gets what comes of its load, if it may be loaded. -/
theorem imports_eq (base : Option String) (chain : List String) (e : Encoding) (href : String) :
    a.imports origin base chain e href =
      (a.importUrl? base chain href).bind fun url =>
        a.arrive origin chain ⟨url, some e, none⟩ := by
  have hstep : a.imports origin base chain e href =
      a.importsFuel origin (a.loader.maxImportDepth + 1) base chain e href :=
    congrFun (importsFuel_eq (by omega) (by omega) base e) href
  rw [hstep, importsFuel]
  rfl

end Arrivals

/-! ### Rules that are there -/

namespace ObjectModel

variable {m : ObjectModel} {fuel : Nat} {p q : ModelPart}

/-- Whether all walks down from a part end before the fuel does. -/
def EndsWithin (m : ObjectModel) (fuel : Nat) (p : ModelPart) : Prop :=
  ∃ k, k < fuel ∧ DepthAtMost m.shownBy k p

theorem not_endsWithin_zero : ¬ m.EndsWithin 0 p := fun ⟨_, hk, _⟩ => Nat.not_lt_zero _ hk

theorem EndsWithin.shown (h : m.EndsWithin (fuel + 1) p) (hq : q ∈ m.shownBy p) :
    m.EndsWithin fuel q := by
  obtain ⟨k, hk, hd⟩ := h
  obtain ⟨j, hj, hd⟩ := hd.step hq
  exact ⟨j, by omega, hd⟩

/-- All walks down from a sheet that is held end. -/
theorem Sound.endsWithin {held : List SheetId} {s : SheetId} (h : m.Sound held) (hs : s ∈ held) :
    m.EndsWithin (m.sheets.slots.size + m.rules.slots.size + 1) (.sheet s) :=
  ⟨_, Nat.lt_succ_self _, h.depthAtMost hs⟩

theorem mem_shownBy_rule {r : RuleId} {rule : Rule} (hr : m.rule? r = some rule) :
    q ∈ m.shownBy (.rule r) ↔ q ∈ rule.content.owned := by
  simp [shownBy, hr]

end ObjectModel

namespace Document

variable {d : Document} {arriving : RuleId → Option SheetTree} {keeps : RuleSource → Bool}
  {imports : String → Option SheetTree} {P : RuleId → Rule → Prop}

mutual

/-- A rule that is there as written has grown from its source, if what its imports will get is what
imports get there. -/
theorem readRule_eq_grow (hP : ∀ r rule, P r rule → d.model.rule? r = some rule ∧
      ∀ href l, rule.content = .importing href l none → arriving r = imports href) :
    ∀ {source : RuleSource} {r : RuleId} {rule : Rule} {fuel : Nat}, P r rule →
      source.Renders keeps P rule.content → d.model.EndsWithin fuel (.rule r) →
      d.readRule arriving fuel r = source.grow keeps imports
  | _, _, _, 0, _, _, hd => absurd hd ObjectModel.not_endsWithin_zero
  | .style _ _, r, rule, fuel + 1, hr, h, _ => by
    rw [readRule, (hP r rule hr).1]
    simp only [show rule.content = _ from h, RuleSource.grow]
  | .media l rules, r, rule, fuel + 1, hr, ⟨ids, hc, h⟩, hd => by
    rw [readRule, (hP r rule hr).1]
    simp only [hc, RuleSource.grow]
    congr 1
    refine map_readRule_eq_growAll hP h fun x hx => hd.shown ?_
    rw [ObjectModel.mem_shownBy_rule (hP r rule hr).1, hc]
    simpa [RuleContent.owned] using hx
  | .importing href l, r, rule, fuel + 1, hr, h, _ => by
    have hc : rule.content = .importing href l none := h
    rw [readRule, (hP r rule hr).1]
    simp only [hc, RuleSource.grow, (hP r rule hr).2 href l hc]
  | .fontFace _, r, rule, fuel + 1, hr, h, _ => by
    rw [readRule, (hP r rule hr).1]
    simp only [show rule.content = _ from h, RuleSource.grow]
  | .page _ _, r, rule, fuel + 1, hr, h, _ => by
    rw [readRule, (hP r rule hr).1]
    simp only [show rule.content = _ from h, RuleSource.grow]

theorem map_readRule_eq_growAll (hP : ∀ r rule, P r rule → d.model.rule? r = some rule ∧
      ∀ href l, rule.content = .importing href l none → arriving r = imports href) :
    ∀ {sources : List RuleSource} {ids : List RuleId} {fuel : Nat},
      RuleSource.RendersAll keeps P sources ids →
      (∀ r ∈ ids, d.model.EndsWithin fuel (.rule r)) →
      ids.map (d.readRule arriving fuel) = RuleSource.growAll keeps imports sources
  | [], ids, fuel, h, _ => by
    rw [show ids = [] from h]
    rfl
  | source :: rest, ids, fuel, h, hd => by
    rw [RuleSource.RendersAll] at h
    rw [RuleSource.growAll]
    split
    · rename_i hk
      rw [if_pos hk] at h
      obtain ⟨r, rule, ids', rfl, hr, hsource, hrest⟩ := h
      rw [List.map_cons, readRule_eq_grow hP hr hsource (hd r List.mem_cons_self),
        map_readRule_eq_growAll hP hrest fun x hx => hd x (List.mem_cons_of_mem _ hx)]
    · rename_i hk
      rw [if_neg hk] at h
      exact map_readRule_eq_growAll hP h hd

end

end Document

end WebStyle
