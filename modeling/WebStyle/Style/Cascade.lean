import WebStyle.Media.Environment
import WebStyle.ObjectModel.Basic
import WebStyle.Style.Matching
import WebStyle.Style.Specified
/-!
The cascade: which of the declarations that apply to an element settles each property. What counts
first is the origin with the importance, then the specificity, then the order.
-/
set_option autoImplicit false

namespace WebStyle

/-- A style rule that applies in an environment, with the origin of its sheet. -/
structure AppliedRule where
  rule : RuleId
  origin : Origin
  selectors : SelectorList
  block : DeclarationBlock

namespace ObjectModel

mutual

/-- The style rules of a sheet, in order. Disabled sheets, and what stands under media that do not
hold, are left out; an imported sheet takes the place of its import. `path` are the sheets that lead
here: none is entered twice. -/
def sheetRules (m : ObjectModel) (env : MediaEnvironment) :
    Nat → List SheetId → SheetId → List AppliedRule
  | 0, _, _ => []
  | fuel + 1, path, s =>
    match m.sheet? s with
    | none => []
    | some sheet =>
      if sheet.disabled || !env.holds sheet.media || path.contains s then []
      else sheet.rules.flatMap (m.innerStyleRules env fuel (s :: path) sheet.origin)

/-- The style rules that a rule of a sheet amounts to. -/
def innerStyleRules (m : ObjectModel) (env : MediaEnvironment) :
    Nat → List SheetId → Origin → RuleId → List AppliedRule
  | 0, _, _, _ => []
  | fuel + 1, path, origin, r =>
    match m.rule? r with
    | none => []
    | some rule =>
      match rule.content with
      | .style selectors block => [⟨r, origin, selectors, block⟩]
      | .media l rules =>
        if env.holds l then rules.flatMap (m.innerStyleRules env fuel path origin) else []
      | .importing _ l (some s) => if env.holds l then m.sheetRules env fuel path s else []
      | _ => []

end

/-- The style rules of sheets that apply in an environment. A walk down through them passes each
sheet and each rule at most once. -/
def appliedRules (m : ObjectModel) (env : MediaEnvironment) (sheets : List SheetId) :
    List AppliedRule :=
  sheets.flatMap (m.sheetRules env (m.sheets.slots.size + m.rules.slots.size + 1) [])

end ObjectModel

/-- A style rule that matches an element. Its order is its place among all applied rules, counted
from 1. -/
structure MatchedRule where
  rule : RuleId
  block : DeclarationBlock
  specificity : Specificity
  origin : Origin
  order : Nat

/-- The rules that match an element, or a pseudo-element of it. -/
def matchedRules (m : ObjectModel) (env : MediaEnvironment) (sheets : List SheetId) (d : Dom)
    (n : NodeId) (pseudo : Option PseudoElement) : List MatchedRule :=
  ((m.appliedRules env sheets).zipIdx 1).filterMap fun (a, order) =>
    (d.matchSpecificity? n pseudo a.selectors).map fun s => ⟨a.rule, a.block, s, a.origin, order⟩

/-- The band of an origin; importance turns their order round. -/
def Origin.band : Origin → (important : Bool) → Nat
  | .userAgent, false => 0
  | .user, false => 1
  | .author, false => 2
  | .author, true => 3
  | .user, true => 4
  | .userAgent, true => 5

/-- What decides between declarations, the most significant first. -/
structure Precedence where
  band : Nat
  /-- Whether the declaration stands in the element's own `style` attribute. -/
  inline : Bool
  specificity : Specificity
  order : Nat
  /-- The place within the block. -/
  position : Nat
  deriving DecidableEq, Repr

namespace Precedence

def cmp (p q : Precedence) : Ordering :=
  (compare p.band q.band).then <| (compare p.inline q.inline).then <|
    (compare p.specificity q.specificity).then <| (compare p.order q.order).then <|
      compare p.position q.position

/-- Whether `q` comes after `p`, or with it. -/
def le (p q : Precedence) : Bool := (cmp p q).isLE

end Precedence

/-- A declaration that applies to an element, with what decides between it and others. -/
structure Candidate where
  declaration : Declaration
  precedence : Precedence
  deriving DecidableEq, Repr

namespace Candidate

def name (c : Candidate) : String := c.declaration.name

/-- What a candidate that wins settles for the property that it names. -/
def declared (c : Candidate) : SpecifiedValue := .declared c.declaration.value

/-- What a shorthand that wins settles for a longhand, as it mentions custom properties. -/
def pending (c : Candidate) : SpecifiedValue := .pending c.name c.declaration.value

end Candidate

namespace Cascade

/-- The declarations of a block, given the precedence of each. -/
def blockCandidates (precedence : (important : Bool) → (position : Nat) → Precedence)
    (b : DeclarationBlock) : List Candidate :=
  b.declarations.zipIdx.map fun (d, i) => ⟨d, precedence d.important i⟩

def ruleCandidates (r : MatchedRule) : List Candidate :=
  blockCandidates (fun important i => ⟨r.origin.band important, false, r.specificity, r.order, i⟩)
    r.block

/-- The `style` attribute belongs to the author, and comes after the author's sheets. -/
def inlineCandidates (b : DeclarationBlock) : List Candidate :=
  blockCandidates (fun important i => ⟨Origin.author.band important, true, .zero, 0, i⟩) b

/-- All declarations of the given rules and of the `style` attribute. -/
def candidates (matched : List MatchedRule) (inline : Option DeclarationBlock) : List Candidate :=
  matched.flatMap ruleCandidates ++ inline.toList.flatMap inlineCandidates

/-- Takes a candidate unless a better one of the same name is there. -/
def accept (best : Table String Candidate) (c : Candidate) : Table String Candidate :=
  match best.find? c.name with
  | none => best.insert c.name c
  | some old => if old.precedence.le c.precedence then best.insert c.name c else best

/-- The best declaration of each name. Shorthands that are still there, as they mention custom
properties, are names like others. -/
def winners (cs : List Candidate) : Table String Candidate := cs.foldl accept .empty

/-- The shorthands among the winners, the weakest first. -/
def shorthands (best : Table String Candidate) : List (Shorthand × Candidate) :=
  (best.entries.filterMap fun (name, c) => (Shorthand.ofName? name).map (·, c)).mergeSort
    fun p q => p.2.precedence.le q.2.precedence

/-- Whether a shorthand outranks the best declaration that a longhand has of its own. -/
def outranks (best : Table String Candidate) (c : Candidate) (longhand : String) : Bool :=
  (best.find? longhand).all fun own => own.precedence.le c.precedence

/-- Claims the longhands that a shorthand outranks, over the claims of weaker shorthands. -/
def claim (best claims : Table String Candidate) : Shorthand × Candidate → Table String Candidate
  | (s, c) => (s.longhands.filter (outranks best c)).foldl (fun t n => t.insert n c) claims

/-- The longhands that shorthands claim, each with its strongest shorthand. -/
def claims (best : Table String Candidate) : Table String Candidate :=
  (shorthands best).foldl (claim best) .empty

/-- The values that the winners settle: claimed longhands wait for custom properties. -/
def settle (best : Table String Candidate) : SpecifiedValues :=
  let claimed := claims best
  let own := best.entries.filter fun (name, _) =>
    (Shorthand.ofName? name).isNone && !claimed.contains name
  ⟨own.map (fun (name, c) => (name, c.declared))
    ++ claimed.entries.map fun (name, c) => (name, c.pending)⟩

end Cascade

/-- The specified values of an element with the given rules and `style` attribute. -/
def cascade (matched : List MatchedRule) (inline : Option DeclarationBlock) : SpecifiedValues :=
  Cascade.settle (Cascade.winners (Cascade.candidates matched inline))

end WebStyle
