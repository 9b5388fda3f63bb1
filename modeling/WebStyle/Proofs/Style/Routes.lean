import WebStyle.Proofs.Cascade
import WebStyle.Proofs.ObjectModel.Placement
import WebStyle.Proofs.Style.Applied
/-!
Which rules match, told by the routes that lead to them. A route goes from a sheet that is listed
down to a style rule; it says which place is taken at each step, so that the order of the places is
the order of the document. Sheets that import each other have no route that comes by a sheet twice.
-/
set_option autoImplicit false

namespace WebStyle

/-- A way down: the parts that are passed, each with its place among what is shown there. -/
abbrev Route := List (Nat × ModelPart)

namespace Route

def places (t : Route) : List Nat := t.map (·.1)

def parts (t : Route) : List ModelPart := t.map (·.2)

@[simp]
theorem parts_nil : parts [] = [] := rfl

@[simp]
theorem parts_cons (i : Nat) (q : ModelPart) (t : Route) : parts ((i, q) :: t) = q :: t.parts := rfl

/-- Whether a route comes before another: it takes the lower place where they part. -/
def Before (t t' : Route) : Prop := List.Lex (· < ·) t.places t'.places

end Route

namespace ObjectModel

variable {m : ObjectModel} {env : MediaEnvironment} {s : SheetId} {r : RuleId} {i k : Nat}
  {p q : ModelPart} {seen : List SheetId} {ps l here : List ModelPart} {t : Route} {origin : Origin}

/-- Whether the style rules below a part count: it is live, and neither disabled nor under media
that do not hold. -/
def Opens (m : ObjectModel) (env : MediaEnvironment) : ModelPart → Bool
  | .sheet s => (m.sheet? s).any fun sheet => !sheet.disabled && env.holds sheet.media
  | .rule r => (m.rule? r).any fun rule => rule.content.media?.all env.holds

/-- The style rule that a part is, if it is one. -/
def style? (m : ObjectModel) : ModelPart → Option (RuleId × SelectorList × DeclarationBlock)
  | .sheet _ => none
  | .rule r => do
    let rule ← m.rule? r
    match rule.content with
    | .style selectors block => some (r, selectors, block)
    | _ => none

/-- The style rule that a way down ends at. -/
def styleAt? (m : ObjectModel) (ps : List ModelPart) :
    Option (RuleId × SelectorList × DeclarationBlock) :=
  ps.getLast?.bind m.style?

/-- The origin of the last sheet on a way down. -/
def originAt? (m : ObjectModel) (ps : List ModelPart) : Option Origin :=
  ((ps.filterMap ModelPart.sheet?).getLast?.bind m.sheet?).map (·.origin)

/-- Whether each step of a route takes a part that stands at its place. -/
def Follows (m : ObjectModel) : List ModelPart → Route → Prop
  | _, [] => True
  | here, (i, q) :: rest => here[i]? = some q ∧ m.Follows (m.shownBy q) rest

/-- Whether a route leads from one of the given parts to a style rule. -/
structure IsRoute (m : ObjectModel) (env : MediaEnvironment) (here : List ModelPart) (t : Route) :
    Prop where
  follows : m.Follows here t
  opens : ∀ q ∈ t.parts, m.Opens env q
  nodup : (t.parts.filterMap ModelPart.sheet?).Nodup
  arrives : (m.styleAt? t.parts).isSome

/-! ### One step of a route -/

theorem styleAt?_append_singleton : m.styleAt? (l ++ [q]) = m.style? q := by
  simp [styleAt?]

theorem originAt?_append_sheet : m.originAt? (l ++ [.sheet s]) = (m.sheet? s).map (·.origin) := by
  simp [originAt?, ModelPart.sheet?]

theorem originAt?_append_rule : m.originAt? (l ++ [.rule r]) = m.originAt? l := by
  simp [originAt?, ModelPart.sheet?]

@[simp]
theorem filterMap_sheet?_cons_sheet :
    (.sheet s :: l).filterMap ModelPart.sheet? = s :: l.filterMap ModelPart.sheet? := rfl

@[simp]
theorem filterMap_sheet?_cons_rule :
    (.rule r :: l).filterMap ModelPart.sheet? = l.filterMap ModelPart.sheet? := rfl

theorem mem_filterMap_sheet? : s ∈ l.filterMap ModelPart.sheet? ↔ .sheet s ∈ l := by
  rw [List.mem_filterMap]
  constructor
  · rintro ⟨p, hp, hps⟩
    cases p with
    | sheet x => exact Option.some.inj hps ▸ hp
    | rule x => cases hps
  · exact fun hs => ⟨_, hs, rfl⟩

theorem not_isRoute_nil : ¬ m.IsRoute env here [] := fun h => by
  simpa [styleAt?] using h.arrives

/-- A step may be the last one; if it goes into a sheet, the rest does not come by that sheet. -/
theorem isRoute_cons : m.IsRoute env here ((i, q) :: t) ↔
    here[i]? = some q ∧ m.Opens env q ∧ (t = [] ∧ (m.style? q).isSome ∨
      m.IsRoute env (m.shownBy q) t ∧ ∀ s ∈ q.sheet?, .sheet s ∉ t.parts) := by
  have hnodup : (((q :: t.parts).filterMap ModelPart.sheet?).Nodup) ↔
      (∀ s ∈ q.sheet?, .sheet s ∉ t.parts) ∧ (t.parts.filterMap ModelPart.sheet?).Nodup := by
    cases q with
    | rule r => rw [filterMap_sheet?_cons_rule]; simp [ModelPart.sheet?]
    | sheet s =>
      rw [filterMap_sheet?_cons_sheet, List.nodup_cons, mem_filterMap_sheet?]
      simp [ModelPart.sheet?]
  have harrives : m.styleAt? (q :: t.parts) =
      if t = [] then m.style? q else m.styleAt? t.parts := by
    cases t with
    | nil => simp [styleAt?]
    | cons step t => simp [styleAt?, Route.parts, List.getLast?_cons_cons]
  constructor
  · rintro ⟨⟨hi, hfollows⟩, hopens, hn, har⟩
    obtain ⟨hq, hopens⟩ := List.forall_mem_cons.1 hopens
    obtain ⟨hs, hn⟩ := hnodup.1 hn
    refine ⟨hi, hq, ?_⟩
    rw [Route.parts_cons, harrives] at har
    split at har
    · exact .inl ⟨‹_›, har⟩
    · exact .inr ⟨⟨hfollows, hopens, hn, har⟩, hs⟩
  · rintro ⟨hi, hq, ⟨rfl, hstyle⟩ | ⟨ht, hs⟩⟩
    · refine ⟨⟨hi, trivial⟩, by simpa using hq, hnodup.2 (by simp), ?_⟩
      rwa [Route.parts_cons, harrives, if_pos rfl]
    · have hne : t ≠ [] := by
        rintro rfl
        exact not_isRoute_nil ht
      refine ⟨⟨hi, ht.follows⟩, List.forall_mem_cons.2 ⟨hq, ht.opens⟩,
        hnodup.2 ⟨hs, ht.nodup⟩, ?_⟩
      rw [Route.parts_cons, harrives, if_neg hne]
      exact ht.arrives

/-! ### How long routes are -/

theorem isTrail_of_follows {x p : ModelPart} (h : IsTrail m.ownedBy x (p :: l))
    (ht : m.Follows (m.shownBy p) t) : IsTrail m.ownedBy x (t.parts.reverse ++ p :: l) := by
  induction t generalizing p l with
  | nil => exact h
  | cons step t ih =>
    obtain ⟨i, q⟩ := step
    have hq : q ∈ m.ownedBy p := m.shownBy_subset_ownedBy p (List.mem_of_getElem? ht.1)
    simpa using ih (h.step hq) ht.2

/-- A way down that comes by no sheet twice comes by no rule twice: each rule has one place. -/
theorem Placed.nodup_of_isTrail (h : m.Placed) (hl : IsTrail m.ownedBy (.sheet s) l)
    (hn : (l.filterMap ModelPart.sheet?).Nodup) : l.Nodup := by
  induction hl with
  | start => simp
  | @step y z l hy hz ih =>
    cases z with
    | sheet x =>
      rw [filterMap_sheet?_cons_sheet, List.nodup_cons, mem_filterMap_sheet?] at hn
      exact List.nodup_cons.2 ⟨hn.1, ih hn.2⟩
    | rule r =>
      rw [filterMap_sheet?_cons_rule] at hn
      refine List.nodup_cons.2 ⟨fun hr => ?_, ih hn⟩
      rcases hy.eq_or_mem_next hr with heq | ⟨w, hw, hrw⟩
      · cases heq
      · obtain rfl := h.unique w y r (mem_heldBy.2 hrw) (mem_heldBy.2 hz)
        exact (List.nodup_cons.1 (ih hn)).1 hw

theorem isLive_of_opens (h : m.Opens env q) : m.IsLive q := by
  cases q with
  | sheet s => exact Option.isSome_of_any h
  | rule r => exact Option.isSome_of_any h

theorem Placed.length_le_of_isRoute (h : m.Placed) {sheets : List SheetId}
    (ht : m.IsRoute env (sheets.map .sheet) t) :
    t.length ≤ m.sheets.slots.size + m.rules.slots.size := by
  cases t with
  | nil => exact Nat.zero_le _
  | cons step t =>
    obtain ⟨i, q⟩ := step
    obtain ⟨s, -, rfl⟩ := List.mem_map.1 (List.mem_of_getElem? ht.follows.1)
    have hstart : IsTrail m.ownedBy (.sheet s) [.sheet s] := .start
    have htrail := isTrail_of_follows hstart ht.follows.2
    rw [← List.reverse_cons, ← Route.parts_cons i] at htrail
    have hn : (Route.parts ((i, .sheet s) :: t)).Nodup := by
      refine List.nodup_reverse.1 (h.nodup_of_isTrail htrail ?_)
      rw [List.filterMap_reverse]
      exact List.nodup_reverse.2 ht.nodup
    have hle := length_le_of_isLive hn fun p hp => isLive_of_opens (ht.opens p hp)
    simpa [Route.parts] using hle

/-! ### The walk -/

/-- The style rules that a part amounts to. -/
def stylesOf (m : ObjectModel) (env : MediaEnvironment) (fuel : Nat) (seen : List SheetId)
    (origin : Origin) : ModelPart → List AppliedRule
  | .sheet s => m.sheetRules env fuel seen s
  | .rule r => m.innerStyleRules env fuel seen origin r

/-- Whether a walk that came by the given sheets goes into a part. -/
def Enters (m : ObjectModel) (env : MediaEnvironment) (seen : List SheetId) (q : ModelPart) :
    Bool :=
  m.Opens env q && !q.sheet?.any seen.contains

/-- The origin of what is below a part. -/
def originBelow (m : ObjectModel) (origin : Origin) : ModelPart → Origin
  | .sheet s => ((m.sheet? s).map (·.origin)).getD origin
  | .rule _ => origin

/-- Sheets and rules are gone through alike: first a part itself, then all that it shows. -/
theorem stylesOf_succ : m.stylesOf env (k + 1) seen origin q =
    if m.Enters env seen q then
      ((m.style? q).map fun x => (⟨x.1, origin, x.2.1, x.2.2⟩ : AppliedRule)).toList ++
        (m.shownBy q).flatMap (m.stylesOf env k (q.sheet?.toList ++ seen) (m.originBelow origin q))
    else [] := by
  cases q with
  | sheet s =>
    rw [stylesOf, sheetRules]
    cases hs : m.sheet? s with
    | none => simp [Enters, Opens, hs]
    | some sheet =>
      have henters : m.Enters env seen (.sheet s) =
          !(sheet.disabled || !env.holds sheet.media || seen.contains s) := by
        simp [Enters, Opens, hs, ModelPart.sheet?]
      simp only [henters]
      cases sheet.disabled || !env.holds sheet.media || seen.contains s with
      | true => simp
      | false =>
        simp [style?, shownBy, hs, originBelow, ModelPart.sheet?, List.flatMap_map, stylesOf]
  | rule r =>
    rw [stylesOf, innerStyleRules]
    cases hr : m.rule? r with
    | none => simp [Enters, Opens, hr]
    | some rule =>
      have henters : m.Enters env seen (.rule r) = rule.content.media?.all env.holds := by
        simp [Enters, Opens, hr, ModelPart.sheet?]
      have hshown : m.shownBy (.rule r) = rule.content.owned := by simp [shownBy, hr]
      simp only [henters, hshown, style?, hr, originBelow, ModelPart.sheet?]
      cases hc : rule.content with
      | style selectors block => simp [hc, RuleContent.media?, RuleContent.owned]
      | media l rules =>
        simp [hc, RuleContent.media?, RuleContent.owned, List.flatMap_map, stylesOf]
      | importing href l sheet =>
        cases sheet <;> simp [hc, RuleContent.media?, RuleContent.owned, stylesOf]
      | fontFace block => simp [hc, RuleContent.media?, RuleContent.owned]
      | page selector block => simp [hc, RuleContent.media?, RuleContent.owned]

/-- The routes from the given parts that come by none of the sheets seen. -/
def routesAmong (m : ObjectModel) (env : MediaEnvironment) :
    Nat → List SheetId → List ModelPart → List Route
  | 0, _, _ => []
  | fuel + 1, seen, here => here.zipIdx.flatMap fun (q, i) =>
    if m.Enters env seen q then
      (((m.style? q).map fun _ => []).toList ++
        m.routesAmong env fuel (q.sheet?.toList ++ seen) (m.shownBy q)).map ((i, q) :: ·)
    else []

theorem enters_iff : m.Enters env seen q ↔ m.Opens env q ∧ ∀ s ∈ q.sheet?, s ∉ seen := by
  cases q <;> simp [Enters, ModelPart.sheet?]

theorem mem_routesAmong_succ : t ∈ m.routesAmong env (k + 1) seen here ↔
    ∃ i q rest, t = (i, q) :: rest ∧ here[i]? = some q ∧ m.Enters env seen q ∧
      (rest = [] ∧ (m.style? q).isSome ∨
        rest ∈ m.routesAmong env k (q.sheet?.toList ++ seen) (m.shownBy q)) := by
  have hend : ∀ q (rest : Route), rest ∈ ((m.style? q).map fun _ => ([] : Route)).toList ↔
      rest = [] ∧ (m.style? q).isSome := by
    intro q rest
    cases m.style? q <;> simp
  rw [routesAmong, List.mem_flatMap]
  constructor
  · rintro ⟨⟨q, i⟩, hi, ht⟩
    simp only at ht
    split at ht
    · rename_i henters
      obtain ⟨rest, hrest, rfl⟩ := List.mem_map.1 ht
      rw [List.mem_append, hend] at hrest
      exact ⟨i, q, rest, rfl, List.mem_zipIdx_iff_getElem?.1 hi, henters, hrest⟩
    · cases ht
  · rintro ⟨i, q, rest, rfl, hi, henters, hrest⟩
    refine ⟨(q, i), List.mem_zipIdx_iff_getElem?.2 hi, ?_⟩
    simp only [if_pos henters]
    exact List.mem_map.2 ⟨rest, List.mem_append.2 (by rwa [hend]), rfl⟩

theorem mem_routesAmong : t ∈ m.routesAmong env k seen here ↔
    t.length ≤ k ∧ m.IsRoute env here t ∧ ∀ s ∈ seen, .sheet s ∉ t.parts := by
  induction k generalizing seen here t with
  | zero =>
    simp only [routesAmong, List.not_mem_nil, false_iff, Nat.le_zero, List.length_eq_zero_iff]
    rintro ⟨rfl, ht, -⟩
    exact not_isRoute_nil ht
  | succ k ih =>
    rw [mem_routesAmong_succ]
    cases t with
    | nil => simp [not_isRoute_nil]
    | cons step t =>
      obtain ⟨i, q⟩ := step
      have hhead : ∀ s, .sheet s = q ↔ q.sheet? = some s := by
        intro s
        cases q <;> simp [ModelPart.sheet?, eq_comm]
      simp only [List.cons.injEq, Prod.mk.injEq, and_assoc, exists_and_left, exists_eq_left',
        enters_iff, ih, isRoute_cons, Route.parts_cons, List.mem_cons, not_or, List.mem_append,
        Option.mem_toList, List.length_cons, Nat.add_le_add_iff_right, hhead]
      constructor
      · rintro ⟨hi, hq, hs, ⟨rfl, hstyle⟩ | ⟨hk, ht, hno⟩⟩
        · exact ⟨Nat.zero_le k, hi, hq, .inl ⟨rfl, hstyle⟩, fun s hseen =>
            ⟨fun hqs => hs s hqs hseen, List.not_mem_nil⟩⟩
        · exact ⟨hk, hi, hq, .inr ⟨ht, fun s hqs => hno s (.inl hqs)⟩, fun s hseen =>
            ⟨fun hqs => hs s hqs hseen, hno s (.inr hseen)⟩⟩
      · rintro ⟨hk, hi, hq, ht, hseen⟩
        refine ⟨hi, hq, fun s hqs hs => (hseen s hs).1 hqs, ht.imp id fun hrest => ?_⟩
        exact ⟨hk, hrest.1, fun s hs => hs.elim (hrest.2 s) fun hs => (hseen s hs).2⟩

/-- The routes are listed in the order of the places that they take. -/
theorem pairwise_before_routesAmong :
    (m.routesAmong env k seen here).Pairwise Route.Before := by
  induction k generalizing seen here with
  | zero => exact List.Pairwise.nil
  | succ k ih =>
    rw [routesAmong, List.pairwise_flatMap]
    constructor
    · rintro ⟨q, i⟩ -
      simp only
      split
      · refine List.pairwise_map.2 (List.Pairwise.imp (fun h => List.Lex.cons h) ?_)
        refine List.pairwise_append.2 ⟨?_, ih, fun t ht t' ht' => ?_⟩
        · cases m.style? q <;> simp
        · have hnil : t = [] := by
            cases hq : m.style? q <;> simp_all
          have hne : t' ≠ [] := by
            rintro rfl
            exact not_isRoute_nil (mem_routesAmong.1 ht').2.1
          obtain ⟨step, rest, rfl⟩ := List.exists_cons_of_ne_nil hne
          rw [hnil]
          exact List.Lex.nil
      · exact List.Pairwise.nil
    · have hidx : here.zipIdx.Pairwise fun x y => x.2 < y.2 := by
        rw [← List.pairwise_map (R := (· < ·)), List.zipIdx_map_snd]
        exact List.pairwise_lt_range'
      have hplace : ∀ (q : ModelPart) (i : Nat) (routes : List Route) (t : Route),
          t ∈ (if m.Enters env seen q then routes.map ((i, q) :: ·) else []) →
            ∃ rest, t = (i, q) :: rest := by
        intro q i routes t ht
        split at ht
        · obtain ⟨rest, -, rfl⟩ := List.mem_map.1 ht
          exact ⟨rest, rfl⟩
        · cases ht
      refine hidx.imp fun {x y} hxy t ht t' ht' => ?_
      obtain ⟨rest, rfl⟩ := hplace _ _ _ t ht
      obtain ⟨rest', rfl⟩ := hplace _ _ _ t' ht'
      exact List.Lex.rel hxy

/-- What a style rule that applies has to do with the way down to it. -/
structure Yields (m : ObjectModel) (ps : List ModelPart) (a : AppliedRule) : Prop where
  style : m.styleAt? ps = some (a.rule, a.selectors, a.block)
  origin : m.originAt? ps = some a.origin

/-- Each route yields one of the style rules, in the same order. -/
theorem forall₂_routesAmong (m : ObjectModel) (env : MediaEnvironment) (k : Nat)
    (seen : List SheetId) {before : List ModelPart}
    (h : ∀ r, .rule r ∈ here → m.originAt? before = some origin) :
    List.Forall₂ (fun t a => m.Yields (before ++ t.parts) a) (m.routesAmong env k seen here)
      (here.flatMap (m.stylesOf env k seen origin)) := by
  induction k generalizing seen here before origin with
  | zero =>
    have hnone : ∀ q, m.stylesOf env 0 seen origin q = [] := by
      rintro (s | r)
      · rw [stylesOf, sheetRules]
      · rw [stylesOf, innerStyleRules]
    rw [routesAmong, List.flatMap_congr fun q _ => hnone q]
    simp
  | succ k ih =>
    have hzip : here.flatMap (m.stylesOf env (k + 1) seen origin) =
        here.zipIdx.flatMap fun x => m.stylesOf env (k + 1) seen origin x.1 := by
      conv_lhs => rw [← List.zipIdx_map_fst 0 here, List.flatMap_map]
    rw [routesAmong, hzip]
    refine List.rel_flatMap (R := fun x y => x = y ∧ x ∈ here.zipIdx)
      (List.forall₂_same.2 fun x hx => ⟨rfl, hx⟩) ?_
    rintro ⟨q, i⟩ _ ⟨rfl, hi⟩
    have hq : q ∈ here := List.mem_of_getElem? (List.mem_zipIdx_iff_getElem?.1 hi)
    simp only [stylesOf_succ]
    split
    · rename_i henters
      rw [List.forall₂_map_left_iff]
      refine List.rel_append ?_ ?_
      · cases q with
        | sheet s => exact .nil
        | rule r =>
          cases hr : m.style? (.rule r) with
          | none => exact .nil
          | some x =>
            refine .cons ⟨?_, ?_⟩ .nil
            · exact styleAt?_append_singleton.trans hr
            · exact originAt?_append_rule.trans (h r hq)
      · have hbelow : ∀ r, .rule r ∈ m.shownBy q →
            m.originAt? (before ++ [q]) = some (m.originBelow origin q) := by
          intro r hr
          cases q with
          | sheet s =>
            have hlive : m.IsLive (.sheet s) := isLive_of_opens (enters_iff.1 henters).1
            obtain ⟨sheet, hs⟩ := Option.isSome_iff_exists.1 hlive
            rw [originAt?_append_sheet]
            simp [originBelow, hs]
          | rule r => exact originAt?_append_rule.trans (h r hq)
        refine (ih _ hbelow).imp fun t a ha => ?_
        rwa [List.append_assoc] at ha
    · exact .nil

/-- The routes from the sheets that are listed yield the style rules that apply. -/
theorem forall₂_appliedRules (m : ObjectModel) (env : MediaEnvironment) (sheets : List SheetId) :
    List.Forall₂ (fun t a => m.Yields t.parts a)
      (m.routesAmong env (m.sheets.slots.size + m.rules.slots.size + 1) [] (sheets.map .sheet))
      (m.appliedRules env sheets) := by
  have horigin : ∀ r, .rule r ∈ sheets.map ModelPart.sheet → m.originAt? [] = some .author := by
    simp
  have h := m.forall₂_routesAmong env (m.sheets.slots.size + m.rules.slots.size + 1) [] horigin
  rwa [List.flatMap_map] at h

end ObjectModel

/-! ### Selectors that match -/

/-- Whether a specificity is the highest among the selectors of a list that match. -/
structure Dom.IsHighest (d : Dom) (n : NodeId) (pseudo : Option PseudoElement) (l : SelectorList)
    (σ : Specificity) : Prop where
  reached : ∃ s ∈ l, d.matchesComplex n pseudo s ∧ s.specificity = σ
  bound : ∀ s ∈ l, d.matchesComplex n pseudo s → (compare s.specificity σ).isLE

namespace Specificity

theorem max_eq_or (s t : Specificity) : s.max t = s ∨ s.max t = t := by
  rw [max]
  split
  · exact .inr rfl
  · exact .inl rfl

theorem isLE_max (s t : Specificity) :
    (compare s (s.max t)).isLE ∧ (compare t (s.max t)).isLE := by
  rw [max]
  split
  · rename_i hlt
    have hst : compare s t = .lt := beq_iff_eq.1 hlt
    exact ⟨by rw [hst]; rfl, by rw [Std.ReflOrd.compare_self]; rfl⟩
  · rename_i hlt
    have hst : compare s t ≠ .lt := fun heq => hlt (beq_iff_eq.2 heq)
    refine ⟨by rw [Std.ReflOrd.compare_self]; rfl, ?_⟩
    rw [Std.OrientedOrd.eq_swap (a := t) (b := s)]
    revert hst
    cases compare s t <;> decide

theorem foldl_max_mem (s : Specificity) (l : List Specificity) : l.foldl max s ∈ s :: l := by
  induction l generalizing s with
  | nil => simp
  | cons t l ih =>
    have h := ih (s.max t)
    rw [List.foldl_cons]
    rcases max_eq_or s t with heq | heq <;> rw [heq] at h ⊢ <;> grind

theorem isLE_foldl_max (s : Specificity) (l : List Specificity) :
    ∀ t ∈ s :: l, (compare t (l.foldl max s)).isLE := by
  induction l generalizing s with
  | nil => simp
  | cons x l ih =>
    have hbound := ih (s.max x)
    have htop := hbound (s.max x) List.mem_cons_self
    obtain ⟨hs, hx⟩ := isLE_max s x
    rw [List.foldl_cons]
    intro t ht
    rcases List.mem_cons.1 ht with rfl | ht
    · exact Std.TransOrd.isLE_trans hs htop
    · rcases List.mem_cons.1 ht with rfl | ht
      · exact Std.TransOrd.isLE_trans hx htop
      · exact hbound t (List.mem_cons_of_mem _ ht)

end Specificity

namespace Dom

variable {d : Dom} {n : NodeId} {pseudo : Option PseudoElement} {l : SelectorList}

theorem isSome_matchSpecificity? :
    (d.matchSpecificity? n pseudo l).isSome ↔ ∃ s ∈ l, d.matchesComplex n pseudo s := by
  rw [matchSpecificity?]
  split
  · rename_i hnil
    rw [List.map_eq_nil_iff, List.filter_eq_nil_iff] at hnil
    simpa using hnil
  · rename_i σ rest hcons
    obtain ⟨s, hs, -⟩ := List.mem_map.1 (hcons ▸ List.mem_cons_self)
    simpa using ⟨s, List.mem_filter.1 hs⟩

theorem isHighest_of_matchSpecificity? {σ : Specificity}
    (h : d.matchSpecificity? n pseudo l = some σ) : d.IsHighest n pseudo l σ := by
  rw [matchSpecificity?] at h
  split at h
  · cases h
  · rename_i s rest hcons
    obtain rfl := Option.some.inj h
    constructor
    · obtain ⟨x, hx, hσ⟩ := List.mem_map.1 (hcons ▸ Specificity.foldl_max_mem s rest)
      obtain ⟨hl, hm⟩ := List.mem_filter.1 hx
      exact ⟨x, hl, hm, hσ⟩
    · intro x hx hm
      refine Specificity.isLE_foldl_max s rest x.specificity (hcons ▸ ?_)
      exact List.mem_map_of_mem (List.mem_filter.2 ⟨hx, hm⟩)

end Dom

/-! ### Rules that match -/

/-- What an entry says of the style rule that a route leads to. -/
structure MatchedRule.Reports (m : ObjectModel) (d : Dom) (n : NodeId)
    (pseudo : Option PseudoElement) (t : Route) (entry : MatchedRule) : Prop where
  style : ∃ selectors, m.styleAt? t.parts = some (entry.rule, selectors, entry.block) ∧
    d.IsHighest n pseudo selectors entry.specificity
  origin : m.originAt? t.parts = some entry.origin

/-- Whether a route ends at a style rule of which a selector matches. -/
def Route.Matches (m : ObjectModel) (d : Dom) (n : NodeId) (pseudo : Option PseudoElement)
    (t : Route) : Bool :=
  (m.styleAt? t.parts).any fun x => x.2.1.any (d.matchesComplex n pseudo)

theorem ObjectModel.Yields.reports {m : ObjectModel} {d : Dom} {n : NodeId}
    {pseudo : Option PseudoElement} {t : Route} {a : AppliedRule} (h : m.Yields t.parts a)
    (order : Nat) :
    Option.Rel (MatchedRule.Reports m d n pseudo) (Option.guard (Route.Matches m d n pseudo) t)
      ((d.matchSpecificity? n pseudo a.selectors).map
        fun s => ⟨a.rule, a.block, s, a.origin, order⟩) := by
  have hmatches : t.Matches m d n pseudo = (d.matchSpecificity? n pseudo a.selectors).isSome := by
    rw [Bool.eq_iff_iff, Dom.isSome_matchSpecificity?, Route.Matches, h.style]
    simp
  cases hs : d.matchSpecificity? n pseudo a.selectors with
  | none =>
    rw [hs] at hmatches
    simp [Option.guard, hmatches]
  | some s =>
    rw [hs] at hmatches
    have hreports : MatchedRule.Reports m d n pseudo t ⟨a.rule, a.block, s, a.origin, order⟩ :=
      ⟨⟨a.selectors, h.style, Dom.isHighest_of_matchSpecificity? hs⟩, h.origin⟩
    simpa [Option.guard, hmatches] using Option.Rel.some hreports

/-- The rules that match are as many as the routes that lead to them, one for each, in the order of
the document; also where sheets import each other. -/
theorem exists_routes_matchedRules {compatibility : Compatibility} {m : ObjectModel}
    (h : m.Reachable compatibility) (env : MediaEnvironment) (sheets : List SheetId) (d : Dom)
    (n : NodeId) (pseudo : Option PseudoElement) :
    ∃ routes : List Route,
      (∀ t, t ∈ routes ↔ m.IsRoute env (sheets.map .sheet) t ∧ t.Matches m d n pseudo) ∧
      routes.Pairwise Route.Before ∧
      List.Forall₂ (MatchedRule.Reports m d n pseudo) routes
        (matchedRules m env sheets d n pseudo) ∧
      (matchedRules m env sheets d n pseudo).Pairwise (·.order < ·.order) := by
  let routes := m.routesAmong env (m.sheets.slots.size + m.rules.slots.size + 1) []
    (sheets.map .sheet)
  have hyields : List.Forall₂ (fun t a => m.Yields t.parts a) routes (m.appliedRules env sheets) :=
    ObjectModel.forall₂_appliedRules m env sheets
  rw [← List.zipIdx_map_fst 1 (m.appliedRules env sheets), List.forall₂_map_right_iff] at hyields
  refine ⟨routes.filter (Route.Matches m d n pseudo), fun t => ?_,
    ObjectModel.pairwise_before_routesAmong.filter _, ?_,
    Cascade.pairwise_order_matchedRules m env sheets d n pseudo⟩
  · rw [List.mem_filter, ObjectModel.mem_routesAmong]
    constructor
    · rintro ⟨⟨-, ht, -⟩, hm⟩
      exact ⟨ht, hm⟩
    · rintro ⟨ht, hm⟩
      have hlength := h.placed.length_le_of_isRoute ht
      exact ⟨⟨by omega, ht, by simp⟩, hm⟩
  · rw [← List.filterMap_eq_filter, matchedRules]
    exact List.rel_filterMap (fun t a ha => ha.reports a.2) hyields

/-- Two sheets, of the author and of the user, that import each other. -/
def mirrored : ObjectModel :=
  let edited := [ObjectModel.Edit.createSheet none "" .author, .createSheet none "" .user,
    .replaceRules ⟨0, 0⟩ "@import 'b' screen; .x, p { color: red }",
    .replaceRules ⟨1, 0⟩
      "@import 'a'; @media print { p {} } @media screen { p {} }"].foldl
    ObjectModel.Edit.apply (.empty .full)
  let first := ((ModelM.attachImport ⟨0, 0⟩ ⟨1, 0⟩).exec edited).2
  ((ModelM.attachImport ⟨2, 0⟩ ⟨0, 0⟩).exec first).2

/-- An element on its own that both sheets have a rule for. -/
def paragraph : Dom × NodeId := Dom.empty.createElement "p" []

theorem exists_routes_matchedRules_mirrored :
    let env := MediaEnvironment.screen 800.0 600.0
    let matched := matchedRules mirrored env [⟨0, 0⟩, ⟨1, 0⟩] paragraph.1 paragraph.2 none
    (∃ routes : List Route,
      (∀ t, t ∈ routes ↔ mirrored.IsRoute env [.sheet ⟨0, 0⟩, .sheet ⟨1, 0⟩] t ∧
        t.Matches mirrored paragraph.1 paragraph.2 none) ∧
      routes.Pairwise Route.Before ∧
      List.Forall₂ (MatchedRule.Reports mirrored paragraph.1 paragraph.2 none) routes matched ∧
      matched.Pairwise (·.order < ·.order)) ∧
    matched.map (fun r => (r.rule, r.origin)) = [(⟨6, 0⟩, .user), (⟨1, 0⟩, .author),
      (⟨1, 0⟩, .author), (⟨6, 0⟩, .user)] := by
  have hmirrored : mirrored.Reachable .full :=
    .attach (.attach (ObjectModel.Reachable.empty.edits _) _ _) _ _
  exact ⟨exists_routes_matchedRules hmirrored (.screen 800.0 600.0) [⟨0, 0⟩, ⟨1, 0⟩] paragraph.1
    paragraph.2 none, by decide +kernel⟩

end WebStyle
