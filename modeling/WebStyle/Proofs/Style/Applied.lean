import WebStyle.Proofs.ObjectModel.Visits
import WebStyle.Style.Cascade
/-!
Which rules apply. In a sound model the walk down from the sheets that are held ends before its fuel
does, and depends on nothing but what it visits.
-/
set_option autoImplicit false

namespace WebStyle
namespace ObjectModel

variable {m m' : ObjectModel} {held : List SheetId} {env : MediaEnvironment} {s : SheetId}

/-- What is live is as much as there are slots, at most. -/
theorem length_le_of_isLive {l : List ModelPart} (hn : l.Nodup) (hl : ∀ p ∈ l, m.IsLive p) :
    l.length ≤ m.sheets.slots.size + m.rules.slots.size := by
  have hsheets : (l.filterMap ModelPart.sheet?).length ≤ m.sheets.slots.size := by
    refine Slots.length_le_size (hn.filterMap ?_) fun s hs => ?_
    · rintro (a | a) (b | b) c hb hc <;> simp_all [ModelPart.sheet?]
    · obtain ⟨p, hp, hps⟩ := List.mem_filterMap.1 hs
      cases p with
      | sheet x =>
        obtain rfl := Option.some.inj hps
        exact hl _ hp
      | rule x => simp [ModelPart.sheet?] at hps
  have hrules : (l.filterMap ModelPart.rule?).length ≤ m.rules.slots.size := by
    refine Slots.length_le_size (hn.filterMap ?_) fun r hr => ?_
    · rintro (a | a) (b | b) c hb hc <;> simp_all [ModelPart.rule?]
    · obtain ⟨p, hp, hpr⟩ := List.mem_filterMap.1 hr
      cases p with
      | sheet x => simp [ModelPart.rule?] at hpr
      | rule x =>
        obtain rfl := Option.some.inj hpr
        exact hl _ hp
  rw [← ModelPart.length_filterMap l]
  exact Nat.add_le_add hsheets hrules

/-- The walk down from a sheet that is held ends. -/
theorem Sound.depthAtMost (h : m.Sound held) (hs : s ∈ held) :
    DepthAtMost m.shownBy (m.sheets.slots.size + m.rules.slots.size) (.sheet s) := by
  refine DepthAtMost.of_subset ?_ m.shownBy_subset_ownedBy
  refine depthAtMost_of_unique h.unique (h.heldFree s hs) fun l hn hl => ?_
  refine length_le_of_isLive hn fun p hp => ?_
  obtain ⟨q, hq⟩ := List.exists_mem_of_ne_nil _ (hl p hp)
  exact isLive_of_mem_ownedBy hq

section Walk

variable (hq : Quiet held m m')
include hq

/-- A sheet's rules depend on what it shows only, where this holds for the rules that it shows. -/
theorem Quiet.sheetRules_succ {fuel fuel' : Nat} {path : List SheetId}
    (hv : m.Visits held (.sheet s))
    (ih : ∀ r path origin, .rule r ∈ m.shownBy (.sheet s) →
      m'.innerStyleRules env fuel' path origin r = m.innerStyleRules env fuel path origin r) :
    m'.sheetRules env (fuel' + 1) path s = m.sheetRules env (fuel + 1) path s := by
  have hsame : (m'.sheet? s).map (·.shown) = (m.sheet? s).map (·.shown) := hq (.sheet s) hv
  rw [sheetRules, sheetRules]
  cases hs : m.sheet? s with
  | none =>
    rw [hs, Option.map_none, Option.map_eq_none_iff] at hsame
    rw [hsame]
  | some sheet =>
    rw [hs, Option.map_some, Option.map_eq_some_iff] at hsame
    obtain ⟨sheet', hs', hshown⟩ := hsame
    simp only [StyleSheet.shown, Prod.mk.injEq] at hshown
    obtain ⟨hdisabled, hmedia, horigin, hrules⟩ := hshown
    simp only [hs', hdisabled, hmedia, horigin, hrules]
    split
    · rfl
    · refine List.flatMap_congr fun r hr => ih r _ _ ?_
      simpa [shownBy, hs] using hr

theorem Quiet.innerStyleRules_succ {fuel fuel' : Nat} {path : List SheetId} {origin : Origin}
    {r : RuleId} (hv : m.Visits held (.rule r))
    (ihRule : ∀ x, .rule x ∈ m.shownBy (.rule r) →
      m'.innerStyleRules env fuel' path origin x = m.innerStyleRules env fuel path origin x)
    (ihSheet : ∀ x, .sheet x ∈ m.shownBy (.rule r) →
      m'.sheetRules env fuel' path x = m.sheetRules env fuel path x) :
    m'.innerStyleRules env (fuel' + 1) path origin r =
      m.innerStyleRules env (fuel + 1) path origin r := by
  have hsame : (m'.rule? r).map (·.content) = (m.rule? r).map (·.content) := hq (.rule r) hv
  rw [innerStyleRules, innerStyleRules]
  cases hr : m.rule? r with
  | none =>
    rw [hr, Option.map_none, Option.map_eq_none_iff] at hsame
    rw [hsame]
  | some rule =>
    rw [hr, Option.map_some, Option.map_eq_some_iff] at hsame
    obtain ⟨rule', hr', hcontent⟩ := hsame
    have hshown : m.shownBy (.rule r) = rule.content.owned := by simp [shownBy, hr]
    rw [hshown] at ihRule ihSheet
    simp only [hr', hcontent]
    cases hc : rule.content with
    | media l rules =>
      simp only
      split
      · exact List.flatMap_congr fun x hx => ihRule x (by simp [hc, RuleContent.owned, hx])
      · rfl
    | importing href l x =>
      cases x with
      | none => rfl
      | some x =>
        simp only
        rw [ihSheet x (by simp [hc, RuleContent.owned])]
    | style selectors block => rfl
    | fontFace block => rfl
    | page selector block => rfl

/-- The rules that something amounts to, as far down as it goes. -/
theorem Quiet.rules_eq (k : Nat) :
    (∀ s path fuel fuel', m.Visits held (.sheet s) → DepthAtMost m.shownBy k (.sheet s) →
      k < fuel → k < fuel' → m'.sheetRules env fuel' path s = m.sheetRules env fuel path s) ∧
    ∀ r path origin fuel fuel', m.Visits held (.rule r) → DepthAtMost m.shownBy k (.rule r) →
      k < fuel → k < fuel' →
      m'.innerStyleRules env fuel' path origin r = m.innerStyleRules env fuel path origin r := by
  induction k using Nat.strongRecOn with
  | ind k ih =>
    constructor
    · rintro s path (_ | fuel) (_ | fuel') hv hd hf hf'
      · omega
      · omega
      · omega
      · refine hq.sheetRules_succ hv fun r path origin hr => ?_
        obtain ⟨j, hj, hdr⟩ := hd.step hr
        exact (ih j hj).2 r path origin fuel fuel' (hv.shown hr) hdr (by omega) (by omega)
    · rintro r path origin (_ | fuel) (_ | fuel') hv hd hf hf'
      · omega
      · omega
      · omega
      · refine hq.innerStyleRules_succ hv (fun x hx => ?_) fun x hx => ?_
        · obtain ⟨j, hj, hdx⟩ := hd.step hx
          exact (ih j hj).2 x path origin fuel fuel' (hv.shown hx) hdx (by omega) (by omega)
        · obtain ⟨j, hj, hdx⟩ := hd.step hx
          exact (ih j hj).1 x path fuel fuel' (hv.shown hx) hdx (by omega) (by omega)

/-- What makes no difference to the sheets that are held does not change which rules apply. -/
theorem Quiet.appliedRules_eq (h : m.Sound held)
    (hsheets : m.sheets.slots.size ≤ m'.sheets.slots.size)
    (hrules : m.rules.slots.size ≤ m'.rules.slots.size) :
    m'.appliedRules env held = m.appliedRules env held := by
  refine List.flatMap_congr fun s hs => ?_
  exact (hq.rules_eq _).1 s [] _ _ (visits_held hs) (h.depthAtMost hs) (by omega) (by omega)

end Walk

end ObjectModel

/-! ### Rules without handles -/

/-- What counts of a rule that applies. -/
def AppliedRule.shape (a : AppliedRule) : Origin × SelectorList × DeclarationBlock :=
  (a.origin, a.selectors, a.block)

/-- What counts of a rule that matches. -/
def MatchedRule.shape (r : MatchedRule) : DeclarationBlock × Specificity × Origin × Nat :=
  (r.block, r.specificity, r.origin, r.order)

theorem shape_matchedRules (m : ObjectModel) (env : MediaEnvironment) (sheets : List SheetId)
    (d : Dom) (n : NodeId) (pseudo : Option PseudoElement) :
    (matchedRules m env sheets d n pseudo).map MatchedRule.shape =
      (((m.appliedRules env sheets).map AppliedRule.shape).zipIdx 1).filterMap fun (a, order) =>
        (d.matchSpecificity? n pseudo a.2.1).map fun s => (a.2.2, s, a.1, order) := by
  rw [matchedRules, List.map_filterMap, List.zipIdx_map, List.filterMap_map]
  refine List.filterMap_congr fun a _ => ?_
  obtain ⟨a, order⟩ := a
  simp [Option.map_map, Function.comp_def, MatchedRule.shape, AppliedRule.shape]

/-- Handles of rules make no difference to the cascade. -/
theorem cascade_congr {l l' : List MatchedRule} (h : l'.map MatchedRule.shape =
    l.map MatchedRule.shape) (inline : Option DeclarationBlock) :
    cascade l' inline = cascade l inline := by
  have hrules : ∀ l : List MatchedRule, l.flatMap Cascade.ruleCandidates =
      (l.map MatchedRule.shape).flatMap fun s =>
        Cascade.blockCandidates
          (fun important i => ⟨s.2.2.1.band important, false, s.2.1, s.2.2.2, i⟩) s.1 := by
    intro l
    rw [List.flatMap_map]
    rfl
  rw [cascade, cascade, Cascade.candidates, Cascade.candidates, hrules, hrules, h]

end WebStyle
