import WebStyle.Proofs.ObjectModel.Framing
import WebStyle.Proofs.Style.Routes
/-!
The walks through an object model end, also where a sheet imports itself or one that leads to it, or
is the sheet of several imports. Each walk is told by its steps, with nothing that limits their
number, and comes to what is computed. Nothing is freed twice on the way, and no import is passed
twice.
-/
set_option autoImplicit false

namespace WebStyle

/-- Changes of different values, and twice the same change, may be made in either order. -/
theorem Slots.modify_comm {κ α : Type} (s : Slots κ α) (h k : Handle κ) (f : α → α) :
    (s.modify h f).modify k f = (s.modify k f).modify h f := by
  by_cases hne : h = k
  · rw [hne]
  · cases hv : s.get? h with
    | none =>
      have hv' : (s.modify k f).get? h = none := by rw [get?_modify, if_neg (Ne.symm hne), hv]
      rw [modify_of_none hv, modify_of_none hv']
    | some v =>
      cases hw : s.get? k with
      | none =>
        have hw' : (s.modify h f).get? k = none := by rw [get?_modify, if_neg hne, hw]
        rw [modify_of_none hw, modify_of_none hw']
      | some w =>
        have hv' : (s.modify k f).get? h = some v := by rw [get?_modify, if_neg (Ne.symm hne), hv]
        have hw' : (s.modify h f).get? k = some w := by rw [get?_modify, if_neg hne, hw]
        have hindex : h.index ≠ k.index := fun heq => hne (eq_of_index_eq hv hw heq)
        rw [modify_eq hw', modify_eq hv', modify_eq hv, modify_eq hw]
        congr 1
        refine Array.ext_getElem? fun i => ?_
        simp only [Array.getElem?_modify]
        by_cases hi : h.index = i
        · simp [hi, show k.index ≠ i from fun hk => hindex (hi.trans hk.symm)]
        · simp [hi]

namespace ObjectModel

variable {m m' m₁ : ObjectModel} {env : MediaEnvironment} {s : SheetId} {r x : RuleId}
  {p q : ModelPart} {ps qs freed : List ModelPart} {chain result path : List SheetId}
  {origin : Origin} {compatibility : Compatibility}

/-! ### Up the imports -/

/-- The steps from a sheet to those that it was imported from, after the sheets that were passed. The
walk ends at the top, at a sheet that is gone, and at one that was passed. -/
inductive Climbs (m : ObjectModel) : List SheetId → Option SheetId → List SheetId → Prop where
  | top {chain : List SheetId} : m.Climbs chain none chain
  | gone {chain : List SheetId} {s : SheetId} (hs : m.sheet? s = none) :
    m.Climbs chain (some s) chain
  | again {chain : List SheetId} {s : SheetId} (hs : (m.sheet? s).isSome) (h : s ∈ chain) :
    m.Climbs chain (some s) chain
  | up {chain result : List SheetId} {s : SheetId} {sheet : StyleSheet}
    (hs : m.sheet? s = some sheet) (h : s ∉ chain)
    (hup : m.Climbs (chain ++ [s]) sheet.parentSheet result) : m.Climbs chain (some s) result

/-- The sheets that are passed are live and different, so that there are slots left for the rest. -/
theorem climbs_importChainFuel {fuel : Nat} {cursor : Option SheetId} (hn : chain.Nodup)
    (hlive : ∀ x ∈ chain, (m.sheet? x).isSome)
    (hfuel : m.sheets.slots.size < fuel + chain.length) :
    m.Climbs chain cursor (chain ++ m.importChainFuel fuel chain.reverse cursor) := by
  induction fuel generalizing chain cursor with
  | zero =>
    have hle := Slots.length_le_size hn hlive
    omega
  | succ fuel ih =>
    cases cursor with
    | none => simpa [importChainFuel] using Climbs.top
    | some s =>
      rw [importChainFuel]
      cases hs : m.sheet? s with
      | none => simpa using Climbs.gone hs
      | some sheet =>
        by_cases hmem : s ∈ chain
        · simpa [hmem] using Climbs.again (by simp [hs]) hmem
        · refine .up hs hmem ?_
          have hlive' : ∀ x ∈ chain ++ [s], (m.sheet? x).isSome := by
            intro x hx
            rcases List.mem_append.1 hx with hx | hx
            · exact hlive x hx
            · rw [List.mem_singleton.1 hx, hs]
              rfl
          have hn' : (chain ++ [s]).Nodup := List.concat_eq_append ▸ List.Nodup.concat hmem hn
          have hup : m.Climbs (chain ++ [s]) sheet.parentSheet (chain ++ [s] ++
              m.importChainFuel fuel (chain ++ [s]).reverse sheet.parentSheet) :=
            ih hn' hlive' (by simp only [List.length_append, List.length_singleton]; omega)
          simpa [hmem] using hup

theorem climbs_importChain (m : ObjectModel) (s : SheetId) :
    m.Climbs [] (some s) (m.importChain s) := by
  have h : m.Climbs [] (some s) ([] ++ m.importChain s) :=
    climbs_importChainFuel List.nodup_nil (by simp) (by simp)
  simpa using h

theorem Climbs.nodup {cursor : Option SheetId} (h : m.Climbs chain cursor result)
    (hn : chain.Nodup) : result.Nodup := by
  induction h with
  | top => exact hn
  | gone => exact hn
  | again => exact hn
  | up _ hmem _ ih => exact ih (List.concat_eq_append ▸ List.Nodup.concat hmem hn)

/-! ### Down to the style rules -/

/-- The steps that collect the style rules below parts, one part after the other; `path` are the
sheets that the walk is inside of. -/
inductive Collects (m : ObjectModel) (env : MediaEnvironment) :
    (path : List SheetId) → Origin → List ModelPart → List AppliedRule → Prop where
  | done {path : List SheetId} {origin : Origin} : m.Collects env path origin [] []
  | skip {path : List SheetId} {origin : Origin} {q : ModelPart} {qs : List ModelPart}
    {found : List AppliedRule} (hq : m.Enters env path q = false)
    (hrest : m.Collects env path origin qs found) : m.Collects env path origin (q :: qs) found
  | enter {path : List SheetId} {origin : Origin} {q : ModelPart} {qs : List ModelPart}
    {inner found : List AppliedRule} (hq : m.Enters env path q)
    (hinner : m.Collects env (q.sheet?.toList ++ path) (m.originBelow origin q) (m.shownBy q) inner)
    (hrest : m.Collects env path origin qs found) :
    m.Collects env path origin (q :: qs)
      (((m.style? q).map fun x => (⟨x.1, origin, x.2.1, x.2.2⟩ : AppliedRule)).toList ++ inner ++
        found)

theorem Collects.append {found found' : List AppliedRule} (h : m.Collects env path origin ps found)
    (h' : m.Collects env path origin qs found') :
    m.Collects env path origin (ps ++ qs) (found ++ found') := by
  induction h with
  | done => exact h'
  | skip hq _ ih => exact .skip hq (ih h')
  | enter hq hinner _ _ ih =>
    rw [List.append_assoc _ _ found']
    exact .enter hq hinner (ih h')

theorem collects_flatMap {f : ModelPart → List AppliedRule}
    (h : ∀ q ∈ qs, m.Collects env path origin [q] (f q)) :
    m.Collects env path origin qs (qs.flatMap f) := by
  induction qs with
  | nil => exact .done
  | cons q qs ih =>
    have hrest := ih fun z hz => h z (List.mem_cons_of_mem q hz)
    exact (h q List.mem_cons_self).append hrest

/-- A part that is entered is live, and is no sheet that the walk is inside of. -/
theorem forall_isLive_and_nodup_of_enters {l : List ModelPart}
    (hq : m.Enters env (l.filterMap ModelPart.sheet?) q) (hlive : ∀ z ∈ l, m.IsLive z)
    (hpath : (l.filterMap ModelPart.sheet?).Nodup) :
    (∀ z ∈ q :: l, m.IsLive z) ∧ ((q :: l).filterMap ModelPart.sheet?).Nodup := by
  obtain ⟨hopens, hnew⟩ := enters_iff.1 hq
  refine ⟨List.forall_mem_cons.2 ⟨isLive_of_opens hopens, hlive⟩, ?_⟩
  cases q with
  | rule r => exact hpath
  | sheet s => exact List.nodup_cons.2 ⟨hnew s rfl, hpath⟩

/-- The way down to a part passes each sheet once, by `path`, and so each rule: it is no longer than
there are slots, and what is left of the fuel lasts for the rest. -/
theorem Placed.collects_stylesOf (h : m.Placed) {l : List ModelPart} {k : Nat}
    (htrail : IsTrail m.ownedBy (.sheet s) (q :: l)) (hlive : ∀ z ∈ l, m.IsLive z)
    (hpath : (l.filterMap ModelPart.sheet?).Nodup)
    (hk : m.sheets.slots.size + m.rules.slots.size ≤ k + l.length) (origin : Origin) :
    m.Collects env (l.filterMap ModelPart.sheet?) origin [q]
      (m.stylesOf env k (l.filterMap ModelPart.sheet?) origin q) := by
  induction k generalizing q l origin with
  | zero =>
    have hq : m.Enters env (l.filterMap ModelPart.sheet?) q = false := by
      by_contra hq
      obtain ⟨hlives, hsheets⟩ :=
        forall_isLive_and_nodup_of_enters (Bool.of_not_eq_false hq) hlive hpath
      have hle := length_le_of_isLive (h.nodup_of_isTrail htrail hsheets) hlives
      simp only [List.length_cons] at hle
      omega
    cases q <;> exact .skip hq .done
  | succ k ih =>
    rw [stylesOf_succ]
    split
    · rename_i hq
      obtain ⟨hlives, hsheets⟩ := forall_isLive_and_nodup_of_enters hq hlive hpath
      have hbelow : (q :: l).filterMap ModelPart.sheet? =
          q.sheet?.toList ++ l.filterMap ModelPart.sheet? := by
        cases q <;> rfl
      have hlen : m.sheets.slots.size + m.rules.slots.size ≤ k + (q :: l).length := by
        simp only [List.length_cons]
        omega
      have hinner : m.Collects env (q.sheet?.toList ++ l.filterMap ModelPart.sheet?)
          (m.originBelow origin q) (m.shownBy q) ((m.shownBy q).flatMap
            (m.stylesOf env k (q.sheet?.toList ++ l.filterMap ModelPart.sheet?)
              (m.originBelow origin q))) := by
        rw [← hbelow]
        refine collects_flatMap fun z hz => ?_
        have hz' := htrail.step (m.shownBy_subset_ownedBy q hz)
        exact ih hz' hlives hsheets hlen _
      simpa using Collects.enter hq hinner .done
    · rename_i hq
      exact .skip (by simpa using hq) .done

theorem Placed.collects_appliedRules (h : m.Placed) (env : MediaEnvironment)
    (sheets : List SheetId) (origin : Origin) :
    m.Collects env [] origin (sheets.map .sheet) (m.appliedRules env sheets) := by
  have hsheets : m.appliedRules env sheets = (sheets.map .sheet).flatMap
      (m.stylesOf env (m.sheets.slots.size + m.rules.slots.size + 1) [] origin) := by
    rw [List.flatMap_map]
    rfl
  rw [hsheets]
  refine collects_flatMap fun q hq => ?_
  obtain ⟨s, -, rfl⟩ := List.mem_map.1 hq
  exact h.collects_stylesOf (l := []) .start (by simp) List.nodup_nil (by simp) origin

/-! ### Freeing -/

def erase (m : ObjectModel) : ModelPart → ObjectModel
  | .sheet s => m.eraseSheet s
  | .rule r => m.eraseRule r

theorem erases_erase (m : ObjectModel) (p : ModelPart) : m.Erases (m.erase p) p := by
  cases p with
  | sheet s => exact m.erases_eraseSheet s
  | rule r => exact m.erases_eraseRule r

/-- The steps that free parts, one after the other, and the parts that they free: each that is live,
and then what it owned, before the next one. -/
inductive FreesInTurn : ObjectModel → List ModelPart → List ModelPart → ObjectModel → Prop where
  | done {m : ObjectModel} : FreesInTurn m [] [] m
  | stale {m m' : ObjectModel} {p : ModelPart} {ps freed : List ModelPart} (hp : ¬ m.IsLive p)
    (hrest : FreesInTurn m ps freed m') : FreesInTurn m (p :: ps) freed m'
  | live {m m₁ m' : ObjectModel} {p : ModelPart} {ps inner freed : List ModelPart} (hp : m.IsLive p)
    (hinner : FreesInTurn (m.erase p) (m.ownedBy p) inner m₁)
    (hrest : FreesInTurn m₁ ps freed m') : FreesInTurn m (p :: ps) (p :: inner ++ freed) m'

/-- What is freed for a list is freed for its parts in turn. -/
theorem FreesInTurn.of_append (h : FreesInTurn m (ps ++ qs) freed m') : ∃ m₁ before after,
    FreesInTurn m ps before m₁ ∧ FreesInTurn m₁ qs after m' ∧ freed = before ++ after := by
  induction ps generalizing m freed with
  | nil => exact ⟨m, [], freed, .done, h, rfl⟩
  | cons p ps ih =>
    cases h with
    | stale hp hrest =>
      obtain ⟨m₁, before, after, hps, hqs, rfl⟩ := ih hrest
      exact ⟨m₁, before, after, .stale hp hps, hqs, rfl⟩
    | live hp hinner hrest =>
      obtain ⟨m₁, before, after, hps, hqs, rfl⟩ := ih hrest
      exact ⟨m₁, _, after, .live hp hinner hps, hqs, (List.append_assoc _ before after).symm⟩

theorem exists_freesInTurn_cons (hp : m.IsLive p)
    (h : ∃ freed, FreesInTurn (m.erase p) (m.ownedBy p ++ ps) freed m') :
    ∃ freed, FreesInTurn m (p :: ps) freed m' := by
  obtain ⟨freed, h⟩ := h
  obtain ⟨m₁, inner, rest, hinner, hrest, -⟩ := h.of_append
  exact ⟨_, .live hp hinner hrest⟩

theorem exists_freesInTurn (m : ObjectModel) (ps : List ModelPart) :
    ∃ freed, FreesInTurn m ps freed (m.free ps) := by
  fun_induction free m ps with
  | case1 m => exact ⟨[], .done⟩
  | case2 m s rest hs ih =>
    obtain ⟨freed, ih⟩ := ih
    exact ⟨freed, .stale (by simp [IsLive, hs]) ih⟩
  | case3 m s rest sheet hs _ ih =>
    have howned : m.ownedBy (.sheet s) = sheet.owned := by simp [ownedBy, hs]
    exact exists_freesInTurn_cons (p := .sheet s) (by simp [IsLive, hs]) (howned ▸ ih)
  | case4 m r rest hr ih =>
    obtain ⟨freed, ih⟩ := ih
    exact ⟨freed, .stale (by simp [IsLive, hr]) ih⟩
  | case5 m r rest rule hr _ ih =>
    have howned : m.ownedBy (.rule r) = rule.content.owned := by simp [ownedBy, hr]
    exact exists_freesInTurn_cons (p := .rule r) (by simp [IsLive, hr]) (howned ▸ ih)

namespace FreesInTurn

/-- Nothing comes to life. -/
theorem isLive_of_isLive (h : FreesInTurn m ps freed m') (hq : m'.IsLive q) : m.IsLive q := by
  induction h with
  | done => exact hq
  | stale _ _ ih => exact ih hq
  | @live m m₁ m' p _ _ _ hp _ _ ihinner ihrest =>
    have herased := ihinner (ihrest hq)
    by_cases hqp : q = p
    · exact hqp ▸ hp
    · exact ((m.erases_erase p).other q hqp).isLive.1 herased

/-- What is freed was live, and is not any more. -/
theorem isLive_of_mem (h : FreesInTurn m ps freed m') (hq : q ∈ freed) :
    m.IsLive q ∧ ¬ m'.IsLive q := by
  induction h with
  | done => simp at hq
  | stale _ _ ih => exact ih hq
  | @live m m₁ m' p _ _ _ hp hinner hrest ihinner ihrest =>
    have herases := m.erases_erase p
    have hback : ∀ z, (m.erase p).IsLive z → m.IsLive z := by
      intro z hz
      by_cases hzp : z = p
      · exact hzp ▸ hp
      · exact (herases.other z hzp).isLive.1 hz
    simp only [List.cons_append, List.mem_cons, List.mem_append] at hq
    rcases hq with rfl | hq | hq
    · exact ⟨hp, fun hlive =>
        herases.dead (hinner.isLive_of_isLive (hrest.isLive_of_isLive hlive))⟩
    · obtain ⟨hbefore, hafter⟩ := ihinner hq
      exact ⟨hback q hbefore, fun hlive => hafter (hrest.isLive_of_isLive hlive)⟩
    · obtain ⟨hbefore, hafter⟩ := ihrest hq
      exact ⟨hback q (hinner.isLive_of_isLive hbefore), hafter⟩

/-- Nothing is freed twice. -/
theorem nodup (h : FreesInTurn m ps freed m') : freed.Nodup := by
  induction h with
  | done => exact List.nodup_nil
  | stale _ _ ih => exact ih
  | @live m m₁ m' p _ _ _ hp hinner hrest ihinner ihrest =>
    rw [List.cons_append, List.nodup_cons, List.mem_append, not_or, List.nodup_append]
    have hdead := (m.erases_erase p).dead
    refine ⟨⟨fun hq => hdead (hinner.isLive_of_mem hq).1, fun hq => ?_⟩, ihinner, ihrest, ?_⟩
    · exact hdead (hinner.isLive_of_isLive (hrest.isLive_of_mem hq).1)
    · rintro q hq _ hq' rfl
      exact (hinner.isLive_of_mem hq).2 (hrest.isLive_of_mem hq').1

end FreesInTurn

/-! ### Taking deleted rules out of their sheet -/

/-- Takes a rule out of its sheet. -/
def leave (m : ObjectModel) (r : RuleId) : ObjectModel :=
  m.modifyRule r fun rule => { rule with parentSheet := none }

theorem leave_comm (m : ObjectModel) (r x : RuleId) : (m.leave r).leave x = (m.leave x).leave r := by
  simp only [leave, modifyRule, Slots.modify_comm]

theorem modifyRule_of_none (hr : m.rule? r = none) (f : Rule → Rule) : m.modifyRule r f = m := by
  simp only [modifyRule, Slots.modify_of_none (show m.rules.get? r = none from hr)]

theorem innerOf_modifyRule {f : Rule → Rule} (hf : ∀ rule, (f rule).content = rule.content) :
    (m.modifyRule r f).innerOf = m.innerOf := by
  funext x
  simp only [innerOf, rule?_modifyRule]
  split
  · cases m.rule? x <;> simp [hf]
  · rfl

theorem innerOf_leave (m : ObjectModel) (r : RuleId) : (m.leave r).innerOf = m.innerOf :=
  innerOf_modifyRule fun _ => rfl

theorem innerRules_of_none (hr : m.rule? r = none) (k : Nat) : m.innerRules k r = [] := by
  cases k <;> simp [innerRules, hr]

theorem innerRules_congr (h : m'.innerOf = m.innerOf) (k : Nat) (r : RuleId) :
    m'.innerRules k r = m.innerRules k r := by
  induction k generalizing r with
  | zero => rfl
  | succ k ih =>
    change (m'.innerOf r).flatMap _ = (m.innerOf r).flatMap _
    simp only [h, ih]

/-- The steps that take the rules on a stack out of their sheet, with those inside: the one on top
is taken off and its own rules are put on, so that the last of them comes next. -/
inductive Leaves : ObjectModel → List RuleId → ObjectModel → Prop where
  | done {m : ObjectModel} : Leaves m [] m
  | stale {m m' : ObjectModel} {r : RuleId} {stack : List RuleId} (hr : m.rule? r = none)
    (hrest : Leaves m stack m') : Leaves m (r :: stack) m'
  | live {m m' : ObjectModel} {r : RuleId} {rule : Rule} {stack : List RuleId}
    (hr : m.rule? r = some rule)
    (hrest : Leaves (m.leave r) (rule.content.children.reverse ++ stack) m') :
    Leaves m (r :: stack) m'

theorem Leaves.append {l stack : List RuleId} (h : Leaves m l m₁) (h' : Leaves m₁ stack m') :
    Leaves m (l ++ stack) m' := by
  induction h with
  | done => exact h'
  | stale hr _ ih => exact .stale hr (ih h')
  | live hr _ ih => exact .live hr (by simpa using ih h')

theorem innerOf_foldl_leave (m : ObjectModel) (l : List RuleId) :
    (l.foldl leave m).innerOf = m.innerOf := by
  induction l generalizing m with
  | nil => rfl
  | cons r l ih => rw [List.foldl_cons, ih, innerOf_leave]

theorem leaves_flatMap {l : List RuleId} {f : RuleId → List RuleId}
    (h : ∀ m' : ObjectModel, m'.innerOf = m.innerOf → ∀ r ∈ l, Leaves m' [r] ((f r).foldl leave m')) :
    Leaves m l ((l.flatMap f).foldl leave m) := by
  induction l generalizing m with
  | nil => exact .done
  | cons r l ih =>
    rw [List.flatMap_cons, List.foldl_append]
    have hinner := innerOf_foldl_leave m (f r)
    refine (h m rfl r List.mem_cons_self).append (ih fun m' hm' x hx => ?_)
    exact h m' (hm'.trans hinner) x (List.mem_cons_of_mem r hx)

/-- The order in which the rules are on the stack makes no difference. -/
theorem leaves_reverse {l : List RuleId} {f : RuleId → List RuleId}
    (h : ∀ m' : ObjectModel, m'.innerOf = m.innerOf → ∀ r ∈ l, Leaves m' [r] ((f r).foldl leave m')) :
    Leaves m l.reverse ((l.flatMap f).foldl leave m) := by
  have : RightCommutative leave := ⟨leave_comm⟩
  have hperm := (List.reverse_perm l).flatMap_right f
  rw [← hperm.foldl_eq]
  exact leaves_flatMap fun m' hm' r hr => h m' hm' r (List.mem_reverse.1 hr)

/-- Where rules stand inside each other to some depth only, the stack gets empty. -/
theorem leaves_innerRules {k : Nat} (hd : DepthAtMost m.innerOf k r) :
    Leaves m [r] ((r :: m.innerRules k r).foldl leave m) := by
  rw [List.foldl_cons]
  induction k generalizing m r with
  | zero =>
    change Leaves m [r] (m.leave r)
    cases hr : m.rule? r with
    | none =>
      rw [leave, modifyRule_of_none hr]
      exact .stale hr .done
    | some rule =>
      have hnone : rule.content.children = [] := innerOf_of_some hr ▸ hd
      refine .live hr ?_
      rw [hnone]
      exact .done
  | succ k ih =>
    cases hr : m.rule? r with
    | none =>
      rw [innerRules_of_none hr, List.foldl_nil, leave, modifyRule_of_none hr]
      exact .stale hr .done
    | some rule =>
      refine .live hr ?_
      change Leaves _ _
        (((m.innerOf r).flatMap fun c => c :: m.innerRules k c).foldl leave (m.leave r))
      rw [innerOf_of_some hr, List.append_nil]
      refine leaves_reverse fun m' hm' c hc => ?_
      have hm : m'.innerOf = m.innerOf := hm'.trans (m.innerOf_leave r)
      have hdc : DepthAtMost m'.innerOf k c := by
        rw [hm]
        exact hd c (by rwa [innerOf_of_some hr])
      rw [← innerRules_congr hm, List.foldl_cons]
      exact ih hdc

/-- The steps that take a rule out of its sheet and its parent, and those inside it out of the
sheet. -/
inductive Orphaned (m : ObjectModel) (r : RuleId) : ObjectModel → Prop where
  | stale (hr : m.rule? r = none) : m.Orphaned r m
  | live {m' : ObjectModel} {rule : Rule} (hr : m.rule? r = some rule)
    (hinner : Leaves
      (m.modifyRule r fun rule => { rule with parentRule := none, parentSheet := none })
      rule.content.children.reverse m') : m.Orphaned r m'

theorem orphaned_orphan (hd : DepthAtMost m.innerOf m.rules.slots.size r) :
    m.Orphaned r (m.orphan r) := by
  cases hr : m.rule? r with
  | none =>
    rw [orphan, innerRules_of_none hr, List.foldl_nil, modifyRule_of_none hr]
    exact .stale hr
  | some rule =>
    obtain ⟨k, hk⟩ : ∃ k, m.rules.slots.size = k + 1 := by
      have := Slots.index_lt (show m.rules.get? r = some rule from hr)
      exact ⟨m.rules.slots.size - 1, by omega⟩
    refine .live hr ?_
    rw [hk] at hd
    have horphan : m.orphan r = (rule.content.children.flatMap fun c => c :: m.innerRules k c).foldl
        leave (m.modifyRule r fun rule => { rule with parentRule := none, parentSheet := none }) := by
      rw [orphan, hk, innerRules, hr]
      rfl
    rw [horphan]
    refine leaves_reverse fun m' hm' c hc => ?_
    have hm : m'.innerOf = m.innerOf := hm'.trans (innerOf_modifyRule fun _ => rfl)
    rw [← innerRules_congr hm]
    refine leaves_innerRules ?_
    rw [hm]
    exact hd c (by rwa [innerOf_of_some hr])

/-! ### Requests that walk -/

/-- A rule that stands nowhere is left by all ways into it after as many steps as there are slots. -/
theorem Placed.depthAtMost_innerOf (h : m.Placed) (hr : ∀ p, r ∉ m.heldBy p) :
    DepthAtMost m.innerOf m.rules.slots.size r := by
  have hheld {x y : RuleId} (hx : x ∈ m.innerOf y) : x ∈ m.heldBy (.rule y) :=
    mem_heldBy.2 (mem_innerOf.1 hx)
  refine depthAtMost_of_unique (fun x y z hx hy => ?_) (fun x hx => hr _ (hheld hx))
    fun l hl hne => ?_
  · simpa using h.unique _ _ z (hheld hx) (hheld hy)
  · refine Slots.length_le_size hl fun x hx => ?_
    obtain ⟨y, hy⟩ := List.exists_mem_of_ne_nil _ (hne x hx)
    exact isLive_of_mem_ownedBy (mem_innerOf.1 hy)

/-- The requests that walk through the model and free what they meet, or take it out of a sheet. -/
inductive Sweep where
  | removeSheet (s : SheetId)
  | replaceRules (s : SheetId) (text : String)
  | setRuleText (r : RuleId) (text : String)
  | deleteRule (c : RuleContainer) (index : Nat)
  | attachImport (r : RuleId) (s : SheetId)

def Sweep.request : Sweep → ModelM Unit
  | .removeSheet s => ModelM.removeSheet s
  | .replaceRules s text => ModelM.replaceRules s text
  | .setRuleText r text => ModelM.setRuleText r text
  | .deleteRule c index => ModelM.deleteRule c index
  | .attachImport r s => ModelM.attachImport r s

/-- The steps of a request, and what is freed in turn on its walk. A request may be refused before
its walk, and also after it, if the sheet or the rule that it is about was freed. -/
inductive Sweeps (m : ObjectModel) : Sweep → List ModelPart → ObjectModel → Prop where
  | refused {sweep : Sweep} {e : ModelError} (h : sweep.request.exec m = (.error e, m)) :
    m.Sweeps sweep [] m
  | removeSheet {s : SheetId} {freed : List ModelPart} {m₁ : ObjectModel}
    (hs : (m.sheet? s).isSome) (hwalk : FreesInTurn m [.sheet s] freed m₁) :
    m.Sweeps (.removeSheet s) freed (m₁.note (.removed s))
  | replaceRules {s : SheetId} {text : String} {sheet : StyleSheet} {freed : List ModelPart}
    {m₁ m₂ : ObjectModel} {rules : List RuleId} (hs : m.sheet? s = some sheet)
    (hwalk : FreesInTurn (m.modifySheet s fun sheet => { sheet with rules := [], deleted := [] })
      sheet.owned freed m₁)
    (hadopt : m₁.adoptAll (some s) none (SheetSource.ofString text).rules = (m₂, rules)) :
    m.Sweeps (.replaceRules s text) freed
      (if (m₂.sheet? s).isSome then
        (m₂.modifySheet s fun sheet => { sheet with rules }).note (.changed s)
      else m₂)
  | setRuleText {r : RuleId} {text : String} {rule : Rule} {source : RuleSource}
    {freed : List ModelPart} {m₁ m₂ : ObjectModel} {content : RuleContent}
    (hr : m.rule? r = some rule) (hsource : RuleSource.ofString text = .ok source)
    (hwalk : FreesInTurn (m.setContent r .placeholder) rule.content.owned freed m₁)
    (hbuild : m₁.build rule.parentSheet r source = (m₂, content)) :
    m.Sweeps (.setRuleText r text) freed
      (if (m₂.rule? r).isSome then
        ((m₂.setContent r content).noteImport rule.content.type rule.parentSheet r).noteChanged
          rule.parentSheet
      else m₂)
  | deleteLoose {c : RuleContainer} {index : Nat} {list : List RuleId} {r : RuleId}
    {freed : List ModelPart} {m₁ : ObjectModel} (hc : m.ownerSheet c = .ok none)
    (hl : m.rulesOf c = .ok list) (hr : list[index]? = some r)
    (hwalk : FreesInTurn (m.modifyRules (·.eraseIdx index) c) [.rule r] freed m₁) :
    m.Sweeps (.deleteRule c index) freed m₁
  | deleteRule {c : RuleContainer} {index : Nat} {s : SheetId} {list : List RuleId} {r : RuleId}
    {m₁ : ObjectModel} (hc : m.ownerSheet c = .ok (some s))
    (hl : m.rulesOf c = .ok list) (hr : list[index]? = some r)
    (hwalk : (m.modifyRules (·.eraseIdx index) c).Orphaned r m₁) :
    m.Sweeps (.deleteRule c index) []
      (if (m₁.sheet? s).isSome then
        (m₁.modifySheet s fun sheet => { sheet with deleted := sheet.deleted ++ [r] }).note
          (.changed s)
      else m₁)
  | attachImport {r : RuleId} {s : SheetId} {rule : Rule} {href : String} {l : MediaList}
    {old : Option SheetId} {freed : List ModelPart} {m₁ : ObjectModel}
    (hs : (m.sheet? s).isSome) (hr : m.rule? r = some rule)
    (hcontent : rule.content = .importing href l old)
    (hwalk : FreesInTurn (m.setContent r (.importing href l (some s)))
      ((old.filter (· != s)).toList.map .sheet) freed m₁) :
    m.Sweeps (.attachImport r s) freed
      (if (m₁.sheet? s).isSome then
        (m₁.modifySheet s fun sheet =>
          { sheet with parentSheet := rule.parentSheet, ownerRule := some r }).noteChanged
            rule.parentSheet
      else m₁)

theorem Sweeps.nodup {sweep : Sweep} (h : m.Sweeps sweep freed m') : freed.Nodup := by
  cases h with
  | refused => exact List.nodup_nil
  | removeSheet _ hwalk => exact hwalk.nodup
  | replaceRules _ hwalk => exact hwalk.nodup
  | setRuleText _ _ hwalk => exact hwalk.nodup
  | deleteLoose _ _ _ hwalk => exact hwalk.nodup
  | deleteRule => exact List.nodup_nil
  | attachImport _ _ _ hwalk => exact hwalk.nodup

theorem Placed.exists_sweeps (h : m.Placed) (sweep : Sweep) :
    ∃ freed, m.Sweeps sweep freed (sweep.request.exec m).2 := by
  have hrefused : ∀ {sweep : Sweep} {e : ModelError}, sweep.request.exec m = (.error e, m) →
      ∃ freed, m.Sweeps sweep freed (sweep.request.exec m).2 := by
    intro sweep e he
    exact ⟨[], he.symm ▸ .refused he⟩
  cases sweep with
  | removeSheet s =>
    cases hs : m.sheet? s with
    | none =>
      have he : (Sweep.removeSheet s).request.exec m = (.error .stale, m) := by
        rw [Sweep.request, ModelM.removeSheet, ModelM.exec_sheet_bind, hs]
      exact hrefused he
    | some sheet =>
      obtain ⟨freed, hwalk⟩ := m.exists_freesInTurn [.sheet s]
      rw [Sweep.request, ModelM.removeSheet, ModelM.exec_sheet_bind, hs]
      exact ⟨freed, .removeSheet (by simp [hs]) hwalk⟩
  | replaceRules s text =>
    cases hs : m.sheet? s with
    | none => exact hrefused (ModelM.exec_replaceRules_of_none hs text)
    | some sheet =>
      obtain ⟨freed, hwalk⟩ := exists_freesInTurn
        (m.modifySheet s fun sheet => { sheet with rules := [], deleted := [] }) sheet.owned
      refine ⟨freed, ?_⟩
      rw [Sweep.request, ModelM.exec_replaceRules_of_some hs rfl, apply_ite Prod.snd]
      exact .replaceRules hs hwalk rfl
  | setRuleText r text =>
    rcases ModelM.exec_setRuleText (m := m) (r := r) text with
      ⟨e, he⟩ | ⟨rule, source, m₂, content, hr, hsource, hbuild, he⟩
    · exact hrefused he
    · obtain ⟨freed, hwalk⟩ := exists_freesInTurn (m.setContent r .placeholder) rule.content.owned
      refine ⟨freed, ?_⟩
      have hsweeps := Sweeps.setRuleText hr hsource.1 hwalk hbuild
      rw [Sweep.request, he, apply_ite Prod.snd]
      exact hsweeps
  | deleteRule c index =>
    rcases ModelM.exec_deleteRule (m := m) c index with
      ⟨e, he⟩ | ⟨list, sheet, r, hl, hc, hr, he⟩
    · exact hrefused he
    · rw [Sweep.request, he]
      cases sheet with
      | none =>
        obtain ⟨freed, hwalk⟩ := exists_freesInTurn (m.modifyRules (·.eraseIdx index) c) [.rule r]
        exact ⟨freed, .deleteLoose hc hl hr hwalk⟩
      | some s =>
        have herased := h.eraseIdx hl index
        have hwalk := orphaned_orphan
          (herased.depthAtMost_innerOf (h.notMem_heldBy_of_eraseIdx hl hr))
        refine ⟨[], ?_⟩
        have hsweeps := Sweeps.deleteRule hc hl hr hwalk
        simp only [apply_ite Prod.snd]
        exact hsweeps
  | attachImport r s =>
    rcases ModelM.exec_attachImport (m := m) (r := r) (s := s) with
      ⟨e, he⟩ | ⟨sheet, rule, href, l, old, m₁, hs, hr, hcontent, rfl, he⟩
    · exact hrefused he
    · obtain ⟨freed, hwalk⟩ := exists_freesInTurn (m.setContent r (.importing href l (some s)))
        ((old.filter (· != s)).toList.map .sheet)
      refine ⟨freed, ?_⟩
      have hsweeps := Sweeps.attachImport (by simp [hs]) hr hcontent hwalk
      rw [Sweep.request, he, apply_ite Prod.snd]
      exact hsweeps

/-- In every model that edits lead to, and imports that are given whatever sheets: the walk up the
imports ends, and passes no sheet twice; the walk that collects the rules that match ends; and so
does each request that frees what it meets, without freeing a sheet or a rule twice. -/
theorem Reachable.walks_end (h : Reachable compatibility m) :
    (∀ s, m.Climbs [] (some s) (m.importChain s) ∧ (m.importChain s).Nodup) ∧
    (∀ env sheets d n pseudo, ∃ found,
      (∀ origin, m.Collects env [] origin (sheets.map .sheet) found) ∧
        matchedRules m env sheets d n pseudo = (found.zipIdx 1).filterMap fun (a, order) =>
          (d.matchSpecificity? n pseudo a.selectors).map
            fun specificity => ⟨a.rule, a.block, specificity, a.origin, order⟩) ∧
    (∀ sweep : Sweep, (∃ freed, m.Sweeps sweep freed (sweep.request.exec m).2) ∧
      ∀ freed m', m.Sweeps sweep freed m' → freed.Nodup) :=
  ⟨fun s => ⟨m.climbs_importChain s, (m.climbs_importChain s).nodup List.nodup_nil⟩,
    fun env sheets _ _ _ => ⟨_, h.placed.collects_appliedRules env sheets, rfl⟩,
    fun sweep => ⟨h.placed.exists_sweeps sweep, fun _ _ hsweeps => hsweeps.nodup⟩⟩

/-- A sheet that imports itself: its chain is the sheet alone, and removing it frees both the sheet
and the import. -/
theorem walks_end_looped : Reachable .full looped ∧
    looped.importChain ⟨0, 0⟩ = [⟨0, 0⟩] ∧
    looped.Climbs [] (some ⟨0, 0⟩) (looped.importChain ⟨0, 0⟩) ∧
    (∃ found, (∀ origin, looped.Collects (.screen 800 600) [] origin [.sheet ⟨0, 0⟩] found)) ∧
    ∃ freed, looped.Sweeps (.removeSheet ⟨0, 0⟩) freed
      ((ModelM.removeSheet ⟨0, 0⟩).exec looped).2 ∧ freed.Nodup ∧
        ((ModelM.removeSheet ⟨0, 0⟩).exec looped).2.sheet? ⟨0, 0⟩ = none ∧
        ((ModelM.removeSheet ⟨0, 0⟩).exec looped).2.rule? ⟨0, 0⟩ = none := by
  have hlooped : Reachable .full looped := (Reachable.empty.edits _).attach ⟨0, 0⟩ ⟨0, 0⟩
  obtain ⟨hclimbs, hcollects, hsweeps⟩ := hlooped.walks_end
  obtain ⟨found, hfound, -⟩ := hcollects (.screen 800 600) [⟨0, 0⟩] .empty ⟨0, 0⟩ none
  obtain ⟨⟨freed, hfreed⟩, hnodup⟩ := hsweeps (.removeSheet ⟨0, 0⟩)
  exact ⟨hlooped, by decide +kernel, (hclimbs ⟨0, 0⟩).1, ⟨found, hfound⟩, freed, hfreed,
    hnodup freed _ hfreed, by decide +kernel, by decide +kernel⟩

end ObjectModel
end WebStyle
