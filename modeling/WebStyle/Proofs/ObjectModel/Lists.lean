import WebStyle.Proofs.ObjectModel.Forest
/-!
The lists that rules are in, and what rules know about them: the rule that they are inside, and the
sheet that the lists around them end at.
-/
set_option autoImplicit false

namespace WebStyle

/-- A list of rules: those of a sheet, those deleted from one, or those inside a media rule. -/
inductive RuleList where
  | rules (s : SheetId)
  | deleted (s : SheetId)
  | inner (r : RuleId)
  deriving DecidableEq, Repr

def RuleList.owner : RuleList → ModelPart
  | .rules s | .deleted s => .sheet s
  | .inner r => .rule r

namespace ObjectModel

open Relation

variable {m : ObjectModel} {held : List SheetId} {loose : List RuleId} {l l' : RuleList}
  {p : ModelPart} {s : SheetId} {o x : RuleId} {y : Rule}

def listed (m : ObjectModel) : RuleList → List RuleId
  | .rules s => ((m.sheet? s).map (·.rules)).getD []
  | .deleted s => ((m.sheet? s).map (·.deleted)).getD []
  | .inner r => m.innerOf r

/-- Whether a rule is in a list, or inside rules of which the outermost one is. -/
inductive ComesFrom (m : ObjectModel) (l : RuleList) : RuleId → Prop where
  | listed {x : RuleId} (h : x ∈ m.listed l) : ComesFrom m l x
  | inner {o x : RuleId} (h : ComesFrom m l o) (hx : x ∈ m.listed (.inner o)) : ComesFrom m l x

theorem mem_ownedBy_iff_listed :
    .rule x ∈ m.ownedBy p ↔ ∃ l : RuleList, l.owner = p ∧ x ∈ m.listed l := by
  constructor
  · intro hx
    cases p with
    | rule r => exact ⟨.inner r, rfl, mem_innerOf.2 hx⟩
    | sheet s =>
      cases hs : m.sheet? s with
      | none => simp [ownedBy, hs] at hx
      | some sheet =>
        have hx := (mem_ownedBy_sheet hs).1 hx
        simp only [StyleSheet.owned, List.mem_map, List.mem_append, ModelPart.rule.injEq,
          exists_eq_right] at hx
        rcases hx with hx | hx
        · exact ⟨.rules s, rfl, by simpa [ObjectModel.listed, hs] using hx⟩
        · exact ⟨.deleted s, rfl, by simpa [ObjectModel.listed, hs] using hx⟩
  · rintro ⟨l, rfl, hx⟩
    cases l with
    | inner r => exact mem_innerOf.1 hx
    | rules s | deleted s =>
      cases hs : m.sheet? s with
      | none => simp [ObjectModel.listed, hs] at hx
      | some sheet =>
        refine (mem_ownedBy_sheet hs).2 ?_
        simp only [ObjectModel.listed, hs, Option.map_some, Option.getD_some] at hx
        simp [StyleSheet.owned, hx]

theorem mem_ownedBy_owner (hx : x ∈ m.listed l) : .rule x ∈ m.ownedBy l.owner :=
  mem_ownedBy_iff_listed.2 ⟨l, rfl, hx⟩

theorem isLive_owner (hx : x ∈ m.listed l) : m.IsLive l.owner :=
  isLive_of_mem_ownedBy (mem_ownedBy_owner hx)

theorem ComesFrom.isLive_owner (hx : m.ComesFrom l x) : m.IsLive l.owner := by
  induction hx with
  | listed hx => exact ObjectModel.isLive_owner hx
  | inner _ _ ih => exact ih

/-- The two lists of a sheet have nothing in common. -/
theorem Sound.nodup_sheet {sheet : StyleSheet} (h : m.Sound held) (hs : m.sheet? s = some sheet) :
    (sheet.rules ++ sheet.deleted).Nodup := by
  have hn := h.nodup (.sheet s)
  simp only [ownedBy, hs, Option.map_some, Option.getD_some, StyleSheet.owned] at hn
  exact List.Nodup.of_map _ hn

theorem Sound.nodup_listed (h : m.Sound held) (l : RuleList) : (m.listed l).Nodup := by
  cases l with
  | inner r =>
    have hn := h.nodup (.rule r)
    cases hr : m.rule? r with
    | none => simp [listed, innerOf, hr]
    | some rule =>
      cases hc : rule.content with
      | media media rules =>
        simp only [ownedBy, hr, Option.map_some, Option.getD_some, hc, RuleContent.owned] at hn
        simpa [listed, innerOf, hr, hc, RuleContent.children] using List.Nodup.of_map _ hn
      | _ => simp [listed, innerOf, hr, hc, RuleContent.children]
  | rules s =>
    cases hs : m.sheet? s with
    | none => simp [listed, hs]
    | some sheet => simpa [listed, hs] using (List.nodup_append.1 (h.nodup_sheet hs)).1
  | deleted s =>
    cases hs : m.sheet? s with
    | none => simp [listed, hs]
    | some sheet => simpa [listed, hs] using (List.nodup_append.1 (h.nodup_sheet hs)).2.1

theorem Sound.not_rules_of_deleted (h : m.Sound held) (hx : x ∈ m.listed (.rules s)) :
    x ∉ m.listed (.deleted s) := by
  cases hs : m.sheet? s with
  | none => simp [listed, hs] at hx
  | some sheet =>
    simp only [listed, hs, Option.map_some, Option.getD_some] at hx ⊢
    exact fun hd => (List.nodup_append.1 (h.nodup_sheet hs)).2.2 x hx x hd rfl

/-- A rule is in one list only. -/
theorem Sound.list_unique (h : m.Sound held) (hx : x ∈ m.listed l) (hx' : x ∈ m.listed l') :
    l = l' := by
  have howner : l.owner = l'.owner := h.unique _ _ _ (mem_ownedBy_owner hx) (mem_ownedBy_owner hx')
  cases l <;> cases l' <;> simp only [RuleList.owner, ModelPart.sheet.injEq, ModelPart.rule.injEq,
    reduceCtorEq] at howner <;> subst howner
  case rules.deleted => exact absurd hx' (h.not_rules_of_deleted hx)
  case deleted.rules => exact absurd hx (h.not_rules_of_deleted hx')
  all_goals rfl

/-- Rules inside others belong to the same sheet as these. -/
theorem Sound.parentSheet_of_comesFrom (h : m.Sound held) {v : Option SheetId}
    (hv : ∀ x ∈ m.listed l, ∀ y, m.rule? x = some y → y.parentSheet = v) (hx : m.ComesFrom l x)
    (hy : m.rule? x = some y) : y.parentSheet = v := by
  induction hx generalizing y with
  | listed hx => exact hv _ hx y hy
  | inner _ hx ih =>
    obtain ⟨outer, ho⟩ := Option.isSome_iff_exists.1 (isLive_owner hx)
    rw [← ih ho]
    refine h.inMedia _ outer ho _ ?_ y hy
    simpa [listed, innerOf, ho] using hx

theorem Sound.parentSheet_of_rules (h : m.Sound held) (hx : m.ComesFrom (.rules s) x)
    (hy : m.rule? x = some y) : y.parentSheet = some s := by
  refine h.parentSheet_of_comesFrom (fun x hx y hy => ?_) hx hy
  cases hs : m.sheet? s with
  | none => simp [listed, hs] at hx
  | some sheet => exact h.inSheet s sheet hs x (by simpa [listed, hs] using hx) y hy

namespace Forest

theorem parentSheet_of_deleted (h : m.Forest loose) (hx : m.ComesFrom (.deleted s) x)
    (hy : m.rule? x = some y) : y.parentSheet = none := by
  refine h.sound.parentSheet_of_comesFrom (fun x hx y hy => ?_) hx hy
  cases hs : m.sheet? s with
  | none => simp [listed, hs] at hx
  | some sheet => exact h.deleted s sheet x y hs (by simpa [listed, hs] using hx) hy

/-- The way out of live rules ends: there are no more of them than slots, and none is passed
twice. -/
theorem wellFounded_outer (h : m.Forest loose) :
    WellFounded fun o x : { r : RuleId // (m.rule? r).isSome } =>
      TransGen m.Owns (.rule o) (.rule x) := by
  have hfinite : Finite { r : RuleId // (m.rule? r).isSome } := by
    refine Finite.of_injective (β := Fin m.rules.slots.size) (fun r =>
      ⟨r.1.index, Slots.index_lt (Option.some_get r.2).symm⟩) fun r r' hrr => Subtype.ext ?_
    exact Slots.eq_of_index_eq (Option.some_get r.2).symm (Option.some_get r'.2).symm
      (Fin.mk.inj hrr)
  have htrans : IsTrans { r : RuleId // (m.rule? r).isSome } fun o x =>
      TransGen m.Owns (.rule o) (.rule x) := ⟨fun _ _ _ => TransGen.trans⟩
  have hirrefl : Std.Irrefl fun o x : { r : RuleId // (m.rule? r).isSome } =>
      TransGen m.Owns (.rule o) (.rule x) := ⟨fun r => h.acyclic _⟩
  exact Finite.wellFounded_of_trans_of_irrefl _

variable (h : m.Forest [])
include h

/-- Each live rule comes from a sheet, which may have deleted it. -/
theorem exists_comesFrom (hx : (m.rule? x).isSome) :
    ∃ s, m.ComesFrom (.rules s) x ∨ m.ComesFrom (.deleted s) x := by
  suffices hsub : ∀ x : { r : RuleId // (m.rule? r).isSome },
      ∃ s, m.ComesFrom (.rules s) x ∨ m.ComesFrom (.deleted s) x from hsub ⟨x, hx⟩
  intro x
  induction x using h.wellFounded_outer.induction with
  | _ x ih =>
    obtain ⟨p, hp⟩ := (h.covered x x.2).resolve_left List.not_mem_nil
    obtain ⟨l, -, hl⟩ := mem_ownedBy_iff_listed.1 hp
    cases l with
    | rules s => exact ⟨s, .inl (.listed hl)⟩
    | deleted s => exact ⟨s, .inr (.listed hl)⟩
    | inner o =>
      obtain ⟨s, hs⟩ := ih ⟨o, isLive_owner hl⟩ (.single (mem_ownedBy_owner hl))
      exact ⟨s, hs.imp (·.inner hl) (·.inner hl)⟩

theorem parentSheet_eq_some_iff (hy : m.rule? x = some y) :
    y.parentSheet = some s ↔ m.ComesFrom (.rules s) x := by
  refine ⟨fun hs => ?_, fun hx => h.sound.parentSheet_of_rules hx hy⟩
  obtain ⟨t, ht | ht⟩ := h.exists_comesFrom (x := x) (by simp [hy])
  · rw [h.sound.parentSheet_of_rules ht hy] at hs
    rwa [Option.some.inj hs] at ht
  · simp [h.parentSheet_of_deleted ht hy] at hs

/-- A rule belongs to a live sheet, or to none. -/
theorem isSome_parentSheet (hy : m.rule? x = some y) (hs : y.parentSheet = some s) :
    (m.sheet? s).isSome :=
  ((h.parentSheet_eq_some_iff hy).1 hs).isLive_owner

theorem existsUnique_listed (hx : (m.rule? x).isSome) :
    ∃ l, (m.listed l).count x = 1 ∧ ∀ l', x ∈ m.listed l' → l' = l := by
  obtain ⟨p, hp⟩ := (h.covered x hx).resolve_left List.not_mem_nil
  obtain ⟨l, -, hl⟩ := mem_ownedBy_iff_listed.1 hp
  exact ⟨l, List.count_eq_one_of_mem (h.sound.nodup_listed l) hl,
    fun l' hl' => h.sound.list_unique hl' hl⟩

theorem parentRule_eq_some_iff (hy : m.rule? x = some y) :
    y.parentRule = some o ↔ x ∈ m.listed (.inner o) := by
  constructor
  · intro ho
    obtain ⟨p, hp⟩ := (h.covered x (by simp [hy])).resolve_left List.not_mem_nil
    have hparent := h.parent p x y hp hy
    cases p with
    | sheet s => simp [hparent, ModelPart.rule?] at ho
    | rule r =>
      obtain rfl : r = o := Option.some.inj (hparent.symm.trans ho)
      exact mem_innerOf.2 hp
  · exact fun hx => h.parent (.rule o) x y (mem_innerOf.1 hx) hy

end Forest

end ObjectModel
end WebStyle
